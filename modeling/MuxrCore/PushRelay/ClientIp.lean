import Mathlib.Data.List.Basic
import MuxrCore.Lib.Text

/-! # The address that a request is limited by

Behind a proxy, a request names its client in `X-Forwarded-For`: the proxy appends the address of
its peer to what the client has sent, as another element of the list, or as a line of its own. Only
the last element of the lines, put together, is the proxy's. `fromRequestParts` looks at the first
line, and it needs all of that line to be text.

* `fromRequestParts_of_readable`, `fromRequestParts_of_unreadable`: what it returns.
* `from_request_parts_eq_iff`: when that is the proxy's element. -/

namespace MuxrCore.PushRelay.ClientIp

open MuxrCore.Lib.Text

abbrev HeaderValue := List UInt8

/-- The characters with the codes of the bytes. -/
def latin1 (value : HeaderValue) : List Char := value.map fun b => Char.ofNat b.toNat

/-- The headers of a request: a lookup gives the first value of a name, and a value can be read as
text if it has nothing but visible ASCII. Whether a tab counts as visible is left open. -/
structure Headers where
  visible : UInt8 → Bool
  get : List HeaderValue → Option HeaderValue
  toStr : HeaderValue → Option String
  visible_of_printable : ∀ b, 32 ≤ b → b < 127 → visible b = true
  of_visible : ∀ b, visible b = true → b = 9 ∨ 32 ≤ b ∧ b < 127
  get_eq : ∀ values, get values = values.head?
  toStr_eq : ∀ value,
    toStr value = if value.all visible then some (String.ofList (latin1 value)) else none

/-! ### The code -/

/-- The last element of the header, if proxies are trusted and it is not blank; else the peer. -/
def resolveClientIp (trustProxy : Bool) (xff peer : Option String) : String :=
  let trusted :=
    if trustProxy then
      ((xff.map fun s => String.ofList (lastPiece ',' s.toList)).map trim).filter (· ≠ "")
    else none
  (trusted.or peer).getD "unknown"

/-- `values` are the lines of `X-Forwarded-For`. -/
def fromRequestParts (headers : Headers) (trustProxy : Bool) (values : List HeaderValue)
    (peer : Option String) : String :=
  resolveClientIp trustProxy ((headers.get values).bind headers.toStr) peer

/-! ### The list of the lines -/

/-- The lines as one list. -/
def joined (values : List HeaderValue) : HeaderValue := List.intercalate [0x2c] values

/-- The last element of a list, without the spaces around it. -/
def lastElement (value : HeaderValue) : String :=
  String.ofList (trimMatches (fun c => c = ' ' || c = '\t') (lastPiece ',' (latin1 value)))

/-- The lines form a list that ends with the address the proxy has appended. -/
structure Forwarded (values : List HeaderValue) (address : String) : Prop where
  lines : values ≠ []
  last : lastElement (joined values) = address
  nonempty : address ≠ ""

/-- The first line is text, and ends with the same element as the whole list. -/
def FirstLineEnds (headers : Headers) (values : List HeaderValue) : Prop :=
  ∃ first, values.head? = some first ∧ first.all headers.visible = true ∧
    lastElement first = lastElement (joined values)

/-- The first line has a byte that is not text, or its last element is blank. -/
def FirstLineUnusable (headers : Headers) (values : List HeaderValue) : Prop :=
  ∃ first, values.head? = some first ∧
    (first.all headers.visible = false ∨ lastElement first = "")

variable {headers : Headers} {first : HeaderValue} {rest : List HeaderValue} {peer : Option String}

/-- Of the visible characters, the white space is the space and the tab. -/
theorem isWhiteSpace_of_visible {b : UInt8} (h : headers.visible b = true) :
    isWhiteSpace (Char.ofNat b.toNat) =
      (Char.ofNat b.toNat = ' ' || Char.ofNat b.toNat = '\t') := by
  have hall : ∀ n < 127, n = 9 ∨ 32 ≤ n → isWhiteSpace (Char.ofNat n) =
      (Char.ofNat n = ' ' || Char.ofNat n = '\t') := by decide +kernel
  rcases headers.of_visible b h with rfl | ⟨hge, hlt⟩
  · exact hall 9 (by decide) (Or.inl rfl)
  · exact hall b.toNat hlt (Or.inr hge)

theorem trim_of_visible (h : first.all headers.visible = true) :
    trim (String.ofList (lastPiece ',' (latin1 first))) = lastElement first := by
  rw [trim, lastElement, String.toList_ofList]
  refine congrArg String.ofList (trimMatches_congr fun c hc => ?_)
  obtain ⟨b, hb, rfl⟩ := List.mem_map.mp (mem_of_mem_lastPiece hc)
  exact isWhiteSpace_of_visible (List.all_eq_true.mp h b hb)

/-- What is returned if the first line is text. -/
theorem fromRequestParts_of_readable (h : first.all headers.visible = true) :
    fromRequestParts headers true (first :: rest) peer =
      if lastElement first = "" then peer.getD "unknown" else lastElement first := by
  unfold fromRequestParts resolveClientIp
  rw [headers.get_eq, List.head?_cons, Option.bind_some, headers.toStr_eq, if_pos h, if_pos rfl,
    Option.map_some, Option.map_some, String.toList_ofList, trim_of_visible h, Option.filter_some]
  split_ifs <;> simp_all

theorem fromRequestParts_of_unreadable (h : first.all headers.visible = false) :
    fromRequestParts headers true (first :: rest) peer = peer.getD "unknown" := by
  have hnot : ¬ first.all headers.visible = true := by rw [h]; exact Bool.false_ne_true
  unfold fromRequestParts resolveClientIp
  rw [headers.get_eq, List.head?_cons, Option.bind_some, headers.toStr_eq, if_neg hnot]
  rfl

/-- **When a request is limited by the address that the proxy vouches for:** the first line is text
and ends with the last element of the list, or it cannot be used and the peer has that address. -/
theorem from_request_parts_eq_iff (headers : Headers) {values : List HeaderValue} {address : String}
    (h : Forwarded values address) (peer : Option String) :
    fromRequestParts headers true values peer = address ↔
      FirstLineEnds headers values ∨
        FirstLineUnusable headers values ∧ peer.getD "unknown" = address := by
  obtain ⟨hne, hlast, haddress⟩ := h
  obtain ⟨first, rest, rfl⟩ := List.exists_cons_of_ne_nil hne
  have hends : FirstLineEnds headers (first :: rest) ↔
      first.all headers.visible = true ∧ lastElement first = address := by
    simp [FirstLineEnds, hlast]
  have hunusable : FirstLineUnusable headers (first :: rest) ↔
      first.all headers.visible = false ∨ lastElement first = "" := by
    simp [FirstLineUnusable]
  rw [hends, hunusable]
  rcases hv : first.all headers.visible with _ | _
  · rw [fromRequestParts_of_unreadable hv]
    simp
  · rw [fromRequestParts_of_readable hv]
    by_cases hblank : lastElement first = ""
    · simp [hblank, haddress.symm]
    · simp [hblank]

/-- The headers of a server that counts tabs as visible. -/
def httpHeaders : Headers where
  visible b := b = 9 || (32 ≤ b && b < 127)
  get := List.head?
  toStr value :=
    if value.all fun b => b = 9 || (32 ≤ b && b < 127) then some (String.ofList (latin1 value))
    else none
  visible_of_printable b hge hlt := by simp [hge, hlt]
  of_visible b hb := by simpa using hb
  get_eq _ := rfl
  toStr_eq _ := rfl

/-- The bytes of a text in ASCII. -/
def ascii (s : String) : HeaderValue := s.toList.map fun c => UInt8.ofNat c.toNat

theorem from_request_parts_eq_iff_appended :
    Forwarded [ascii "203.0.113.9, 198.51.100.7"] "198.51.100.7" ∧
      (fromRequestParts httpHeaders true [ascii "203.0.113.9, 198.51.100.7"] (some "10.0.0.1") =
          "198.51.100.7" ↔
        FirstLineEnds httpHeaders [ascii "203.0.113.9, 198.51.100.7"] ∨
          FirstLineUnusable httpHeaders [ascii "203.0.113.9, 198.51.100.7"] ∧
            (some "10.0.0.1").getD "unknown" = "198.51.100.7") :=
  have h : Forwarded [ascii "203.0.113.9, 198.51.100.7"] "198.51.100.7" :=
    ⟨by decide, by decide +kernel, by decide⟩
  ⟨h, from_request_parts_eq_iff httpHeaders h (some "10.0.0.1")⟩

/-- The client sends a line of its own, and the proxy adds its line after it: the request is limited
by what the client has sent. -/
theorem client_line_is_used :
    Forwarded [ascii "203.0.113.9", ascii "198.51.100.7"] "198.51.100.7" ∧
      fromRequestParts httpHeaders true [ascii "203.0.113.9", ascii "198.51.100.7"]
        (some "10.0.0.1") = "203.0.113.9" ∧ "203.0.113.9" ≠ "198.51.100.7" :=
  ⟨⟨by decide, by decide +kernel, by decide⟩, by decide +kernel, by decide⟩

end MuxrCore.PushRelay.ClientIp
