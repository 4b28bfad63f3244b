import MuxrCore.Lib.Address

/-! # Percent encoding

A text as bytes, in UTF-8, and bytes as a text in which those that are not kept are escaped: a `%`
and two hexadecimal digits. The decoder is lenient, so a `%` that no two such digits follow stands
for itself.

* `textOf_bytesOf`, `bytesOf_of_textOf`: a text is its bytes.
* `decode_encode`: what is encoded is read back.
* `decode_eq_bytesOf_iff`: what was not encoded is read back if and only if there is no escape in
  it.
* `fields`, `value`: the keys and values of a query, split at `&` and at the first `=`. -/

namespace MuxrCore.Lib.Percent

open MuxrCore.Lib.Address

/-! ### Text as bytes -/

/-- The bytes of a text, in UTF-8. -/
def bytesOf (s : List Char) : List UInt8 := s.flatMap String.utf8EncodeChar

/-- The text of bytes, if they are one. -/
def textOf (bytes : List UInt8) : Option String :=
  bytes.toByteArray.utf8Decode?.map fun a => String.ofList a.toList

theorem toByteArray_bytesOf (s : List Char) : (bytesOf s).toByteArray = s.utf8Encode := rfl

theorem textOf_bytesOf (s : List Char) : textOf (bytesOf s) = some (String.ofList s) := by
  rw [textOf, toByteArray_bytesOf, List.utf8Decode?_utf8Encode]
  rfl

theorem bytesOf_of_textOf {bytes : List UInt8} {s : String} (h : textOf bytes = some s) :
    bytesOf s.toList = bytes := by
  obtain ⟨a, ha, rfl⟩ := Option.map_eq_some_iff.mp h
  have hsome : bytes.toByteArray.utf8Decode?.isSome = true := by rw [ha]; rfl
  have hget : bytes.toByteArray.utf8Decode?.get hsome = a := by simp only [ha, Option.get_some]
  rw [← List.toByteArray_inj, toByteArray_bytesOf, String.toList_ofList, ← hget,
    ByteArray.utf8Encode_get_utf8Decode?]

theorem bytesOf_append (s t : List Char) : bytesOf (s ++ t) = bytesOf s ++ bytesOf t :=
  List.flatMap_append

theorem bytesOf_cons (c : Char) (s : List Char) :
    bytesOf (c :: s) = String.utf8EncodeChar c ++ bytesOf s := List.flatMap_cons

/-- An ASCII character is one byte. -/
theorem utf8EncodeChar_of_lt {c : Char} (h : c.toNat < 128) :
    String.utf8EncodeChar c = [UInt8.ofNat c.toNat] := by
  unfold String.utf8EncodeChar
  rw [if_pos (show c.val.toNat ≤ 0x7f from Nat.le_of_lt_succ h)]
  rfl

theorem toNat_ofNat {n : ℕ} (h : n < 128) : (Char.ofNat n).toNat = n := by
  have hvalid : n.isValidChar := .inl (by omega)
  unfold Char.ofNat
  rw [dif_pos hvalid]
  exact UInt32.toNat_ofNatLT

/-! ### Escapes -/

/-- An escape: a percent sign, and two hexadecimal digits. -/
def isEscape (c a b : Char) : Bool := c = '%' && isDigit 16 a && isDigit 16 b

/-- There is an escape in the text. -/
def hasEscape : List Char → Bool
  | c :: a :: b :: rest => isEscape c a b || hasEscape (a :: b :: rest)
  | _ => false

/-- The bytes of the text; an escape is the byte of its two digits. -/
def decode : List Char → List UInt8
  | c :: a :: b :: rest =>
    if isEscape c a b then UInt8.ofNat (16 * digitValue a + digitValue b) :: decode rest
    else String.utf8EncodeChar c ++ decode (a :: b :: rest)
  | s => bytesOf s

/-- A hexadecimal digit, in upper case. -/
def hexDigit (n : ℕ) : Char := n.digitChar.toUpper

/-- The byte, if it is one of those that are kept, and its escape otherwise. -/
def encodeByte (keep : UInt8 → Bool) (b : UInt8) : List Char :=
  if keep b then [Char.ofNat b.toNat]
  else ['%', hexDigit (b.toNat / 16), hexDigit (b.toNat % 16)]

def encode (keep : UInt8 → Bool) (bytes : List UInt8) : List Char := bytes.flatMap (encodeByte keep)

theorem decode_cons_of_ne {c : Char} (h : c ≠ '%') (s : List Char) :
    decode (c :: s) = String.utf8EncodeChar c ++ decode s := by
  rcases s with _ | ⟨a, _ | ⟨b, rest⟩⟩
  · rfl
  · rfl
  · rw [decode, if_neg (by simp [isEscape, h])]

theorem digitValue_hexDigit {n : ℕ} (h : n < 16) : digitValue (hexDigit n) = n := by
  interval_cases n <;> rfl

theorem isDigit_hexDigit {n : ℕ} (h : n < 16) : isDigit 16 (hexDigit n) = true := by
  simp [isDigit, digitValue_hexDigit h, h]

/-- An encoded byte is read back. -/
theorem decode_encodeByte {keep : UInt8 → Bool} {b : UInt8}
    (hkeep : keep b = true → b.toNat < 128 ∧ b ≠ 37) (rest : List Char) :
    decode (encodeByte keep b ++ rest) = b :: decode rest := by
  have hb := b.toNat_lt
  unfold encodeByte
  split_ifs with h
  · obtain ⟨hlt, hne⟩ := hkeep h
    have hnat := toNat_ofNat hlt
    rw [List.singleton_append, decode_cons_of_ne, utf8EncodeChar_of_lt (by rwa [hnat]), hnat,
      UInt8.ofNat_toNat, List.singleton_append]
    intro hc
    apply hne
    rw [← UInt8.toNat_inj, ← hnat, hc]
    rfl
  · rw [List.cons_append, List.cons_append, List.cons_append, List.nil_append, decode, if_pos
      (by simp [isEscape, isDigit_hexDigit (show b.toNat / 16 < 16 by omega),
        isDigit_hexDigit (show b.toNat % 16 < 16 by omega)]),
      digitValue_hexDigit (by omega), digitValue_hexDigit (by omega),
      show 16 * (b.toNat / 16) + b.toNat % 16 = b.toNat by omega, UInt8.ofNat_toNat]

/-- **What is encoded is read back.** -/
theorem decode_encode {keep : UInt8 → Bool}
    (hkeep : ∀ b, keep b = true → b.toNat < 128 ∧ b ≠ 37) (bytes : List UInt8) :
    decode (encode keep bytes) = bytes := by
  induction bytes with
  | nil => rfl
  | cons b bytes ih =>
    rw [encode, List.flatMap_cons, decode_encodeByte (hkeep b)]
    exact congrArg (b :: ·) ih

/-- The characters of an encoded text. -/
theorem mem_encode {keep : UInt8 → Bool} {bytes : List UInt8} {c : Char}
    (h : c ∈ encode keep bytes) :
    (∃ b, keep b = true ∧ c = Char.ofNat b.toNat) ∨ c = '%' ∨ isDigit 16 c = true := by
  obtain ⟨b, -, hc⟩ := List.mem_flatMap.mp h
  have hb := b.toNat_lt
  unfold encodeByte at hc
  split_ifs at hc with hk
  · exact .inl ⟨b, hk, List.mem_singleton.mp hc⟩
  · simp only [List.mem_cons, List.not_mem_nil, or_false] at hc
    rcases hc with rfl | rfl | rfl
    · exact .inr (.inl rfl)
    · exact .inr (.inr (isDigit_hexDigit (by omega)))
    · exact .inr (.inr (isDigit_hexDigit (by omega)))

/-! ### Texts that were not encoded -/

theorem decode_of_hasEscape {s : List Char} (h : hasEscape s = false) : decode s = bytesOf s := by
  induction s using decode.induct with
  | case1 c a b rest he ih => simp [hasEscape, he] at h
  | case2 c a b rest he ih =>
    rw [hasEscape, Bool.or_eq_false_iff] at h
    rw [decode, if_neg he, ih h.2, bytesOf_cons c]
  | case3 s hs => exact decode.eq_2 s hs

theorem length_bytesOf_cons (c : Char) (s : List Char) :
    (bytesOf s).length + 1 ≤ (bytesOf (c :: s)).length := by
  have := c.utf8Size_pos
  rw [bytesOf_cons, List.length_append, String.length_utf8EncodeChar]
  omega

theorem length_decode_le (s : List Char) : (decode s).length ≤ (bytesOf s).length := by
  induction s using decode.induct with
  | case1 c a b rest he ih =>
    have hc := length_bytesOf_cons c (a :: b :: rest)
    have ha := length_bytesOf_cons a (b :: rest)
    have hb := length_bytesOf_cons b rest
    rw [decode, if_pos he, List.length_cons]
    omega
  | case2 c a b rest he ih =>
    rw [decode, if_neg he, bytesOf_cons c, List.length_append, List.length_append]
    exact Nat.add_le_add_left ih _
  | case3 s hs => exact (congrArg List.length (decode.eq_2 s hs)).le

/-- An escape is read as fewer bytes than it has. -/
theorem length_decode_lt {s : List Char} (h : hasEscape s = true) :
    (decode s).length < (bytesOf s).length := by
  induction s using decode.induct with
  | case1 c a b rest he ih =>
    have hc := length_bytesOf_cons c (a :: b :: rest)
    have ha := length_bytesOf_cons a (b :: rest)
    have hb := length_bytesOf_cons b rest
    have hle := length_decode_le rest
    rw [decode, if_pos he, List.length_cons]
    omega
  | case2 c a b rest he ih =>
    rw [hasEscape, Bool.eq_false_of_not_eq_true he, Bool.false_or] at h
    rw [decode, if_neg he, bytesOf_cons c, List.length_append, List.length_append]
    exact Nat.add_lt_add_left (ih h) _
  | case3 s hs => rw [hasEscape.eq_2 s hs] at h; cases h

/-- **What was not encoded is read back if and only if there is no escape in it.** -/
theorem decode_eq_bytesOf_iff {s : List Char} : decode s = bytesOf s ↔ hasEscape s = false := by
  refine ⟨fun h => ?_, decode_of_hasEscape⟩
  by_contra he
  have := length_decode_lt (Bool.eq_true_of_not_eq_false he)
  rw [h] at this
  exact lt_irrefl _ this

/-- A text without an escape is read back. -/
theorem textOf_decode {s : List Char} (h : hasEscape s = false) :
    textOf (decode s) = some (String.ofList s) := by
  rw [decode_of_hasEscape h, textOf_bytesOf]

/-- A text that is read back has no escape. -/
theorem hasEscape_of_textOf {s : String} (h : textOf (decode s.toList) = some s) :
    hasEscape s.toList = false := decode_eq_bytesOf_iff.mp (bytesOf_of_textOf h).symm

theorem hasEscape_of_notMem {s : List Char} (h : '%' ∉ s) : hasEscape s = false := by
  induction s using hasEscape.induct with
  | case1 c a b rest ih =>
    rw [List.mem_cons, not_or] at h
    rw [hasEscape, ih h.2, isEscape, decide_eq_false (Ne.symm h.1)]
    rfl
  | case2 s hs => exact hasEscape.eq_2 s hs

/-! ### Queries -/

/-- A key and its value: what is before the first `=`, and after it. -/
def field (piece : List Char) : String × List Char :=
  (String.ofList (piece.takeWhile (· ≠ '=')), (piece.dropWhile (· ≠ '=')).tail)

/-- The keys of a query, with values that are not decoded yet. -/
def fields (query : List Char) : List (String × List Char) := (query.splitOn '&').map field

/-- The value of a key that is there exactly once, decoded. -/
def value (query : List (String × List Char)) (key : String) : Option String :=
  match query.filter (·.1 = key) with
  | [(_, raw)] => textOf (decode raw)
  | _ => none

theorem field_append {key : String} (h : '=' ∉ key.toList) (raw : List Char) :
    field (key.toList ++ '=' :: raw) = (key, raw) := by
  have hkey : ∀ c ∈ key.toList, decide (c ≠ '=') = true := fun c hc =>
    decide_eq_true fun he => h (he ▸ hc)
  rw [field, List.takeWhile_append_of_pos hkey, List.dropWhile_append_of_pos hkey]
  simp

theorem fields_append_cons (s t : List Char) : fields (s ++ '&' :: t) = fields s ++ fields t := by
  rw [fields, List.splitOn_append_cons_self, List.map_append]
  rfl

theorem fields_of_notMem {s : List Char} (h : '&' ∉ s) : fields s = [field s] := by
  rw [fields, List.splitOn_eq_singleton h]
  rfl

/-- The first field of a query. -/
theorem fields_field {key : String} {raw : List Char} (hkey : '=' ∉ key.toList)
    (hamp : '&' ∉ key.toList ++ '=' :: raw) (t : List Char) :
    fields (key.toList ++ '=' :: raw ++ '&' :: t) = (key, raw) :: fields t := by
  rw [fields_append_cons, fields_of_notMem hamp, field_append hkey]
  rfl

theorem value_cons_of_ne {key key' : String} (h : key' ≠ key) (raw : List Char)
    (query : List (String × List Char)) : value ((key', raw) :: query) key = value query key := by
  rw [value, List.filter_cons_of_neg (by simpa using h)]
  rfl

/-- The value of a key is that of its first occurrence. -/
theorem textOf_of_value {key : String} {raw : List Char} {query : List (String × List Char)}
    {s : String} (h : value ((key, raw) :: query) key = some s) : textOf (decode raw) = some s := by
  rw [value, List.filter_cons_of_pos (by simp)] at h
  split at h
  · rename_i hf
    rw [← (Prod.mk.inj (List.cons.inj hf).1).2] at h
    exact h
  · cases h

theorem filter_of_notMem {query : List (String × List Char)} {key : String}
    (h : key ∉ query.map Prod.fst) : query.filter (·.1 = key) = [] := by
  rw [List.filter_eq_nil_iff]
  intro f hf
  simp only [decide_eq_true_eq]
  rintro rfl
  exact h (List.mem_map_of_mem hf)

/-- The value of a key, where no key is there twice. -/
theorem value_of_mem {query : List (String × List Char)} {key : String} {raw : List Char}
    (hnodup : (query.map Prod.fst).Nodup) (hmem : (key, raw) ∈ query) :
    value query key = textOf (decode raw) := by
  induction query with
  | nil => cases hmem
  | cons f query ih =>
    rw [List.map_cons, List.nodup_cons] at hnodup
    rcases List.mem_cons.mp hmem with rfl | hmem
    · rw [value, List.filter_cons_of_pos (by simp), filter_of_notMem hnodup.1]
    · have hne : f.1 ≠ key := fun h => hnodup.1 (h ▸ List.mem_map_of_mem hmem)
      exact (value_cons_of_ne hne f.2 query).trans (ih hnodup.2 hmem)

theorem value_of_notMem {query : List (String × List Char)} {key : String}
    (h : key ∉ query.map Prod.fst) : value query key = none := by
  rw [value, filter_of_notMem h]

end MuxrCore.Lib.Percent
