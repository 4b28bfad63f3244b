import Mathlib.Data.List.Basic
import MuxrCore.Lib.Bytes

/-! # Frames on the herdr wire

A frame is a little-endian length and a payload of that many bytes, which starts with the tag of a
message. A reader takes a whole frame off the stream before it looks at it: one with a tag it does
not mirror is skipped, one that does not decode to its last byte is an error, and either way the
stream stands at the next frame.

bincode is a parameter: a decoder of a prefix of the payload, an encoder of client messages, and the
code of a variant index.

* `Yields`: what a frame is read as.
* `frames_aligned`: a stream of frames is read frame by frame, up to where it is cut. -/

namespace MuxrCore.Herdr.Wire

open MuxrCore.Lib.Bytes

/-- The highest tag of a server message. -/
def highestKnownServerTag : UInt8 := 20

/-- The tags whose payload is not mirrored. -/
def unmirroredServerTags : List UInt8 := [12, 13, 14, 19]

def maxFrameSize : ℕ := 2 * 1024 * 1024

/-- A frame with this tag is skipped. -/
def isSkippableServerTag (tag : UInt8) : Bool :=
  highestKnownServerTag < tag || unmirroredServerTags.contains tag

/-! ### Messages to herdr -/

inductive ClientClipboardImageTarget
  | directTerminal
  | pane (id : String)
  | popup (id : String)

inductive AttachScrollDirection
  | up
  | down

inductive AttachScrollSource
  | wheel
  | pageKey (input : List UInt8)

structure ClientSurfaceSize where
  cols : UInt16
  rows : UInt16

inductive ClientMouseButton
  | left
  | right
  | middle

inductive ClientMouseKind
  | down (button : ClientMouseButton)
  | up (button : ClientMouseButton)
  | drag (button : ClientMouseButton)
  | moved
  | scrollUp
  | scrollDown
  | scrollLeft
  | scrollRight

inductive ClientMousePosition
  | cell (column row : UInt16)
  | pixels (x y : UInt32) (column row : UInt16)

structure ClientMouseGeometry where
  cols : UInt16
  rows : UInt16
  widthPx : UInt32
  heightPx : UInt32

structure ClientHostColor where
  r : UInt8
  g : UInt8
  b : UInt8

inductive ClientHostDefaultColorKind
  | foreground
  | background

inductive ClientHostAppearance
  | dark
  | light

inductive ClientHostThemeUpdate
  | defaultColor (kind : ClientHostDefaultColorKind) (color : ClientHostColor)
  | paletteColors (colors : List (UInt8 × ClientHostColor))
  | appearance (appearance : ClientHostAppearance)

/-- The messages to herdr, in the order of their tags. -/
inductive ClientMessage
  | terminalHello (version : UInt32) (cols rows : UInt16) (cellWidthPx cellHeightPx : UInt32)
      (pixelMouse : Bool)
  | input (data : List UInt8)
  | clipboardImage (target : ClientClipboardImageTarget) (extension : String) (data : List UInt8)
  | resize (cols rows : UInt16) (cellWidthPx cellHeightPx : UInt32) (pixelMouse : Bool)
  | detach
  | attachTerminal (terminalId : String) (takeover : Bool)
  | attachScroll (source : AttachScrollSource) (direction : AttachScrollDirection) (lines : UInt16)
      (column row : Option UInt16) (modifiers : UInt8)
  | observeTerminal (target : String)
  | controlTerminal (target : String) (takeover : Bool)
  | graphicsTransmissionResult (transferId : UInt64) (imageId : UInt32) (success : Bool)
  | graphicsTransmissionStarted (transferId : UInt64) (imageId : UInt32)
  | clientShellHello (version cellWidthPx cellHeightPx : UInt32) (surfaceSize : ClientSurfaceSize)
      (pixelMouse directGraphics endpointKeybindings mouseCapture : Bool)
  | clientShellResize (cellWidthPx cellHeightPx : UInt32) (surfaceSize : ClientSurfaceSize)
      (pixelMouse : Bool)
  /-- payload-free, to hold its tag -/
  | clientShellPaneInput
  /-- payload-free, to hold its tag -/
  | clientShellPopupInput
  | clientShellEndpointRequest (bootId request : String)
  | attachMouse (kind : ClientMouseKind) (position : ClientMousePosition)
      (geometry : Option ClientMouseGeometry) (modifiers : UInt8) (lines : UInt16)
  | clientShellHostTheme (update : ClientHostThemeUpdate)
  | clientShellFocus (focused : Bool)
  | clientShellMouseCapture (enabled : Bool)
  | endpointControl (kind data : String)

/-- The name of a payload-free placeholder. -/
def ClientMessage.placeholder : ClientMessage → Option String
  | .clientShellPaneInput => some "ClientShellPaneInput"
  | .clientShellPopupInput => some "ClientShellPopupInput"
  | _ => none

/-! ### Frames -/

inductive FramingError
  | oversized (claimed max : ℕ)
  | io (cause : String)
  | bincode (text : String)
  | unexpectedEof
  deriving DecidableEq, Repr

/-- What a frame is read as; `M` is the type of the server's messages. -/
inductive WireFrame (M : Type)
  | message (msg : M)
  | unknown (tag : UInt8) (len : ℕ)
  deriving DecidableEq, Repr

/-- A frame with a payload. -/
def frame (payload : List UInt8) : List UInt8 := leBytes 4 payload.length ++ payload

/-- Encode a message as a frame. -/
def encode (encodeToVec : ClientMessage → Except String (List UInt8)) (msg : ClientMessage) :
    Except FramingError (List UInt8) :=
  match msg.placeholder with
  | some name => .error (.bincode (name ++ " is a payload-free tag placeholder, not a message muxrd " ++
      "can send — mirror its payload from herdr's source first"))
  | none =>
    match encodeToVec msg with
    | .error e => .error (.bincode e)
    | .ok payload =>
      if 2 ^ 32 - 1 < payload.length then
        .error (.bincode ("payload length " ++ toString payload.length ++
          " exceeds u32::MAX — too large to frame"))
      else .ok (frame payload)

/-- The error of a read that came up short. -/
def readError : Ending → FramingError
  | .eof => .unexpectedEof
  | .failed cause => .io cause

section
variable {M : Type} (decode : List UInt8 → Except String (M × ℕ))

/-- What a payload of the claimed length is read as. -/
def wireFrame (claimed : ℕ) (payload : List UInt8) : Except FramingError (WireFrame M) :=
  match payload.head? with
  | none => .error (.bincode "empty frame payload — no variant tag")
  | some tag =>
    if isSkippableServerTag tag then .ok (.unknown tag claimed)
    else match decode payload with
      | .error e => .error (.bincode e)
      | .ok (msg, consumed) =>
        if consumed ≠ claimed then
          .error (.bincode ("decoded " ++ toString consumed ++ " bytes but frame claimed " ++
            toString claimed ++ " — trailing bytes not allowed"))
        else .ok (.message msg)

/-- Read one frame. -/
def readServerMessage (s : Stream) : Except FramingError (WireFrame M) × Stream :=
  match s.readExact 4 with
  | (.error e, s) => (.error (readError e), s)
  | (.ok lenBuf, s) =>
    let claimed := leValue lenBuf
    if maxFrameSize < claimed then (.error (.oversized claimed maxFrameSize), s)
    else match s.readExact claimed with
      | (.error e, s) => (.error (readError e), s)
      | (.ok payload, s) => (wireFrame decode claimed payload, s)

/-- Read `n` times. -/
def readTimes : ℕ → Stream → List (Except FramingError (WireFrame M)) × Stream
  | 0, s => ([], s)
  | n + 1, s =>
    let r := readServerMessage decode s
    let rs := readTimes n r.2
    (r.1 :: rs.1, rs.2)

/-! ### Alignment -/

/-- What a frame with this payload is read as: skipped by its tag, or the message it decodes to, if
it does so to the last byte, and else an error. -/
inductive Yields : List UInt8 → Except FramingError (WireFrame M) → Prop
  | unknown {tag : UInt8} {body : List UInt8} (h : isSkippableServerTag tag = true) :
      Yields (tag :: body) (.ok (.unknown tag (body.length + 1)))
  | message {tag : UInt8} {body : List UInt8} {msg : M} (h : isSkippableServerTag tag = false)
      (hd : decode (tag :: body) = .ok (msg, body.length + 1)) :
      Yields (tag :: body) (.ok (.message msg))
  | bincode {tag : UInt8} {body : List UInt8} {text : String}
      (h : isSkippableServerTag tag = false)
      (hd : ∀ msg, decode (tag :: body) ≠ .ok (msg, body.length + 1)) :
      Yields (tag :: body) (.error (.bincode text))

variable {decode} {payload : List UInt8}

theorem yields_wireFrame (h : 1 ≤ payload.length) :
    Yields decode payload (wireFrame decode payload.length payload) := by
  rcases payload with - | ⟨tag, body⟩
  · simp at h
  · rcases htag : isSkippableServerTag tag with - | -
    · rcases hd : decode (tag :: body) with e | ⟨msg, consumed⟩
      · have hw : wireFrame decode (body.length + 1) (tag :: body) = .error (.bincode e) := by
          simp [wireFrame, htag, hd]
        rw [List.length_cons, hw]
        exact .bincode htag fun msg => by simp [hd]
      · by_cases hc : consumed = body.length + 1
        · have hw : wireFrame decode (body.length + 1) (tag :: body) = .ok (.message msg) := by
            simp [wireFrame, htag, hd, hc]
          rw [List.length_cons, hw]
          exact .message htag (by rw [hd, hc])
        · have hw : ∃ text, wireFrame decode (body.length + 1) (tag :: body) =
              .error (.bincode text) := ⟨_, by simp [wireFrame, htag, hd, hc]; rfl⟩
          obtain ⟨text, hw⟩ := hw
          rw [List.length_cons, hw]
          exact .bincode htag fun msg' h' => hc (by simp [hd] at h'; exact h'.2)
    · have hw : wireFrame decode (body.length + 1) (tag :: body) =
          .ok (.unknown tag (body.length + 1)) := by simp [wireFrame, htag]
      rw [List.length_cons, hw]
      exact .unknown htag

theorem length_frame (payload : List UInt8) : (frame payload).length = payload.length + 4 := by
  simp [frame, Nat.add_comm]

/-- What happens after the length has been read. -/
theorem readServerMessage_length {n : ℕ} (h : n < 2 ^ 32) (bytes : List UInt8) (ending : Ending) :
    readServerMessage decode ⟨leBytes 4 n ++ bytes, ending⟩ =
      if maxFrameSize < n then (.error (.oversized n maxFrameSize), ⟨bytes, ending⟩)
      else match (Stream.mk bytes ending).readExact n with
        | (.error e, s) => (.error (readError e), s)
        | (.ok payload, s) => (wireFrame decode n payload, s) := by
  have hlen : leValue (leBytes 4 n) = n := leValue_leBytes h
  have h4 : (Stream.mk (leBytes 4 n ++ bytes) ending).readExact 4 =
      (.ok (leBytes 4 n), ⟨bytes, ending⟩) := by
    have := readExact_append (leBytes 4 n) bytes ending
    rwa [length_leBytes] at this
  unfold readServerMessage
  rw [h4]
  dsimp only
  rw [hlen]

theorem lt_of_le_maxFrameSize {n : ℕ} (h : n ≤ maxFrameSize) : n < 2 ^ 32 := by
  unfold maxFrameSize at h
  omega

/-- A frame of a length the reader takes is read off the stream, and nothing else is. -/
theorem readServerMessage_frame (h : payload.length ≤ maxFrameSize) (rest : List UInt8)
    (ending : Ending) : readServerMessage decode ⟨frame payload ++ rest, ending⟩ =
      (wireFrame decode payload.length payload, ⟨rest, ending⟩) := by
  unfold frame
  rw [List.append_assoc, readServerMessage_length (lt_of_le_maxFrameSize h), if_neg (by omega),
    readExact_append]

variable (decode) in
/-- A longer one is refused once its length has been read. -/
theorem readServerMessage_oversized (h : maxFrameSize < payload.length)
    (hu : payload.length < 2 ^ 32) (rest : List UInt8) (ending : Ending) :
    readServerMessage decode ⟨frame payload ++ rest, ending⟩ =
      (.error (.oversized payload.length maxFrameSize), ⟨payload ++ rest, ending⟩) := by
  unfold frame
  rw [List.append_assoc, readServerMessage_length hu, if_pos h]

/-- A stream that ends inside a frame. -/
theorem readServerMessage_cut (h : payload.length ≤ maxFrameSize) {cut : List UInt8}
    (hcut : cut <+: frame payload) (hne : cut ≠ frame payload) :
    readServerMessage decode ⟨cut, .eof⟩ = (.error .unexpectedEof, ⟨[], .eof⟩) := by
  have hlt : cut.length < payload.length + 4 := by
    rw [← length_frame]
    exact lt_of_le_of_ne hcut.length_le fun he => hne (hcut.eq_of_length he)
  by_cases h4 : cut.length < 4
  · unfold readServerMessage
    rw [readExact_short h4]
    rfl
  · -- the length is there, and the payload is short
    have htake : cut = leBytes 4 payload.length ++ payload.take (cut.length - 4) := by
      have := List.prefix_iff_eq_take.mp hcut
      rw [frame, List.take_append, length_leBytes, List.take_of_length_le (by simp; omega)] at this
      exact this
    have hshort : (payload.take (cut.length - 4)).length < payload.length := by
      rw [List.length_take]
      omega
    rw [htake, readServerMessage_length (lt_of_le_maxFrameSize h), if_neg (by omega),
      readExact_short hshort]
    rfl

/-- The frames of a list of payloads. -/
def frames (payloads : List (List UInt8)) : List UInt8 := payloads.flatMap frame

/-- The payloads are of lengths the reader takes. -/
def Framed (payloads : List (List UInt8)) : Prop :=
  ∀ payload ∈ payloads, 1 ≤ payload.length ∧ payload.length ≤ maxFrameSize

variable (decode) in
/-- A stream of frames is read frame by frame. -/
theorem readTimes_frames {payloads : List (List UInt8)} (h : Framed payloads) (k : ℕ)
    (rest : List UInt8) (ending : Ending) :
    ∃ results, List.Forall₂ (Yields decode) payloads results ∧
      readTimes decode (payloads.length + k) ⟨frames payloads ++ rest, ending⟩ =
        (results ++ (readTimes decode k ⟨rest, ending⟩).1,
          (readTimes decode k ⟨rest, ending⟩).2) := by
  induction payloads with
  | nil => exact ⟨[], .nil, by simp [frames]⟩
  | cons payload payloads ih =>
    obtain ⟨results, hall, hread⟩ := ih fun p hp => h p (List.mem_cons_of_mem _ hp)
    obtain ⟨hpos, hmax⟩ := h payload List.mem_cons_self
    refine ⟨_ :: results, .cons (yields_wireFrame hpos) hall, ?_⟩
    have hfirst : frames (payload :: payloads) ++ rest = frame payload ++ (frames payloads ++ rest) := by
      simp [frames]
    have hn : (payload :: payloads).length + k = payloads.length + k + 1 := by
      simp only [List.length_cons]
      omega
    rw [hn, hfirst, readTimes]
    simp only [readServerMessage_frame hmax, hread, List.cons_append]

/-- A stream of frames that is cut: whole frames, and then a part of the next one, or nothing. -/
theorem exists_of_prefix_frames {payloads : List (List UInt8)} {cut : List UInt8}
    (hcut : cut <+: frames payloads) :
    ∃ whole rest tail, payloads = whole ++ rest ∧ cut = frames whole ++ tail ∧
      ((rest = [] ∧ tail = []) ∨
        ∃ payload rest', rest = payload :: rest' ∧ tail <+: frame payload ∧ tail ≠ frame payload) := by
  induction payloads generalizing cut with
  | nil =>
    have hnil : cut = [] := by simpa [frames] using hcut
    exact ⟨[], [], [], rfl, by simp [hnil, frames], Or.inl ⟨rfl, rfl⟩⟩
  | cons payload payloads ih =>
    have hcons : frames (payload :: payloads) = frame payload ++ frames payloads := by simp [frames]
    rw [hcons] at hcut
    by_cases hlt : cut.length < (frame payload).length
    · have hpre : cut <+: frame payload :=
        List.prefix_of_prefix_length_le hcut (List.prefix_append _ _) hlt.le
      refine ⟨[], payload :: payloads, cut, rfl, by simp [frames], Or.inr ⟨payload, payloads, rfl,
        hpre, fun he => ?_⟩⟩
      rw [he] at hlt
      exact absurd hlt (lt_irrefl _)
    · obtain ⟨cut', rfl⟩ : frame payload <+: cut :=
        List.prefix_of_prefix_length_le (List.prefix_append _ _) hcut (by omega)
      obtain ⟨whole, rest, tail, rfl, rfl, htail⟩ := ih ((List.prefix_append_right_inj _).mp hcut)
      exact ⟨payload :: whole, rest, tail, rfl, by simp [frames], htail⟩

theorem readServerMessage_empty :
    readServerMessage decode ⟨[], .eof⟩ = (.error .unexpectedEof, ⟨[], .eof⟩) := by
  unfold readServerMessage
  rw [readExact_short (by simp)]
  rfl

/-- A cut stream: the whole frames are read, and then the end is. -/
theorem readTimes_cut {payloads : List (List UInt8)} (h : Framed payloads) {cut : List UInt8}
    (hcut : cut <+: frames payloads) :
    ∃ whole rest results, payloads = whole ++ rest ∧ List.Forall₂ (Yields decode) whole results ∧
      (rest = [] → cut = frames payloads) ∧
      readTimes decode (whole.length + 1) ⟨cut, .eof⟩ =
        (results ++ [Except.error .unexpectedEof], ⟨[], .eof⟩) := by
  obtain ⟨whole, rest, tail, rfl, rfl, htail⟩ := exists_of_prefix_frames hcut
  have hend : readServerMessage decode ⟨tail, .eof⟩ = (.error .unexpectedEof, ⟨[], .eof⟩) := by
    rcases htail with ⟨-, rfl⟩ | ⟨payload, rest', rfl, hpre, hne⟩
    · exact readServerMessage_empty
    · exact readServerMessage_cut (h payload (by simp)).2 hpre hne
  obtain ⟨results, hall, hread⟩ := readTimes_frames decode
    (fun p hp => h p (List.mem_append_left _ hp)) 1 tail .eof
  refine ⟨whole, rest, results, rfl, hall, fun hrest => ?_, ?_⟩
  · rcases htail with ⟨-, rfl⟩ | ⟨payload, rest', hne, -⟩
    · simp [hrest]
    · exact absurd (hne.symm.trans hrest) (by simp)
  · rw [hread]
    simp only [readTimes, hend]

/-! ### Encoded frames -/

/-- An encoded message is a frame, of a length that its prefix holds. -/
theorem frame_of_encode {encodeToVec : ClientMessage → Except String (List UInt8)}
    {msg : ClientMessage} {f : List UInt8} (h : encode encodeToVec msg = .ok f) :
    ∃ payload, encodeToVec msg = .ok payload ∧ f = frame payload ∧ payload.length < 2 ^ 32 := by
  unfold encode at h
  rcases hp : msg.placeholder with - | name
  · simp only [hp] at h
    rcases he : encodeToVec msg with e | payload
    · simp [he] at h
    · simp only [he] at h
      by_cases hlen : 2 ^ 32 - 1 < payload.length
      · rw [if_pos hlen] at h
        cases h
      · rw [if_neg hlen] at h
        cases h
        exact ⟨payload, rfl, rfl, by omega⟩
  · simp [hp] at h

end

/-! ### Tags -/

/-- bincode's code of a variant index: a small one is a byte, and a larger one starts with a marker
above all of those. -/
structure VariantCode where
  code : ℕ → List UInt8
  small : ∀ i ≤ 250, code i = [UInt8.ofNat i]
  large : ∀ i, 250 < i → i < 2 ^ 32 → ∃ marker body, code i = marker :: body ∧ 250 < marker.toNat

/-- The variant is skipped: a newer server added it, or it is not mirrored. -/
def SkippableIndex (i : ℕ) : Prop :=
  highestKnownServerTag.toNat < i ∨ i ∈ unmirroredServerTags.map UInt8.toNat

theorem isSkippableServerTag_iff (tag : UInt8) :
    isSkippableServerTag tag = true ↔ SkippableIndex tag.toNat := by
  have hmem : tag ∈ unmirroredServerTags ↔ tag.toNat ∈ unmirroredServerTags.map UInt8.toNat :=
    (List.mem_map_of_injective fun _ _ => UInt8.toNat_inj.mp).symm
  simp only [isSkippableServerTag, SkippableIndex, Bool.or_eq_true, decide_eq_true_eq,
    List.contains_iff_mem, hmem, UInt8.lt_iff_toNat_lt]

/-- The first byte of a payload decides as the whole variant index does. -/
theorem tag_agrees (index : VariantCode) {i : ℕ} (h : i < 2 ^ 32) :
    ∃ tag body, index.code i = tag :: body ∧
      (isSkippableServerTag tag = true ↔ SkippableIndex i) := by
  by_cases hsmall : i ≤ 250
  · refine ⟨UInt8.ofNat i, [], index.small i hsmall, ?_⟩
    have hi : (UInt8.ofNat i).toNat = i := by
      rw [UInt8.toNat_ofNat']
      omega
    rw [isSkippableServerTag_iff, hi]
  · obtain ⟨marker, body, hcode, hmarker⟩ := index.large i (by omega) h
    refine ⟨marker, body, hcode, ?_⟩
    have htop : highestKnownServerTag.toNat = 20 := rfl
    have hi : SkippableIndex i := Or.inl (by omega)
    have hm : SkippableIndex marker.toNat := Or.inl (by omega)
    rw [isSkippableServerTag_iff]
    exact ⟨fun _ => hi, fun _ => hm⟩

/-- **A stream of frames is read frame by frame, whatever the frames hold and whatever comes after
them; cut anywhere, it is read up to the cut, and then its end is found.** An encoded message that
is no longer than the reader takes is a frame too, and one that is longer is refused; and the tag
test looks at the variant. -/
theorem frames_aligned {M : Type} (decode : List UInt8 → Except String (M × ℕ))
    (encodeToVec : ClientMessage → Except String (List UInt8)) (index : VariantCode)
    {payloads : List (List UInt8)} (h : Framed payloads) :
    (∀ rest ending, ∃ results, List.Forall₂ (Yields decode) payloads results ∧
      readTimes decode payloads.length ⟨frames payloads ++ rest, ending⟩ =
        (results, ⟨rest, ending⟩)) ∧
    (∀ cut, cut <+: frames payloads → ∃ whole rest results, payloads = whole ++ rest ∧
      List.Forall₂ (Yields decode) whole results ∧ (rest = [] → cut = frames payloads) ∧
      readTimes decode (whole.length + 1) ⟨cut, .eof⟩ =
        (results ++ [Except.error .unexpectedEof], ⟨[], .eof⟩)) ∧
    (∀ msg f, encode encodeToVec msg = .ok f → ∃ payload, encodeToVec msg = .ok payload ∧
      f = frame payload ∧
      (payload.length ≤ maxFrameSize → ∀ rest ending,
        (readServerMessage decode ⟨f ++ rest, ending⟩).2 = ⟨rest, ending⟩) ∧
      (maxFrameSize < payload.length → ∀ rest ending,
        readServerMessage decode ⟨f ++ rest, ending⟩ =
          (.error (.oversized payload.length maxFrameSize), ⟨payload ++ rest, ending⟩))) ∧
    ∀ i < 2 ^ 32, ∃ tag body, index.code i = tag :: body ∧
      (isSkippableServerTag tag = true ↔ SkippableIndex i) := by
  refine ⟨fun rest ending => ?_, fun cut hcut => readTimes_cut h hcut, fun msg f hf => ?_,
    fun i hi => tag_agrees index hi⟩
  · obtain ⟨results, hall, hread⟩ := readTimes_frames decode h 0 rest ending
    exact ⟨results, hall, by simpa [readTimes] using hread⟩
  · obtain ⟨payload, hp, rfl, hu⟩ := frame_of_encode hf
    refine ⟨payload, hp, rfl, fun hmax rest ending => ?_, fun hmax rest ending => ?_⟩
    · rw [readServerMessage_frame hmax]
    · exact readServerMessage_oversized decode hmax hu rest ending

/-! ### Instances -/

/-- The code of the standard configuration. -/
def standardCode : VariantCode where
  code i :=
    if i ≤ 250 then [UInt8.ofNat i] else if i < 2 ^ 16 then 251 :: leBytes 2 i else 252 :: leBytes 4 i
  small i h := by simp [h]
  large i h _ := by
    rw [if_neg (by omega)]
    split_ifs
    · exact ⟨251, leBytes 2 i, rfl, by decide⟩
    · exact ⟨252, leBytes 4 i, rfl, by decide⟩

/-- A detach, and input of at least `2 ^ 16` bytes, as bincode encodes them. -/
def encodeInput : ClientMessage → Except String (List UInt8)
  | .detach => .ok [4]
  | .input data => .ok (1 :: 252 :: leBytes 4 data.length ++ data)
  | _ => .error "not encoded"

/-- A decoder of bells: tag 9 and a count below 251. -/
def decodeBell : List UInt8 → Except String (UInt8 × ℕ)
  | 9 :: count :: _ => .ok (count, 2)
  | _ => .error "UnexpectedEnd"

/-- The payload of input, as `encodeInput` makes it. -/
def inputPayload (data : List UInt8) : List UInt8 := 1 :: 252 :: leBytes 4 data.length ++ data

theorem encode_input {data : List UInt8} (h : data.length + 6 < 2 ^ 32) :
    encode encodeInput (.input data) = .ok (frame (inputPayload data)) := by
  have hlen : ¬ 2 ^ 32 - 1 < (inputPayload data).length := by
    simp [inputPayload]
    omega
  exact if_neg hlen

/-- Input of as many bytes as a frame may have makes a frame that is too long. -/
theorem input_oversized :
    ∃ data payload, encode encodeInput (.input data) = .ok (frame payload) ∧
      data = List.replicate maxFrameSize 97 ∧ payload ≠ [] ∧
      readServerMessage decodeBell ⟨frame payload, .eof⟩ =
        (.error (.oversized (maxFrameSize + 6) maxFrameSize), ⟨payload, .eof⟩) := by
  obtain ⟨data, hdata⟩ : ∃ data : List UInt8, data = List.replicate maxFrameSize 97 := ⟨_, rfl⟩
  have hd : data.length = maxFrameSize := by rw [hdata, List.length_replicate]
  have hmax : maxFrameSize = 2097152 := rfl
  have hlen : (inputPayload data).length = maxFrameSize + 6 := by
    simp [inputPayload, hd]
    omega
  refine ⟨data, inputPayload data, encode_input (by omega), hdata, by simp [inputPayload], ?_⟩
  have := @readServerMessage_oversized _ decodeBell (inputPayload data) (by omega) (by omega) []
    .eof
  rwa [List.append_nil, List.append_nil, hlen] at this

/-- A frame that is skipped, one that does not decode to its end, and a bell. -/
theorem frames_aligned_bell :
    Framed [[21, 1], [9, 3, 3], [9, 3]] ∧
    readTimes decodeBell 3 ⟨frames [[21, 1], [9, 3, 3], [9, 3]], .eof⟩ =
      ([.ok (.unknown 21 2),
        .error (.bincode "decoded 2 bytes but frame claimed 3 — trailing bytes not allowed"),
        .ok (.message 3)], ⟨[], .eof⟩) ∧
    ∃ results, List.Forall₂ (Yields decodeBell) [[21, 1], [9, 3, 3], [9, 3]] results ∧
      readTimes decodeBell 3 ⟨frames [[21, 1], [9, 3, 3], [9, 3]] ++ [], .eof⟩ =
        (results, ⟨[], .eof⟩) := by
  have h : Framed [[21, 1], [9, 3, 3], [9, 3]] := by
    unfold Framed maxFrameSize
    decide
  exact ⟨h, rfl, (frames_aligned decodeBell encodeInput standardCode h).1 [] .eof⟩

end MuxrCore.Herdr.Wire
