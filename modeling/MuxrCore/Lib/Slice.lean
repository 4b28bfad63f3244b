import Mathlib.Data.List.Basic

/-! # Slices of a text by bytes

A text is stored as bytes, and its first `n` bytes are a text only if no character lies across the
cut (`takeBytes_min_eq_none_iff`). -/

namespace MuxrCore.Lib.Slice

/-- The first `n` bytes of a text; none where a character lies across the cut. -/
def takeBytes : ℕ → List Char → Option (List Char)
  | 0, _ => some []
  | _ + 1, [] => none
  | n + 1, c :: rest =>
    if c.utf8Size ≤ n + 1 then (takeBytes (n + 1 - c.utf8Size) rest).map (c :: ·) else none
  termination_by _ cs => cs.length

/-- How many bytes the characters take. -/
def byteLen : List Char → ℕ
  | [] => 0
  | c :: rest => c.utf8Size + byteLen rest

/-- A character of the text lies across the end of its first `n` bytes. -/
def Cut (n : ℕ) (s : String) : Prop :=
  ∃ pre c post, s.toList = pre ++ c :: post ∧ byteLen pre < n ∧
    n < byteLen pre + c.utf8Size

/-- The slice is inside a character exactly if one lies across the cut. -/
theorem takeBytes_eq_none_iff {n : ℕ} {cs : List Char} (hn : n ≤ byteLen cs) :
    takeBytes n cs = none ↔ ∃ pre c post, cs = pre ++ c :: post ∧
      byteLen pre < n ∧ n < byteLen pre + c.utf8Size := by
  induction cs generalizing n with
  | nil =>
    obtain rfl : n = 0 := Nat.le_zero.mp hn
    simp [takeBytes]
  | cons c rest ih =>
    rcases n with - | n
    · simp [takeBytes]
    have hpos := c.utf8Size_pos
    rw [byteLen] at hn
    unfold takeBytes
    split_ifs with hc
    · -- the character is before the cut
      rw [Option.map_eq_none_iff, ih (by omega)]
      constructor
      · rintro ⟨pre, d, post, rfl, hlt, hgt⟩
        exact ⟨c :: pre, d, post, rfl, by simp only [byteLen]; omega,
          by simp only [byteLen]; omega⟩
      · rintro ⟨pre, d, post, he, hlt, hgt⟩
        rcases pre with - | ⟨b, pre⟩
        · obtain ⟨rfl, rfl⟩ := List.cons.inj he
          simp only [byteLen] at hgt
          omega
        · obtain ⟨rfl, rfl⟩ := List.cons.inj he
          simp only [byteLen] at hlt hgt
          exact ⟨pre, d, post, rfl, by omega, by omega⟩
    · exact iff_of_true rfl ⟨[], c, rest, rfl, Nat.succ_pos n, by simpa [byteLen] using hc⟩

theorem byteLen_append (xs ys : List Char) : byteLen (xs ++ ys) = byteLen xs + byteLen ys := by
  induction xs with
  | nil => simp [byteLen]
  | cons c rest ih => simp [byteLen, ih, Nat.add_assoc]

theorem size_utf8Encode (cs : List Char) : cs.utf8Encode.size = byteLen cs := by
  rw [List.utf8Encode, List.size_toByteArray]
  induction cs with
  | nil => rfl
  | cons c rest ih =>
    rw [List.flatMap_cons, List.length_append, ih, byteLen, String.length_utf8EncodeChar]

theorem utf8ByteSize_eq (s : String) : s.utf8ByteSize = byteLen s.toList := by
  conv_lhs => rw [← String.ofList_toList (s := s)]
  exact size_utf8Encode s.toList

/-- **The first bytes of a text, at most `n`, are no text exactly if a character is cut.** -/
theorem takeBytes_min_eq_none_iff {n : ℕ} {s : String} :
    takeBytes (min n s.utf8ByteSize) s.toList = none ↔ Cut n s := by
  have hle : min n s.utf8ByteSize ≤ byteLen s.toList := by
    rw [← utf8ByteSize_eq]
    exact Nat.min_le_right n _
  rw [takeBytes_eq_none_iff hle]
  refine exists_congr fun pre => exists_congr fun c => exists_congr fun post =>
    and_congr_right fun he => ?_
  -- the whole text is what is before the cut and what is after it
  have hlen : s.utf8ByteSize = byteLen pre + (c.utf8Size + byteLen post) := by
    rw [utf8ByteSize_eq, he, byteLen_append, byteLen]
  omega

/-- A text whose characters have a byte each is not cut. -/
theorem not_cut_of_bytes {n : ℕ} {s : String} (h : ∀ c ∈ s.toList, c.utf8Size = 1) :
    ¬ Cut n s := by
  rintro ⟨pre, c, post, he, hlt, hgt⟩
  have hc := h c (by simp [he])
  omega

end MuxrCore.Lib.Slice
