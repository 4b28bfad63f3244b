import Mathlib.Algebra.Group.Nat.Defs
import Mathlib.Data.List.GetD

/-! # Base64 for URLs

Three bytes are four groups of six bits, each written as a character of the alphabet of 64; one or
two bytes at the end are two or three groups, without padding. The decoder refuses other characters,
a single character at the end, and bits at the end that are not zero.

* `decode_encode`: what is encoded is read back.
* `mem_alphabet_of_mem_encode`: only characters of the alphabet are written. -/

namespace MuxrCore.Lib.Base64

/-- The characters of the alphabet. -/
def alphabet : List Char :=
  "ABCDEFGHIJKLMNOPQRSTUVWXYZabcdefghijklmnopqrstuvwxyz0123456789-_".toList

/-- The character of six bits. -/
def digit (n : ℕ) : Char := alphabet.getD n 'A'

/-- The six bits of a character. -/
def value (c : Char) : Option ℕ :=
  let n := alphabet.idxOf c
  if n < 64 then some n else none

/-- The groups of six bits. -/
def sextets : List UInt8 → List ℕ
  | a :: b :: c :: rest =>
    a.toNat / 4 :: (a.toNat % 4 * 16 + b.toNat / 16) :: (b.toNat % 16 * 4 + c.toNat / 64) ::
      c.toNat % 64 :: sextets rest
  | [a, b] => [a.toNat / 4, a.toNat % 4 * 16 + b.toNat / 16, b.toNat % 16 * 4]
  | [a] => [a.toNat / 4, a.toNat % 4 * 16]
  | [] => []

/-- The bytes of the groups. -/
def ofSextets : List ℕ → Option (List UInt8)
  | p :: q :: r :: s :: rest => (ofSextets rest).map fun bytes =>
      .ofNat (p * 4 + q / 16) :: .ofNat (q % 16 * 16 + r / 4) :: .ofNat (r % 4 * 64 + s) :: bytes
  | [p, q, r] =>
    if r % 4 = 0 then some [.ofNat (p * 4 + q / 16), .ofNat (q % 16 * 16 + r / 4)] else none
  | [p, q] => if q % 16 = 0 then some [.ofNat (p * 4 + q / 16)] else none
  | [_] => none
  | [] => some []

def encode (bytes : List UInt8) : List Char := (sextets bytes).map digit

def decode (s : List Char) : Option (List UInt8) := (s.mapM value).bind ofSextets

theorem length_alphabet : alphabet.length = 64 := by decide +kernel

theorem nodup_alphabet : alphabet.Nodup := by decide +kernel

theorem value_digit {n : ℕ} (h : n < 64) : value (digit n) = some n := by
  have hn : n < alphabet.length := by rwa [length_alphabet]
  rw [value, digit, List.getD_eq_getElem _ _ hn, nodup_alphabet.idxOf_getElem n hn, if_pos h]

theorem digit_mem (n : ℕ) : digit n ∈ alphabet := by
  unfold digit
  rw [List.getD_eq_getElem?_getD]
  rcases h : alphabet[n]? with _ | c
  · decide
  · exact List.mem_of_getElem? h

theorem lt_of_mem_sextets {bytes : List UInt8} {n : ℕ} (h : n ∈ sextets bytes) : n < 64 := by
  induction bytes using sextets.induct with
  | case1 a b c rest ih =>
    have ha := a.toNat_lt
    have hb := b.toNat_lt
    have hc := c.toNat_lt
    simp only [sextets, List.mem_cons] at h
    rcases h with rfl | rfl | rfl | rfl | h
    · omega
    · omega
    · omega
    · omega
    · exact ih h
  | case2 a b =>
    have ha := a.toNat_lt
    have hb := b.toNat_lt
    simp only [sextets, List.mem_cons, List.not_mem_nil, or_false] at h
    omega
  | case3 a =>
    have ha := a.toNat_lt
    simp only [sextets, List.mem_cons, List.not_mem_nil, or_false] at h
    omega
  | case4 => simp [sextets] at h

/-- The byte with this number. -/
theorem ofNat_eq {n : ℕ} {b : UInt8} (h : n = b.toNat) : UInt8.ofNat n = b := by
  rw [h, UInt8.ofNat_toNat]

theorem ofSextets_sextets (bytes : List UInt8) : ofSextets (sextets bytes) = some bytes := by
  induction bytes using sextets.induct with
  | case1 a b c rest ih =>
    have ha := a.toNat_lt
    have hb := b.toNat_lt
    have hc := c.toNat_lt
    rw [sextets, ofSextets, ih, Option.map_some, ofNat_eq (b := a) (by omega),
      ofNat_eq (b := b) (by omega), ofNat_eq (b := c) (by omega)]
  | case2 a b =>
    have ha := a.toNat_lt
    have hb := b.toNat_lt
    rw [sextets, ofSextets, if_pos (by omega), ofNat_eq (b := a) (by omega),
      ofNat_eq (b := b) (by omega)]
  | case3 a =>
    have ha := a.toNat_lt
    rw [sextets, ofSextets, if_pos (by omega), ofNat_eq (b := a) (by omega)]
  | case4 => rfl

theorem mapM_value {l : List ℕ} (h : ∀ n ∈ l, n < 64) : (l.map digit).mapM value = some l := by
  induction l with
  | nil => rfl
  | cons n l ih =>
    rw [List.map_cons, List.mapM_cons, value_digit (h n (by simp)),
      ih fun m hm => h m (List.mem_cons_of_mem n hm)]
    rfl

/-- **What is encoded is read back.** -/
theorem decode_encode (bytes : List UInt8) : decode (encode bytes) = some bytes := by
  rw [decode, encode, mapM_value fun n => lt_of_mem_sextets, Option.bind_some, ofSextets_sextets]

/-- **Only characters of the alphabet are written.** -/
theorem mem_alphabet_of_mem_encode {bytes : List UInt8} {c : Char} (h : c ∈ encode bytes) :
    c ∈ alphabet := by
  obtain ⟨n, -, rfl⟩ := List.mem_map.mp h
  exact digit_mem n

end MuxrCore.Lib.Base64
