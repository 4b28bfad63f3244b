import Mathlib.Data.Nat.Digits.Defs

/-! # Byte streams

Numbers as little-endian bytes, and a stream that is read in exact amounts: the bytes that are still
to come, and how the stream ends after them. A read past the end takes what is left.

* `leValue_leBytes`: a number that fits is read back.
* `readExact_append`, `readExact_short`: a read that is served, and one that is not. -/

namespace MuxrCore.Lib.Bytes

/-- The `w` little-endian bytes of a number. -/
def leBytes (w n : ℕ) : List UInt8 := (List.range w).map fun i => UInt8.ofNat (n / 256 ^ i)

/-- The number that little-endian bytes stand for. -/
def leValue (bytes : List UInt8) : ℕ := Nat.ofDigits 256 (bytes.map UInt8.toNat)

@[simp] theorem length_leBytes (w n : ℕ) : (leBytes w n).length = w := by simp [leBytes]

theorem leValue_leBytes_mod (w n : ℕ) : leValue (leBytes w n) = n % 256 ^ w := by
  induction w with
  | zero => simp [leValue, leBytes, Nat.mod_one]
  | succ w ih =>
    have happ : leBytes (w + 1) n = leBytes w n ++ [UInt8.ofNat (n / 256 ^ w)] := by
      simp [leBytes, List.range_succ]
    have hlast : (UInt8.ofNat (n / 256 ^ w)).toNat = n / 256 ^ w % 256 := by simp
    unfold leValue at ih ⊢
    rw [happ, List.map_append, Nat.ofDigits_append, ih, List.length_map, length_leBytes,
      List.map_singleton, Nat.ofDigits_singleton, hlast, Nat.mod_pow_succ]

theorem leValue_leBytes {w n : ℕ} (h : n < 256 ^ w) : leValue (leBytes w n) = n := by
  rw [leValue_leBytes_mod, Nat.mod_eq_of_lt h]

/-- How a stream ends: it is closed, or reading fails. -/
inductive Ending
  | eof
  | failed (cause : String)
  deriving DecidableEq, Repr

/-- A stream: the bytes to come, and its end. -/
structure Stream where
  bytes : List UInt8
  ending : Ending
  deriving DecidableEq, Repr

/-- Take exactly `n` bytes, or learn how the stream ended before there were as many. -/
def Stream.readExact (s : Stream) (n : ℕ) : Except Ending (List UInt8) × Stream :=
  if n ≤ s.bytes.length then (.ok (s.bytes.take n), ⟨s.bytes.drop n, s.ending⟩)
  else (.error s.ending, ⟨[], s.ending⟩)

theorem readExact_append (bytes rest : List UInt8) (ending : Ending) :
    (Stream.mk (bytes ++ rest) ending).readExact bytes.length = (.ok bytes, ⟨rest, ending⟩) := by
  simp [Stream.readExact]

theorem readExact_short {s : Stream} {n : ℕ} (h : s.bytes.length < n) :
    s.readExact n = (.error s.ending, ⟨[], s.ending⟩) :=
  if_neg (by omega)

end MuxrCore.Lib.Bytes
