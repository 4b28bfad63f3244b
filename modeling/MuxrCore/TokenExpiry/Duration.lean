import MuxrCore.Lib.Address
import MuxrCore.Lib.Text
import MuxrCore.TokenExpiry.Sidecar

/-! # Durations

A token may be created with a duration, which `parseExpiresIn` reads as a deadline. `Denotes` is the
grammar of the durations: an integer and a unit.

* `parseInteger_eq_some_iff`, `denotes_iff`: what the parser takes apart is what the grammar says.
* `deadline_exact`: a positive duration gives the time that is so far ahead, one that is zero or
  negative gives a token that does not expire, and anything else is refused. -/

namespace MuxrCore.TokenExpiry.Duration

open MuxrCore.Lib.Address MuxrCore.Lib.Text MuxrCore.TokenExpiry.Sidecar

/-- The least and the greatest of the 64-bit signed integers. -/
def minI64 : ℤ := -2 ^ 63

def maxI64 : ℤ := 2 ^ 63 - 1

/-- The number that decimal digits denote. -/
def decimal (digits : List Char) : ℕ := ofDigitsBE 10 (digits.map digitValue)

/-- The number of a text that is nothing but digits. -/
def parseDigits (digits : List Char) : Option ℕ :=
  if digits.isEmpty || !digits.all (isDigit 10) then none else some (decimal digits)

/-- An integer: decimal digits, after an optional sign. -/
def parseInteger : List Char → Option ℤ
  | '-' :: digits => (parseDigits digits).map fun n : ℕ => -(n : ℤ)
  | '+' :: digits => (parseDigits digits).map fun n : ℕ => (n : ℤ)
  | digits => (parseDigits digits).map fun n : ℕ => (n : ℤ)

/-- A 64-bit signed integer. -/
def parseI64 (s : List Char) : Option ℤ :=
  (parseInteger s).filter fun n => minI64 ≤ n ∧ n ≤ maxI64

/-- The number and the unit, in seconds, of a duration. -/
def splitUnit (s : List Char) : Option (List Char × ℤ) :=
  match s.getLast? with
  | some 's' => some (s.dropLast, 1)
  | some 'm' => some (s.dropLast, 60)
  | some 'h' => some (s.dropLast, 3600)
  | some 'd' => some (s.dropLast, 86400)
  | some c => if isDigit 10 c then some (s, 1) else none
  | none => none

/-- The text that is parsed: trimmed and in lower case. -/
def normalize (spec : String) : List Char := (trim spec).toList.map Char.toLower

/-- The deadline of a duration, if it has one. The addition wraps, in a build that does not check
it. -/
def parseExpiresIn (spec : String) (now : ℤ) : Except String (Option ℤ) :=
  let s := normalize spec
  if s = [] ∨ s = "never".toList ∨ s = "none".toList ∨ s = "0".toList then .ok none
  else match splitUnit s with
    | none => .error s!"invalid duration '{spec}': use e.g. 30m, 24h, 7d, or 'never'"
    | some (num, mult) =>
      let numStr := String.ofList num
      match parseI64 num with
      | none => .error s!"invalid duration '{spec}': '{numStr}' is not a number"
      | some n =>
        if n ≤ 0 then .ok none
        else if maxI64 < n * mult then .error s!"duration '{spec}' overflows"
        else .ok (some (toI64 (now + n * mult)))

/-! ### What a duration denotes -/

/-- The signs, with their factors. -/
def signs : List (List Char × ℤ) := [([], 1), (['+'], 1), (['-'], -1)]

/-- The units, with their seconds. -/
def units : List (List Char × ℤ) :=
  [([], 1), (['s'], 1), (['m'], 60), (['h'], 3600), (['d'], 86400)]

/-- The text is an integer: a sign and digits. -/
def IsInteger (s : List Char) (n : ℤ) : Prop :=
  ∃ sign ∈ signs, ∃ digits : List Char, digits ≠ [] ∧ (∀ c ∈ digits, isDigit 10 c = true) ∧
    s = sign.1 ++ digits ∧ n = sign.2 * decimal digits

/-- The text is an integer with a unit. -/
def Denotes (s : List Char) (n seconds : ℤ) : Prop :=
  ∃ num, ∃ unit ∈ units, IsInteger num n ∧ s = num ++ unit.1 ∧ seconds = unit.2

/-- The text stands for no deadline. -/
def Never (s : List Char) : Prop := s = [] ∨ s = "never".toList ∨ s = "none".toList

variable {s : List Char} {n u : ℤ} {c : Char}

theorem parseDigits_eq_some_iff {digits : List Char} {k : ℕ} : parseDigits digits = some k ↔
    digits ≠ [] ∧ (∀ c ∈ digits, isDigit 10 c = true) ∧ decimal digits = k := by
  unfold parseDigits
  split_ifs with h
  · rw [Bool.or_eq_true, List.isEmpty_iff, Bool.not_eq_true', List.all_eq_false] at h
    simp only [false_iff]
    rintro ⟨hne, hall, -⟩
    obtain ⟨c, hc, hno⟩ := h.resolve_left hne
    exact absurd (hall c hc) hno
  · simp only [Bool.or_eq_true, List.isEmpty_iff, Bool.not_eq_true', not_or, Bool.not_eq_false,
      List.all_eq_true] at h
    exact ⟨fun hk => ⟨h.1, h.2, Option.some.inj hk⟩, fun hk => congrArg some hk.2.2⟩

/-- The parser takes a sign off, and digits have none. -/
theorem parseInteger_eq_some_iff : parseInteger s = some n ↔ IsInteger s n := by
  have hsign : ∀ c ∈ ['+', '-'], isDigit 10 c = false := by
    simp only [List.forall_mem_cons, List.not_mem_nil, false_implies, implies_true, and_true]
    decide
  constructor
  · intro h
    unfold parseInteger at h
    split at h <;> obtain ⟨k, hk, rfl⟩ := Option.map_eq_some_iff.mp h <;>
      obtain ⟨hne, hall, rfl⟩ := parseDigits_eq_some_iff.mp hk
    · exact ⟨(['-'], -1), by simp [signs], _, hne, hall, rfl, by simp⟩
    · exact ⟨(['+'], 1), by simp [signs], _, hne, hall, rfl, by simp⟩
    · exact ⟨([], 1), by simp [signs], _, hne, hall, rfl, by simp⟩
  · rintro ⟨sign, hmem, digits, hne, hall, rfl, rfl⟩
    have hdigits : parseDigits digits = some (decimal digits) :=
      parseDigits_eq_some_iff.mpr ⟨hne, hall, rfl⟩
    simp only [signs, List.mem_cons, List.not_mem_nil, or_false] at hmem
    rcases hmem with rfl | rfl | rfl
    · obtain ⟨c, rest, rfl⟩ := List.exists_cons_of_ne_nil hne
      have hc : ∀ d ∈ ['+', '-'], c ≠ d := by
        rintro d hd rfl
        exact absurd (hall c List.mem_cons_self) (by simp [hsign c hd])
      rw [List.nil_append, parseInteger]
      · simp [hdigits]
      · rintro digits ⟨⟩
        exact hc '-' (by simp) rfl
      · rintro digits ⟨⟩
        exact hc '+' (by simp) rfl
    · simp [parseInteger, hdigits]
    · simp [parseInteger, hdigits]

theorem parseI64_eq_some_iff :
    parseI64 s = some n ↔ IsInteger s n ∧ minI64 ≤ n ∧ n ≤ maxI64 := by
  rw [parseI64, Option.filter_eq_some_iff, parseInteger_eq_some_iff, decide_eq_true_eq]

theorem IsInteger.unique {m : ℤ} (h : IsInteger s n) (h' : IsInteger s m) : n = m := by
  rw [← parseInteger_eq_some_iff] at h h'
  exact Option.some.inj (h.symm.trans h')

/-- An integer ends in a digit. -/
theorem IsInteger.getLast (h : IsInteger s n) : ∃ c, s.getLast? = some c ∧ isDigit 10 c = true := by
  obtain ⟨sign, -, digits, hne, hall, rfl, -⟩ := h
  refine ⟨digits.getLast hne, ?_, hall _ (List.getLast_mem hne)⟩
  rw [List.getLast?_append_of_ne_nil _ hne, List.getLast?_eq_some_getLast hne]

/-- What is split off a text that ends in a unit's letter, or in a digit. -/
theorem splitUnit_eq_some_iff {num : List Char} : splitUnit s = some (num, u) ↔
    (∃ unit ∈ units, unit.1 ≠ [] ∧ s = num ++ unit.1 ∧ u = unit.2) ∨
      (∃ c, s.getLast? = some c ∧ isDigit 10 c = true) ∧ num = s ∧ u = 1 := by
  rcases hl : s.getLast? with _ | c
  · rw [List.getLast?_eq_none_iff] at hl
    subst hl
    simp [splitUnit, units]
  obtain ⟨ys, rfl⟩ := List.getLast?_eq_some_iff.mp hl
  have hunit : ∀ d ∈ ['s', 'm', 'h', 'd'], isDigit 10 d = false := by
    simp only [List.forall_mem_cons, List.not_mem_nil, false_implies, implies_true, and_true]
    decide
  have hletter : (∃ unit ∈ units, unit.1 ≠ [] ∧ ys ++ [c] = num ++ unit.1 ∧ u = unit.2) ↔
      ys = num ∧
        (c = 's' ∧ u = 1 ∨ c = 'm' ∧ u = 60 ∨ c = 'h' ∧ u = 3600 ∨ c = 'd' ∧ u = 86400) := by
    simp [units, and_assoc, and_or_left]
  rw [hletter]
  unfold splitUnit
  rw [hl]
  simp only [List.dropLast_concat, Option.some.injEq, exists_eq_left']
  split
  case h_1 h =>
    obtain rfl := Option.some.inj h
    simp [hunit, eq_comm]
  case h_2 h =>
    obtain rfl := Option.some.inj h
    simp [hunit, eq_comm]
  case h_3 h =>
    obtain rfl := Option.some.inj h
    simp [hunit, eq_comm]
  case h_4 h =>
    obtain rfl := Option.some.inj h
    simp [hunit, eq_comm]
  case h_5 c' hs hm hh hd h =>
    obtain rfl := Option.some.inj h
    have hother : ¬ (ys = num ∧ (c = 's' ∧ u = 1 ∨ c = 'm' ∧ u = 60 ∨ c = 'h' ∧ u = 3600 ∨
        c = 'd' ∧ u = 86400)) := by
      rintro ⟨-, ⟨h, -⟩ | ⟨h, -⟩ | ⟨h, -⟩ | ⟨h, -⟩⟩
      · exact hs h
      · exact hm h
      · exact hh h
      · exact hd h
    rw [or_iff_right hother]
    by_cases hc : isDigit 10 c = true <;> simp [hc, eq_comm]
  case h_6 h => cases h

/-- The parser splits off the unit, and an integer has none. -/
theorem denotes_iff : Denotes s n u ↔ ∃ num, splitUnit s = some (num, u) ∧ IsInteger num n := by
  constructor
  · rintro ⟨num, unit, hunit, hnum, rfl, rfl⟩
    refine ⟨num, splitUnit_eq_some_iff.mpr ?_, hnum⟩
    by_cases hne : unit.1 = []
    · right
      rw [hne, List.append_nil]
      have hone : unit.2 = 1 := by
        simp only [units, List.mem_cons, List.not_mem_nil, or_false] at hunit
        rcases hunit with rfl | rfl | rfl | rfl | rfl
        · rfl
        all_goals cases hne
      exact ⟨hnum.getLast, rfl, hone⟩
    · exact .inl ⟨unit, hunit, hne, rfl, rfl⟩
  · rintro ⟨num, hsplit, hnum⟩
    rcases splitUnit_eq_some_iff.mp hsplit with ⟨unit, hunit, -, rfl, rfl⟩ | ⟨-, rfl, rfl⟩
    · exact ⟨num, unit, hunit, hnum, rfl, rfl⟩
    · exact ⟨num, ([], 1), by simp [units], hnum, by simp, rfl⟩

theorem Denotes.unique {m v : ℤ} (h : Denotes s n u) (h' : Denotes s m v) : n = m ∧ u = v := by
  obtain ⟨num, hsplit, hnum⟩ := denotes_iff.mp h
  obtain ⟨num', hsplit', hnum'⟩ := denotes_iff.mp h'
  obtain ⟨rfl, rfl⟩ := Prod.mk.inj (Option.some.inj (hsplit.symm.trans hsplit'))
  exact ⟨hnum.unique hnum', rfl⟩

/-! ### The deadline -/

/-- What a duration gives, by what it denotes. -/
inductive Outcome (s : List Char) (now : ℤ) : Except String (Option ℤ) → Prop
  | never (h : Never s) : Outcome s now (.ok none)
  | malformed (h : ¬ Never s) (hd : ∀ n u, ¬ Denotes s n u) (e : String) :
      Outcome s now (.error e)
  | range {n u : ℤ} (hd : Denotes s n u) (h : ¬ (minI64 ≤ n ∧ n ≤ maxI64)) (e : String) :
      Outcome s now (.error e)
  | nonpositive {n u : ℤ} (hd : Denotes s n u) (hmin : minI64 ≤ n) (h : n ≤ 0) :
      Outcome s now (.ok none)
  | overflow {n u : ℤ} (hd : Denotes s n u) (hpos : 0 < n) (h : maxI64 < n * u) (e : String) :
      Outcome s now (.error e)
  | deadline {n u : ℤ} (hd : Denotes s n u) (hpos : 0 < n) (h : n * u ≤ maxI64) :
      Outcome s now (.ok (some (toI64 (now + n * u))))

theorem units_pos {unit : List Char × ℤ} (h : unit ∈ units) : 1 ≤ unit.2 := by
  simp only [units, List.mem_cons, List.not_mem_nil, or_false] at h
  rcases h with rfl | rfl | rfl | rfl | rfl <;> decide

theorem Denotes.pos (h : Denotes s n u) : 1 ≤ u := by
  obtain ⟨-, unit, hunit, -, -, rfl⟩ := h
  exact units_pos hunit

theorem Denotes.le_mul (h : Denotes s n u) (hn : 0 < n) : n ≤ n * u :=
  le_mul_of_one_le_right hn.le h.pos

/-- A text that stands for no deadline is not an integer with a unit. -/
theorem Denotes.not_never (h : Denotes s n u) : ¬ Never s := by
  obtain ⟨num, hsplit, -⟩ := denotes_iff.mp h
  rintro (rfl | rfl | rfl)
  · cases hsplit
  · cases hsplit
  · cases hsplit

theorem outcome_parseExpiresIn (spec : String) (now : ℤ) :
    Outcome (normalize spec) now (parseExpiresIn spec now) := by
  unfold parseExpiresIn
  generalize normalize spec = s
  dsimp only
  split_ifs with hnever
  · -- the text is empty, one of the two words, or a zero
    rcases hnever with h | h | h | rfl
    · exact .never (.inl h)
    · exact .never (.inr (.inl h))
    · exact .never (.inr (.inr h))
    · have hzero : parseI64 "0".toList = some 0 := by decide
      exact .nonpositive (denotes_iff.mpr ⟨"0".toList, rfl, (parseI64_eq_some_iff.mp hzero).1⟩)
        (by decide) le_rfl
  have hno : ¬ Never s := by
    rintro (h | h | h)
    · exact hnever (.inl h)
    · exact hnever (.inr (.inl h))
    · exact hnever (.inr (.inr (.inl h)))
  rcases hsplit : splitUnit s with _ | ⟨num, u⟩
  · refine .malformed hno (fun n u hd => ?_) _
    obtain ⟨num, hs, -⟩ := denotes_iff.mp hd
    cases hsplit.symm.trans hs
  dsimp only
  rcases hparse : parseI64 num with _ | n
  · -- no integer, or one out of range
    by_cases hd : ∃ n, IsInteger num n
    · obtain ⟨n, hn⟩ := hd
      refine .range (denotes_iff.mpr ⟨num, hsplit, hn⟩) (fun hrange => ?_) _
      cases hparse.symm.trans (parseI64_eq_some_iff.mpr ⟨hn, hrange⟩)
    · refine .malformed hno (fun n u' hn => hd ?_) _
      obtain ⟨num', hs, hn⟩ := denotes_iff.mp hn
      obtain ⟨rfl, -⟩ := Prod.mk.inj (Option.some.inj (hsplit.symm.trans hs))
      exact ⟨n, hn⟩
  · obtain ⟨hn, hmin, -⟩ := parseI64_eq_some_iff.mp hparse
    have hd : Denotes s n u := denotes_iff.mpr ⟨num, hsplit, hn⟩
    dsimp only
    split_ifs with hpos hover
    · exact .nonpositive hd hmin hpos
    · exact .overflow hd (not_le.mp hpos) hover _
    · exact .deadline hd (not_le.mp hpos) (not_lt.mp hover)

theorem toI64_of_le {k : ℤ} (h0 : 0 ≤ k) (h : k ≤ maxI64) : toI64 k = k := by
  unfold maxI64 at h
  unfold toI64
  rw [Int.bmod_eq_of_le] <;> omega

section
variable {now : ℤ} {r : Except String (Option ℤ)}

theorem Outcome.of_never (hr : Outcome s now r) (h : Never s) : r = .ok none := by
  cases hr with
  | never _ => rfl
  | malformed hno _ _ => exact absurd h hno
  | range hd _ _ => exact absurd h hd.not_never
  | nonpositive _ _ _ => rfl
  | overflow hd _ _ _ => exact absurd h hd.not_never
  | deadline hd _ _ => exact absurd h hd.not_never

/-- The outcome of an integer with a unit. -/
theorem Outcome.of_denotes (hr : Outcome s now r) (hd : Denotes s n u) :
    (¬ (minI64 ≤ n ∧ n ≤ maxI64) ∧ ∃ e, r = .error e) ∨
      (minI64 ≤ n ∧ n ≤ 0 ∧ r = .ok none) ∨
      (0 < n ∧ maxI64 < n * u ∧ ∃ e, r = .error e) ∨
      (0 < n ∧ n * u ≤ maxI64 ∧ r = .ok (some (toI64 (now + n * u)))) := by
  cases hr with
  | never h => exact absurd h hd.not_never
  | malformed _ hno _ => exact absurd hd (hno n u)
  | range hd' h e =>
    obtain ⟨rfl, rfl⟩ := hd.unique hd'
    exact .inl ⟨h, e, rfl⟩
  | nonpositive hd' hmin h =>
    obtain ⟨rfl, rfl⟩ := hd.unique hd'
    exact .inr (.inl ⟨hmin, h, rfl⟩)
  | overflow hd' hpos h e =>
    obtain ⟨rfl, rfl⟩ := hd.unique hd'
    exact .inr (.inr (.inl ⟨hpos, h, e, rfl⟩))
  | deadline hd' hpos h =>
    obtain ⟨rfl, rfl⟩ := hd.unique hd'
    exact .inr (.inr (.inr ⟨hpos, h, rfl⟩))

theorem Outcome.of_nonpositive (hr : Outcome s now r) (hd : Denotes s n u) (hmin : minI64 ≤ n)
    (h : n ≤ 0) : r = .ok none := by
  have hmax : (0 : ℤ) ≤ maxI64 := by decide
  rcases hr.of_denotes hd with ⟨hr, -⟩ | ⟨-, -, hr⟩ | ⟨hpos, -⟩ | ⟨hpos, -⟩
  · exact absurd ⟨hmin, h.trans hmax⟩ hr
  · exact hr
  · exact absurd h (not_le.mpr hpos)
  · exact absurd h (not_le.mpr hpos)

/-- A time that is a 64-bit number is the deadline. -/
theorem Outcome.of_fits (hr : Outcome s now r) (hd : Denotes s n u) (h0 : 0 ≤ now) (hpos : 0 < n)
    (hfit : now + n * u ≤ maxI64) : r = .ok (some (now + n * u)) := by
  have hle := hd.le_mul hpos
  rcases hr.of_denotes hd with ⟨hr, -⟩ | ⟨-, h, -⟩ | ⟨-, h, -⟩ | ⟨-, -, hr⟩
  · exact absurd ⟨le_trans (by decide) hpos.le, by omega⟩ hr
  · omega
  · omega
  · rw [hr, toI64_of_le (by omega) hfit]

/-- What is out of range is refused. -/
theorem Outcome.of_range (hr : Outcome s now r) (hd : Denotes s n u)
    (h : n < minI64 ∨ maxI64 < n * u) : ∃ e, r = .error e := by
  have hmin : minI64 ≤ 0 := by decide
  have hmax : (0 : ℤ) ≤ maxI64 := by decide
  rcases hr.of_denotes hd with ⟨-, hr⟩ | ⟨hle, hn, -⟩ | ⟨-, -, hr⟩ | ⟨hpos, hfit, -⟩
  · exact hr
  · have hprod : n * u ≤ 0 := mul_nonpos_of_nonpos_of_nonneg hn (le_trans zero_le_one hd.pos)
    omega
  · exact hr
  · omega

theorem Outcome.range_of_error {e : String} (hr : Outcome s now (.error e)) (hd : Denotes s n u)
    (h0 : 0 ≤ now) : n < minI64 ∨ maxI64 < now + n * u := by
  by_contra! hno
  obtain ⟨hmin, hfit⟩ := hno
  rcases lt_or_ge 0 n with hpos | hn
  · cases hr.of_fits hd h0 hpos hfit
  · cases hr.of_nonpositive hd hmin hn

theorem Outcome.of_neither (hr : Outcome s now r) (h : ¬ Never s) (hno : ∀ n u, ¬ Denotes s n u) :
    ∃ e, r = .error e := by
  cases hr with
  | never h' => exact absurd h' h
  | malformed _ _ e => exact ⟨e, rfl⟩
  | range hd _ _ => exact absurd hd (hno _ _)
  | nonpositive hd _ _ => exact absurd hd (hno _ _)
  | overflow hd _ _ _ => exact absurd hd (hno _ _)
  | deadline hd _ _ => exact absurd hd (hno _ _)

end

/-- **The deadline of a duration is exact**: the empty text, `never`, `none`, and an integer that is
zero or negative give none; a positive integer with a unit gives the time that is so far ahead, if
that is a 64-bit number; and what is neither, or whose seconds are not a 64-bit number, is refused.
-/
theorem deadline_exact (spec : String) {now : ℤ} (h0 : 0 ≤ now) :
    (parseExpiresIn spec now = .ok none ↔ Never (normalize spec) ∨
      ∃ n u, Denotes (normalize spec) n u ∧ minI64 ≤ n ∧ n ≤ 0) ∧
    (∀ t, parseExpiresIn spec now = .ok (some t) → ∃ n u, Denotes (normalize spec) n u ∧ 0 < n ∧
      (now + n * u ≤ maxI64 → t = now + n * u ∧ now < t)) ∧
    (∀ n u, Denotes (normalize spec) n u → 0 < n → now + n * u ≤ maxI64 →
      parseExpiresIn spec now = .ok (some (now + n * u))) ∧
    (∀ e, parseExpiresIn spec now = .error e → ¬ Never (normalize spec) ∧
      ∀ n u, Denotes (normalize spec) n u → n < minI64 ∨ maxI64 < now + n * u) ∧
    (¬ Never (normalize spec) → (∀ n u, Denotes (normalize spec) n u →
      n < minI64 ∨ maxI64 < n * u) → ∃ e, parseExpiresIn spec now = .error e) := by
  have hout := outcome_parseExpiresIn spec now
  generalize normalize spec = s at hout ⊢
  generalize parseExpiresIn spec now = r at hout ⊢
  refine ⟨⟨?_, ?_⟩, ?_, fun n u hd => hout.of_fits hd h0, ?_, ?_⟩
  · rintro rfl
    cases hout with
    | never h => exact .inl h
    | nonpositive hd hmin h => exact .inr ⟨_, _, hd, hmin, h⟩
  · rintro (h | ⟨n, u, hd, hmin, h⟩)
    · exact hout.of_never h
    · exact hout.of_nonpositive hd hmin h
  · rintro t rfl
    cases hout with
    | @deadline n u hd hpos h =>
      have hle := hd.le_mul hpos
      refine ⟨n, u, hd, hpos, fun hfit => ?_⟩
      rw [toI64_of_le (by omega) hfit]
      exact ⟨rfl, by omega⟩
  · rintro e rfl
    exact ⟨fun h => absurd (hout.of_never h) (by simp), fun n u hd => hout.range_of_error hd h0⟩
  · intro h hall
    by_cases hd : ∃ n u, Denotes s n u
    · obtain ⟨n, u, hd⟩ := hd
      exact hout.of_range hd (hall n u hd)
    · exact hout.of_neither h fun n u hdn => hd ⟨n, u, hdn⟩

/-- A duration of five minutes. -/
theorem deadline_exact_minutes : parseExpiresIn " 5M" 1000 = .ok (some 1300) := by
  have hd : Denotes (normalize " 5M") 5 60 :=
    denotes_iff.mpr ⟨['5'], by decide +kernel, parseInteger_eq_some_iff.mp (by decide +kernel)⟩
  exact (deadline_exact " 5M" (by decide)).2.2.1 5 60 hd (by decide) (by decide)

/-- What a duration is to give, if a negative one is to be refused. -/
structure Strict (spec : String) (now : ℤ) : Prop where
  never : parseExpiresIn spec now = .ok none →
    Never (normalize spec) ∨ ∃ u, Denotes (normalize spec) 0 u
  deadline : ∀ t, parseExpiresIn spec now = .ok (some t) → ∃ n u, Denotes (normalize spec) n u ∧
    0 < n ∧ t = now + n * u ∧ now < t
  refused : ¬ Never (normalize spec) → (∀ n u, Denotes (normalize spec) n u →
    n < 0 ∨ maxI64 < now + n * u) → ∃ e, parseExpiresIn spec now = .error e

/-- **A negative duration is none at all**: the token does not expire. -/
theorem negative_is_never : ¬ ∀ (spec : String) (now : ℤ), 0 ≤ now → Strict spec now := by
  intro h
  have hd : Denotes (normalize "-5m") (-5) 60 :=
    denotes_iff.mpr ⟨['-', '5'], by decide +kernel, parseInteger_eq_some_iff.mp (by decide +kernel)⟩
  have hr := (outcome_parseExpiresIn "-5m" 0).of_nonpositive hd (by decide) (by decide)
  rcases (h "-5m" 0 le_rfl).never hr with hn | ⟨u, hu⟩
  · exact hd.not_never hn
  · exact absurd (hd.unique hu).1 (by decide)

end MuxrCore.TokenExpiry.Duration
