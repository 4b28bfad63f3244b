import Mathlib.Data.List.DropRight
import Mathlib.Data.List.TakeWhile

/-! # Splitting and trimming a string

`splitOnce s c` cuts `s` at the first occurrence of `c`, and fails if there is none
(`str::split_once` of the Rust standard library). It is characterized by what it returns:
`splitOnce_eq_some_iff` (the two parts around the first separator) and `splitOnce_eq_none_iff`.
`isBlank` is the test that nothing is left of a string once it is trimmed, and `trimMatches` takes
certain characters off both ends (`trimMatches_of_trimmed`, `trimmed_trimMatches`). `lastPiece` is
what follows the last separator. -/

namespace MuxrCore.Lib.Text

/-- The parts of `s` before and after the first `c`. -/
def splitOnce (s : String) (c : Char) : Option (String × String) :=
  match s.toList.dropWhile (· ≠ c) with
  | [] => none
  | _ :: post => some (String.ofList (s.toList.takeWhile (· ≠ c)), String.ofList post)

/-- What is left from the first `c` on starts with `c`. -/
theorem eq_takeWhile_append {c x : Char} : ∀ {l post : List Char},
    l.dropWhile (· ≠ c) = x :: post → l = l.takeWhile (· ≠ c) ++ c :: post
  | [], post, h => by simp at h
  | a :: l, post, h => by
    by_cases ha : a = c
    · subst ha
      simp only [ne_eq, List.dropWhile_cons, not_true_eq_false, decide_false,
        Bool.false_eq_true, if_false, List.cons.injEq] at h
      rw [← h.2]
      simp
    · rw [List.dropWhile_cons, if_pos (by simpa using ha)] at h
      rw [List.takeWhile_cons, if_pos (by simpa using ha), List.cons_append,
        ← eq_takeWhile_append h]

theorem notMem_takeWhile (c : Char) (l : List Char) : c ∉ l.takeWhile (· ≠ c) := by
  intro hc
  have := List.mem_takeWhile_imp hc
  simp at this

theorem splitOnce_eq_none_iff {s : String} {c : Char} : splitOnce s c = none ↔ c ∉ s.toList := by
  unfold splitOnce
  cases h : s.toList.dropWhile (· ≠ c) with
  | nil =>
    simp only [true_iff]
    intro hc
    have := List.dropWhile_eq_nil_iff.mp h
    simpa using this c hc
  | cons x post =>
    simp only [reduceCtorEq, false_iff, not_not]
    rw [eq_takeWhile_append h]
    simp

theorem splitOnce_eq_some_iff {s a b : String} {c : Char} :
    splitOnce s c = some (a, b) ↔ c ∉ a.toList ∧ s.toList = a.toList ++ c :: b.toList := by
  constructor
  · unfold splitOnce
    intro h
    cases hd : s.toList.dropWhile (· ≠ c) with
    | nil => rw [hd] at h; simp at h
    | cons x post =>
      rw [hd] at h
      simp only [Option.some.injEq, Prod.mk.injEq] at h
      obtain ⟨rfl, rfl⟩ := h
      simp only [String.toList_ofList]
      exact ⟨notMem_takeWhile c _, eq_takeWhile_append hd⟩
  · rintro ⟨ha, hs⟩
    have hp : ∀ x ∈ a.toList, decide (x ≠ c) = true := fun x hx => by
      simp only [decide_eq_true_eq]
      rintro rfl
      exact ha hx
    unfold splitOnce
    rw [hs, List.takeWhile_append_of_pos hp, List.dropWhile_append_of_pos hp]
    simp

/-- The characters with the property `White_Space`. -/
def isWhiteSpace (c : Char) : Bool :=
  let n := c.toNat
  (0x9 ≤ n && n ≤ 0xd) || n = 0x20 || n = 0x85 || n = 0xa0 || n = 0x1680 ||
    (0x2000 ≤ n && n ≤ 0x200a) || n = 0x2028 || n = 0x2029 || n = 0x202f || n = 0x205f || n = 0x3000

/-- Nothing is left of the text when it is trimmed. -/
def isBlank (s : String) : Bool := s.toList.all isWhiteSpace

/-- The parts of `s` before and after the last `c`. -/
def rsplitOnce (s : String) (c : Char) : Option (String × String) :=
  (splitOnce (String.ofList s.toList.reverse) c).map fun (a, b) =>
    (String.ofList b.toList.reverse, String.ofList a.toList.reverse)

theorem rsplitOnce_eq_some_iff {s a b : String} {c : Char} :
    rsplitOnce s c = some (a, b) ↔ c ∉ b.toList ∧ s.toList = a.toList ++ c :: b.toList := by
  rw [rsplitOnce, Option.map_eq_some_iff]
  constructor
  · rintro ⟨⟨x, y⟩, hxy, he⟩
    obtain ⟨rfl, rfl⟩ := Prod.mk.inj he
    obtain ⟨hx, hs⟩ := splitOnce_eq_some_iff.mp hxy
    rw [String.toList_ofList, List.reverse_eq_iff] at hs
    rw [String.toList_ofList, String.toList_ofList, hs]
    exact ⟨fun h => hx (List.mem_reverse.mp h), by simp⟩
  · rintro ⟨hb, hs⟩
    refine ⟨(String.ofList b.toList.reverse, String.ofList a.toList.reverse),
      splitOnce_eq_some_iff.mpr ⟨?_, ?_⟩, by simp⟩
    · rwa [String.toList_ofList, List.mem_reverse]
    · rw [String.toList_ofList, String.toList_ofList, String.toList_ofList, hs]
      simp

/-! ### Trimming -/

/-- The text without the characters at its ends that the test accepts. -/
def trimMatches (p : Char → Bool) (l : List Char) : List Char := (l.dropWhile p).rdropWhile p

/-- The text without the white space at its ends. -/
def trim (s : String) : String := String.ofList (trimMatches isWhiteSpace s.toList)

/-- Nothing is to be trimmed. -/
def Trimmed (p : Char → Bool) (l : List Char) : Prop :=
  (∀ c ∈ l.head?, p c = false) ∧ ∀ c ∈ l.getLast?, p c = false

theorem trimMatches_of_trimmed {p : Char → Bool} {l : List Char} (h : Trimmed p l) :
    trimMatches p l = l := by
  have hfront : l.dropWhile p = l := by
    cases l with
    | nil => rfl
    | cons c l => simp [h.1 c rfl]
  rw [trimMatches, hfront, List.rdropWhile_eq_self_iff]
  intro hl
  simp [h.2 _ (List.getLast?_eq_some_getLast hl)]

theorem trimmed_trimMatches (p : Char → Bool) (l : List Char) : Trimmed p (trimMatches p l) := by
  constructor
  · intro c hc
    -- what is left when the end is trimmed is a piece off the front
    obtain ⟨t, ht⟩ := List.rdropWhile_prefix p (l := l.dropWhile p)
    have hhead : (l.dropWhile p).head? = some c := by
      rw [← ht, List.head?_append, show (List.rdropWhile p (l.dropWhile p)).head? = some c from hc]
      rfl
    have := List.head?_dropWhile_not p l
    rw [hhead] at this
    simpa using this
  · intro c hc
    obtain ⟨hne, rfl⟩ := List.mem_getLast?_eq_getLast hc
    exact Bool.eq_false_iff.mpr (List.rdropWhile_last_not p (l.dropWhile p) hne)

/-- What is trimmed are characters that the test accepts. -/
theorem mem_trimMatches_or {p : Char → Bool} {l : List Char} {c : Char} (hc : c ∈ l) :
    p c = true ∨ c ∈ trimMatches p l := by
  rw [← List.takeWhile_append_dropWhile (p := p) (l := l), List.mem_append] at hc
  rcases hc with hc | hc
  · exact .inl (List.mem_takeWhile_imp hc)
  · rw [← List.rdropWhile_append_rtakeWhile (p := p) (l := l.dropWhile p), List.mem_append] at hc
    rcases hc with hc | hc
    · exact .inr hc
    · exact .inl (List.mem_rtakeWhile_imp hc)

theorem trimMatches_congr {p q : Char → Bool} {l : List Char} (h : ∀ c ∈ l, p c = q c) :
    trimMatches p l = trimMatches q l := by
  have hdrop : ∀ {l : List Char}, (∀ c ∈ l, p c = q c) → l.dropWhile p = l.dropWhile q := by
    intro l hl
    induction l with
    | nil => rfl
    | cons c l ih =>
      have ih := ih fun c' hc => hl c' (List.mem_cons_of_mem c hc)
      rw [List.dropWhile_cons, List.dropWhile_cons, hl c List.mem_cons_self, ih]
  have hrest : ∀ c ∈ (l.dropWhile q).reverse, p c = q c :=
    fun c hc => h c ((List.dropWhile_sublist q).mem (List.mem_reverse.mp hc))
  unfold trimMatches List.rdropWhile
  rw [hdrop h, hdrop hrest]

/-- What follows the last separator; everything, if there is none. -/
def lastPiece (sep : Char) (l : List Char) : List Char := l.rtakeWhile (· ≠ sep)

theorem mem_of_mem_lastPiece {sep c : Char} {l : List Char} (h : c ∈ lastPiece sep l) : c ∈ l :=
  (List.rtakeWhile_suffix _ l).mem h

end MuxrCore.Lib.Text
