import Mathlib.Algebra.Group.Nat.Defs
import Mathlib.Logic.Function.Basic
import MuxrCore.Lib.Tables

/-! # Files under names

A directory gives names to files; a file has a content, and keeps it when its name is taken by
another one. `openTruncate` empties the file of a name, or makes a new one; `write` writes to a file
that is open, whatever name it has by then; `rename` moves a name over another.

`WellFormed` says that no file has two names, and that new files are new. -/

namespace MuxrCore.Lib.Files

open MuxrCore.Lib.Tables

variable {P C : Type*} [DecidableEq P]

/-- The file of each name, the contents, and the first file not used yet. -/
structure Dir (P C : Type*) where
  names : P → Option ℕ
  content : ℕ → C
  next : ℕ

namespace Dir

variable (d : Dir P C)

/-- The content under a name. -/
def read (p : P) : Option C := (d.names p).map d.content

/-- Open a name for writing: its file is emptied, or made. -/
def openTruncate (p : P) (empty : C) : Dir P C × ℕ :=
  match d.names p with
  | some i => ({ d with content := Function.update d.content i empty }, i)
  | none => (⟨Function.update d.names p (some d.next), Function.update d.content d.next empty,
      d.next + 1⟩, d.next)

/-- Write to an open file. -/
def write (i : ℕ) (c : C) : Dir P C := { d with content := Function.update d.content i c }

/-- Move a name over another one, if it has a file. -/
def rename (p q : P) : Option (Dir P C) :=
  (d.names p).map fun i =>
    { d with names := Function.update (Function.update d.names p none) q (some i) }

/-- Files are used before they have a name, and have one name at most. -/
structure WellFormed : Prop where
  used : ∀ p i, d.names p = some i → i < d.next
  single : ∀ p q i, d.names p = some i → d.names q = some i → p = q

variable {d} {p q : P} {c empty : C} {i : ℕ}

/-! ### Opening -/

theorem openTruncate_names :
    (d.openTruncate p empty).1.names p = some (d.openTruncate p empty).2 := by
  unfold openTruncate
  rcases h : d.names p with _ | i
  · simp
  · simp [h]

theorem openTruncate_names_ne (h : q ≠ p) : (d.openTruncate p empty).1.names q = d.names q := by
  unfold openTruncate
  rcases d.names p with _ | i
  · simp [h]
  · rfl

theorem openTruncate_content :
    (d.openTruncate p empty).1.content (d.openTruncate p empty).2 = empty := by
  unfold openTruncate
  rcases d.names p with _ | i <;> simp

theorem openTruncate_content_ne (h : i ≠ (d.openTruncate p empty).2) :
    (d.openTruncate p empty).1.content i = d.content i := by
  unfold openTruncate at *
  rcases hp : d.names p with _ | j <;> simp only [hp] at h ⊢ <;> exact Function.update_of_ne h _ _

theorem next_le_openTruncate : d.next ≤ (d.openTruncate p empty).1.next := by
  unfold openTruncate
  rcases d.names p with _ | i <;> simp

/-- The file that is opened is the one of the name, or a new one. -/
theorem openTruncate_file (d : Dir P C) (p : P) (empty : C) :
    d.names p = some (d.openTruncate p empty).2 ∨
    d.names p = none ∧ (d.openTruncate p empty).2 = d.next := by
  unfold openTruncate
  rcases h : d.names p with _ | i
  · exact Or.inr ⟨rfl, rfl⟩
  · exact Or.inl rfl

/-- A file that was used under another name is not opened. -/
theorem WellFormed.ne_openTruncate (h : d.WellFormed) (hq : d.names q = some i) (hne : q ≠ p) :
    i ≠ (d.openTruncate p empty).2 := by
  rintro rfl
  rcases openTruncate_file d p empty with hp | ⟨-, hnew⟩
  · exact hne (h.single q p _ hq hp)
  · exact absurd (h.used q _ hq) (by omega)

theorem WellFormed.openTruncate (h : d.WellFormed) (p : P) (empty : C) :
    (d.openTruncate p empty).1.WellFormed := by
  unfold Dir.openTruncate
  rcases hp : d.names p with _ | i
  · have hnew : ∀ q, d.names q ≠ some d.next :=
      fun q hq => absurd (h.used q _ hq) (Nat.lt_irrefl _)
    refine ⟨fun q i hq => ?_, fun q r i hq hr => ?_⟩
    · rcases update_eq_some_iff.mp hq with ⟨-, rfl⟩ | ⟨-, hq⟩
      · exact Nat.lt_succ_self _
      · exact Nat.lt_succ_of_lt (h.used q i hq)
    · rcases update_eq_some_iff.mp hq with ⟨hqp, rfl⟩ | ⟨-, hq⟩ <;>
        rcases update_eq_some_iff.mp hr with ⟨hrp, hr⟩ | ⟨-, hr⟩
      · rw [hqp, hrp]
      · exact absurd hr (hnew r)
      · exact absurd (hr ▸ hq) (hnew q)
      · exact h.single q r i hq hr
  · exact ⟨h.used, h.single⟩

/-- What is read under another name stays. -/
theorem WellFormed.read_openTruncate (h : d.WellFormed) (hne : q ≠ p) (empty : C) :
    (d.openTruncate p empty).1.read q = d.read q := by
  unfold read
  rw [openTruncate_names_ne hne]
  rcases hq : d.names q with _ | i
  · rfl
  · exact congrArg some (openTruncate_content_ne (h.ne_openTruncate hq hne))

/-! ### Writing and renaming -/

omit [DecidableEq P] in
theorem WellFormed.write (h : d.WellFormed) (i : ℕ) (c : C) : (d.write i c).WellFormed :=
  ⟨h.used, h.single⟩

omit [DecidableEq P] in
theorem WellFormed.read_write (h : d.WellFormed) (hp : d.names p = some i) (hne : q ≠ p) (c : C) :
    (d.write i c).read q = d.read q := by
  unfold read Dir.write
  rcases hq : d.names q with _ | j
  · rfl
  · have hji : j ≠ i := by
      rintro rfl
      exact hne (h.single q p j hq hp)
    exact congrArg some (Function.update_of_ne hji _ _)

theorem rename_eq_some {d' : Dir P C} : d.rename p q = some d' ↔ ∃ i, d.names p = some i ∧
    d' = { d with names := Function.update (Function.update d.names p none) q (some i) } := by
  unfold rename
  rw [Option.map_eq_some_iff]
  exact exists_congr fun i => and_congr_right fun _ => eq_comm

theorem WellFormed.rename {d' : Dir P C} (h : d.WellFormed) (hr : d.rename p q = some d') :
    d'.WellFormed := by
  obtain ⟨i, hp, rfl⟩ := rename_eq_some.mp hr
  -- a name other than the new one was there, and is not the old one
  have hkept : ∀ {r : P} {j : ℕ}, Function.update d.names p none r = some j →
      r ≠ p ∧ d.names r = some j :=
    fun hj => (update_eq_some.mp hj).resolve_left (by simp)
  refine ⟨fun r j hj => ?_, fun r s j hj hj' => ?_⟩
  · rcases update_eq_some_iff.mp hj with ⟨-, rfl⟩ | ⟨-, hj⟩
    · exact h.used p _ hp
    · exact h.used r j (hkept hj).2
  · rcases update_eq_some_iff.mp hj with ⟨hrq, rfl⟩ | ⟨-, hj⟩ <;>
      rcases update_eq_some_iff.mp hj' with ⟨hsq, hj'⟩ | ⟨-, hj'⟩
    · rw [hrq, hsq]
    · exact absurd (h.single s p _ (hkept hj').2 hp) (hkept hj').1
    · exact absurd (h.single r p _ (hkept hj).2 (hj' ▸ hp)) (hkept hj).1
    · exact h.single r s j (hkept hj).2 (hkept hj').2

end Dir

end MuxrCore.Lib.Files
