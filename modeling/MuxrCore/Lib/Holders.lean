import Mathlib.Data.List.Basic
import Mathlib.Logic.Function.Basic
import Mathlib.Tactic.TypeStar

/-! # Tables that tasks keep

Each task of a list may own one entry of a table, under a key of its own; which entry, can be read
off the task (`own`). The table holds the entries that are owned, and no others: `Mirrors`. A task
moves on, and the table is changed with it.

* `Mirrors.still`, `Mirrors.put`, `Mirrors.take`: a move that changes nothing of what the task owns,
  one that takes an entry, and one that gives it back.
* `Apart`: no two tasks have one key; it is what giving back needs. -/

namespace MuxrCore.Lib.Holders

variable {τ κ α : Type*}

/-- The table holds what the tasks own. -/
def Mirrors (own : τ → Option (κ × α)) (tasks : List τ) (table : κ → α → Prop) : Prop :=
  ∀ k a, table k a ↔ ∃ (i : ℕ) (t : τ), tasks[i]? = some t ∧ own t = some (k, a)

/-- No two tasks have one key. -/
def Apart (key : τ → Option κ) (tasks : List τ) : Prop :=
  ∀ (i j : ℕ) (t t' : τ) (k : κ), tasks[i]? = some t → tasks[j]? = some t' → key t = some k →
    key t' = some k → i = j

variable {own : τ → Option (κ × α)} {key : τ → Option κ} {tasks : List τ}
  {table table' : κ → α → Prop} {i : ℕ} {t t' : τ}

/-! ### Moving one task -/

theorem getElem?_set_eq_some (h : tasks[i]? = some t) {j : ℕ} {u : τ} :
    (tasks.set i t')[j]? = some u ↔ (j = i ∧ u = t') ∨ (j ≠ i ∧ tasks[j]? = some u) := by
  have hi : i < tasks.length := (List.getElem?_eq_some_iff.mp h).1
  rw [List.getElem?_set]
  by_cases hj : i = j
  · subst hj
    simp [hi, eq_comm]
  · have hj' : j ≠ i := fun he => hj he.symm
    simp [hj, hj']

theorem Apart.set (hap : Apart key tasks) (h : tasks[i]? = some t)
    (hkey : ∀ k, key t' = some k → key t = some k ∨ ∀ (j : ℕ) (u : τ),
      tasks[j]? = some u → key u ≠ some k) :
    Apart key (tasks.set i t') := by
  -- the moved task's key was its own before, or no task's
  have hmoved : ∀ (j : ℕ) (u : τ) (k : κ), j ≠ i → tasks[j]? = some u → key u = some k →
      key t' ≠ some k := by
    intro j u k hne hu hk ht'
    rcases hkey k ht' with ht | hnone
    · exact hne (hap j i u t k hu h hk ht)
    · exact hnone j u hu hk
  intro a b u v k hu hv hku hkv
  rcases (getElem?_set_eq_some h).mp hu with ⟨ha, rfl⟩ | ⟨ha, hu'⟩ <;>
    rcases (getElem?_set_eq_some h).mp hv with ⟨hb, rfl⟩ | ⟨hb, hv'⟩
  · exact ha.trans hb.symm
  · exact absurd hku (hmoved b v k hb hv' hkv)
  · exact absurd hkv (hmoved a u k ha hu' hku)
  · exact hap a b u v k hu' hv' hku hkv

theorem getElem?_concat_eq_some {j : ℕ} {u : τ} :
    (tasks ++ [t])[j]? = some u ↔ tasks[j]? = some u ∨ (j = tasks.length ∧ u = t) := by
  rcases Nat.lt_trichotomy j tasks.length with hj | rfl | hj
  · simp [List.getElem?_append_left hj, Nat.ne_of_lt hj]
  · simp [eq_comm]
  · have hle : tasks.length ≤ j := Nat.le_of_lt hj
    have hnone : ([t] : List τ)[j - tasks.length]? = none := by
      rw [List.getElem?_eq_none_iff, List.length_singleton]
      omega
    simp [List.getElem?_append_right hle, hnone, List.getElem?_eq_none hle, Nat.ne_of_gt hj]

/-- A new task has no key yet. -/
theorem Apart.concat (hap : Apart key tasks) (hkey : key t = none) : Apart key (tasks ++ [t]) := by
  have hold : ∀ (j : ℕ) (u : τ) (k : κ), (tasks ++ [t])[j]? = some u → key u = some k →
      tasks[j]? = some u := by
    intro j u k hu hk
    rcases getElem?_concat_eq_some.mp hu with hu | ⟨-, rfl⟩
    · exact hu
    · rw [hkey] at hk
      cases hk
  intro a b u v k hu hv hku hkv
  exact hap a b u v k (hold a u k hu hku) (hold b v k hv hkv) hku hkv

/-! ### Moving the table with it -/

/-- A new task owns nothing. -/
theorem Mirrors.concat (hm : Mirrors own tasks table) (hown : own t = none) :
    Mirrors own (tasks ++ [t]) table := by
  intro k a
  rw [hm k a]
  constructor
  · rintro ⟨j, u, hu, ho⟩
    exact ⟨j, u, getElem?_concat_eq_some.mpr (Or.inl hu), ho⟩
  · rintro ⟨j, u, hu, ho⟩
    rcases getElem?_concat_eq_some.mp hu with hu | ⟨-, rfl⟩
    · exact ⟨j, u, hu, ho⟩
    · rw [hown] at ho
      cases ho

/-- A move that changes nothing of what the task owns. -/
theorem Mirrors.still (hm : Mirrors own tasks table) (h : tasks[i]? = some t)
    (hown : own t' = own t) : Mirrors own (tasks.set i t') table := by
  intro k a
  rw [hm k a]
  constructor
  · rintro ⟨j, u, hu, ho⟩
    by_cases hj : j = i
    · subst hj
      obtain rfl := Option.some.inj (h.symm.trans hu)
      exact ⟨j, t', (getElem?_set_eq_some h).mpr (Or.inl ⟨rfl, rfl⟩), hown.trans ho⟩
    · exact ⟨j, u, (getElem?_set_eq_some h).mpr (Or.inr ⟨hj, hu⟩), ho⟩
  · rintro ⟨j, u, hu, ho⟩
    rcases (getElem?_set_eq_some h).mp hu with ⟨rfl, rfl⟩ | ⟨-, hu⟩
    · exact ⟨j, t, h, hown ▸ ho⟩
    · exact ⟨j, u, hu, ho⟩

/-- A task that owns nothing has left its key free. -/
theorem Mirrors.vacant (hm : Mirrors own tasks table) (hap : Apart key tasks)
    (hkey : ∀ t k a, own t = some (k, a) → key t = some k) (h : tasks[i]? = some t) {k : κ} {a : α}
    (hk : key t = some k) (hnone : own t = none) : ¬ table k a := by
  intro hin
  obtain ⟨j, u, hu, ho⟩ := (hm k a).mp hin
  obtain rfl := hap j i u t k hu h (hkey u k a ho) hk
  obtain rfl := Option.some.inj (h.symm.trans hu)
  rw [hnone] at ho
  cases ho

/-- **A task takes an entry.** -/
theorem Mirrors.put (hm : Mirrors own tasks table) (h : tasks[i]? = some t) {k₀ : κ} {a₀ : α}
    (hnone : own t = none) (hown : own t' = some (k₀, a₀))
    (htable : ∀ k a, table' k a ↔ table k a ∨ (k = k₀ ∧ a = a₀)) :
    Mirrors own (tasks.set i t') table' := by
  intro k a
  rw [htable, hm k a]
  constructor
  · rintro (⟨j, u, hu, ho⟩ | ⟨rfl, rfl⟩)
    · have hj : j ≠ i := by
        rintro rfl
        obtain rfl := Option.some.inj (h.symm.trans hu)
        rw [hnone] at ho
        cases ho
      exact ⟨j, u, (getElem?_set_eq_some h).mpr (Or.inr ⟨hj, hu⟩), ho⟩
    · exact ⟨i, t', (getElem?_set_eq_some h).mpr (Or.inl ⟨rfl, rfl⟩), hown⟩
  · rintro ⟨j, u, hu, ho⟩
    rcases (getElem?_set_eq_some h).mp hu with ⟨-, rfl⟩ | ⟨-, hu⟩
    · rw [hown] at ho
      obtain ⟨rfl, rfl⟩ := Prod.mk.inj (Option.some.inj ho)
      exact Or.inr ⟨rfl, rfl⟩
    · exact Or.inl ⟨j, u, hu, ho⟩

/-- **A task gives its entry back**: it was the only one under its key. -/
theorem Mirrors.take (hm : Mirrors own tasks table) (hap : Apart key tasks)
    (hkey : ∀ t k a, own t = some (k, a) → key t = some k) (h : tasks[i]? = some t) {k₀ : κ}
    {a₀ : α} (hown : own t = some (k₀, a₀)) (hnone : own t' = none)
    (htable : ∀ k a, table' k a ↔ table k a ∧ k ≠ k₀) : Mirrors own (tasks.set i t') table' := by
  intro k a
  rw [htable, hm k a]
  constructor
  · rintro ⟨⟨j, u, hu, ho⟩, hne⟩
    have hj : j ≠ i := by
      rintro rfl
      obtain rfl := Option.some.inj (h.symm.trans hu)
      rw [hown] at ho
      exact hne (Prod.mk.inj (Option.some.inj ho)).1.symm
    exact ⟨j, u, (getElem?_set_eq_some h).mpr (Or.inr ⟨hj, hu⟩), ho⟩
  · rintro ⟨j, u, hu, ho⟩
    rcases (getElem?_set_eq_some h).mp hu with ⟨-, rfl⟩ | ⟨hj, hu⟩
    · rw [hnone] at ho
      cases ho
    · refine ⟨⟨j, u, hu, ho⟩, ?_⟩
      rintro rfl
      exact hj (hap j i u t k hu h (hkey u k a ho) (hkey t k a₀ hown))

end MuxrCore.Lib.Holders
