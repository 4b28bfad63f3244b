import Mathlib.Data.List.Basic
import Mathlib.Data.Option.Basic

/-! # A lock for readers and writers

The holders of a lock are readers, or one writer. `acquire` succeeds where the lock excludes no one,
and `release` frees what a holder has, if it has anything.

* `Holds.acquire`, `Holds.release`: the other holders keep the lock.
* `Holds.only`: who has it exclusively is the only holder. -/

namespace MuxrCore.Lib.Locks

variable {α : Type*}

/-- Who has the lock; while there is a writer there are no readers. -/
structure Lock (α : Type*) where
  writer : Option α
  readers : List α
  alone : writer.isSome → readers = []

namespace Lock

/-- Nobody has it. -/
def free : Lock α := ⟨none, [], by simp⟩

/-- Take the lock, exclusively or not, unless that must wait. -/
def acquire (l : Lock α) (exclusive : Bool) (a : α) : Option (Lock α) :=
  match l.writer with
  | some _ => none
  | none =>
    if exclusive then
      if l.readers = [] then some ⟨some a, [], fun _ => rfl⟩ else none
    else some ⟨none, a :: l.readers, by simp⟩

/-- Give the lock back. -/
def release [DecidableEq α] (l : Lock α) (a : α) : Lock α where
  writer := l.writer.filter (· ≠ a)
  readers := l.readers.filter (· ≠ a)
  alone h := by
    have hw : l.writer.isSome := by
      rcases hl : l.writer with _ | w
      · simp [hl] at h
      · rfl
    rw [l.alone hw, List.filter_nil]

/-- `a` has the lock, exclusively or not. -/
def Holds (l : Lock α) (exclusive : Bool) (a : α) : Prop :=
  if exclusive then l.writer = some a else a ∈ l.readers

variable {l l' : Lock α} {x y : Bool} {a b : α}

theorem acquire_eq_some (h : l.acquire x a = some l') :
    l.writer = none ∧ (x = true → l.readers = [] ∧ l'.writer = some a) ∧
      (x = false → l'.writer = none ∧ l'.readers = a :: l.readers) := by
  unfold acquire at h
  rcases hw : l.writer with _ | w <;> simp only [hw, reduceCtorEq] at h
  cases x
  · cases h
    simp
  · rw [if_pos rfl] at h
    split_ifs at h with hr
    cases h
    simp [hr]

/-- Who takes the lock has it. -/
theorem holds_acquire (h : l.acquire x a = some l') : l'.Holds x a := by
  obtain ⟨-, hx, hs⟩ := acquire_eq_some h
  cases x
  · simp [Holds, (hs rfl).2]
  · simp [Holds, (hx rfl).2]

/-- Who has the lock keeps it when another takes it. -/
theorem Holds.acquire (hb : l.Holds y b) (h : l.acquire x a = some l') : l'.Holds y b := by
  obtain ⟨hw, hx, hs⟩ := acquire_eq_some h
  cases y
  · cases x
    · have hmem : b ∈ l.readers := hb
      simp [Holds, (hs rfl).2, hmem]
    · have hmem : b ∈ l.readers := hb
      rw [(hx rfl).1] at hmem
      exact absurd hmem List.not_mem_nil
  · have hwb : l.writer = some b := hb
    exact absurd hwb (by simp [hw])

/-- Who has the lock keeps it when another gives it back. -/
theorem Holds.release [DecidableEq α] (hb : l.Holds y b) (hne : b ≠ a) :
    (l.release a).Holds y b := by
  cases y
  · have hmem : b ∈ l.readers := hb
    simp [Holds, Lock.release, hmem, hne]
  · have hw : l.writer = some b := hb
    simp [Holds, Lock.release, hw, Option.filter_some, hne]

/-- **Who has the lock exclusively is the only holder.** -/
theorem Holds.only (ha : l.Holds true a) (hb : l.Holds y b) : a = b := by
  have hw : l.writer = some a := ha
  cases y
  · have hmem : b ∈ l.readers := hb
    rw [l.alone (by simp [hw])] at hmem
    exact absurd hmem List.not_mem_nil
  · have hwb : l.writer = some b := hb
    exact Option.some.inj (hw.symm.trans hwb)

/-- Nobody has the lock when it is taken exclusively. -/
theorem not_holds_of_acquire (h : l.acquire true a = some l') : ¬ l.Holds y b := by
  obtain ⟨hw, hx, -⟩ := acquire_eq_some h
  cases y
  · simp [Holds, (hx rfl).1]
  · simp [Holds, hw]

end Lock

end MuxrCore.Lib.Locks
