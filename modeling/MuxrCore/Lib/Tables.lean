import Mathlib.Data.List.AList

/-! # Tables

A table is a function to `Option`, or an association list without two rows of one key. `retain`
keeps the rows of a list of keys, `keepRows` those that pass a test.

* `update_eq_some`: the rows of a function after one is written.
* `numbers_update`: a function that numbers its keys, after one more is numbered.
* `lookup_insert_eq`, `lookup_erase_eq`: the row at any key after one row is written or erased.
* `lookup_retain`, `lookup_keepRows`: the rows that are kept. -/

namespace MuxrCore.Lib.Tables

/-! ### Functions -/

section
variable {κ β : Type*} [DecidableEq κ] {f : κ → Option β} {k x : κ} {b c : β}

theorem update_eq_some {new : Option β} :
    Function.update f k new x = some c ↔ x = k ∧ new = some c ∨ x ≠ k ∧ f x = some c := by
  by_cases hx : x = k
  · subst hx
    simp
  · simp [hx]

theorem update_eq_some_iff :
    Function.update f k (some b) x = some c ↔ x = k ∧ b = c ∨ x ≠ k ∧ f x = some c := by
  rw [update_eq_some, Option.some_inj]

theorem exists_update (h : x = k ∨ ∃ c, f x = some c) :
    ∃ c, Function.update f k (some b) x = some c := by
  by_cases hx : x = k
  · exact ⟨b, update_eq_some_iff.mpr (Or.inl ⟨hx, rfl⟩)⟩
  · obtain ⟨c, hc⟩ := h.resolve_left hx
    exact ⟨c, update_eq_some_iff.mpr (Or.inr ⟨hx, hc⟩)⟩

/-- A key that is given the bound of the numbers in use gets a number of its own. -/
theorem numbers_update {f : κ → Option ℕ} {n : ℕ} (hbelow : ∀ x m, f x = some m → m < n)
    (hdistinct : ∀ x x' m, f x = some m → f x' = some m → x = x') (k : κ) :
    (∀ x m, Function.update f k (some n) x = some m → m < n + 1) ∧
      ∀ x x' m, Function.update f k (some n) x = some m →
        Function.update f k (some n) x' = some m → x = x' := by
  have hnew : ∀ x, f x ≠ some n := fun x hx => absurd (hbelow x _ hx) (Nat.lt_irrefl _)
  refine ⟨fun x m hm => ?_, fun x x' m hm hm' => ?_⟩
  · rcases update_eq_some_iff.mp hm with ⟨-, rfl⟩ | ⟨-, hm⟩
    · exact Nat.lt_succ_self _
    · exact Nat.lt_succ_of_lt (hbelow x m hm)
  · rcases update_eq_some_iff.mp hm with ⟨hx, rfl⟩ | ⟨-, hm⟩
    · rcases update_eq_some_iff.mp hm' with ⟨hx', -⟩ | ⟨-, hm'⟩
      · rw [hx, hx']
      · exact absurd hm' (hnew x')
    · rcases update_eq_some_iff.mp hm' with ⟨-, rfl⟩ | ⟨-, hm'⟩
      · exact absurd hm (hnew x)
      · exact hdistinct x x' m hm hm'

end

/-! ### Association lists -/

variable {κ β : Type*} [DecidableEq κ] (m : AList fun _ : κ => β)

/-- Erase the rows of a list of keys. -/
def eraseAll (keys : List κ) : AList fun _ : κ => β := keys.foldl (fun m k => m.erase k) m

/-- Keep the rows of a list of keys. -/
def retain (keys : List κ) : AList fun _ : κ => β := eraseAll m (m.keys.filter (· ∉ keys))

theorem lookup_insert_eq (k : κ) (b : β) (k' : κ) :
    (m.insert k b).lookup k' = if k' = k then some b else m.lookup k' := by
  by_cases h : k' = k
  · subst h
    rw [if_pos rfl, AList.lookup_insert]
  · rw [if_neg h, AList.lookup_insert_ne h]

theorem lookup_erase_eq (k k' : κ) :
    (m.erase k).lookup k' = if k' = k then none else m.lookup k' := by
  by_cases h : k' = k
  · subst h
    rw [if_pos rfl, AList.lookup_erase]
  · rw [if_neg h, AList.lookup_erase_ne h]

theorem lookup_eraseAll (keys : List κ) (k : κ) :
    (eraseAll m keys).lookup k = if k ∈ keys then none else m.lookup k := by
  induction keys generalizing m with
  | nil => simp [eraseAll]
  | cons k' keys ih =>
    show (eraseAll (m.erase k') keys).lookup k = _
    rw [ih, lookup_erase_eq]
    by_cases h : k = k'
    · simp [h]
    · simp [h]

/-- The rows that are kept. -/
theorem lookup_retain (keys : List κ) (k : κ) :
    (retain m keys).lookup k = if k ∈ keys then m.lookup k else none := by
  unfold retain
  rw [lookup_eraseAll]
  by_cases hk : k ∈ keys
  · rw [if_neg (by simp [hk]), if_pos hk]
  · rw [if_neg hk]
    by_cases hm : k ∈ m
    · rw [if_pos (by simpa [hk] using AList.mem_keys.mp hm)]
    · rw [AList.lookup_eq_none.mpr hm, ite_self]

variable {m} {k : κ}

/-- A key of the kept rows is one of the list, and one of the table. -/
theorem mem_retain {keys : List κ} : k ∈ retain m keys ↔ k ∈ keys ∧ k ∈ m := by
  rw [← AList.lookup_isSome, lookup_retain, ← AList.lookup_isSome]
  by_cases hk : k ∈ keys <;> simp [hk]

/-- Keep the rows that pass a test. -/
def keepRows (m : AList fun _ : κ => β) (test : κ → β → Bool) : AList fun _ : κ => β :=
  ⟨m.entries.filter fun row => test row.1 row.2,
    m.nodupKeys.sublist List.filter_sublist⟩

theorem lookup_keepRows (test : κ → β → Bool) :
    (keepRows m test).lookup k = (m.lookup k).filter (test k) := by
  ext b
  rw [Option.filter_eq_some_iff, ← Option.mem_def, ← Option.mem_def, AList.mem_lookup_iff,
    AList.mem_lookup_iff]
  exact List.mem_filter

/-- Nothing is dropped if all rows pass. -/
theorem keepRows_eq_self {test : κ → β → Bool} (h : ∀ k b, m.lookup k = some b → test k b = true) :
    keepRows m test = m := by
  refine AList.ext (List.filter_eq_self.mpr fun row hrow => h row.1 row.2 ?_)
  exact AList.mem_lookup_iff.mpr hrow

omit [DecidableEq κ] in
theorem length_keepRows_le (test : κ → β → Bool) :
    (keepRows m test).keys.length ≤ m.keys.length := by
  show (List.map _ _).length ≤ (List.map _ _).length
  rw [List.length_map, List.length_map]
  exact List.length_filter_le _ _

/-- A new key makes the table one row longer. -/
theorem length_keys_insert (b : β) (h : k ∉ m) :
    (m.insert k b).keys.length = m.keys.length + 1 := by
  rw [AList.keys_insert, List.erase_of_not_mem (mt AList.mem_keys.mpr h), List.length_cons]

/-- A key that is there already does not. -/
theorem length_keys_insert_of_mem (b : β) (h : k ∈ m) :
    (m.insert k b).keys.length = m.keys.length := by
  have hk : k ∈ m.keys := AList.mem_keys.mp h
  rw [AList.keys_insert, List.length_cons, List.length_erase_of_mem hk,
    Nat.sub_add_cancel (List.length_pos_of_mem hk)]

end MuxrCore.Lib.Tables
