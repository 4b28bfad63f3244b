import Mathlib.Data.Finmap
import Mathlib.Tactic.SplitIfs

/-! # Maps of rows

A row carries its own key, and a map of rows is built by inserting rows one by one, each under its
key. `RowAt key l k` is the row a list has at a key.

* `lookup_insertAll`: a list without two rows of one key overwrites exactly the keys it has.
* `lookup_eraseAll`: erasing a list of keys.
* `lookup_keepAll`: copying the rows of a list of keys from another map. -/

namespace MuxrCore.Lib.Rows

variable {κ β : Type*} [DecidableEq κ] (key : β → κ)

/-- The first row of a key. -/
def rowAt (l : List β) (k : κ) : Option β := l.find? fun b => key b = k

/-- Insert the rows of a list, each under its key. -/
def insertAll (m : Finmap fun _ : κ => β) (l : List β) : Finmap fun _ : κ => β :=
  l.foldl (fun m b => m.insert (key b) b) m

/-- Erase the keys of a list. -/
def eraseAll (m : Finmap fun _ : κ => β) (l : List κ) : Finmap fun _ : κ => β :=
  l.foldl (fun m k => m.erase k) m

/-- Copy the rows which `source` has at the keys of a list. -/
def keepAll (source m : Finmap fun _ : κ => β) (l : List κ) : Finmap fun _ : κ => β :=
  l.foldl (fun m k => match source.lookup k with
    | some b => m.insert k b
    | none => m) m

variable {key} {l : List β} {k : κ} {b : β}

/-! ### The row at a key -/

theorem rowAt_nil : rowAt key [] k = none := rfl

theorem rowAt_cons : rowAt key (b :: l) k = if key b = k then some b else rowAt key l k := by
  simp only [rowAt, List.find?_cons]
  by_cases h : key b = k <;> simp [h]

theorem rowAt_eq_none_iff : rowAt key l k = none ↔ k ∉ l.map key := by
  simp [rowAt, List.find?_eq_none]

theorem key_of_rowAt (h : rowAt key l k = some b) : key b = k := by
  have hb := List.find?_some h
  simpa using hb

theorem mem_of_rowAt (h : rowAt key l k = some b) : b ∈ l := List.mem_of_find?_eq_some h

theorem rowAt_of_mem (hn : (l.map key).Nodup) (hb : b ∈ l) : rowAt key l (key b) = some b := by
  induction l with
  | nil => exact absurd hb (by simp)
  | cons c l ih =>
    rw [List.map_cons, List.nodup_cons] at hn
    rw [rowAt_cons]
    rcases List.mem_cons.mp hb with rfl | hb
    · rw [if_pos rfl]
    · have hne : key c ≠ key b := fun he => hn.1 (he ▸ List.mem_map_of_mem hb)
      rw [if_neg hne, ih hn.2 hb]

theorem rowAt_eq_some_iff (hn : (l.map key).Nodup) :
    rowAt key l k = some b ↔ b ∈ l ∧ key b = k := by
  constructor
  · intro h
    exact ⟨mem_of_rowAt h, key_of_rowAt h⟩
  · rintro ⟨hb, rfl⟩
    exact rowAt_of_mem hn hb

/-- The rows that a predicate on keys keeps. -/
theorem rowAt_filter (p : κ → Bool) :
    rowAt key (l.filter fun b => p (key b)) k = if p k then rowAt key l k else none := by
  induction l with
  | nil => simp [rowAt_nil]
  | cons c l ih =>
    by_cases hc : p (key c) = true
    · rw [List.filter_cons, if_pos hc, rowAt_cons, rowAt_cons, ih]
      by_cases hk : key c = k
      · subst hk
        simp [hc]
      · simp [hk]
    · rw [List.filter_cons, if_neg hc, ih, rowAt_cons]
      by_cases hk : key c = k
      · subst hk
        simp [hc]
      · simp [hk]

/-- The rows that a predicate keeps, where no two rows have one key. -/
theorem rowAt_filter_row (hn : (l.map key).Nodup) (p : β → Bool) :
    rowAt key (l.filter p) k = (rowAt key l k).filter p := by
  have hn' : ((l.filter p).map key).Nodup := hn.sublist (List.filter_sublist.map _)
  refine Option.ext fun b => ?_
  rw [rowAt_eq_some_iff hn', Option.filter_eq_some_iff, rowAt_eq_some_iff hn, List.mem_filter]
  constructor
  · rintro ⟨⟨hb, hp⟩, hk⟩; exact ⟨⟨hb, hk⟩, hp⟩
  · rintro ⟨⟨hb, hk⟩, hp⟩; exact ⟨⟨hb, hp⟩, hk⟩

theorem rowAt_map {γ : Type*} {key' : γ → κ} {f : γ → β} (h : ∀ c, key (f c) = key' c)
    (l : List γ) : rowAt key (l.map f) k = (rowAt key' l k).map f := by
  induction l with
  | nil => rfl
  | cons c l ih =>
    rw [List.map_cons, rowAt_cons, rowAt_cons, h, ih]
    split_ifs <;> rfl

/-- The order of rows of different keys does not matter. -/
theorem rowAt_perm {l' : List β} (hp : l.Perm l') (hn : (l.map key).Nodup) :
    rowAt key l k = rowAt key l' k := by
  have hn' : (l'.map key).Nodup := (hp.map key).nodup_iff.mp hn
  refine Option.ext fun b => ?_
  rw [rowAt_eq_some_iff hn, rowAt_eq_some_iff hn', hp.mem_iff]

/-! ### Building maps -/

/-- The rows of a map after an insertion. -/
theorem lookup_insert_eq_some_iff {m : Finmap fun _ : κ => β} {k' : κ} {c : β} :
    (m.insert k b).lookup k' = some c ↔ k' = k ∧ b = c ∨ k' ≠ k ∧ m.lookup k' = some c := by
  by_cases hk : k' = k
  · subst hk
    simp
  · simp [Finmap.lookup_insert_of_ne _ hk, hk]

/-- A list without two rows of one key overwrites exactly the keys it has. -/
theorem lookup_insertAll (hn : (l.map key).Nodup) (m : Finmap fun _ : κ => β) :
    (insertAll key m l).lookup k = (rowAt key l k).or (m.lookup k) := by
  induction l generalizing m with
  | nil => rfl
  | cons b l ih =>
    rw [List.map_cons, List.nodup_cons] at hn
    show (insertAll key (m.insert (key b) b) l).lookup k = _
    rw [ih hn.2, rowAt_cons]
    by_cases hk : key b = k
    · subst hk
      rw [rowAt_eq_none_iff.mpr hn.1, if_pos rfl, Finmap.lookup_insert]
      rfl
    · rw [if_neg hk, Finmap.lookup_insert_of_ne _ (Ne.symm hk)]

theorem mem_insertAll (m : Finmap fun _ : κ => β) :
    k ∈ insertAll key m l ↔ k ∈ l.map key ∨ k ∈ m := by
  induction l generalizing m with
  | nil => simp [insertAll]
  | cons b l ih =>
    show k ∈ insertAll key (m.insert (key b) b) l ↔ _
    rw [ih, Finmap.mem_insert, List.map_cons, List.mem_cons]
    constructor
    · rintro (h | rfl | h)
      · exact Or.inl (Or.inr h)
      · exact Or.inl (Or.inl rfl)
      · exact Or.inr h
    · rintro ((rfl | h) | h)
      · exact Or.inr (Or.inl rfl)
      · exact Or.inl h
      · exact Or.inr (Or.inr h)

/-- Every row of the map stands under its own key. -/
def Keyed (key : β → κ) (m : Finmap fun _ : κ => β) : Prop :=
  ∀ k b, m.lookup k = some b → key b = k

theorem keyed_empty : Keyed key ∅ := by
  intro k b h
  rw [Finmap.lookup_empty] at h
  exact absurd h (by simp)

theorem Keyed.insert {m : Finmap fun _ : κ => β} (h : Keyed key m) (b : β) :
    Keyed key (m.insert (key b) b) := by
  intro k c hc
  rcases lookup_insert_eq_some_iff.mp hc with ⟨rfl, rfl⟩ | ⟨-, hc⟩
  · rfl
  · exact h k c hc

theorem Keyed.erase {m : Finmap fun _ : κ => β} (h : Keyed key m) (k : κ) :
    Keyed key (m.erase k) := by
  intro k' c hc
  by_cases hk : k' = k
  · subst hk
    rw [Finmap.lookup_erase] at hc
    exact absurd hc (by simp)
  · rw [Finmap.lookup_erase_ne hk] at hc
    exact h k' c hc

theorem Keyed.insertAll {m : Finmap fun _ : κ => β} (h : Keyed key m) (l : List β) :
    Keyed key (insertAll key m l) := by
  induction l generalizing m with
  | nil => exact h
  | cons b l ih => exact ih (h.insert b)

theorem lookup_eraseAll {ks : List κ} (m : Finmap fun _ : κ => β) :
    (eraseAll m ks).lookup k = if k ∈ ks then none else m.lookup k := by
  induction ks generalizing m with
  | nil => simp [eraseAll]
  | cons c ks ih =>
    show (eraseAll (m.erase c) ks).lookup k = _
    rw [ih]
    by_cases hk : k = c
    · subst hk
      simp
    · simp [hk, Finmap.lookup_erase_ne hk]

theorem erase_of_notMem {m : Finmap fun _ : κ => β} (h : k ∉ m) : m.erase k = m := by
  refine Finmap.ext_lookup fun k' => ?_
  by_cases hk : k' = k
  · subst hk
    rw [Finmap.lookup_erase, Finmap.lookup_eq_none.mpr h]
  · rw [Finmap.lookup_erase_ne hk]

theorem lookup_keepAll {ks : List κ} (source m : Finmap fun _ : κ => β) :
    (keepAll source m ks).lookup k =
      if k ∈ ks then (source.lookup k).or (m.lookup k) else m.lookup k := by
  induction ks generalizing m with
  | nil => simp [keepAll]
  | cons c ks ih =>
    show (keepAll source (match source.lookup c with
      | some b => m.insert c b
      | none => m) ks).lookup k = _
    rw [ih]
    by_cases hk : k = c
    · subst hk
      rcases hs : source.lookup k with - | b <;> simp
    · rcases hs : source.lookup c with - | b
      · simp [hk]
      · simp [hk, Finmap.lookup_insert_of_ne _ hk]

theorem mem_keepAll {ks : List κ} (source m : Finmap fun _ : κ => β) (h : k ∈ m) :
    k ∈ keepAll source m ks := by
  rw [← Finmap.lookup_isSome] at h ⊢
  rw [lookup_keepAll]
  split_ifs
  · simp [h]
  · exact h

theorem Keyed.keepAll {source m : Finmap fun _ : κ => β} (hs : Keyed key source)
    (hm : Keyed key m) (ks : List κ) : Keyed key (keepAll source m ks) := by
  intro k b hb
  rw [lookup_keepAll] at hb
  split_ifs at hb
  · rcases Option.or_eq_some_iff.mp hb with hb | ⟨-, hb⟩
    · exact hs k b hb
    · exact hm k b hb
  · exact hm k b hb

/-- A key of the copy is a key of one of the two maps. -/
theorem mem_of_mem_keepAll {ks : List κ} {source m : Finmap fun _ : κ => β}
    (h : k ∈ keepAll source m ks) : k ∈ source ∨ k ∈ m := by
  rw [← Finmap.lookup_isSome, lookup_keepAll] at h
  rw [← Finmap.lookup_isSome, ← Finmap.lookup_isSome]
  split_ifs at h
  · simpa using h
  · exact Or.inr h

end MuxrCore.Lib.Rows
