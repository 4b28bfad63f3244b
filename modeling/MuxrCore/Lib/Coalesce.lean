import Mathlib.Data.List.Basic
import Mathlib.Data.List.Chain
import Mathlib.Tactic.TypeStar

/-! # Collapsing runs

In a list some elements supersede one another: of neighbours that satisfy `p` only the last counts.
`coalesce p` collapses each run of them to its last element.

* `Omits p s t`: `t` is `s` without some elements that satisfy `p`, each of which is directly
  followed in `s` by another.
* `omits_coalesce`, `apart_coalesce`: what `coalesce` omits is of this kind, and it leaves no two
  neighbours that satisfy `p`.
* `exists_take_of_flatten`: where lists without such neighbours are put together, two neighbours
  that satisfy `p` are of different lists. -/

namespace MuxrCore.Lib.Coalesce

variable {α : Type*} {p : α → Bool}

/-- Only elements that satisfy `p`, and that another one directly follows, are omitted. -/
inductive Omits (p : α → Bool) : List α → List α → Prop
  | nil : Omits p [] []
  | keep (x : α) {s t : List α} (h : Omits p s t) : Omits p (x :: s) (x :: t)
  | drop {x y : α} {s t : List α} (hx : p x = true) (hy : p y = true) (h : Omits p (y :: s) t) :
      Omits p (x :: y :: s) t

/-- No two neighbours satisfy `p`. -/
def Apart (p : α → Bool) (s : List α) : Prop := s.IsChain fun x y => ¬(p x = true ∧ p y = true)

/-- Add an element at the end, in place of the last if both satisfy `p`. -/
def supersede (p : α → Bool) (s : List α) (x : α) : List α :=
  if p x && s.getLast?.any p then s.dropLast ++ [x] else s ++ [x]

/-- Collapse each run of elements that satisfy `p` to its last element. -/
def coalesce (p : α → Bool) (s : List α) : List α := s.foldl (supersede p) []

/-! ### What is omitted -/

theorem omits_refl (p : α → Bool) : ∀ s : List α, Omits p s s
  | [] => .nil
  | x :: s => .keep x (omits_refl p s)

theorem Omits.append {s s' t t' : List α} (h : Omits p s t) (h' : Omits p s' t') :
    Omits p (s ++ s') (t ++ t') := by
  induction h with
  | nil => exact h'
  | keep x h ih => exact .keep x ih
  | drop hx hy h ih => exact .drop hx hy ih

theorem Omits.eq_nil : ∀ {s : List α}, Omits p s [] → s = []
  | _, .nil => rfl
  | _, .drop _ _ h => by cases h.eq_nil

/-- The last element that is kept may be superseded. -/
theorem Omits.supersede_last {s t : List α} {x y : α} (h : Omits p s (t ++ [y])) (hy : p y = true)
    (hx : p x = true) : Omits p (s ++ [x]) (t ++ [x]) := by
  generalize hu : t ++ [y] = u at h
  induction h generalizing t with
  | nil => simp at hu
  | keep z h ih =>
    cases t with
    | nil =>
      obtain ⟨rfl, rfl⟩ := List.cons.inj hu
      rw [h.eq_nil]
      exact .drop hy hx (.keep x .nil)
    | cons z' t =>
      obtain ⟨rfl, hu'⟩ := List.cons.inj hu
      exact .keep _ (ih hu')
  | drop hz hz' h ih => exact .drop hz hz' (ih hu)

theorem Omits.supersede {s t : List α} (h : Omits p s t) (x : α) :
    Omits p (s ++ [x]) (Coalesce.supersede p t x) := by
  unfold Coalesce.supersede
  split_ifs with hp
  · obtain ⟨hx, hlast⟩ := Bool.and_eq_true_iff.mp hp
    obtain ⟨y, hy, hpy⟩ := (Option.any_eq_true p _).mp hlast
    obtain ⟨t, rfl⟩ := List.getLast?_eq_some_iff.mp hy
    rw [List.dropLast_concat]
    exact h.supersede_last hpy hx
  · exact h.append (.keep x .nil)

theorem omits_foldl {s t : List α} (h : Omits p s t) (l : List α) :
    Omits p (s ++ l) (l.foldl (supersede p) t) := by
  induction l generalizing s t with
  | nil => rwa [List.append_nil]
  | cons x l ih =>
    rw [List.append_cons, List.foldl_cons]
    exact ih (h.supersede x)

/-- **Only superseded elements are omitted.** -/
theorem omits_coalesce (p : α → Bool) (s : List α) : Omits p s (coalesce p s) :=
  omits_foldl .nil s

theorem omits_flatten (p : α → Bool) :
    ∀ ls : List (List α), Omits p ls.flatten (ls.map (coalesce p)).flatten
  | [] => .nil
  | l :: ls => (omits_coalesce p l).append (omits_flatten p ls)

/-! ### No two neighbours are left -/

theorem Apart.supersede {s : List α} (h : Apart p s) (x : α) :
    Apart p (Coalesce.supersede p s x) := by
  unfold Coalesce.supersede
  split_ifs with hp
  · obtain ⟨hx, hlast⟩ := Bool.and_eq_true_iff.mp hp
    obtain ⟨y, hy, hpy⟩ := (Option.any_eq_true p _).mp hlast
    obtain ⟨t, rfl⟩ := List.getLast?_eq_some_iff.mp hy
    -- what is before the replaced element does not satisfy `p`, as that element does
    obtain ⟨ht, -, hty⟩ := List.isChain_append.mp h
    rw [List.dropLast_concat]
    refine List.isChain_append.mpr ⟨ht, List.isChain_singleton x, fun z hz w hw hzw => ?_⟩
    exact hty z hz y rfl ⟨hzw.1, hpy⟩
  · refine List.isChain_append.mpr ⟨h, List.isChain_singleton x, fun y hy z hz hyz => ?_⟩
    obtain rfl : x = z := Option.some.inj hz
    exact hp (Bool.and_eq_true_iff.mpr ⟨hyz.2, (Option.any_eq_true p _).mpr ⟨y, hy, hyz.1⟩⟩)

theorem apart_foldl {s : List α} (h : Apart p s) (l : List α) :
    Apart p (l.foldl (supersede p) s) := by
  induction l generalizing s with
  | nil => exact h
  | cons x l ih => exact ih (h.supersede x)

/-- **No two neighbours that satisfy `p` are left.** -/
theorem apart_coalesce (p : α → Bool) (s : List α) : Apart p (coalesce p s) :=
  apart_foldl List.isChain_nil s

/-- **Two neighbours that satisfy `p` are of different lists.** -/
theorem exists_take_of_flatten {ls : List (List α)} (h : ∀ s ∈ ls, Apart p s) {pre post : List α}
    {x y : α} (he : ls.flatten = pre ++ x :: y :: post) (hx : p x = true) (hy : p y = true) :
    ∃ k, pre ++ [x] = (ls.take k).flatten := by
  induction ls generalizing pre with
  | nil => simp at he
  | cons l ls ih =>
    have hrest := @ih fun s hs => h s (List.mem_cons_of_mem l hs)
    rw [List.flatten_cons] at he
    rcases List.append_eq_append_iff.mp he with ⟨c, rfl, hc⟩ | ⟨c, rfl, hc⟩
    · -- both are in the lists that follow
      obtain ⟨k, hk⟩ := hrest hc
      exact ⟨k + 1, by rw [List.take_succ_cons, List.flatten_cons, ← hk, List.append_assoc]⟩
    · rcases c with _ | ⟨a, _ | ⟨b, c⟩⟩
      · obtain ⟨k, hk⟩ := hrest (show ls.flatten = [] ++ x :: y :: post from hc.symm)
        exact ⟨k + 1, by rw [List.take_succ_cons, List.flatten_cons, ← hk, List.append_nil]; rfl⟩
      · obtain ⟨rfl, -⟩ := List.cons.inj hc
        exact ⟨1, by rw [List.take_succ_cons, List.flatten_cons, List.take_zero, List.flatten_nil,
          List.append_nil]⟩
      · -- both are in this one
        obtain ⟨rfl, hc'⟩ := List.cons.inj hc
        obtain ⟨rfl, -⟩ := List.cons.inj hc'
        obtain ⟨-, hchain, -⟩ := List.isChain_append.mp (h _ List.mem_cons_self)
        exact absurd ⟨hx, hy⟩ (List.isChain_cons_cons.mp hchain).1

end MuxrCore.Lib.Coalesce
