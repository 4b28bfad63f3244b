import Mathlib.Data.List.Induction
import Mathlib.Tactic.TypeStar

/-! # Runs of a transition system

A system is a step relation `step : σ → α → σ → Prop` between states, labelled with actions; a
choice the environment makes (which message arrives, what a read answers) is part of the action.
`Run step s as t` says that doing the actions `as` in order takes `s` to `t`.

* `Run.invariant`: what every step preserves holds at the end of every run.
* `Run.history`: the same for an invariant that also reads the actions done so far.
* `Along step C s as`: every step of `as` meets the condition `C`, which reads the actions done
  before it, the state it starts in, and the action itself.
* `Run.history_along`, `Run.invariant_along`: an invariant that is preserved by the steps that meet
  `C` holds at the end of every run whose steps all do.
* `Run.always_iff`: if the steps that meet `C` are those that preserve an invariant, it holds in
  every state of a run exactly if all steps of the run meet `C`. -/

namespace MuxrCore.Lib.Runs

variable {σ α : Type*} {step : σ → α → σ → Prop}

/-- A run from one state to another, doing the listed actions in order. -/
inductive Run (step : σ → α → σ → Prop) : σ → List α → σ → Prop
  | nil (s : σ) : Run step s [] s
  | cons {s t u : σ} {a : α} {as : List α} (h : step s a t) (hr : Run step t as u) :
      Run step s (a :: as) u

/-- The step relation of a partial function: an action the function refuses is not enabled. -/
def ofFn (f : σ → α → Option σ) (s : σ) (a : α) (t : σ) : Prop := f s a = some t

/-- A step of a function has one outcome. -/
theorem ofFn_unique {f : σ → α → Option σ} (s : σ) (a : α) (t t' : σ) (h : ofFn f s a t)
    (h' : ofFn f s a t') : t = t' := Option.some.inj (h.symm.trans h')

/-! ### Composing and splitting runs -/

theorem run_nil_iff {s t : σ} : Run step s [] t ↔ s = t := by
  constructor
  · rintro ⟨⟩; rfl
  · rintro rfl; exact Run.nil s

theorem run_cons_iff {s u : σ} {a : α} {as : List α} :
    Run step s (a :: as) u ↔ ∃ t, step s a t ∧ Run step t as u := by
  constructor
  · intro h
    cases h with
    | cons h hr => exact ⟨_, h, hr⟩
  · rintro ⟨t, h, hr⟩; exact Run.cons h hr

theorem run_append_iff {s u : σ} {as bs : List α} :
    Run step s (as ++ bs) u ↔ ∃ t, Run step s as t ∧ Run step t bs u := by
  induction as generalizing s with
  | nil => simp [run_nil_iff]
  | cons a as ih =>
    simp only [List.cons_append, run_cons_iff, ih]
    constructor
    · rintro ⟨r, hr, t, h1, h2⟩; exact ⟨t, ⟨r, hr, h1⟩, h2⟩
    · rintro ⟨t, ⟨r, hr, h1⟩, h2⟩; exact ⟨r, hr, t, h1, h2⟩

theorem run_singleton_iff {s t : σ} {a : α} : Run step s [a] t ↔ step s a t := by
  simp [run_cons_iff, run_nil_iff]

theorem Run.concat {s t u : σ} {as : List α} {a : α} (h : Run step s as t) (ha : step t a u) :
    Run step s (as ++ [a]) u :=
  run_append_iff.mpr ⟨t, h, run_singleton_iff.mpr ha⟩

/-- A system whose steps have one outcome each has one run for a list of actions at most. -/
theorem Run.unique_of (hstep : ∀ s a t t', step s a t → step s a t' → t = t') {s t t' : σ}
    {as : List α} (h : Run step s as t) (h' : Run step s as t') : t = t' := by
  induction h with
  | nil s => exact run_nil_iff.mp h'
  | cons ha hr ih =>
    obtain ⟨r, ha', hr'⟩ := run_cons_iff.mp h'
    obtain rfl := hstep _ _ _ _ ha ha'
    exact ih hr'

/-- A system given by a function has one run for a list of actions at most. -/
theorem Run.unique {f : σ → α → Option σ} {s t t' : σ} {as : List α} (h : Run (ofFn f) s as t)
    (h' : Run (ofFn f) s as t') : t = t' :=
  h.unique_of ofFn_unique h'

/-- A run of a system given by a function is computed. -/
theorem run_ofFn_iff {f : σ → α → Option σ} {s t : σ} {as : List α} :
    Run (ofFn f) s as t ↔ as.foldlM f s = some t := by
  induction as generalizing s with
  | nil => rw [run_nil_iff, List.foldlM_nil]; exact Option.some_inj.symm
  | cons a as ih =>
    rw [run_cons_iff, List.foldlM_cons]
    refine Iff.trans ?_ Option.bind_eq_some_iff.symm
    exact exists_congr fun r => and_congr_right fun _ => ih

/-- A run goes on from the only state that its first actions can lead to. -/
theorem Run.split_of (hstep : ∀ s a t t', step s a t → step s a t' → t = t') {s t u : σ}
    {as pre post : List α} (h : Run step s as t) (he : as = pre ++ post) (hu : Run step s pre u) :
    Run step u post t := by
  obtain ⟨u', hu', hpost⟩ := run_append_iff.mp (he ▸ h)
  rwa [hu.unique_of hstep hu']

theorem Run.split {f : σ → α → Option σ} {s t u : σ} {as pre post : List α}
    (h : Run (ofFn f) s as t) (he : as = pre ++ post) (hu : Run (ofFn f) s pre u) :
    Run (ofFn f) u post t :=
  h.split_of ofFn_unique he hu

/-! ### Invariants -/

/-- **What every step preserves holds at the end of every run.** -/
theorem Run.invariant {I : σ → Prop} (hstep : ∀ s a t, I s → step s a t → I t) {s t : σ}
    {as : List α} (h : Run step s as t) (hs : I s) : I t := by
  induction h with
  | nil s => exact hs
  | cons ha hr ih => exact ih (hstep _ _ _ hs ha)

/-- Every step of `as` from `s` meets `C`, which reads the actions done before it, the state it
starts in, and the action. -/
def Along (step : σ → α → σ → Prop) (C : List α → σ → α → Prop) (s : σ) (as : List α) : Prop :=
  ∀ pre a post u, as = pre ++ a :: post → Run step s pre u → C pre u a

/-- A condition may be weakened in the states that runs reach. -/
theorem Along.mono {C D : List α → σ → α → Prop} {s : σ} {as : List α} (h : Along step C s as)
    (hCD : ∀ pre u a, Run step s pre u → C pre u a → D pre u a) : Along step D s as :=
  fun pre a post u he hr => hCD pre u a hr (h pre a post u he hr)

theorem Along.and {C D : List α → σ → α → Prop} {s : σ} {as : List α} (hC : Along step C s as)
    (hD : Along step D s as) : Along step (fun pre u a => C pre u a ∧ D pre u a) s as :=
  fun pre a post u he hr => ⟨hC pre a post u he hr, hD pre a post u he hr⟩

theorem Along.left {C : List α → σ → α → Prop} {s : σ} {as bs : List α}
    (h : Along step C s (as ++ bs)) : Along step C s as := by
  rintro pre a post u rfl hr
  exact h pre a (post ++ bs) u (by simp) hr

theorem along_nil (C : List α → σ → α → Prop) (s : σ) : Along step C s [] := by
  intro pre a post u he _
  exact absurd he (by simp)

theorem along_cons_iff {C : List α → σ → α → Prop} {s : σ} {a : α} {as : List α} :
    Along step C s (a :: as) ↔
      C [] s a ∧ ∀ t, step s a t → Along step (fun pre => C (a :: pre)) t as := by
  constructor
  · intro h
    refine ⟨h [] a as s rfl (Run.nil s), fun t ht pre b post u he hr => ?_⟩
    exact h (a :: pre) b post u (by rw [he]; rfl) (Run.cons ht hr)
  · rintro ⟨ha, h⟩ pre b post u he hr
    rcases pre with - | ⟨c, pre⟩
    · cases he
      rw [← run_nil_iff.mp hr]
      exact ha
    · cases he
      obtain ⟨t, ht, hr⟩ := run_cons_iff.mp hr
      exact h t ht pre b post u rfl hr

/-- Whether every step of the run meets a condition that can be computed. -/
def check (f : σ → α → Option σ) (c : σ → α → Bool) : σ → List α → Bool
  | _, [] => true
  | s, a :: as => c s a && (f s a).all fun t => check f c t as

theorem along_of_check {f : σ → α → Option σ} {c : σ → α → Bool} {s : σ} {as : List α}
    (h : check f c s as = true) : Along (ofFn f) (fun _ s a => c s a = true) s as := by
  induction as generalizing s with
  | nil => exact along_nil _ s
  | cons a as ih =>
    obtain ⟨ha, hrest⟩ := Bool.and_eq_true_iff.mp h
    refine along_cons_iff.mpr ⟨ha, fun t ht => ih ?_⟩
    rw [show f s a = some t from ht] at hrest
    exact hrest

theorem along_append_iff {C : List α → σ → α → Prop} {s : σ} {as bs : List α} :
    Along step C s (as ++ bs) ↔
      Along step C s as ∧ ∀ t, Run step s as t → Along step (fun pre => C (as ++ pre)) t bs := by
  induction as generalizing s C with
  | nil =>
    constructor
    · intro h
      refine ⟨along_nil C s, fun t ht => ?_⟩
      rw [← run_nil_iff.mp ht]
      exact h
    · rintro ⟨-, h⟩
      exact h s (Run.nil s)
  | cons a as ih =>
    rw [List.cons_append, along_cons_iff, along_cons_iff]
    constructor
    · rintro ⟨ha, h⟩
      refine ⟨⟨ha, fun t ht => (ih.mp (h t ht)).1⟩, fun t ht => ?_⟩
      obtain ⟨u, hu, hr⟩ := run_cons_iff.mp ht
      exact (ih.mp (h u hu)).2 t hr
    · rintro ⟨⟨ha, h⟩, hb⟩
      exact ⟨ha, fun t ht => ih.mpr ⟨h t ht, fun u hu => hb u (Run.cons ht hu)⟩⟩

/-- **An invariant of the history**, kept by the steps that meet `C`, holds at the end of every run
whose steps all meet `C`. The step may use what is known of the states runs reach. -/
theorem Run.history_along {C : List α → σ → α → Prop} {I : List α → σ → Prop} {s₀ : σ}
    (hstep : ∀ pre s a t, Run step s₀ pre s → I pre s → C pre s a → step s a t → I (pre ++ [a]) t)
    {t : σ} {as : List α} (h : Run step s₀ as t) (hs : I [] s₀) (hC : Along step C s₀ as) :
    I as t := by
  induction as using List.reverseRecOn generalizing t with
  | nil => rw [← run_nil_iff.mp h]; exact hs
  | append_singleton as a ih =>
    obtain ⟨u, hu, ha⟩ := run_append_iff.mp h
    refine hstep as u a t hu (ih hu hC.left) ?_ (run_singleton_iff.mp ha)
    exact hC as a [] u rfl hu

/-- **What the steps that meet `C` preserve** holds at the end of every run whose steps all do. -/
theorem Run.invariant_along {C : List α → σ → α → Prop} {I : σ → Prop} {s₀ : σ}
    (hstep : ∀ pre s a t, I s → C pre s a → step s a t → I t) {t : σ} {as : List α}
    (h : Run step s₀ as t) (hs : I s₀) (hC : Along step C s₀ as) : I t :=
  h.history_along (I := fun _ => I) (fun pre s a t _ => hstep pre s a t) hs hC

/-- **The runs in which an invariant always holds** are those whose steps meet `C`, if these are the
steps that keep it. What is known of the states the run reaches may be used of a step. -/
theorem Run.always_iff {C : List α → σ → α → Prop} {I : σ → Prop}
    (hdet : ∀ s a t t', step s a t → step s a t' → t = t') {s₀ s : σ} {as : List α}
    (h : Run step s₀ as s)
    (hstep : ∀ pre a post u v, as = pre ++ a :: post → Run step s₀ pre u → I u → step u a v →
      (I v ↔ C pre u a)) (hs : I s₀) :
    (∀ pre post u, as = pre ++ post → Run step s₀ pre u → I u) ↔ Along step C s₀ as := by
  constructor
  · intro hI pre a post u he hu
    obtain ⟨v, huv, -⟩ := run_cons_iff.mp (h.split_of hdet he hu)
    have hnext := hI (pre ++ [a]) post v (by simp [he]) (hu.concat huv)
    exact (hstep pre a post u v he hu (hI pre _ u he hu) huv).mp hnext
  · intro hC pre post u he hu
    -- by induction on the actions up to the state
    induction pre using List.reverseRecOn generalizing u post with
    | nil => exact run_nil_iff.mp hu ▸ hs
    | append_singleton pre a ih =>
      obtain ⟨v, hv, ha⟩ := run_append_iff.mp hu
      have he' : as = pre ++ a :: post := by simp [he]
      have ha := run_singleton_iff.mp ha
      exact (hstep pre a post v u he' hv (ih _ v he' hv) ha).mpr (hC pre a post v he' hv)

/-- An invariant of the history that every step keeps holds at the end of every run. -/
theorem Run.history {I : List α → σ → Prop} {s₀ : σ}
    (hstep : ∀ pre s a t, Run step s₀ pre s → I pre s → step s a t → I (pre ++ [a]) t) {t : σ}
    {as : List α} (h : Run step s₀ as t) (hs : I [] s₀) : I as t :=
  h.history_along (fun pre s a t hr hI (_ : True) ha => hstep pre s a t hr hI ha) hs
    fun _ _ _ _ _ _ => trivial

end MuxrCore.Lib.Runs
