import MuxrCore.Lib.Program

/-! # Draining a stream

A reply is waited for by receiving one message after another, until one decides: at most a number of
them, while there is time, and as long as the stream goes on. What is collected on the way is a
state, and `judge` says of a message how the state goes on, or what the outcome is.

* `meets_drain`: what it does on the way.
* `gives_drain_ok`: what a drain has received when it has a result. -/

namespace MuxrCore.Lib.Drain

open MuxrCore.Lib.Program

variable {Op : Type} {Answer : Op → Type} {μ ε σ ρ : Type}

/-- How a drain fails: the time is over after so many messages, the stream ends, or there have been
too many messages. -/
structure Failures (ε : Type) where
  late : ℕ → ε
  ended : ε
  limit : ε

/-- Receive at most `fuel` messages, after `i`. -/
def drain (late : Handler Answer ε Bool) (recv : Handler Answer ε (Option μ)) (f : Failures ε)
    (judge : σ → μ → σ ⊕ Except ε ρ) : ℕ → ℕ → σ → Handler Answer ε ρ
  | 0, _, _ => throw f.limit
  | fuel + 1, i, s => do
    if ← late then throw (f.late i)
    else
      match ← recv with
      | none => throw f.ended
      | some m => match judge s m with
        | .inl s => drain late recv f judge fuel (i + 1) s
        | .inr outcome => Handler.check outcome

/-- The state after messages that decide nothing. -/
def collected (judge : σ → μ → σ ⊕ Except ε ρ) : σ → List μ → Option σ
  | s, [] => some s
  | s, m :: msgs => match judge s m with
    | .inl s => collected judge s msgs
    | .inr _ => none

section
variable {late : Handler Answer ε Bool} {recv : Handler Answer ε (Option μ)} {f : Failures ε}
  {judge : σ → μ → σ ⊕ Except ε ρ} {fuel i : ℕ} {s : σ} {es : List (Event Answer)}
  {lateEvent : Bool → Event Answer} {recvEvent : Option μ → Event Answer}

/-- The events of a message that is received in time. -/
def inTime (lateEvent : Bool → Event Answer) (recvEvent : Option μ → Event Answer) (m : μ) :
    List (Event Answer) :=
  [lateEvent false, recvEvent (some m)]

/-- A drain does nothing but wait. -/
theorem meets_drain {P : List (Event Answer) → Op → Prop}
    (hlate : ∀ h, Handler.Meets P (fun _ _ => True) h late)
    (hrecv : ∀ h, Handler.Meets P (fun _ _ => True) h recv) {h : List (Event Answer)} :
    Handler.Meets P (fun _ _ => True) h (drain late recv f judge fuel i s) := by
  induction fuel generalizing i s h with
  | zero => exact Handler.meets_throw.mpr trivial
  | succ fuel ih =>
    rw [drain, Handler.meets_bind]
    refine (hlate h).mono (fun _ _ hp => hp) fun h r _ => ?_
    rcases r with e | b
    · exact trivial
    rcases b with - | -
    · simp only [if_neg Bool.false_ne_true, Handler.meets_bind]
      refine (hrecv h).mono (fun _ _ hp => hp) fun h r _ => ?_
      rcases r with e | m
      · exact trivial
      rcases m with - | m
      · exact Handler.meets_throw.mpr trivial
      rcases hj : judge s m with s' | outcome
      · simp only [hj]
        exact ih
      · simp only [hj]
        exact Handler.meets_check.mpr trivial
    · simp only [↓reduceIte, Handler.meets_throw]

variable (hlate : ∀ es r, Handler.Gives late es r ↔ ∃ b, es = [lateEvent b] ∧ r = .ok b)
  (hrecv : ∀ es r, Handler.Gives recv es r ↔ ∃ m, es = [recvEvent m] ∧ r = .ok m)

include hlate hrecv in
/-- The next message is in time, and decides, or lets the drain go on. -/
theorem gives_drain_succ {a : ρ} :
    Handler.Gives (drain late recv f judge (fuel + 1) i s) es (.ok a) ↔
      ∃ m es', es = lateEvent false :: recvEvent (some m) :: es' ∧
        ((∃ s', judge s m = .inl s' ∧
            Handler.Gives (drain late recv f judge fuel (i + 1) s') es' (.ok a)) ∨
          (es' = [] ∧ judge s m = .inr (.ok a))) := by
  rw [drain, Handler.gives_bind]
  constructor
  · rintro (⟨e, ⟨⟩, -⟩ | ⟨b, es₁, es₂, rfl, hl, hrest⟩)
    obtain ⟨b', rfl, hb⟩ := (hlate _ _).mp hl
    cases hb
    rcases b with - | -
    · rw [if_neg Bool.false_ne_true, Handler.gives_bind] at hrest
      obtain ⟨e, ⟨⟩, -⟩ | ⟨m, es₃, es₄, rfl, hr, hnext⟩ := hrest
      obtain ⟨m', rfl, hm⟩ := (hrecv _ _).mp hr
      cases hm
      rcases m with - | m
      · obtain ⟨-, hbad⟩ := Handler.gives_throw.mp hnext
        cases hbad
      · rcases hj : judge s m with s' | outcome
        · simp only [hj] at hnext
          exact ⟨m, es₄, rfl, Or.inl ⟨s', hj, hnext⟩⟩
        · simp only [hj] at hnext
          obtain ⟨rfl, rfl⟩ := Handler.gives_check.mp hnext
          exact ⟨m, [], rfl, Or.inr ⟨rfl, hj⟩⟩
    · rw [if_pos rfl] at hrest
      obtain ⟨-, hbad⟩ := Handler.gives_throw.mp hrest
      cases hbad
  · rintro ⟨m, es', rfl, hnext⟩
    refine Or.inr ⟨false, [lateEvent false], recvEvent (some m) :: es', rfl,
      (hlate _ _).mpr ⟨false, rfl, rfl⟩, ?_⟩
    rw [if_neg Bool.false_ne_true, Handler.gives_bind]
    refine Or.inr ⟨some m, [recvEvent (some m)], es', rfl, (hrecv _ _).mpr ⟨_, rfl, rfl⟩, ?_⟩
    rcases hnext with ⟨s', hj, hd⟩ | ⟨rfl, hj⟩
    · simpa only [hj] using hd
    · simp only [hj]
      exact .done _

include hlate hrecv in
/-- **A drain has a result if one of its first messages decides so**: those before it decided
nothing, and all of them came in time. -/
theorem gives_drain_ok {a : ρ} :
    Handler.Gives (drain late recv f judge fuel i s) es (.ok a) ↔
      ∃ msgs m s', msgs.length < fuel ∧ collected judge s msgs = some s' ∧
        judge s' m = .inr (.ok a) ∧
        es = (msgs ++ [m]).flatMap (inTime lateEvent recvEvent) := by
  induction fuel generalizing i s es with
  | zero =>
    rw [drain, Handler.gives_throw]
    simp
  | succ fuel ih =>
    rw [gives_drain_succ hlate hrecv]
    constructor
    · rintro ⟨m, es', rfl, ⟨s', hj, hd⟩ | ⟨rfl, hj⟩⟩
      · obtain ⟨msgs, last, s'', hlt, hc, hlast, rfl⟩ := ih.mp hd
        refine ⟨m :: msgs, last, s'', ?_, ?_, hlast, rfl⟩
        · rw [List.length_cons]
          omega
        · simpa only [collected, hj] using hc
      · exact ⟨[], m, s, Nat.succ_pos fuel, rfl, hj, rfl⟩
    · rintro ⟨msgs, last, s'', hlt, hc, hlast, rfl⟩
      rcases msgs with - | ⟨m, msgs⟩
      · obtain rfl := Option.some.inj hc
        exact ⟨last, [], rfl, Or.inr ⟨rfl, hlast⟩⟩
      · rcases hj : judge s m with s' | outcome
        · simp only [collected, hj] at hc
          rw [List.length_cons] at hlt
          refine ⟨m, _, rfl, Or.inl ⟨s', hj, ih.mpr ⟨msgs, last, s'', ?_, hc, hlast, rfl⟩⟩⟩
          omega
        · simp only [collected, hj] at hc
          cases hc

end

end MuxrCore.Lib.Drain
