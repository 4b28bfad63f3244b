import MuxrCore.Herdr.Registry
import MuxrCore.Lib.Runs

/-! # Pushed events and the registry

Layout polls, reads of the agent inventory and pushed events share the pane registry. A poll knows
the terminal ids; a pushed event often has none, so its translation looks the pane up first and
assigns only if it is new. The look-up and the assignment take the lock each on its own, and a poll
may come in between: then the assignment finds the pane known, and replaces the terminal id the
poll has recorded by the empty one (`translate_clobbers`). `terminal_kept_iff` says when terminal
ids are kept. -/

namespace MuxrCore.Herdr.Translate

open MuxrCore.Lib.Runs MuxrCore.Herdr.Registry

/-- Translate a herdr pane id without clobbering the terminal id of a known pane. -/
def translatePane (panes : HerdrPaneRegistry) (herdrPaneId : String)
    (terminalId : Option String) : HerdrPaneRegistry × ℕ :=
  match panes.idForHerdrPane herdrPaneId with
  | some id => (panes, id)
  | none => panes.assignOrGet herdrPaneId (terminalId.getD "")

/-- A translation registers its pane, and leaves the other panes alone. -/
theorem byHerdr_translatePane (panes : HerdrPaneRegistry) (pane : String)
    (terminal : Option String) (q : String) :
    (translatePane panes pane terminal).1.byHerdr q =
      if q = pane then some (translatePane panes pane terminal).2 else panes.byHerdr q := by
  unfold translatePane HerdrPaneRegistry.idForHerdrPane
  rcases hp : panes.byHerdr pane with _ | id
  · exact byHerdr_assign panes pane _ true q
  · by_cases h : q = pane
    · simp [h, hp]
    · simp [h]

/-- A known pane is looked up only. -/
theorem translatePane_of_some {panes : HerdrPaneRegistry} {pane : String} {id : ℕ}
    (h : panes.byHerdr pane = some id) (terminal : Option String) :
    translatePane panes pane terminal = (panes, id) := by
  rw [translatePane, HerdrPaneRegistry.idForHerdrPane, h]

theorem extends_translatePane (panes : HerdrPaneRegistry) (pane : String)
    (terminal : Option String) : Extends panes (translatePane panes pane terminal).1 := by
  unfold translatePane HerdrPaneRegistry.idForHerdrPane
  rcases hp : panes.byHerdr pane with _ | id
  · exact extends_assign panes pane _ true
  · exact Extends.refl panes

/-- The registry, and the translations that looked their pane up, did not find it, and have still
to assign it: the pane, and the terminal id the event carried. -/
structure State where
  panes : HerdrPaneRegistry
  pending : List (String × Option String)

def State.init : State := ⟨.empty, []⟩

/-- An atomic step: a layout poll with a pane's terminal id, a read of the agent inventory, the
look-up of a pushed event's pane, and the assignment of the `i`-th translation under way. -/
inductive Act
  | layoutPoll (pane terminal : String)
  | inventoryRead (pane terminal : String)
  | pushLookup (pane : String) (terminal : Option String)
  | pushAssign (i : ℕ)
  deriving DecidableEq

/-- One step. -/
def State.step (s : State) : Act → Option State
  | .layoutPoll pane terminal =>
    if terminal ≠ "" then some { s with panes := (s.panes.assignOrGet pane terminal).1 } else none
  | .inventoryRead pane terminal =>
    some { s with panes := (s.panes.assignOrGetKeepTerminal pane terminal).1 }
  | .pushLookup pane terminal =>
    match s.panes.idForHerdrPane pane with
    | some _ => some s
    | none => some { s with pending := s.pending ++ [(pane, terminal)] }
  | .pushAssign i =>
    match s.pending[i]? with
    | some (pane, terminal) =>
      some ⟨(s.panes.assignOrGet pane (terminal.getD "")).1, s.pending.eraseIdx i⟩
    | none => none

/-- The pane which a step assigns without a terminal id, and whether an empty terminal id replaces
that of a known pane. -/
def Act.bare (s : State) : Act → Option (String × Bool)
  | .layoutPoll _ _ => none
  | .inventoryRead pane terminal => if terminal = "" then some (pane, false) else none
  | .pushLookup _ _ => none
  | .pushAssign i =>
    match s.pending[i]? with
    | some (pane, terminal) => if terminal.getD "" = "" then some (pane, true) else none
    | none => none

/-- A step without a terminal id replaces no recorded one by the empty one. -/
def Keeps (s : State) (a : Act) : Prop :=
  a.bare s ≠ none → ∀ t, s.step a = some t → ∀ q terminal, s.panes.recorded q = some terminal →
    terminal ≠ "" → t.panes.recorded q ≠ some ""

/-- A step without a terminal id writes no entry that has one: the pane it assigns, if the step
replaces what is known of it, is unknown or has no terminal id, and if it is unknown the next number
is free or has no terminal id. -/
def Spares (s : State) (a : Act) : Prop :=
  ∀ pane refresh, a.bare s = some (pane, refresh) → Writes s.panes pane refresh →
    ∀ entry, s.panes.byId (s.panes.target pane) = some entry → entry.terminalId = ""

/-- A translation that nothing interrupts is a look-up, and an assignment if the pane is new. -/
theorem run_translatePane (s : State) (pane : String) (terminal : Option String) :
    ∃ as t, Run (ofFn State.step) s as t ∧ t.pending = s.pending ∧
      t.panes = (translatePane s.panes pane terminal).1 := by
  rcases hid : s.panes.idForHerdrPane pane with - | id
  · have hlook : s.step (.pushLookup pane terminal) =
        some { s with pending := s.pending ++ [(pane, terminal)] } := by
      rw [State.step, hid]
    refine ⟨[.pushLookup pane terminal, .pushAssign s.pending.length],
      ⟨(s.panes.assignOrGet pane (terminal.getD "")).1, s.pending⟩,
      .cons hlook (.cons ?_ (.nil _)), rfl, by rw [translatePane, hid]⟩
    simp [ofFn, State.step, List.eraseIdx_append_of_length_le]
  · have hlook : s.step (.pushLookup pane terminal) = some s := by rw [State.step, hid]
    exact ⟨[.pushLookup pane terminal], s, .cons hlook (.nil _), rfl, by rw [translatePane, hid]⟩

/-! ### One step -/

/-- A step leaves the registry alone, or assigns a pane. -/
theorem step_panes {s t : State} {a : Act} (h : s.step a = some t) :
    t.panes = s.panes ∨
      ∃ pane terminal refresh, t.panes = (s.panes.assignOrGetInner pane terminal refresh).1 := by
  rcases a with ⟨pane, terminal⟩ | ⟨pane, terminal⟩ | ⟨pane, terminal⟩ | i
  · simp only [State.step, Option.ite_none_right_eq_some, Option.some.injEq] at h
    obtain ⟨-, rfl⟩ := h
    exact Or.inr ⟨pane, terminal, true, rfl⟩
  · obtain rfl := Option.some.inj h
    exact Or.inr ⟨pane, terminal, _, rfl⟩
  · left
    rcases hid : s.panes.idForHerdrPane pane with - | id <;> rw [State.step, hid] at h <;>
      obtain rfl := Option.some.inj h <;> rfl
  · rcases hi : s.pending[i]? with - | ⟨pane, terminal⟩ <;> rw [State.step, hi] at h
    · exact absurd h (by simp)
    · obtain rfl := Option.some.inj h
      exact Or.inr ⟨pane, terminal.getD "", true, rfl⟩

/-- A step without a terminal id assigns its pane with the empty one. -/
theorem step_bare {s t : State} {a : Act} {pane : String} {refresh : Bool}
    (hb : a.bare s = some (pane, refresh)) (h : s.step a = some t) :
    t.panes = (s.panes.assignOrGetInner pane "" refresh).1 := by
  rcases a with ⟨q, terminal⟩ | ⟨q, terminal⟩ | ⟨q, terminal⟩ | i
  · exact absurd hb (by simp [Act.bare])
  · simp only [Act.bare, Option.ite_none_right_eq_some, Option.some.injEq, Prod.mk.injEq] at hb
    obtain ⟨rfl, rfl, rfl⟩ := hb
    obtain rfl := Option.some.inj h
    rfl
  · exact absurd hb (by simp [Act.bare])
  · rcases hi : s.pending[i]? with - | ⟨q, terminal⟩ <;> simp only [Act.bare, hi] at hb
    · exact absurd hb (by simp)
    · simp only [Option.ite_none_right_eq_some, Option.some.injEq, Prod.mk.injEq] at hb
      obtain ⟨hterm, rfl, rfl⟩ := hb
      rw [State.step, hi] at h
      obtain rfl := Option.some.inj h
      show (s.panes.assignOrGet q (terminal.getD "")).1 = _
      rw [hterm]
      rfl

theorem step_enabled {s : State} {a : Act} (h : a.bare s ≠ none) : ∃ t, s.step a = some t := by
  rcases a with ⟨q, terminal⟩ | ⟨q, terminal⟩ | ⟨q, terminal⟩ | i
  · exact absurd rfl h
  · exact ⟨_, rfl⟩
  · exact absurd rfl h
  · rcases hi : s.pending[i]? with - | ⟨q, terminal⟩
    · exact absurd (by simp [Act.bare, hi]) h
    · exact ⟨_, by rw [State.step, hi]⟩

theorem wellFormed_run {as : List Act} {s : State} (h : Run (ofFn State.step) State.init as s) :
    WellFormed s.panes := by
  have hstep : ∀ (s : State) (a : Act) (t : State), WellFormed s.panes → ofFn State.step s a t →
      WellFormed t.panes := by
    intro s a t hs ht
    rcases step_panes ht with he | ⟨pane, terminal, refresh, he⟩
    · rw [he]
      exact hs
    · rw [he]
      exact wellFormed_assign hs pane terminal refresh
  exact h.invariant hstep wellFormed_empty

/-- A step keeps the recorded terminal ids exactly when it writes no entry that has one. -/
theorem keeps_iff {s : State} (hw : WellFormed s.panes) {a : Act} : Keeps s a ↔ Spares s a := by
  constructor
  · intro h pane refresh hb hwrites entry he
    obtain ⟨t, ht⟩ := step_enabled (s := s) (a := a) (by simp [hb])
    by_contra hterm
    obtain ⟨hbefore, hafter⟩ := @recorded_replaced s.panes pane "" refresh hw hwrites entry he
    refine h (by simp [hb]) t ht _ _ hbefore hterm ?_
    rw [step_bare hb ht, hafter]
  · intro h hb t ht q terminal hq hterm
    obtain ⟨⟨pane, refresh⟩, hb⟩ := Option.ne_none_iff_exists'.mp hb
    rw [step_bare hb ht, recorded_kept hw (h pane refresh hb) hq hterm]
    simpa using hterm

/-! ### Whole runs -/

/-- **No recorded terminal id is replaced by the empty one in exactly the interleavings whose steps
without a terminal id write no entry that has one.** -/
theorem terminal_kept_iff (as : List Act) :
    Along (ofFn State.step) (fun _ s a => Keeps s a) State.init as ↔
      Along (ofFn State.step) (fun _ s a => Spares s a) State.init as := by
  constructor
  · intro h
    exact h.mono fun pre s a hr => (keeps_iff (wellFormed_run hr)).mp
  · intro h
    exact h.mono fun pre s a hr => (keeps_iff (wellFormed_run hr)).mpr

/-- A pushed event looks up a new pane, a layout poll records its terminal id, and the event's
assignment replaces it by the empty one. -/
theorem translate_clobbers :
    ¬ Along (ofFn State.step) (fun _ s a => Keeps s a) State.init
      [.pushLookup "w1:p1" none, .layoutPoll "w1:p1" "term-real", .pushAssign 0] := by
  intro h
  have hkeep := h [.pushLookup "w1:p1" none, .layoutPoll "w1:p1" "term-real"] _ [] _ rfl
    (.cons rfl (.cons rfl (.nil _)))
  exact hkeep (by decide) _ rfl "w1:p1" "term-real" (by decide) (by decide) (by decide)

end MuxrCore.Herdr.Translate
