import MuxrCore.Lib.Runs
import MuxrCore.Multiplexer.Layout

/-! # The render loop of a relay

A relay's render thread is the only one to read what the backend sends: it forwards the frames, and
it owns the layout query in flight. A query is handed over on a channel; the thread picks it up when
it looks, before and after each blocking read, and a newer query takes the older one's place. The
answers to a query are two untagged Logs, tabs and panes; the first Log read while a query is held
fills its tabs, the second fulfils it.

The loop does not see which query a Log answers. Here every Log carries it along, so that `Own` can
say that a query was fulfilled from its own two Logs.

* `Fresh`: the Log that is matched answers the query that is held.
* `attributed_iff`: no query is given another one's Logs in exactly the runs of such steps. -/

namespace MuxrCore.Relay.Reader

open MuxrCore.Lib.Runs MuxrCore.Multiplexer.Layout

/-! ### The loop's functions -/

/-- A layout query in flight, and its first Log. The number stands for the reply channel. -/
structure InFlightQuery (L : Type) where
  seq : ℕ
  tabs : Option L
  deriving DecidableEq

inductive MuxEvent
  | exit (reason : String)
  | renamedSession (name : String)
  | configUpdated
  | switchSession (name : String)
  deriving DecidableEq, Repr

/-- A message of the backend; `L` is what a Log is. -/
inductive MuxServerMsg (L : Type)
  | render (bytes : List UInt8)
  | log (json : L)
  | event (event : MuxEvent)
  | other
  deriving DecidableEq

/-- A frame for the client. -/
inductive ServerFrame
  | render (bytes : List UInt8)
  | control (kind payload : String)
  deriving DecidableEq, Repr

def MuxEvent.frame : MuxEvent → ServerFrame
  | .exit reason => .control "exit" reason
  | .renamedSession name => .control "renamed_session" name
  | .configUpdated => .control "config_updated" ""
  | .switchSession name => .control "switch_session" name

/-- A query that was answered, the two Logs it was answered from, and the answer. -/
structure Fulfilled (L : Type) where
  seq : ℕ
  tabs : L
  panes : L
  result : Except String LayoutSnapshot
  deriving DecidableEq

section
variable {L : Type} (closed : ℕ → Bool)

/-- Retire a query whose receiver is gone, then let the last query handed over take the place. -/
def drainQueries (queued : List (InFlightQuery L)) (inFlight : Option (InFlightQuery L)) :
    Option (InFlightQuery L) :=
  queued.foldl (fun _ q => some q) (inFlight.filter fun q => !closed q.seq)

variable (json : L → String) (parse : String → String → Except String LayoutSnapshot)

/-- The answer made of two Logs. -/
def layoutResult (seq : ℕ) (tabs panes : String) : Except String LayoutSnapshot :=
  if tabs = "" then
    .error ("empty tabs JSON from relay query (seq=" ++ toString seq ++ ")")
  else if panes = "" then
    .error ("empty panes JSON from relay query (seq=" ++ toString seq ++ ")")
  else parse tabs panes

/-- A Log is read: the query in flight afterwards, and the one that was fulfilled. -/
def captureQueryLog (inFlight : Option (InFlightQuery L)) (log : L) :
    Option (InFlightQuery L) × Option (Fulfilled L) :=
  match inFlight with
  | none => (none, none)
  | some q =>
    if closed q.seq then (none, none)
    else match q.tabs with
      | none => (some { q with tabs := some log }, none)
      | some tabs => (none, some ⟨q.seq, tabs, log, layoutResult parse q.seq (json tabs) (json log)⟩)

end

/-! ### The loop and its session -/

/-- Which of a query's two Logs. -/
inductive Half
  | tabs
  | panes
  deriving DecidableEq, Repr

/-- A Log, with the query it answers. -/
structure Answer where
  seq : ℕ
  half : Half
  json : String
  deriving DecidableEq, Repr

/-- Where the loop is. -/
inductive Phase
  | top
  /-- blocked on the backend -/
  | parked
  | woken (msg : MuxServerMsg Answer)
  | matching (msg : MuxServerMsg Answer)
  | exited
  deriving DecidableEq

structure State where
  reader : Phase
  inFlight : Option (InFlightQuery Answer)
  /-- the queries that were handed over and not picked up yet -/
  queued : List (InFlightQuery Answer)
  /-- the queries whose receiver is gone -/
  closed : List ℕ
  nextSeq : ℕ
  /-- the Logs that may still arrive -/
  wire : List Answer
  fulfilled : List (Fulfilled Answer)
  frames : List ServerFrame
  deriving DecidableEq

def init : State := ⟨.top, none, [], [], 0, [], [], []⟩

/-- What can happen: a query is handed over and its two actions are sent, its receiver is dropped, or
the oldest Log gets lost; and the steps of the loop. -/
inductive Act
  | hand (tabs panes : String)
  | expire (seq : ℕ)
  | lose
  | park (stop : Bool)
  | recvLog
  | recv (msg : Option (MuxServerMsg Answer))
  | wake (stop : Bool)
  /-- the message is handled; `delivered` says whether the client takes a frame -/
  | handle (delivered : Bool)
  deriving DecidableEq

namespace State

variable (parse : String → String → Except String LayoutSnapshot) (s : State)

def isClosed (seq : ℕ) : Bool := s.closed.contains seq

/-- The loop ends, and drops its query and its channel. -/
def exit : State := { s with reader := .exited, inFlight := none, queued := [] }

def drain (reader : Phase) : State :=
  { s with reader, inFlight := drainQueries s.isClosed s.queued s.inFlight, queued := [] }

/-- Forward a frame, unless the client is gone. -/
def forward (frame : ServerFrame) (delivered : Bool) : State :=
  if delivered then { s with reader := .top, frames := s.frames ++ [frame] } else s.exit

/-- Handle a message. -/
def handleMsg (delivered : Bool) : MuxServerMsg Answer → State
  | .render bytes => s.forward (.render bytes) delivered
  | .log log =>
    let r := captureQueryLog s.isClosed Answer.json parse s.inFlight log
    { s with reader := .top, inFlight := r.1, fulfilled := s.fulfilled ++ r.2.toList }
  | .event (.exit reason) => (s.forward (MuxEvent.exit reason).frame delivered).exit
  | .event event => s.forward event.frame delivered
  | .other => { s with reader := .top }

/-- One step; an act that is not possible in a state is refused. -/
def step : Act → Option State
  | .hand tabs panes =>
    if s.reader = .exited then some { s with nextSeq := s.nextSeq + 1 }
    else some { s with
      nextSeq := s.nextSeq + 1
      queued := s.queued ++ [⟨s.nextSeq, none⟩]
      wire := s.wire ++ [⟨s.nextSeq, .tabs, tabs⟩, ⟨s.nextSeq, .panes, panes⟩] }
  | .expire seq => some { s with closed := seq :: s.closed }
  | .lose => match s.wire with
    | [] => none
    | _ :: wire => some { s with wire }
  | .park stop =>
    if s.reader = .top then some (if stop then s.exit else s.drain .parked) else none
  | .recvLog => match s.reader, s.wire with
    | .parked, log :: wire => some { s with reader := .woken (.log log), wire }
    | _, _ => none
  | .recv msg => match s.reader, msg with
    | .parked, none => some s.exit
    | .parked, some (.log _) => none
    | .parked, some msg => some { s with reader := .woken msg }
    | _, _ => none
  | .wake stop => match s.reader with
    | .woken msg => some (if stop then s.exit else s.drain (.matching msg))
    | _ => none
  | .handle delivered => match s.reader with
    | .matching msg => some (s.handleMsg parse delivered msg)
    | _ => none

end State

variable {parse : String → String → Except String LayoutSnapshot} {s t : State} {a : Act}
  {as : List Act}

/-! ### The order of the Logs -/

/-- The Log that was read and not matched yet. -/
def Phase.log : Phase → List Answer
  | .woken (.log log) => [log]
  | .matching (.log log) => [log]
  | _ => []

/-- The Logs that may still be matched, in order. -/
def State.inbox (s : State) : List Answer := s.reader.log ++ s.wire

/-- The order in which the session answers. -/
def Answer.Before (l m : Answer) : Prop :=
  l.seq < m.seq ∨ (l.seq = m.seq ∧ l.half = .tabs ∧ m.half = .panes)

/-- The Logs arrive in order, and after the one that was captured. -/
structure Inv (s : State) : Prop where
  ordered : s.inbox.Pairwise Answer.Before
  handed : ∀ l ∈ s.inbox, l.seq < s.nextSeq
  captured : ∀ q tabs, s.inFlight = some q → q.tabs = some tabs → ∀ l ∈ s.inbox, tabs.Before l
  fresh : ∀ q ∈ s.queued, q.tabs = none
  bound : ∀ q tabs, s.inFlight = some q → q.tabs = some tabs → tabs.seq < s.nextSeq

theorem inv_init : Inv init := by
  constructor <;> simp [init, State.inbox, Phase.log]

/-- Picking up queries: an old one that is still wanted, or a new one. -/
theorem drainQueries_cases {closed : ℕ → Bool} {queued : List (InFlightQuery Answer)}
    {held : Option (InFlightQuery Answer)} {q : InFlightQuery Answer}
    (h : drainQueries closed queued held = some q) :
    q ∈ queued ∨ (queued = [] ∧ held = some q ∧ closed q.seq = false) := by
  unfold drainQueries at h
  rcases List.eq_nil_or_concat queued with rfl | ⟨init, last, rfl⟩
  · obtain ⟨hq, hc⟩ := Option.filter_eq_some_iff.mp h
    exact Or.inr ⟨rfl, hq, by simpa using hc⟩
  · rw [List.concat_eq_append, List.foldl_append] at h
    cases h
    exact Or.inl (by simp)

/-- The loop moves on, reads or forgets: no Log, no query and no answer is new. -/
structure Shrinks (s t : State) : Prop where
  inbox : t.inbox.Sublist s.inbox
  nextSeq : t.nextSeq = s.nextSeq
  queued : t.queued ⊆ s.queued
  held : ∀ q tabs, t.inFlight = some q → q.tabs = some tabs → s.inFlight = some q
  fulfilled : t.fulfilled = s.fulfilled

theorem Shrinks.trans {u : State} (h : Shrinks s t) (h' : Shrinks t u) : Shrinks s u where
  inbox := h'.inbox.trans h.inbox
  nextSeq := h'.nextSeq.trans h.nextSeq
  queued := fun _ hq => h.queued (h'.queued hq)
  held q tabs hq ht := h.held q tabs (h'.held q tabs hq ht) ht
  fulfilled := h'.fulfilled.trans h.fulfilled

/-- A step that leaves the queries alone. -/
theorem shrinks_of_inbox {reader : Phase} {wire : List Answer} {frames : List ServerFrame}
    (h : (reader.log ++ wire).Sublist s.inbox) : Shrinks s { s with reader, wire, frames } :=
  ⟨h, rfl, fun _ hq => hq, fun _ _ hq _ => hq, rfl⟩

theorem shrinks_exit (s : State) : Shrinks s s.exit :=
  ⟨List.sublist_append_right _ _, rfl, by simp [State.exit], by simp [State.exit], rfl⟩

theorem shrinks_drain {reader : Phase} (hI : Inv s) (hr : reader.log = s.reader.log) :
    Shrinks s (s.drain reader) := by
  refine ⟨?_, rfl, by simp [State.drain], fun q tabs hq ht => ?_, rfl⟩
  · show (reader.log ++ s.wire).Sublist _
    rw [hr]
    exact List.Sublist.refl _
  · rcases drainQueries_cases hq with hmem | ⟨-, hold, -⟩
    · exact absurd ((hI.fresh q hmem).symm.trans ht) (by simp)
    · exact hold

theorem shrinks_forward (s : State) (frame : ServerFrame) (delivered : Bool) :
    Shrinks s (s.forward frame delivered) := by
  unfold State.forward
  split_ifs
  · exact shrinks_of_inbox (List.sublist_append_right _ _)
  · exact shrinks_exit s

/-- Nothing is lost from the invariant. -/
theorem Inv.shrink (hI : Inv s) (h : Shrinks s t) : Inv t where
  ordered := hI.ordered.sublist h.inbox
  handed l hl := by
    rw [h.nextSeq]
    exact hI.handed l (h.inbox.subset hl)
  captured q tabs hq ht l hl := hI.captured q tabs (h.held q tabs hq ht) ht l (h.inbox.subset hl)
  fresh q hq := hI.fresh q (h.queued hq)
  bound q tabs hq ht := by
    rw [h.nextSeq]
    exact hI.bound q tabs (h.held q tabs hq ht) ht

variable (parse) in
/-- What reading a Log does: nothing, as no query wants it; fill the tabs; or fulfil the query. -/
theorem captureQueryLog_cases (closed : ℕ → Bool) (held : Option (InFlightQuery Answer))
    (log : Answer) :
    ((∀ q, held = some q → closed q.seq = true) ∧
      captureQueryLog closed Answer.json parse held log = (none, none)) ∨
    (∃ q, held = some q ∧ closed q.seq = false ∧ q.tabs = none ∧
      captureQueryLog closed Answer.json parse held log = (some ⟨q.seq, some log⟩, none)) ∨
    ∃ q tabs result, held = some q ∧ closed q.seq = false ∧ q.tabs = some tabs ∧
      captureQueryLog closed Answer.json parse held log =
        (none, some ⟨q.seq, tabs, log, result⟩) := by
  rcases held with - | ⟨seq, tabs⟩
  · exact Or.inl ⟨by simp, rfl⟩
  · rcases hc : closed seq with - | -
    · rcases tabs with - | tabs
      · exact Or.inr (Or.inl ⟨_, rfl, hc, rfl, by simp [captureQueryLog, hc]⟩)
      · exact Or.inr (Or.inr ⟨_, _, _, rfl, hc, rfl, by simp [captureQueryLog, hc]; rfl⟩)
    · refine Or.inl ⟨?_, by simp [captureQueryLog, hc]⟩
      rintro q ⟨⟩
      exact hc

theorem inv_capture {log : Answer} {delivered : Bool} (hI : Inv s)
    (hr : s.reader = .matching (.log log)) : Inv (s.handleMsg parse delivered (.log log)) := by
  have hin : s.inbox = log :: s.wire := by simp [State.inbox, hr, Phase.log]
  have hlate : ∀ l ∈ s.wire, log.Before l := by
    have hord := hI.ordered
    rw [hin] at hord
    exact (List.pairwise_cons.mp hord).1
  have hsub : s.wire.Sublist s.inbox := by
    rw [hin]
    exact List.sublist_cons_self _ _
  unfold State.handleMsg
  rcases captureQueryLog_cases parse s.isClosed s.inFlight log with
    ⟨-, h⟩ | ⟨q, hq, -, -, h⟩ | ⟨q, tabs, result, -, -, -, h⟩ <;> simp only [h]
  · exact hI.shrink ⟨hsub, rfl, fun _ hq => hq, by simp, by simp⟩
  · -- the Log that is captured comes before those still to arrive
    refine ⟨hI.ordered.sublist hsub, fun l hl => hI.handed l (hsub.subset hl), ?_, hI.fresh, ?_⟩
    · rintro q' tabs ⟨⟩ ⟨⟩
      exact hlate
    · rintro q' tabs ⟨⟩ ⟨⟩
      exact hI.handed log (by simp [hin])
  · exact ⟨hI.ordered.sublist hsub, fun l hl => hI.handed l (hsub.subset hl), by simp, hI.fresh,
      by simp⟩

/-- A query that is handed over: its Logs come last. -/
theorem inv_hand {tabs panes : String} (hI : Inv s) : Inv { s with
    nextSeq := s.nextSeq + 1
    queued := s.queued ++ [⟨s.nextSeq, none⟩]
    wire := s.wire ++ [⟨s.nextSeq, .tabs, tabs⟩, ⟨s.nextSeq, .panes, panes⟩] } := by
  have hnew : ∀ m ∈ [(⟨s.nextSeq, .tabs, tabs⟩ : Answer), ⟨s.nextSeq, .panes, panes⟩],
      m.seq = s.nextSeq := by simp
  refine ⟨?_, ?_, ?_, ?_, ?_⟩
  · show (s.reader.log ++ (s.wire ++ _)).Pairwise _
    rw [← List.append_assoc]
    refine List.pairwise_append.mpr ⟨hI.ordered, by simp [Answer.Before], fun l hl m hm => ?_⟩
    left
    rw [hnew m hm]
    exact hI.handed l hl
  · intro l hl
    have hl' : l ∈ s.inbox ++ [(⟨s.nextSeq, .tabs, tabs⟩ : Answer), ⟨s.nextSeq, .panes, panes⟩] := by
      simpa [State.inbox] using hl
    show l.seq < s.nextSeq + 1
    rcases List.mem_append.mp hl' with h | h
    · exact Nat.lt_succ_of_lt (hI.handed l h)
    · rw [hnew l h]
      exact Nat.lt_succ_self _
  · intro q t hq ht l hl
    have hl' : l ∈ s.inbox ++ [(⟨s.nextSeq, .tabs, tabs⟩ : Answer), ⟨s.nextSeq, .panes, panes⟩] := by
      simpa [State.inbox] using hl
    rcases List.mem_append.mp hl' with h | h
    · exact hI.captured q t hq ht l h
    · left
      rw [hnew l h]
      exact hI.bound q t hq ht
  · intro q hq
    rcases List.mem_append.mp hq with h | h
    · exact hI.fresh q h
    · rw [List.mem_singleton.mp h]
  · intro q t hq ht
    exact Nat.lt_succ_of_lt (hI.bound q t hq ht)

/-- What the loop does with a message that is not a Log. -/
theorem shrinks_handleMsg (s : State) (delivered : Bool) {msg : MuxServerMsg Answer}
    (hlog : ∀ log, msg ≠ .log log) : Shrinks s (s.handleMsg parse delivered msg) := by
  rcases msg with bytes | log | event | _
  · exact shrinks_forward s _ delivered
  · exact absurd rfl (hlog log)
  · rcases event with reason | name | _ | name
    · exact (shrinks_forward s _ delivered).trans (shrinks_exit _)
    · exact shrinks_forward s _ delivered
    · exact shrinks_forward s _ delivered
    · exact shrinks_forward s _ delivered
  · exact shrinks_of_inbox (List.sublist_append_right _ _)

/-- What a step does: a query is handed over, a Log is matched, or nothing is new. -/
theorem step_cases (hI : Inv s) (ht : s.step parse a = some t) :
    (∃ tabs panes, a = .hand tabs panes ∧ (t = { s with nextSeq := s.nextSeq + 1 } ∨ t = { s with
      nextSeq := s.nextSeq + 1
      queued := s.queued ++ [⟨s.nextSeq, none⟩]
      wire := s.wire ++ [⟨s.nextSeq, .tabs, tabs⟩, ⟨s.nextSeq, .panes, panes⟩] })) ∨
    (∃ delivered log, a = .handle delivered ∧ s.reader = .matching (.log log) ∧
      t = s.handleMsg parse delivered (.log log)) ∨
    ((∀ delivered, a = .handle delivered → ∀ log, s.reader ≠ .matching (.log log)) ∧
      Shrinks s t) := by
  rcases a with ⟨tabs, panes⟩ | seq | _ | stop | _ | msg | stop | delivered
  · left
    refine ⟨tabs, panes, rfl, ?_⟩
    by_cases hex : s.reader = .exited
    · rw [State.step, if_pos hex] at ht
      exact Or.inl (Option.some.inj ht).symm
    · rw [State.step, if_neg hex] at ht
      exact Or.inr (Option.some.inj ht).symm
  · refine Or.inr (Or.inr ⟨by simp, ?_⟩)
    cases ht
    exact ⟨List.Sublist.refl _, rfl, fun _ hq => hq, fun _ _ hq _ => hq, rfl⟩
  · refine Or.inr (Or.inr ⟨by simp, ?_⟩)
    rcases hw : s.wire with - | ⟨l, wire⟩
    · simp [State.step, hw] at ht
    · simp only [State.step, hw, Option.some.injEq] at ht
      subst ht
      refine shrinks_of_inbox ?_
      rw [State.inbox, hw]
      exact (List.sublist_cons_self _ _).append_left _
  · refine Or.inr (Or.inr ⟨by simp, ?_⟩)
    by_cases htop : s.reader = .top
    · simp only [State.step, htop, if_true, Option.some.injEq] at ht
      subst ht
      split_ifs
      · exact shrinks_exit s
      · exact shrinks_drain hI (by rw [htop]; rfl)
    · simp [State.step, htop] at ht
  · refine Or.inr (Or.inr ⟨by simp, ?_⟩)
    rcases hr : s.reader with _ | _ | msg | msg | _ <;> rcases hw : s.wire with - | ⟨l, wire⟩ <;>
      simp only [State.step, hr, hw, reduceCtorEq, Option.some.injEq] at ht
    subst ht
    refine shrinks_of_inbox ?_
    rw [State.inbox, hr, hw]
    exact List.Sublist.refl _
  · refine Or.inr (Or.inr ⟨by simp, ?_⟩)
    rcases hr : s.reader with _ | _ | m | m | _ <;>
      simp only [State.step, hr, reduceCtorEq] at ht
    rcases msg with - | (bytes | log | event | _) <;>
      simp only [reduceCtorEq, Option.some.injEq] at ht <;> subst ht
    · exact shrinks_exit s
    · exact shrinks_of_inbox (List.sublist_append_right _ _)
    · exact shrinks_of_inbox (List.sublist_append_right _ _)
    · exact shrinks_of_inbox (List.sublist_append_right _ _)
  · refine Or.inr (Or.inr ⟨by simp, ?_⟩)
    rcases hr : s.reader with _ | _ | m | m | _ <;>
      simp only [State.step, hr, reduceCtorEq, Option.some.injEq] at ht
    subst ht
    split_ifs
    · exact shrinks_exit s
    · refine shrinks_drain hI ?_
      rw [hr]
      rcases m with _ | _ | _ | _ <;> rfl
  · right
    rcases hr : s.reader with _ | _ | m | msg | _ <;>
      simp only [State.step, hr, reduceCtorEq, Option.some.injEq] at ht
    by_cases hlog : ∃ log, msg = .log log
    · obtain ⟨log, rfl⟩ := hlog
      exact Or.inl ⟨delivered, log, rfl, rfl, ht.symm⟩
    · rw [← ht]
      refine Or.inr ⟨fun _ _ log h => hlog ⟨log, ?_⟩,
        shrinks_handleMsg s delivered fun log h => hlog ⟨log, h⟩⟩
      exact Phase.matching.inj h

theorem inv_step (hI : Inv s) (ht : s.step parse a = some t) : Inv t := by
  rcases step_cases hI ht with ⟨tabs, panes, -, rfl | rfl⟩ | ⟨delivered, log, -, hr, rfl⟩ | ⟨-, h⟩
  · exact ⟨hI.ordered, fun l hl => Nat.lt_succ_of_lt (hI.handed l hl), hI.captured, hI.fresh,
      fun q t hq ht => Nat.lt_succ_of_lt (hI.bound q t hq ht)⟩
  · exact inv_hand hI
  · exact inv_capture hI hr
  · exact hI.shrink h

theorem inv_run (hr : Run (ofFn (State.step parse)) init as s) : Inv s :=
  hr.invariant (fun _ _ _ hI ht => inv_step hI ht) inv_init

/-! ### Attribution -/

/-- The query was answered from its own two Logs, tabs and panes. -/
def Own (f : Fulfilled Answer) : Prop :=
  f.tabs.seq = f.seq ∧ f.tabs.half = .tabs ∧ f.panes.seq = f.seq ∧ f.panes.half = .panes

/-- No query was given another one's Log: every one that was fulfilled was so from its own two, and
what the one in flight holds is its own. -/
def Attributed (s : State) : Prop :=
  (∀ f ∈ s.fulfilled, Own f) ∧
    ∀ q tabs, s.inFlight = some q → q.tabs = some tabs → tabs.seq = q.seq

/-- The step is fresh: if it matches a Log while a query is held that is still waited for, the Log
answers that query. -/
def Fresh (s : State) : Act → Prop
  | .handle _ => ∀ log q, s.reader = .matching (.log log) → s.inFlight = some q →
      s.isClosed q.seq = false → log.seq = q.seq
  | _ => True

theorem Attributed.shrink (h : Attributed s) (hs : Shrinks s t) : Attributed t := by
  refine ⟨fun f hmem => h.1 f ?_, fun q tabs hq ht => h.2 q tabs (hs.held q tabs hq ht) ht⟩
  rwa [← hs.fulfilled]

/-- Matching a Log keeps the attribution exactly if the Log answers the query. -/
theorem attributed_capture_iff {log : Answer} {delivered : Bool} (hI : Inv s) (h : Attributed s)
    (hr : s.reader = .matching (.log log)) :
    Attributed (s.handleMsg parse delivered (.log log)) ↔ Fresh s (.handle delivered) := by
  have hfresh : ∀ q, s.inFlight = some q → s.isClosed q.seq = false →
      (Fresh s (.handle delivered) ↔ log.seq = q.seq) := by
    intro q hq hc
    constructor
    · exact fun hf => hf log q hr hq hc
    · intro hl log' q' hr' hq' _
      cases hr.symm.trans hr'
      cases hq.symm.trans hq'
      exact hl
  unfold State.handleMsg
  rcases captureQueryLog_cases parse s.isClosed s.inFlight log with
    ⟨hnone, hcap⟩ | ⟨q, hq, hc, -, hcap⟩ | ⟨q, tabs, result, hq, hc, ht, hcap⟩ <;> simp only [hcap]
  · refine ⟨fun _ log' q' _ hq' hc' => ?_, fun _ => ⟨by simpa using h.1, by simp⟩⟩
    exact absurd ((hnone q' hq').symm.trans hc') (by simp)
  · rw [hfresh q hq hc]
    constructor
    · exact fun hA => hA.2 ⟨q.seq, some log⟩ log rfl rfl
    · intro hl
      refine ⟨by simpa using h.1, ?_⟩
      rintro q' tabs ⟨⟩ ⟨⟩
      exact hl
  · rw [hfresh q hq hc]
    have hin : log ∈ s.inbox := by simp [State.inbox, hr, Phase.log]
    have hown : tabs.seq = q.seq := h.2 q tabs hq ht
    constructor
    · exact fun hA => (hA.1 ⟨q.seq, tabs, log, result⟩ (by simp)).2.2.1
    · intro hl
      refine ⟨fun f hf => ?_, by simp⟩
      rcases List.mem_append.mp hf with hf | hf
      · exact h.1 f hf
      · -- two Logs of one query: the one that came first is the tabs
        obtain rfl : f = ⟨q.seq, tabs, log, result⟩ := by simpa using hf
        rcases hI.captured q tabs hq ht log hin with hlt | ⟨-, htabs, hpanes⟩
        · have : tabs.seq = log.seq := hown.trans hl.symm
          omega
        · exact ⟨hown, htabs, hl, hpanes⟩

/-- A step keeps the attribution exactly if it is fresh. -/
theorem attributed_step_iff (hI : Inv s) (h : Attributed s) (ht : s.step parse a = some t) :
    Attributed t ↔ Fresh s a := by
  rcases step_cases hI ht with
    ⟨tabs, panes, rfl, rfl | rfl⟩ | ⟨delivered, log, rfl, hr, rfl⟩ | ⟨hlog, hs⟩
  · exact ⟨fun _ => trivial, fun _ => h⟩
  · exact ⟨fun _ => trivial, fun _ => h⟩
  · exact attributed_capture_iff hI h hr
  · refine ⟨fun _ => ?_, fun _ => h.shrink hs⟩
    cases a with
    | handle delivered => exact fun log q hr => absurd hr (hlog delivered rfl log)
    | _ => trivial

theorem attributed_init : Attributed init := ⟨by simp [init], by simp [init]⟩

/-- **Every query is given its own Logs, and no other's, in exactly the runs whose steps are
fresh.** -/
theorem attributed_iff (hr : Run (ofFn (State.step parse)) init as s) :
    (∀ pre post u, as = pre ++ post → Run (ofFn (State.step parse)) init pre u → Attributed u) ↔
      Along (ofFn (State.step parse)) (fun _ => Fresh) init as := by
  refine hr.always_iff ofFn_unique (fun pre a post u v _ hu hA huv => ?_) attributed_init
  exact attributed_step_iff (inv_run hu) hA huv

/-! ### A query that another one answers -/

/-- What the parser makes of a session without tabs. -/
def parseEmpty (tabs panes : String) : Except String LayoutSnapshot :=
  if tabs = "[]" ∧ panes = "[]" then .ok ⟨[]⟩ else .error "parse_zellij_layout: parse ListTabs JSON"

/-- A read of one Log. -/
def readLog : List Act := [.park false, .recvLog, .wake false, .handle true]

/-- The first query times out before its Logs arrive, and a second one is handed over: it is
fulfilled with a snapshot made of the first one's Logs. -/
theorem late_logs :
    let as := [Act.hand "[]" "[]", .park false, .expire 0, .hand "[]" "[]", .recvLog, .wake false,
      .handle true] ++ readLog
    ∃ s f, Run (ofFn (State.step parseEmpty)) init as s ∧ s.fulfilled = [f] ∧ f.seq = 1 ∧
      f.tabs.seq = 0 ∧ f.panes.seq = 0 ∧ f.result = .ok ⟨[]⟩ ∧ ¬ Own f := by
  intro as
  refine ⟨_, _, Run.cons rfl (Run.cons rfl (Run.cons rfl (Run.cons rfl (Run.cons rfl (Run.cons rfl
    (Run.cons rfl (Run.cons rfl (Run.cons rfl (Run.cons rfl (Run.cons rfl (Run.nil _))))))))))),
    rfl, rfl, rfl, rfl, rfl, fun h => ?_⟩
  exact absurd h.1 (by decide)

/-- A query that is answered. -/
theorem attributed_iff_answered :
    let as := .hand "[]" "[]" :: readLog ++ readLog
    ∃ s, Run (ofFn (State.step parseEmpty)) init as s ∧ s.fulfilled.length = 1 ∧
      ((∀ pre post u, as = pre ++ post → Run (ofFn (State.step parseEmpty)) init pre u →
        Attributed u) ↔ Along (ofFn (State.step parseEmpty)) (fun _ => Fresh) init as) := by
  intro as
  have hr : ∃ s, Run (ofFn (State.step parseEmpty)) init as s ∧ s.fulfilled.length = 1 :=
    ⟨_, Run.cons rfl (Run.cons rfl (Run.cons rfl (Run.cons rfl (Run.cons rfl (Run.cons rfl
      (Run.cons rfl (Run.cons rfl (Run.cons rfl (Run.nil _))))))))), rfl⟩
  obtain ⟨s, hr, hlen⟩ := hr
  exact ⟨s, hr, hlen, attributed_iff hr⟩

end MuxrCore.Relay.Reader
