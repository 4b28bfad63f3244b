import MuxrCore.Lib.Coalesce
import MuxrCore.Lib.Runs

/-! # The input of the control panel

The event loop reads the events of the terminal in batches and routes them one at a time. Events
that are not routed at all are filtered out of a batch, and each run of pointer moves in it is
collapsed to its last.

* `next_of_apart`: the queue has no two neighbouring moves, so what is popped is what is in front.
* `input_kept`: what has been routed, and what is pending, is what has been read and is to be
  routed, less some superseded moves. -/

namespace MuxrCore.Muxrctl.Input

open MuxrCore.Lib.Coalesce MuxrCore.Lib.Runs

/-! ### Events -/

inductive KeyEventKind
  | press
  | repeat
  | release
  deriving DecidableEq, Repr

structure KeyEvent where
  code : String
  modifiers : ℕ
  kind : KeyEventKind
  deriving DecidableEq, Repr

inductive MouseButton
  | left
  | right
  | middle
  deriving DecidableEq, Repr

inductive MouseEventKind
  | down (button : MouseButton)
  | up (button : MouseButton)
  | drag (button : MouseButton)
  | moved
  | scrollDown
  | scrollUp
  | scrollLeft
  | scrollRight
  deriving DecidableEq, Repr

structure MouseEvent where
  kind : MouseEventKind
  column : ℕ
  row : ℕ
  modifiers : ℕ
  deriving DecidableEq, Repr

/-- An event of the terminal. -/
inductive CtEvent
  | focusGained
  | focusLost
  | key (key : KeyEvent)
  | mouse (mouse : MouseEvent)
  | paste (text : String)
  | resize (columns rows : ℕ)
  deriving DecidableEq, Repr

/-- Whether an event is routed at all. -/
def keepEvent : CtEvent → Bool
  | .key key => key.kind = .press
  | .mouse _ | .paste _ => true
  | _ => false

def isMove : CtEvent → Bool
  | .mouse m => m.kind = .moved
  | _ => false

/-- Collapse each run of pointer moves to its last event. -/
def coalesceMoves (events : List CtEvent) : List CtEvent := coalesce isMove events

/-! ### The terminal -/

/-- The events that have not been read, and the answers of the polls to come: whether an event is
ready, or `none` if the poll fails. Once these are used up, no event is ready. -/
structure EventSource where
  events : List CtEvent
  polls : List (Option Bool)
  deriving Repr

def EventSource.poll (source : EventSource) : Option (Bool × EventSource) :=
  match source.polls with
  | [] => some (false, source)
  | answer :: polls => answer.map fun ready => (ready, { source with polls })

def EventSource.read (source : EventSource) : Option (CtEvent × EventSource) :=
  match source.events with
  | [] => none
  | event :: events => some (event, { source with events })

/-- A poll reads nothing. -/
theorem events_of_poll {source source' : EventSource} {ready : Bool}
    (h : source.poll = some (ready, source')) : source'.events = source.events := by
  unfold EventSource.poll at h
  split at h
  · cases h
    rfl
  · obtain ⟨ready, -, hready⟩ := Option.map_eq_some_iff.mp h
    cases hready
    rfl

theorem events_of_read {source source' : EventSource} {event : CtEvent}
    (h : source.read = some (event, source')) : source.events = event :: source'.events := by
  unfold EventSource.read at h
  split at h
  · cases h
  · cases h
    assumption

/-! ### The queue -/

def maxEventsPerTick : ℕ := 256

/-- Read what is ready, but no more than so many events. -/
def readReady : ℕ → EventSource → Option (List CtEvent × EventSource)
  | 0, source => some ([], source)
  | n + 1, source => do
    let (ready, source) ← source.poll
    if ready then
      let (event, source) ← source.read
      let (raw, source) ← readReady n source
      return (event :: raw, source)
    else return ([], source)

/-- Refill the queue, only when it is empty; `none` if a poll or a read fails, which ends the
loop. -/
def fill (pending : List CtEvent) (source : EventSource) : Option (List CtEvent × EventSource) :=
  if pending ≠ [] then some (pending, source)
  else do
    let (raw, source) ← readReady maxEventsPerTick source
    return (coalesceMoves (raw.filter keepEvent), source)

/-- Pop the next event; a move directly followed by another is superseded. -/
def next : List CtEvent → Option (CtEvent × List CtEvent)
  | [] => none
  | [event] => some (event, [])
  | event :: event' :: pending =>
    if isMove event && isMove event' then next (event' :: pending)
    else some (event, event' :: pending)

theorem readReady_spec {n : ℕ} {source source' : EventSource} {raw : List CtEvent}
    (h : readReady n source = some (raw, source')) :
    source.events = raw ++ source'.events ∧ raw.length ≤ n := by
  induction n generalizing source raw with
  | zero =>
    cases h
    exact ⟨rfl, le_rfl⟩
  | succ n ih =>
    obtain ⟨⟨ready, polled⟩, hpoll, h⟩ := Option.bind_eq_some_iff.mp h
    rw [← events_of_poll hpoll]
    dsimp only at h
    split_ifs at h
    · obtain ⟨⟨event, rest⟩, hread, h⟩ := Option.bind_eq_some_iff.mp h
      obtain ⟨⟨raw, last⟩, hrest, h⟩ := Option.bind_eq_some_iff.mp h
      cases h
      obtain ⟨hevents, hlen⟩ := ih hrest
      rw [events_of_read hread, hevents]
      exact ⟨rfl, Nat.succ_le_succ hlen⟩
    · cases h
      exact ⟨rfl, Nat.zero_le _⟩

/-! ### Runs -/

/-- What has been read, one batch for each refill, and what has been routed. -/
structure State where
  source : EventSource
  pending : List CtEvent
  reads : List (List CtEvent)
  routed : List CtEvent
  deriving Repr

/-- A call of the event loop. -/
inductive Call
  | fill
  | next
  deriving DecidableEq, Repr

def State.step (s : State) : Call → Option State
  | .fill => (fill s.pending s.source).map fun (pending, source) =>
    { s with
      source, pending
      reads := s.reads ++
        [s.source.events.take (s.source.events.length - source.events.length)] }
  | .next => match next s.pending with
    | none => some s
    | some (event, pending) => some { s with pending, routed := s.routed ++ [event] }

def start (events : List CtEvent) (polls : List (Option Bool)) : State :=
  ⟨⟨events, polls⟩, [], [], []⟩

/-- What a refill puts into the queue. -/
def refilled (read : List CtEvent) : List CtEvent := coalesceMoves (read.filter keepEvent)

/-- The queue goes on where the routed events end, and has no two neighbouring moves. -/
structure Queued (events : List CtEvent) (s : State) : Prop where
  read : events = s.reads.flatten ++ s.source.events
  refills : s.routed ++ s.pending = (s.reads.map refilled).flatten
  apart : Apart isMove s.pending

/-- No input is lost. -/
structure Kept (events : List CtEvent) (s : State) : Prop where
  /-- all events are read, in order -/
  read : events = s.reads.flatten ++ s.source.events
  /-- what is to be routed is routed, or pending, but for superseded moves -/
  omits : Omits isMove (s.reads.flatten.filter keepEvent) (s.routed ++ s.pending)
  /-- it is what the refills have left, one after the other -/
  refills : s.routed ++ s.pending = (s.reads.map refilled).flatten
  /-- between two neighbouring moves a refill ends -/
  apart : ∀ pre x y post, s.routed ++ s.pending = pre ++ x :: y :: post → isMove x = true →
    isMove y = true → ∃ k, pre ++ [x] = ((s.reads.take k).map refilled).flatten

/-- Nothing is superseded in a queue without neighbouring moves. -/
theorem next_of_apart {pending pending' : List CtEvent} {event : CtEvent}
    (h : Apart isMove pending) (hnext : next pending = some (event, pending')) :
    pending = event :: pending' := by
  rcases pending with _ | ⟨event, _ | ⟨event', pending⟩⟩
  · cases hnext
  · cases hnext
    rfl
  · have hne : ¬(isMove event && isMove event') = true := fun he =>
      (List.isChain_cons_cons.mp h).1 (Bool.and_eq_true_iff.mp he)
    rw [next, if_neg hne] at hnext
    cases hnext
    rfl

/-- What a call of `fill` reads, and what it puts into the queue. -/
theorem fill_spec {pending pending' : List CtEvent} {source source' : EventSource}
    (h : fill pending source = some (pending', source')) :
    ∃ read, source.events = read ++ source'.events ∧ read.length ≤ maxEventsPerTick ∧
      pending' = pending ++ refilled read ∧ (pending ≠ [] → read = []) := by
  unfold fill at h
  split_ifs at h with hp
  · cases h
    exact ⟨[], rfl, Nat.zero_le _, (List.append_nil _).symm, fun _ => rfl⟩
  · obtain ⟨⟨raw, rest⟩, hread, h⟩ := Option.bind_eq_some_iff.mp h
    cases h
    obtain ⟨hevents, hlen⟩ := readReady_spec hread
    rw [not_ne_iff.mp hp]
    exact ⟨raw, hevents, hlen, rfl, fun hne => absurd rfl hne⟩

theorem Queued.step {events : List CtEvent} {s t : State} {call : Call} (h : Queued events s)
    (hs : s.step call = some t) : Queued events t := by
  cases call with
  | fill =>
    obtain ⟨⟨pending, source⟩, hfill, rfl⟩ := Option.map_eq_some_iff.mp hs
    obtain ⟨read, hevents, -, hpending, hnil⟩ := fill_spec hfill
    have hread : s.source.events.take (s.source.events.length - source.events.length) = read := by
      rw [hevents, List.length_append, Nat.add_sub_cancel, List.take_left]
    refine ⟨?_, ?_, ?_⟩
    · simp only [hread, List.flatten_concat, List.append_assoc, ← hevents]
      exact h.read
    · simp only [hread, List.map_append, List.map_cons, List.map_nil, List.flatten_concat,
        hpending, ← h.refills, List.append_assoc]
    · change Apart isMove pending
      rw [hpending]
      by_cases hp : s.pending = []
      · rw [hp, List.nil_append]
        exact apart_coalesce isMove _
      · rw [hnil hp]
        exact (List.append_nil s.pending).symm ▸ h.apart
  | next =>
    rw [State.step] at hs
    split at hs
    · cases hs
      exact h
    · rename_i event pending hnext
      cases hs
      have hfront := next_of_apart h.apart hnext
      refine ⟨h.read, ?_, ?_⟩
      · have hrefills := h.refills
        rwa [hfront, List.append_cons] at hrefills
      · have happart := h.apart
        rw [hfront] at happart
        exact happart.tail

/-- **No input is lost**, whatever the calls and whatever is ready at each poll. -/
theorem input_kept {events : List CtEvent} {polls : List (Option Bool)} {calls : List Call}
    {s : State} (h : Run (ofFn State.step) (start events polls) calls s) : Kept events s := by
  have hq : Queued events s :=
    h.invariant (fun _ _ _ hq hs => hq.step hs) ⟨rfl, rfl, List.isChain_nil⟩
  refine ⟨hq.read, ?_, hq.refills, ?_⟩
  · rw [hq.refills, List.filter_flatten]
    have hflat := omits_flatten isMove (s.reads.map (List.filter keepEvent))
    rwa [List.map_map] at hflat
  · intro pre x y post he hx hy
    rw [hq.refills] at he
    obtain ⟨k, hk⟩ := exists_take_of_flatten (fun l hl => by
      obtain ⟨read, -, rfl⟩ := List.mem_map.mp hl
      exact apart_coalesce isMove _) he hx hy
    exact ⟨k, by rw [hk, List.map_take]⟩

/-- A pointer move. -/
def moveTo (column row : ℕ) : CtEvent := .mouse ⟨.moved, column, row, 0⟩

def pressed : CtEvent := .key ⟨"a", 0, .press⟩

/-- Two batches. -/
def swept : List (List CtEvent) :=
  [[moveTo 1 1, moveTo 2 2, pressed, .resize 80 24, moveTo 3 3], [moveTo 4 4]]

/-- Two neighbouring moves are routed if they are of different batches. -/
theorem input_kept_batches :
    Run (ofFn State.step)
        (start swept.flatten [some true, some true, some true, some true, some true, some false,
          some true])
        [.fill, .next, .next, .next, .fill, .next]
        ⟨⟨[], []⟩, [], swept, [moveTo 2 2, pressed, moveTo 3 3, moveTo 4 4]⟩ ∧
      Kept swept.flatten ⟨⟨[], []⟩, [], swept, [moveTo 2 2, pressed, moveTo 3 3, moveTo 4 4]⟩ := by
  have h : Run (ofFn State.step)
      (start swept.flatten [some true, some true, some true, some true, some true, some false,
        some true])
      [.fill, .next, .next, .next, .fill, .next]
      ⟨⟨[], []⟩, [], swept, [moveTo 2 2, pressed, moveTo 3 3, moveTo 4 4]⟩ := run_ofFn_iff.mpr rfl
  exact ⟨h, input_kept h⟩

end MuxrCore.Muxrctl.Input
