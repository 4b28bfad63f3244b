import Mathlib.Data.Finset.Sort
import MuxrCore.Grpc.AgentOps
import MuxrCore.Lib.Runs

/-! # The state of a watch

A watch sends one snapshot and then deltas. It keeps the rows the client holds, the panes whose row
is owed a re-read, and the re-read that is out, if one is. Bus events and finished re-reads change
the held rows and queue the messages that tell the client so.

`WatchLoop.step` is one turn of the loop: an event off the bus, a re-read that starts or ends, a
message handed to the client, or the end. The loop empties its queue before it waits for the next
event; the steps leave that order open. -/

namespace MuxrCore.Grpc.Watch.State

open MuxrCore.Lib.Rows MuxrCore.Multiplexer.Agents MuxrCore.Grpc.AgentOps

/-- Why a re-read produced no inventory. -/
inductive ReadFailure
  | backend | join | timedOut
  deriving DecidableEq, Repr

/-- What a re-read gives. -/
abbrev ReadResult := Except ReadFailure (List AgentSnapshot)

/-- A re-read that is out: the marks it answers, whether its result goes out as a whole snapshot,
and the panes closed since it started. -/
structure InFlight where
  stale : Finset ℕ
  resnapshot : Bool
  closed : Finset ℕ

/-- The list a re-read answers with: its inventory without the panes closed since it started. -/
def answer (flight : InFlight) (snapshots : List AgentSnapshot) : AgentList :=
  buildAgentList (snapshots.filter fun a => a.pane ∉ flight.closed)

/-- What one stream holds and owes its client. -/
structure WatchState where
  held : Held
  stale : Finset ℕ
  resnapshot : Bool
  lastList : ℕ
  reading : Option InFlight
  readFailing : Bool
  outbox : List AgentEvent

def WatchState.new (held : Held) (lastList : ℕ) : WatchState :=
  ⟨held, ∅, false, lastList, none, false, []⟩

/-- Apply a status event to the row held for its pane, if the event carries a kind and a tab and
agrees with the row on these and on the space. -/
def applyStatus (held : Held) (ev : AgentStatusChanged) : Option AgentMsg :=
  match held.lookup ev.pane, ev.kind, ev.tab with
  | some row, some kind, some tab =>
    if kind ≠ row.kind ∨ tab ≠ row.tabId ∨ ev.workspaceId ≠ row.spaceId then none
    else
      some { row with
        status := (agentStatusMsg ev.status).toI32
        title := ev.title.getD row.title
        name := ev.name.getD row.name }
  | _, _, _ => none

/-- The rows of a fresh list that are not deferred. -/
def undeferred (fresh : AgentList) (defer : Finset ℕ) : List AgentMsg :=
  fresh.agents.filter fun a => a.paneId ∉ defer

/-- The rows that are new or differ from the held ones, in the order of the list. -/
def changedRows (held : Held) (rows : List AgentMsg) : List AgentMsg :=
  rows.filter fun a => held.lookup a.paneId ≠ some a

/-- The held panes the fresh rows no longer have, ascending. -/
def gonePanes (held : Held) (rows : List AgentMsg) (defer : Finset ℕ) : List ℕ :=
  (held.keys.filter fun pane =>
    pane ∉ defer ∧ pane ∉ insertAll AgentMsg.paneId ∅ rows).sort (· ≤ ·)

/-- Diff a fresh list against the held rows: the rows held from now on, and the messages. The panes
in `defer` are skipped, and keep their rows. -/
def reconcile (held : Held) (fresh : AgentList) (defer : Finset ℕ) : Held × List AgentEvent :=
  let rows := undeferred fresh defer
  (keepAll held (insertAll AgentMsg.paneId ∅ rows) (defer.sort (· ≤ ·)),
    (changedRows held rows).map .changed ++ (gonePanes held rows defer).map .removedPaneId)

namespace WatchState

variable (st : WatchState)

/-- A re-read is wanted and none is out. -/
def rereadWanted : Bool := st.reading.isNone && (st.resnapshot || st.stale.Nonempty)

/-- Start a re-read answering every mark so far. -/
def startRead (now : ℕ) : WatchState :=
  { st with
    lastList := now
    reading := some ⟨st.stale, st.resnapshot, ∅⟩
    stale := ∅
    resnapshot := false }

/-- Fold a finished re-read in; it is no longer out. -/
def finishRead (flight : InFlight) (read : ReadResult) : WatchState :=
  match read with
  | .ok snapshots =>
    let list := answer flight snapshots
    if flight.resnapshot then
      { st with
        reading := none, readFailing := false
        held := hold list, outbox := st.outbox ++ [.snapshot list] }
    else
      let (held, fresh) := reconcile st.held list st.stale
      { st with
        reading := none, readFailing := false, held := held, outbox := st.outbox ++ fresh }
  | .error _ =>
    { st with
      reading := none, readFailing := true
      stale := st.stale ∪ flight.stale
      resnapshot := st.resnapshot || flight.resnapshot }

/-- A status event: apply it if it can be, and owe the row a re-read either way. -/
def onStatus (ev : AgentStatusChanged) : WatchState :=
  match applyStatus st.held ev with
  | some msg =>
    { st with
      held := st.held.insert msg.paneId msg
      outbox := st.outbox ++ [.changed msg]
      stale := insert ev.pane st.stale }
  | none => { st with stale := insert ev.pane st.stale }

/-- A closed pane: drop its row and its mark, and keep a re-read that is out from bringing it
back. -/
def onClosed (pane : ℕ) : WatchState :=
  { st with
    stale := st.stale.erase pane
    reading := st.reading.map fun flight => { flight with closed := insert pane flight.closed }
    held := st.held.erase pane
    outbox := st.outbox ++ if (st.held.lookup pane).isSome then [.removedPaneId pane] else [] }

/-- Fold one receive from the bus in; `false` means that the bus is closed. -/
def onBus : Recv → WatchState × Bool
  | .ok (.agentStatusChanged ev) => (st.onStatus ev, true)
  | .ok (.paneClosed pane) => (st.onClosed pane, true)
  | .ok (.layoutChanged _ _) => (st, true)
  | .ok .resynced => ({ st with resnapshot := true }, true)
  | .error (.lagged _) => ({ st with resnapshot := true }, true)
  | .error .closed => (st, false)

end WatchState

/-- A watch: its state, the messages handed to the client, and whether it goes on. A message that
waits for room in the client's channel counts as queued. -/
structure WatchLoop where
  st : WatchState
  sent : List AgentEvent
  live : Bool

/-- Every message so far, in order: those handed to the client, and those queued. -/
def WatchLoop.emitted (w : WatchLoop) : List AgentEvent := w.sent ++ w.st.outbox

/-- Open a watch with its first inventory; without a bus to follow it ends there. -/
def startWatch (bus : Bool) (snapshots : List AgentSnapshot) (now : ℕ) : WatchLoop :=
  let list := buildAgentList snapshots
  ⟨.new (hold list) now, [.snapshot list], bus⟩

/-- One turn of the loop: deliver a message, receive from the bus, start a re-read, fold a finished
one in, or end because the client went away or the token was revoked. -/
inductive Act
  | deliver
  | bus (recv : Recv)
  | startRead (now : ℕ)
  | finishRead (read : ReadResult)
  | stop

/-- One turn. Re-reads are spaced by the debounce, and one is out at a time. -/
def WatchLoop.step (debounce : ℕ) (w : WatchLoop) (a : Act) : Option WatchLoop :=
  if w.live then
    match a with
    | .deliver =>
      match w.st.outbox with
      | ev :: rest => some { w with st := { w.st with outbox := rest }, sent := w.sent ++ [ev] }
      | [] => none
    | .bus recv =>
      let (st, goOn) := w.st.onBus recv
      some { w with st := st, live := goOn }
    | .startRead now =>
      if w.st.rereadWanted && w.st.lastList + debounce ≤ now then
        some { w with st := w.st.startRead now }
      else none
    | .finishRead read =>
      match w.st.reading with
      | some flight => some { w with st := w.st.finishRead flight read }
      | none => none
    | .stop => some { w with live := false }
  else none

/-! ### What a turn does -/

section
variable {held : Held} {fresh : AgentList} {defer : Finset ℕ} {debounce : ℕ} {w w' : WatchLoop}

theorem rowAt_undeferred (pane : ℕ) :
    rowAt AgentMsg.paneId (undeferred fresh defer) pane =
      if pane ∈ defer then none else rowAt AgentMsg.paneId fresh.agents pane := by
  have h := @rowAt_filter _ _ _ AgentMsg.paneId fresh.agents pane fun k => decide (k ∉ defer)
  unfold undeferred
  rw [h]
  by_cases hd : pane ∈ defer <;> simp [hd]

theorem nodup_undeferred (hn : (fresh.agents.map AgentMsg.paneId).Nodup) :
    ((undeferred fresh defer).map AgentMsg.paneId).Nodup :=
  hn.sublist (List.filter_sublist.map _)

theorem mem_gonePanes {rows : List AgentMsg} {pane : ℕ} :
    pane ∈ gonePanes held rows defer ↔
      pane ∈ held ∧ pane ∉ defer ∧ rowAt AgentMsg.paneId rows pane = none := by
  rw [rowAt_eq_none_iff]
  simp [gonePanes, Finmap.mem_keys, mem_insertAll, Finmap.notMem_empty]

/-- The rows held after a reconciliation: the deferred ones stay, the others are the fresh ones. -/
theorem lookup_reconcile (hn : (fresh.agents.map AgentMsg.paneId).Nodup) (pane : ℕ) :
    (reconcile held fresh defer).1.lookup pane =
      if pane ∈ defer then held.lookup pane else rowAt AgentMsg.paneId fresh.agents pane := by
  unfold reconcile
  rw [lookup_keepAll, lookup_insertAll (nodup_undeferred hn), rowAt_undeferred,
    Finmap.lookup_empty, Option.or_none]
  by_cases hd : pane ∈ defer <;> simp [hd]

theorem onStatus_none {st : WatchState} {ev : AgentStatusChanged}
    (h : applyStatus st.held ev = none) :
    st.onStatus ev = { st with stale := insert ev.pane st.stale } := by
  simp [WatchState.onStatus, h]

theorem onStatus_some {st : WatchState} {ev : AgentStatusChanged} {msg : AgentMsg}
    (h : applyStatus st.held ev = some msg) :
    st.onStatus ev =
      { st with
        held := st.held.insert msg.paneId msg
        outbox := st.outbox ++ [.changed msg]
        stale := insert ev.pane st.stale } := by
  simp [WatchState.onStatus, h]

theorem onStatus_reading (st : WatchState) (ev : AgentStatusChanged) :
    (st.onStatus ev).reading = st.reading := by
  rcases h : applyStatus st.held ev with - | msg
  · rw [onStatus_none h]
  · rw [onStatus_some h]

/-- A receive leaves the re-read that is out, and adds the pane it closes to the closed ones. -/
theorem onBus_reading {st : WatchState} {recv : Recv} {flight' : InFlight}
    (h : (st.onBus recv).1.reading = some flight') :
    ∃ flight, st.reading = some flight ∧
      ∀ pane, pane ∈ flight'.closed ↔ recv = .ok (.paneClosed pane) ∨ pane ∈ flight.closed := by
  rcases recv with (n | -) | (ev | ⟨ws, tab⟩ | q | -)
  · exact ⟨flight', h, by simp⟩
  · exact ⟨flight', h, by simp⟩
  · exact ⟨flight', (onStatus_reading st ev).symm.trans h, by simp⟩
  · exact ⟨flight', h, by simp⟩
  · obtain ⟨flight, hr, rfl⟩ := Option.map_eq_some_iff.mp h
    refine ⟨flight, hr, fun pane => ?_⟩
    rw [Finset.mem_insert]
    simp [eq_comm]
  · exact ⟨flight', h, by simp⟩

theorem finishRead_reading (st : WatchState) (flight : InFlight) (read : ReadResult) :
    (st.finishRead flight read).reading = none := by
  rcases read with failure | snapshots
  · rfl
  · unfold WatchState.finishRead
    rcases hre : flight.resnapshot <;> rfl

theorem finishRead_snapshot {st : WatchState} {flight : InFlight} {snapshots : List AgentSnapshot}
    (h : flight.resnapshot = true) :
    st.finishRead flight (.ok snapshots) =
      { st with
        reading := none, readFailing := false
        held := hold (answer flight snapshots)
        outbox := st.outbox ++ [.snapshot (answer flight snapshots)] } := by
  simp [WatchState.finishRead, h]

theorem finishRead_reconcile {st : WatchState} {flight : InFlight}
    {snapshots : List AgentSnapshot} (h : flight.resnapshot = false) :
    st.finishRead flight (.ok snapshots) =
      { st with
        reading := none, readFailing := false
        held := (reconcile st.held (answer flight snapshots) st.stale).1
        outbox := st.outbox ++ (reconcile st.held (answer flight snapshots) st.stale).2 } := by
  simp [WatchState.finishRead, h]

theorem reading_of_rereadWanted {st : WatchState} (h : st.rereadWanted = true) :
    st.reading = none := by
  unfold WatchState.rereadWanted at h
  rw [Bool.and_eq_true, Option.isNone_iff_eq_none] at h
  exact h.1

theorem step_live {a : Act} (h : w.step debounce a = some w') : w.live = true := by
  unfold WatchLoop.step at h
  split_ifs at h with hlive
  exact hlive

theorem step_deliver (h : w.step debounce .deliver = some w') :
    ∃ ev rest, w.st.outbox = ev :: rest ∧
      w' = { w with st := { w.st with outbox := rest }, sent := w.sent ++ [ev] } := by
  have hlive := step_live h
  unfold WatchLoop.step at h
  rw [if_pos hlive] at h
  rcases ho : w.st.outbox with - | ⟨ev, rest⟩ <;> rw [ho] at h
  · exact absurd h (by simp)
  · exact ⟨ev, rest, rfl, (Option.some.inj h).symm⟩

theorem step_bus {recv : Recv} (h : w.step debounce (.bus recv) = some w') :
    w' = { w with st := (w.st.onBus recv).1, live := (w.st.onBus recv).2 } := by
  have hlive := step_live h
  unfold WatchLoop.step at h
  rw [if_pos hlive] at h
  exact (Option.some.inj h).symm

theorem step_startRead {now : ℕ} (h : w.step debounce (.startRead now) = some w') :
    w.st.rereadWanted = true ∧ w.st.lastList + debounce ≤ now ∧
      w' = { w with st := w.st.startRead now } := by
  have hlive := step_live h
  unfold WatchLoop.step at h
  rw [if_pos hlive] at h
  simp only [Option.ite_none_right_eq_some, Bool.and_eq_true, decide_eq_true_eq] at h
  obtain ⟨⟨hw, hdue⟩, h⟩ := h
  exact ⟨hw, hdue, (Option.some.inj h).symm⟩

theorem step_finishRead {read : ReadResult} (h : w.step debounce (.finishRead read) = some w') :
    ∃ flight, w.st.reading = some flight ∧ w' = { w with st := w.st.finishRead flight read } := by
  have hlive := step_live h
  unfold WatchLoop.step at h
  rw [if_pos hlive] at h
  rcases hr : w.st.reading with - | flight <;> simp only [hr] at h
  · exact absurd h (by simp)
  · exact ⟨flight, rfl, (Option.some.inj h).symm⟩

theorem step_stop (h : w.step debounce .stop = some w') : w' = { w with live := false } := by
  have hlive := step_live h
  unfold WatchLoop.step at h
  rw [if_pos hlive] at h
  exact (Option.some.inj h).symm

/-- Everything a turn can do. -/
theorem step_cases {a : Act} (h : w.step debounce a = some w') :
    (a = .deliver ∧ ∃ ev rest, w.st.outbox = ev :: rest ∧
        w' = { w with st := { w.st with outbox := rest }, sent := w.sent ++ [ev] }) ∨
      (∃ recv, a = .bus recv ∧
        w' = { w with st := (w.st.onBus recv).1, live := (w.st.onBus recv).2 }) ∨
      (∃ now, a = .startRead now ∧ w.st.rereadWanted = true ∧ w.st.lastList + debounce ≤ now ∧
        w' = { w with st := w.st.startRead now }) ∨
      (∃ read flight, a = .finishRead read ∧ w.st.reading = some flight ∧
        w' = { w with st := w.st.finishRead flight read }) ∨
      (a = .stop ∧ w' = { w with live := false }) := by
  rcases a with - | recv | now | read | -
  · exact Or.inl ⟨rfl, step_deliver h⟩
  · exact Or.inr (Or.inl ⟨recv, rfl, step_bus h⟩)
  · exact Or.inr (Or.inr (Or.inl ⟨now, rfl, step_startRead h⟩))
  · obtain ⟨flight, hr, he⟩ := step_finishRead h
    exact Or.inr (Or.inr (Or.inr (Or.inl ⟨read, flight, rfl, hr, he⟩)))
  · exact Or.inr (Or.inr (Or.inr (Or.inr ⟨rfl, step_stop h⟩)))

end

/-! ### Held rows stand under their own pane -/

section
variable {st : WatchState} {debounce : ℕ} {w w' : WatchLoop} {a : Act}

/-- A status event keeps the row's pane. -/
theorem paneId_of_applyStatus {held : Held} {ev : AgentStatusChanged} {msg : AgentMsg}
    (h : applyStatus held ev = some msg) :
    ∃ row, held.lookup ev.pane = some row ∧ msg.paneId = row.paneId := by
  unfold applyStatus at h
  rcases hrow : held.lookup ev.pane with - | row
  · simp [hrow] at h
  · rcases hkind : ev.kind with - | kind
    · simp [hrow, hkind] at h
    · rcases htab : ev.tab with - | tab
      · simp [hrow, hkind, htab] at h
      · rw [hrow, hkind, htab] at h
        simp only [Option.ite_none_left_eq_some, Option.some.injEq] at h
        exact ⟨row, rfl, by rw [← h.2]⟩

theorem keyed_hold (list : AgentList) : Keyed AgentMsg.paneId (hold list) :=
  keyed_empty.insertAll _

theorem keyed_reconcile {held : Held} (h : Keyed AgentMsg.paneId held) (fresh : AgentList)
    (defer : Finset ℕ) : Keyed AgentMsg.paneId (reconcile held fresh defer).1 :=
  h.keepAll (keyed_empty.insertAll _) _

theorem keyed_onBus (h : Keyed AgentMsg.paneId st.held) (recv : Recv) :
    Keyed AgentMsg.paneId (st.onBus recv).1.held := by
  rcases recv with (n | -) | (ev | ⟨ws, tab⟩ | pane | -)
  · exact h
  · exact h
  · show Keyed AgentMsg.paneId (st.onStatus ev).held
    rcases hs : applyStatus st.held ev with - | msg
    · rw [onStatus_none hs]
      exact h
    · rw [onStatus_some hs]
      exact h.insert msg
  · exact h
  · exact h.erase pane
  · exact h

theorem keyed_finishRead (h : Keyed AgentMsg.paneId st.held) (flight : InFlight)
    (read : ReadResult) : Keyed AgentMsg.paneId (st.finishRead flight read).held := by
  rcases read with failure | snapshots
  · exact h
  · rcases hre : flight.resnapshot
    · rw [finishRead_reconcile hre]
      exact keyed_reconcile h _ _
    · rw [finishRead_snapshot hre]
      exact keyed_hold _

theorem keyed_step (h : Keyed AgentMsg.paneId w.st.held) (hw : w.step debounce a = some w') :
    Keyed AgentMsg.paneId w'.st.held := by
  obtain ⟨-, ev, rest, -, rfl⟩ | ⟨recv, -, rfl⟩ | ⟨now, -, -, -, rfl⟩ |
    ⟨read, flight, -, -, rfl⟩ | ⟨-, rfl⟩ := step_cases hw
  · exact h
  · exact keyed_onBus h recv
  · exact h
  · exact keyed_finishRead h flight read
  · exact h

end

end MuxrCore.Grpc.Watch.State
