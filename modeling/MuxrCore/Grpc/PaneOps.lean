import MuxrCore.Grpc.Route
import MuxrCore.Lib.Runs
import MuxrCore.Multiplexer.Zellij
import MuxrCore.Relay.View

/-! # Acknowledging a fullscreen toggle

A `TogglePaneFullscreen` that is routed to a relay waits on a one-shot channel for the relay's
outcome, for a while. The relay takes the command at some later time, looks whether the caller has
given up, resolves the toggle, looks once more, and sends the actions one by one; then it replies.

A wait that runs out is two steps: the timer is read when the channel was found empty, and the
receiver is dropped after that. In between the relay may take any of its steps.

* `Kept`: an acknowledgement is `ok` if the sequence was sent, and `ok:false` if nothing was.
* `Prompt`: the steps after which the acknowledgement and the effect agree: no wait runs out on a
  toggle the relay is already committed to, and no sequence breaks off.
* `acknowledged_iff`: an answered toggle is acknowledged rightly in exactly the runs of such steps. -/

namespace MuxrCore.Grpc.PaneOps

open MuxrCore.Grpc.Route MuxrCore.Lib.Runs MuxrCore.Multiplexer.Zellij MuxrCore.Relay.Control
  MuxrCore.Relay.View

/-- How the wait for the relay's reply ends. -/
inductive Awaited
  | replied (outcome : Except String Unit)
  | cancelled
  | elapsed
  deriving DecidableEq

def refused (error : String) : ProtoAck := ⟨false, error, ""⟩

def droppedMessage : String :=
  "relay connection dropped the fullscreen toggle before applying it"

def elapsedMessage : String :=
  "timed out waiting for the relay to apply the fullscreen toggle"

/-- The acknowledgement of a routed toggle. -/
def awaitToggleReply (info : String) : Awaited → ProtoAck
  | .replied (.ok ()) => routed info
  | .replied (.error message) => refused message
  | .cancelled => refused droppedMessage
  | .elapsed => refused elapsedMessage

/-- A routed toggle: what was asked, what the relay tracks and reads when it gets to it, and which
of the sends the connection takes. -/
structure Toggle where
  pane : PaneRef
  hint : Option FloatingHint
  info : String
  view : RelayTabView
  live : LiveQuery
  accepts : ℕ → Bool

def Toggle.resolve (q : Toggle) : Except String AppliedToggle :=
  resolveToggleTarget q.pane q.hint q.view q.live

/-- The actions of a resolved toggle. -/
def actions (resolved : AppliedToggle) : List Action :=
  fullscreenActions (toPaneId resolved.pane) resolved.hint

/-- Where the RPC is. -/
inductive Rpc
  | routing
  | waiting
  /-- the timer has been read, and the receiver is about to be dropped -/
  | elapsed
  | answered (ack : ProtoAck)
  /-- the caller went away -/
  | gone
  deriving DecidableEq

/-- Where the relay is with the command. -/
inductive Relay
  | idle
  | queued
  /-- the command was dropped unapplied -/
  | dropped
  | dequeued
  | resolving
  | resolved (resolved : AppliedToggle)
  | sending (rest : List Action)
  | replying (outcome : Except String Unit)
  | replied
  deriving DecidableEq

/-- What is in the reply channel. -/
inductive Reply
  | empty
  | sent (outcome : Except String Unit)
  | dropped
  deriving DecidableEq

structure State where
  rpc : Rpc
  relay : Relay
  reply : Reply
  receiverClosed : Bool
  /-- the relay has found the receiver open after the resolution -/
  committed : Bool
  /-- the actions that were sent, in order -/
  sent : List Action
  deriving DecidableEq

def init : State := ⟨.routing, .idle, .empty, false, false, []⟩

inductive Act
  | queue | elapse | timeout | read | hangUp
  | drop | dequeue | checkBefore | resolve | checkAfter | send | applied | reply
  deriving DecidableEq, Repr

/-- One step of the RPC or of the relay. -/
inductive Step (q : Toggle) : State → Act → State → Prop
  | queue {s : State} (h : s.rpc = .routing) (hi : s.relay = .idle) :
      Step q s .queue { s with rpc := .waiting, relay := .queued }
  | read {s : State} {outcome : Except String Unit} (h : s.rpc = .waiting)
      (hr : s.reply = .sent outcome) :
      Step q s .read { s with
        rpc := .answered (awaitToggleReply q.info (.replied outcome)), receiverClosed := true }
  | readDropped {s : State} (h : s.rpc = .waiting) (hr : s.reply = .dropped) :
      Step q s .read { s with
        rpc := .answered (awaitToggleReply q.info .cancelled), receiverClosed := true }
  /-- The reply is polled before the timer is. -/
  | elapse {s : State} (h : s.rpc = .waiting) (hr : s.reply = .empty) :
      Step q s .elapse { s with rpc := .elapsed }
  | timeout {s : State} (h : s.rpc = .elapsed) :
      Step q s .timeout { s with
        rpc := .answered (awaitToggleReply q.info .elapsed), receiverClosed := true }
  | hangUp {s : State} (h : s.rpc = .waiting) :
      Step q s .hangUp { s with rpc := .gone, receiverClosed := true }
  /-- The relay ends before it takes the command, or is a viewer's. -/
  | drop {s : State} (h : s.relay = .queued) :
      Step q s .drop { s with relay := .dropped, reply := .dropped }
  | dequeue {s : State} (h : s.relay = .queued) : Step q s .dequeue { s with relay := .dequeued }
  | abandonedBefore {s : State} (h : s.relay = .dequeued) (hc : s.receiverClosed = true) :
      Step q s .checkBefore { s with relay := .replying (.error (abandonedMessage q.pane)) }
  | checkBefore {s : State} (h : s.relay = .dequeued) (hc : s.receiverClosed = false) :
      Step q s .checkBefore { s with relay := .resolving }
  | resolve {s : State} {resolved : AppliedToggle} (h : s.relay = .resolving)
      (hr : q.resolve = .ok resolved) : Step q s .resolve { s with relay := .resolved resolved }
  | refuse {s : State} {refusal : String} (h : s.relay = .resolving)
      (hr : q.resolve = .error refusal) :
      Step q s .resolve { s with relay := .replying (.error refusal) }
  | abandonedAfter {s : State} {resolved : AppliedToggle} (h : s.relay = .resolved resolved)
      (hc : s.receiverClosed = true) :
      Step q s .checkAfter { s with relay := .replying (.error (abandonedMessage q.pane)) }
  | checkAfter {s : State} {resolved : AppliedToggle} (h : s.relay = .resolved resolved)
      (hc : s.receiverClosed = false) :
      Step q s .checkAfter { s with relay := .sending (actions resolved), committed := true }
  | send {s : State} {a : Action} {rest : List Action} (h : s.relay = .sending (a :: rest))
      (ha : q.accepts s.sent.length = true) :
      Step q s .send { s with relay := .sending rest, sent := s.sent ++ [a] }
  | sendFails {s : State} {a : Action} {rest : List Action} (h : s.relay = .sending (a :: rest))
      (ha : q.accepts s.sent.length = false) :
      Step q s .send { s with relay := .replying (.error (notSentMessage q.pane)) }
  | applied {s : State} (h : s.relay = .sending []) :
      Step q s .applied { s with relay := .replying (.ok ()) }
  | reply {s : State} {outcome : Except String Unit} (h : s.relay = .replying outcome)
      (hc : s.receiverClosed = false) :
      Step q s .reply { s with relay := .replied, reply := .sent outcome }
  | replyUnread {s : State} {outcome : Except String Unit} (h : s.relay = .replying outcome)
      (hc : s.receiverClosed = true) : Step q s .reply { s with relay := .replied }

variable {q : Toggle} {s t : State} {a : Act} {as : List Act}

/-! ### What every run keeps -/

/-- The whole sequence of the toggle was sent, once. -/
def Toggle.Complete (q : Toggle) (sent : List Action) : Prop :=
  ∃ resolved, q.resolve = .ok resolved ∧ sent = actions resolved

/-- The relay is through with the command. -/
def Relay.Over (relay : Relay) : Prop := relay = .dropped ∨ relay = .replied

/-- The toggle sends nothing: the relay was not committed to it, or its first send failed. -/
def Silent (q : Toggle) (s : State) : Prop := s.committed = false ∨ q.accepts 0 = false

/-- What was sent, by where the relay is. -/
def Progress (q : Toggle) (s : State) : Relay → Prop
  | .idle | .queued | .dropped | .dequeued | .resolving => s.committed = false
  | .resolved resolved => s.committed = false ∧ q.resolve = .ok resolved
  | .sending rest => s.committed = true ∧
      ∃ resolved, q.resolve = .ok resolved ∧ s.sent ++ rest = actions resolved
  | .replying (.ok ()) => q.Complete s.sent
  | .replying (.error _) => s.sent = [] → Silent q s
  | .replied => s.sent = [] → Silent q s

structure Inv (q : Toggle) (s : State) : Prop where
  progress : Progress q s s.relay
  silent : Silent q s → s.sent = []
  told : s.reply = .sent (.ok ()) → q.Complete s.sent
  finished : s.reply ≠ .empty → s.relay.Over
  dropped : s.reply = .dropped → s.relay = .dropped
  queued : s.rpc = .routing → s.relay = .idle
  answered : ∀ ack, s.rpc = .answered ack → s.receiverClosed = true ∧
    (ack.ok = true → q.Complete s.sent ∧ s.relay.Over)

theorem complete_ne_nil {sent : List Action} (h : q.Complete sent) : sent ≠ [] := by
  obtain ⟨resolved, -, rfl⟩ := h
  exact fullscreenActions_ne_nil _ _

theorem inv_init : Inv q init where
  progress := rfl
  silent _ := rfl
  told h := by simp [init] at h
  finished h := by simp [init] at h
  dropped h := by simp [init] at h
  queued _ := rfl
  answered ack h := by simp [init] at h

/-- A step of the RPC keeps it: only the answer changes, and it is read from the channel. -/
theorem inv_rpc {rpc : Rpc} {closed : Bool} (hI : Inv q s) (hq : rpc ≠ .routing)
    (hack : ∀ ack, rpc = .answered ack → closed = true ∧
      (ack.ok = true → s.reply = .sent (.ok ()))) :
    Inv q { s with rpc := rpc, receiverClosed := closed } where
  progress := hI.progress
  silent := hI.silent
  told := hI.told
  finished := hI.finished
  dropped := hI.dropped
  queued h := absurd h hq
  answered ack h := by
    obtain ⟨hc, hok⟩ := hack ack h
    exact ⟨hc, fun ho => ⟨hI.told (hok ho), hI.finished (by simp [hok ho])⟩⟩

theorem reply_empty (hI : Inv q s) (ho : ¬ s.relay.Over) : s.reply = .empty := by
  by_contra he
  exact ho (hI.finished he)

/-- A step of the relay that sends nothing keeps it. -/
theorem inv_relay {relay : Relay} {committed : Bool} (hI : Inv q s) (ho : ¬ s.relay.Over)
    (hidle : s.relay ≠ .idle) (hp : Progress q { s with committed := committed } relay)
    (hs : Silent q { s with committed := committed } → s.sent = []) :
    Inv q { s with relay := relay, committed := committed } := by
  have hempty := reply_empty hI ho
  refine ⟨?_, hs, hI.told, fun he => absurd hempty he, fun hd => ?_, fun hr => ?_, ?_⟩
  · rcases relay with _ | _ | _ | _ | _ | _ | _ | (_ | _) | _ <;> exact hp
  · exact absurd (hempty.symm.trans hd) (by simp)
  · exact absurd (hI.queued hr) hidle
  · intro ack hack
    obtain ⟨hc, hok⟩ := hI.answered ack hack
    exact ⟨hc, fun h => absurd (hok h).2 ho⟩

/-- Before the relay commits, nothing was sent. -/
theorem sent_of_uncommitted (hI : Inv q s) (h : s.committed = false) : s.sent = [] :=
  hI.silent (Or.inl h)

theorem inv_step (hI : Inv q s) (ht : Step q s a t) : Inv q t := by
  have hP := hI.progress
  cases ht with
  | queue h hi =>
    rw [hi] at hP
    refine ⟨hP, hI.silent, hI.told, fun he => ?_, fun hd => ?_, by simp, by simp⟩
    · rcases hI.finished he with ho | ho <;> exact absurd (hi.symm.trans ho) (by simp)
    · exact absurd (hi.symm.trans (hI.dropped hd)) (by simp)
  | @read outcome h hr =>
    refine inv_rpc hI (by simp) fun ack hack => ⟨rfl, fun hok => ?_⟩
    cases hack
    rcases outcome with message | _
    · exact absurd hok (by simp [awaitToggleReply, refused])
    · exact hr
  | readDropped h hr =>
    refine inv_rpc hI (by simp) fun ack hack => ⟨rfl, fun hok => ?_⟩
    cases hack
    exact absurd hok (by simp [awaitToggleReply, refused])
  | elapse h hr => exact inv_rpc hI (by simp) (by simp)
  | timeout h =>
    refine inv_rpc hI (by simp) fun ack hack => ⟨rfl, fun hok => ?_⟩
    cases hack
    exact absurd hok (by simp [awaitToggleReply, refused])
  | hangUp h => exact inv_rpc hI (by simp) (by simp)
  | drop h =>
    rw [h] at hP
    refine ⟨hP, hI.silent, by simp, fun _ => Or.inl rfl, fun _ => rfl, fun hr => ?_, ?_⟩
    · exact absurd (h.symm.trans (hI.queued hr)) (by simp)
    · intro ack hack
      obtain ⟨hc, hok⟩ := hI.answered ack hack
      exact ⟨hc, fun ho => ⟨(hok ho).1, Or.inl rfl⟩⟩
  | dequeue h =>
    rw [h] at hP
    exact inv_relay hI (by simp [h, Relay.Over]) (by simp [h]) hP hI.silent
  | abandonedBefore h hc =>
    rw [h] at hP
    exact inv_relay hI (by simp [h, Relay.Over]) (by simp [h]) (fun _ => Or.inl hP) hI.silent
  | checkBefore h hc =>
    rw [h] at hP
    exact inv_relay hI (by simp [h, Relay.Over]) (by simp [h]) hP hI.silent
  | resolve h hr =>
    rw [h] at hP
    exact inv_relay hI (by simp [h, Relay.Over]) (by simp [h]) ⟨hP, hr⟩ hI.silent
  | refuse h hr =>
    rw [h] at hP
    exact inv_relay hI (by simp [h, Relay.Over]) (by simp [h]) (fun _ => Or.inl hP) hI.silent
  | abandonedAfter h hc =>
    rw [h] at hP
    exact inv_relay hI (by simp [h, Relay.Over]) (by simp [h]) (fun _ => Or.inl hP.1) hI.silent
  | checkAfter h hc =>
    rw [h] at hP
    have hs : s.sent = [] := sent_of_uncommitted hI hP.1
    exact inv_relay hI (by simp [h, Relay.Over]) (by simp [h])
      ⟨rfl, _, hP.2, by simp [hs]⟩ fun _ => hs
  | send h ha =>
    rw [h] at hP
    obtain ⟨hcom, resolved, hres, hrest⟩ := hP
    have hno : ¬ s.relay.Over := by simp [h, Relay.Over]
    have hempty := reply_empty hI hno
    refine ⟨⟨hcom, resolved, hres, by simpa using hrest⟩, fun hs => ?_, fun hd => ?_,
      fun he => absurd hempty he, fun hd => ?_, fun hr => ?_, fun ack hack => ?_⟩
    · rcases hs with hs | hs
      · exact absurd (hcom.symm.trans hs) (by simp)
      · rw [hI.silent (Or.inr hs)] at ha
        exact absurd (ha.symm.trans hs) (by simp)
    · exact absurd (hempty.symm.trans hd) (by simp)
    · exact absurd (hempty.symm.trans hd) (by simp)
    · exact absurd (h.symm.trans (hI.queued hr)) (by simp)
    · obtain ⟨hc, hok⟩ := hI.answered ack hack
      exact ⟨hc, fun ho => absurd (hok ho).2 hno⟩
  | sendFails h ha =>
    refine inv_relay hI (by simp [h, Relay.Over]) (by simp [h]) (fun hs => ?_) hI.silent
    -- the first send failed
    rw [show s.sent = [] from hs] at ha
    exact Or.inr ha
  | applied h =>
    rw [h] at hP
    obtain ⟨-, resolved, hres, hrest⟩ := hP
    exact inv_relay hI (by simp [h, Relay.Over]) (by simp [h])
      ⟨resolved, hres, by simpa using hrest⟩ hI.silent
  | @reply outcome h hc =>
    rw [h] at hP
    refine ⟨fun hs => ?_, hI.silent, fun hd => ?_, fun _ => Or.inr rfl, by simp, fun hr => ?_,
      fun ack hack => ?_⟩
    · rcases outcome with message | _
      · exact hP hs
      · exact absurd hs (complete_ne_nil hP)
    · cases hd
      exact hP
    · exact absurd (h.symm.trans (hI.queued hr)) (by simp)
    · exact absurd (hc.symm.trans (hI.answered ack hack).1) (by simp)
  | @replyUnread outcome h hc =>
    rw [h] at hP
    refine inv_relay hI (by simp [h, Relay.Over]) (by simp [h]) (fun hs => ?_) hI.silent
    rcases outcome with message | _
    · exact hP hs
    · exact absurd hs (complete_ne_nil hP)

theorem inv_run (hr : Run (Step q) init as s) : Inv q s :=
  hr.invariant (I := Inv q) (fun _ _ _ => inv_step) inv_init

/-! ### Agreement -/

/-- The acknowledgement agrees with the effect: the whole sequence was sent, once, or nothing was. -/
def Kept (q : Toggle) (s : State) : Prop :=
  ∀ ack, s.rpc = .answered ack → if ack.ok then q.Complete s.sent else s.sent = []

/-- The step is prompt: the receiver is not dropped on timeout while the relay is committed to the
toggle, unless the first send fails, and a sequence that was begun does not break off. -/
def Prompt (q : Toggle) (s : State) : Act → Prop
  | .timeout => Silent q s
  | .send => s.sent ≠ [] → q.accepts s.sent.length = true
  | _ => True

/-- In prompt runs a failure is one with nothing sent. -/
structure Fair (q : Toggle) (s : State) : Prop where
  failed : ∀ message, s.relay = .replying (.error message) → s.sent = []
  told : ∀ message, s.reply = .sent (.error message) → s.sent = []
  refused : ∀ ack, s.rpc = .answered ack → ack.ok = false →
    s.sent = [] ∧ (s.relay.Over ∨ Silent q s)

/-- Before the relay is through with the command, a refused toggle stays silent. -/
theorem silent_of_refused (hF : Fair q s) (ho : ¬ s.relay.Over) {ack : ProtoAck}
    (hack : s.rpc = .answered ack) (hok : ack.ok = false) : Silent q s :=
  ((hF.refused ack hack hok).2).resolve_left ho

/-- A step of the RPC keeps it. -/
theorem fair_rpc {rpc : Rpc} {closed : Bool} (hF : Fair q s)
    (hack : ∀ ack, rpc = .answered ack → ack.ok = false →
      s.sent = [] ∧ (s.relay.Over ∨ Silent q s)) :
    Fair q { s with rpc := rpc, receiverClosed := closed } :=
  ⟨hF.failed, hF.told, hack⟩

/-- A step of the relay that sends nothing, and takes it not to the end, keeps it. -/
theorem fair_relay {relay : Relay} (hF : Fair q s) (ho : ¬ s.relay.Over)
    (hfail : ∀ message, relay = .replying (.error message) → s.sent = []) :
    Fair q { s with relay := relay } where
  failed := hfail
  told := hF.told
  refused ack hack hok :=
    ⟨(hF.refused ack hack hok).1, Or.inr (show Silent q s from silent_of_refused hF ho hack hok)⟩

theorem fair_step (hI : Inv q s) (hF : Fair q s) (hp : Prompt q s a) (ht : Step q s a t) :
    Fair q t := by
  have hP := hI.progress
  cases ht with
  | queue h hi => exact ⟨by simp, hF.told, by simp⟩
  | @read outcome h hr =>
    refine fair_rpc hF fun ack hack hok => ?_
    cases hack
    rcases outcome with message | _
    · exact ⟨hF.told message hr, Or.inl (hI.finished (by simp [hr]))⟩
    · exact absurd hok (by simp [awaitToggleReply, routed])
  | readDropped h hr =>
    refine fair_rpc hF fun ack _ _ => ?_
    rw [hI.dropped hr] at hP
    exact ⟨sent_of_uncommitted hI hP, Or.inr (Or.inl hP)⟩
  | elapse h hr => exact fair_rpc hF (by simp)
  | timeout h => exact fair_rpc hF fun ack _ _ => ⟨hI.silent hp, Or.inr hp⟩
  | hangUp h => exact fair_rpc hF (by simp)
  | drop h =>
    refine ⟨by simp, by simp, fun ack hack hok => ?_⟩
    exact ⟨(hF.refused ack hack hok).1, Or.inl (Or.inl rfl)⟩
  | dequeue h => exact fair_relay hF (by simp [h, Relay.Over]) (by simp)
  | abandonedBefore h hc =>
    rw [h] at hP
    exact fair_relay hF (by simp [h, Relay.Over]) fun _ _ => sent_of_uncommitted hI hP
  | checkBefore h hc => exact fair_relay hF (by simp [h, Relay.Over]) (by simp)
  | resolve h hr => exact fair_relay hF (by simp [h, Relay.Over]) (by simp)
  | refuse h hr =>
    rw [h] at hP
    exact fair_relay hF (by simp [h, Relay.Over]) fun _ _ => sent_of_uncommitted hI hP
  | abandonedAfter h hc =>
    rw [h] at hP
    exact fair_relay hF (by simp [h, Relay.Over]) fun _ _ => sent_of_uncommitted hI hP.1
  | checkAfter h hc =>
    -- an answered RPC has dropped its receiver, so the relay does not commit
    refine ⟨by simp, hF.told, fun ack hack hok => ?_⟩
    exact absurd (hc.symm.trans (hI.answered ack hack).1) (by simp)
  | send h ha =>
    have hno : ¬ s.relay.Over := by simp [h, Relay.Over]
    refine ⟨by simp, fun message hm => ?_, fun ack hack hok => ?_⟩
    · exact absurd ((reply_empty hI hno).symm.trans hm) (by simp)
    · have hs := silent_of_refused hF hno hack hok
      rw [h] at hP
      rcases hs with hs | hs
      · exact absurd (hP.1.symm.trans hs) (by simp)
      · rw [hI.silent (Or.inr hs)] at ha
        exact absurd (ha.symm.trans hs) (by simp)
  | sendFails h ha =>
    refine fair_relay hF (by simp [h, Relay.Over]) fun _ _ => ?_
    by_contra hs
    exact absurd (ha.symm.trans (hp hs)) (by simp)
  | applied h => exact fair_relay hF (by simp [h, Relay.Over]) (by simp)
  | @reply outcome h hc =>
    refine ⟨by simp, fun message hm => ?_, fun ack hack hok => ?_⟩
    · cases hm
      exact hF.failed message h
    · exact absurd (hc.symm.trans (hI.answered ack hack).1) (by simp)
  | replyUnread h hc =>
    exact ⟨by simp, hF.told, fun ack hack hok =>
      ⟨(hF.refused ack hack hok).1, Or.inl (Or.inr rfl)⟩⟩

theorem fair_init : Fair q init := ⟨by simp [init], by simp [init], by simp [init]⟩

theorem fair_run (hr : Run (Step q) init as s)
    (hC : Along (Step q) (fun _ => Prompt q) init as) : Fair q s :=
  hr.history_along (I := fun _ => Fair q)
    (fun _ _ _ _ hu hF hp ht => fair_step (inv_run hu) hF hp ht) fair_init hC

theorem kept_of_fair (hI : Inv q s) (hF : Fair q s) : Kept q s := by
  intro ack hack
  rcases hok : ack.ok with - | -
  · exact (hF.refused ack hack hok).1
  · exact ((hI.answered ack hack).2 hok).1

/-! ### The runs that go wrong -/

/-- The toggle is answered `ok:false` if it is answered at all, and it sends something: it was
answered when the relay was committed to it, or its sequence broke off. -/
structure Amiss (q : Toggle) (s : State) : Prop where
  refused : ∀ ack, s.rpc = .answered ack → ack.ok = false
  told : (∃ ack, s.rpc = .answered ack) ∨ s.reply ≠ .sent (.ok ())
  sends : (¬ Silent q s ∧ ∃ ack, s.rpc = .answered ack) ∨
    (s.sent ≠ [] ∧ ((∃ message, s.relay = .replying (.error message)) ∨ s.relay = .replied))

/-- A step that is not prompt leads there. -/
theorem amiss_of_late (hI : Inv q s) (hp : ¬ Prompt q s a) (ht : Step q s a t) : Amiss q t := by
  cases ht with
  | timeout h =>
    refine ⟨fun ack hack => ?_, Or.inl ⟨_, rfl⟩, Or.inl ⟨hp, _, rfl⟩⟩
    cases hack
    rfl
  | send h ha => exact absurd (fun _ => ha) hp
  | sendFails h ha =>
    have hno : ¬ s.relay.Over := by simp [h, Relay.Over]
    have hs : s.sent ≠ [] := by
      intro hs
      exact hp fun hne => absurd hs hne
    refine ⟨fun ack hack => ?_, Or.inr fun hr => ?_, Or.inr ⟨hs, Or.inl ⟨_, rfl⟩⟩⟩
    · rcases hok : ack.ok with - | -
      · rfl
      · exact absurd ((hI.answered ack hack).2 hok).2 hno
    · exact absurd ((reply_empty hI hno).symm.trans hr) (by simp)
  | _ => exact absurd trivial hp

/-- A step of a waiting RPC stays there: nothing good can be read. -/
theorem amiss_rpc {rpc : Rpc} {closed : Bool} (hA : Amiss q s) (hw : ∀ ack, s.rpc ≠ .answered ack)
    (href : s.reply ≠ .sent (.ok ()) → ∀ ack, rpc = .answered ack → ack.ok = false) :
    Amiss q { s with rpc := rpc, receiverClosed := closed } := by
  have hreply : s.reply ≠ .sent (.ok ()) := hA.told.resolve_left fun ⟨ack, h⟩ => hw ack h
  exact ⟨href hreply, Or.inr hreply, Or.inr (hA.sends.resolve_left fun ⟨_, ack, h⟩ => hw ack h)⟩

/-- Before the relay replies it is the answer that was wrong. -/
theorem late_of_amiss (hA : Amiss q s) (he : ∀ message, s.relay ≠ .replying (.error message))
    (hr : s.relay ≠ .replied) : ¬ Silent q s ∧ ∃ ack, s.rpc = .answered ack := by
  rcases hA.sends with h | ⟨-, ⟨message, h⟩ | h⟩
  · exact h
  · exact absurd h (he message)
  · exact absurd h hr

theorem amiss_step (hA : Amiss q s) (ht : Step q s a t) : Amiss q t := by
  cases ht with
  | queue h hi =>
    have hrelay : ¬ ((∃ message, s.relay = .replying (.error message)) ∨ s.relay = .replied) := by
      simp [hi]
    rcases hA.sends with ⟨-, ack, hack⟩ | ⟨-, hsends⟩
    · exact absurd (h.symm.trans hack) (by simp)
    · exact absurd hsends hrelay
  | @read outcome h hr =>
    refine amiss_rpc hA (by simp [h]) fun hreply ack hack => ?_
    cases hack
    rcases outcome with message | _
    · rfl
    · exact absurd hr hreply
  | readDropped h hr =>
    refine amiss_rpc hA (by simp [h]) fun _ ack hack => ?_
    cases hack
    rfl
  | elapse h hr => exact amiss_rpc hA (by simp [h]) (by simp)
  | timeout h =>
    refine amiss_rpc hA (by simp [h]) fun _ ack hack => ?_
    cases hack
    rfl
  | hangUp h => exact amiss_rpc hA (by simp [h]) (by simp)
  | checkAfter h hc =>
    obtain ⟨hs, hack⟩ := late_of_amiss hA (by simp [h]) (by simp [h])
    exact ⟨hA.refused, Or.inl hack, Or.inl ⟨fun hq => hs (Or.inr (hq.resolve_left (by simp))), hack⟩⟩
  | @reply outcome h hc =>
    refine ⟨hA.refused, ?_, ?_⟩
    · rcases hA.sends with ⟨-, hack⟩ | ⟨-, ⟨message, hm⟩ | hm⟩
      · exact Or.inl hack
      · cases h.symm.trans hm
        exact Or.inr (by simp)
      · exact absurd (h.symm.trans hm) (by simp)
    · exact hA.sends.imp_right fun hs => ⟨hs.1, Or.inr rfl⟩
  | replyUnread h hc =>
    exact ⟨hA.refused, hA.told, hA.sends.imp_right fun hs => ⟨hs.1, Or.inr rfl⟩⟩
  | drop h | dequeue h | abandonedBefore h _ | checkBefore h _ | resolve h _ | refuse h _
  | abandonedAfter h _ | send h _ | sendFails h _ | applied h =>
    obtain ⟨hs, hack⟩ := late_of_amiss hA (by simp [h]) (by simp [h])
    exact ⟨hA.refused, Or.inl hack, Or.inl ⟨hs, hack⟩⟩

/-- A toggle that was answered `ok:false` and sent something is not acknowledged rightly. -/
theorem not_kept {ack : ProtoAck} (hack : s.rpc = .answered ack) (hok : ack.ok = false)
    (hs : s.sent ≠ []) : ¬ Kept q s := by
  intro hk
  have h := hk ack hack
  rw [hok] at h
  exact hs h

/-- Once the relay is through with it, an answered toggle that went amiss is not acknowledged
rightly. -/
theorem not_kept_of_amiss (hI : Inv q s) (hA : Amiss q s) (ho : s.relay.Over) {ack : ProtoAck}
    (hack : s.rpc = .answered ack) : ¬ Kept q s := by
  have hs : s.sent ≠ [] := by
    intro hs
    have hP := hI.progress
    rcases hA.sends with ⟨hsilent, -⟩ | ⟨hne, -⟩
    · rcases ho with ho | ho
      · rw [ho] at hP
        exact hsilent (Or.inl hP)
      · rw [ho] at hP
        exact hsilent (hP hs)
    · exact hne hs
  exact not_kept hack (hA.refused ack hack) hs

/-- Each step has one outcome. -/
theorem Step.unique {t' : State} (h : Step q s a t) (h' : Step q s a t') : t = t' := by
  cases h <;> cases h' <;> simp_all

/-- **The acknowledgement of a toggle agrees with its effect in every run of prompt steps**: `ok` is
answered only if the whole sequence was sent, once, and where `ok:false` is answered nothing is ever
sent. An answered toggle the relay is through with is acknowledged rightly in no other run. -/
theorem acknowledged_iff (hr : Run (Step q) init as s) :
    (Along (Step q) (fun _ => Prompt q) init as → Kept q s) ∧
    (s.relay.Over → (∃ ack, s.rpc = .answered ack) →
      (Kept q s ↔ Along (Step q) (fun _ => Prompt q) init as)) := by
  have hgood : Along (Step q) (fun _ => Prompt q) init as → Kept q s :=
    fun hC => kept_of_fair (inv_run hr) (fair_run hr hC)
  refine ⟨hgood, fun ho ⟨ack, hack⟩ => ⟨fun hk pre b post u he hu => ?_, hgood⟩⟩
  by_contra hp
  obtain ⟨v, huv, hvs⟩ := run_cons_iff.mp
    (hr.split_of (fun _ _ _ _ ht ht' => ht.unique ht') he hu)
  have hA : Amiss q v := amiss_of_late (inv_run hu) hp huv
  have hAs : Amiss q s := hvs.invariant (I := Amiss q) (fun _ _ _ hA ht => amiss_step hA ht) hA
  exact not_kept_of_amiss (inv_run hr) hAs ho hack hk

/-- A hint that no floating pane is involved. -/
def tiledHint : FloatingHint := ⟨false, false, false⟩

/-- A toggle that enters fullscreen, over a connection that takes the first `sends` sends. -/
def enterToggle (sends : ℕ) : Toggle :=
  ⟨⟨3, false⟩, some tiledHint, perConnectionInfo, ⟨none, none⟩, .failed, fun i => i < sends⟩

/-- The actions that enter fullscreen. -/
def enterActions : List Action := [.focusPaneByPaneId (.terminal 3), .toggleFocusNoUiFullscreen]

/-- The run in which the relay gets to sending before the RPC's timer is read. -/
def committing : List Act := [.queue, .dequeue, .checkBefore, .resolve, .checkAfter]

theorem run_committing (sends : ℕ) : Run (Step (enterToggle sends)) init committing
    ⟨.waiting, .sending enterActions, .empty, false, true, []⟩ :=
  .cons (.queue rfl rfl) (.cons (.dequeue rfl) (.cons (.checkBefore rfl rfl)
    (.cons (.resolve rfl rfl) (.cons (.checkAfter rfl rfl) (.nil _)))))

/-- The timer runs out once the relay has looked for the last time: `ok:false` is answered, and then
both actions are sent. Or the second action fails to send: `ok:false` again, with the first sent. -/
theorem refused_and_sent :
    (∃ s, Run (Step (enterToggle 2)) init
      (committing ++ [Act.elapse, .timeout, .send, .send, .applied, .reply]) s ∧
      s.rpc = .answered (refused elapsedMessage) ∧ s.sent = enterActions ∧
      ¬ Kept (enterToggle 2) s) ∧
    ∃ s, Run (Step (enterToggle 1)) init (committing ++ [Act.send, .send, .reply, .read]) s ∧
      s.rpc = .answered (refused (notSentMessage ⟨3, false⟩)) ∧
      s.sent = [.focusPaneByPaneId (.terminal 3)] ∧ ¬ Kept (enterToggle 1) s := by
  constructor
  · have hr : Run (Step (enterToggle 2)) init
        (committing ++ [Act.elapse, .timeout, .send, .send, .applied, .reply])
        ⟨.answered (refused elapsedMessage), .replied, .empty, true, true, enterActions⟩ :=
      run_append_iff.mpr ⟨_, run_committing 2, .cons (.elapse rfl rfl) (.cons (.timeout rfl)
        (.cons (.send rfl rfl) (.cons (.send rfl rfl) (.cons (.applied rfl)
          (.cons (.replyUnread rfl rfl) (.nil _))))))⟩
    exact ⟨_, hr, rfl, rfl, not_kept rfl rfl (by simp [enterActions])⟩
  · have hr : Run (Step (enterToggle 1)) init (committing ++ [Act.send, .send, .reply, .read])
        ⟨.answered (refused (notSentMessage ⟨3, false⟩)), .replied,
          .sent (.error (notSentMessage ⟨3, false⟩)), true, true,
          [.focusPaneByPaneId (.terminal 3)]⟩ :=
      run_append_iff.mpr ⟨_, run_committing 1, .cons (.send rfl rfl) (.cons (.sendFails rfl rfl)
        (.cons (.reply rfl rfl) (.cons (.read rfl rfl) (.nil _))))⟩
    exact ⟨_, hr, rfl, rfl, not_kept rfl rfl (by simp)⟩

/-- A prompt toggle, acknowledged. -/
theorem acknowledged_iff_entered :
    ∃ s, s.rpc = .answered (routed perConnectionInfo) ∧
      (Along (Step (enterToggle 2)) (fun _ => Prompt (enterToggle 2)) init
          (committing ++ [Act.send, .send, .applied, .reply, .read]) → Kept (enterToggle 2) s) ∧
      (s.relay.Over → (∃ ack, s.rpc = .answered ack) →
        (Kept (enterToggle 2) s ↔ Along (Step (enterToggle 2)) (fun _ => Prompt (enterToggle 2)) init
          (committing ++ [Act.send, .send, .applied, .reply, .read]))) := by
  have hr : Run (Step (enterToggle 2)) init
      (committing ++ [Act.send, .send, .applied, .reply, .read])
      ⟨.answered (routed perConnectionInfo), .replied, .sent (.ok ()), true, true, enterActions⟩ :=
    run_append_iff.mpr ⟨_, run_committing 2, .cons (.send rfl rfl) (.cons (.send rfl rfl)
      (.cons (.applied rfl) (.cons (.reply rfl rfl) (.cons (.read rfl rfl) (.nil _)))))⟩
  exact ⟨_, rfl, acknowledged_iff hr⟩

end MuxrCore.Grpc.PaneOps
