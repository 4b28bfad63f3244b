import MuxrCore.Herdr.Subscribe.Tables
import MuxrCore.Lib.Runs

/-! # The event kernel's session

The kernel keeps two subscriptions at herdr. Connection A reports the panes created and gone;
connection B, which is opened for a list of panes, reports their statuses. herdr replays nothing: a
subscription delivers what happens after it is acked. So A is opened first, and the panes for B are
enumerated while A is read: what A reports meanwhile is folded into the enumeration. Once B is
acked, a listing of the panes brings the tables up to date, and the pump reads both connections
until one of them is lost or a pane is created which B does not cover.

`Step` says what can happen: herdr's panes come, go and change their status; other parts of the
server register panes; the kernel makes a step. Pane ids are not reused, an enumeration lists every
pane that exists throughout it, and a listing reads the status of each such pane at some moment.
Time is left out: every wait may end at once, and every connection may be lost or time out where the
kernel looks. The watchdog's verdicts are such losses. -/

namespace MuxrCore.Herdr.Subscribe.Session

open MuxrCore.Lib.Runs MuxrCore.Lib.Tables MuxrCore.Herdr.Registry
open MuxrCore.Herdr.Subscribe.Lines MuxrCore.Herdr.Subscribe.Tables
open MuxrCore.Herdr.Translate (translatePane_of_some)

/-- herdr's panes: the live ones, those that ever existed, and their statuses. -/
structure World where
  live : List String
  used : List String
  current : String → HerdrAgentStatus

/-- An agent-status subscription: the panes it covers, and the lines not read yet. `resynced` says
that the listing which completes it was taken. -/
structure Watcher where
  panes : List String
  unread : List String
  resynced : Bool

/-- Where the kernel is. -/
inductive Phase
  /-- at the head of the loop, or backing off -/
  | top
  /-- panes that existed when the enumeration started, and the lines read from A since -/
  | enumerating (start buffered : List String)
  | subscribing (paneIds : List String)
  /-- herdr has acked B -/
  | acked (paneIds : List String)
  /-- panes that existed when the listing started, and those listed so far -/
  | resyncing (start : List String) (input : List ResyncPane)
  | pumping
  /-- the lifecycle lines of a burst of creations are discarded -/
  | draining
  | stopped

/-- The lines that the kernel has read from A and holds. -/
def Phase.buffered : Phase → List String
  | .enumerating _ buffered => buffered
  | _ => []

/-- The kernel waits for a line of A, and sees that it is lost. -/
def Phase.ReadsLifecycle : Phase → Prop
  | .enumerating _ _ => True
  | .pumping => True
  | .draining => True
  | _ => False

/-- The kernel brings B up, and may fail. -/
def Phase.Connects : Phase → Prop
  | .enumerating _ _ => True
  | .subscribing _ => True
  | .acked _ => True
  | _ => False

/-- The lifecycle subscription is known by its unread lines. -/
structure State where
  herdr : World
  lifecycle : Option (List String)
  status : Option Watcher
  subscribed : List String
  kernel : Kernel
  phase : Phase

namespace State

/-- Nothing is connected, and nothing is known. -/
def init (h : World) : State := ⟨h, none, none, [], .init, .top⟩

variable (s : State)

/-- The lines of A which the kernel has not used yet. -/
def lines : List String := s.phase.buffered ++ s.lifecycle.getD []

/-- herdr pushes a line on A. -/
def pushLifecycle (line : String) : State :=
  { s with lifecycle := s.lifecycle.map (· ++ [line]) }

/-- herdr pushes a line on B. -/
def pushStatus (line : String) : State :=
  { s with status := s.status.map fun w => { w with unread := w.unread ++ [line] } }

/-- herdr pushes a line about a pane on B, if the subscription covers it. -/
def pushStatusOf (pane line : String) : State :=
  { s with
    status := s.status.map fun w =>
      if pane ∈ w.panes then { w with unread := w.unread ++ [line] } else w }

end State

/-- What can happen; the choices that herdr makes are part of it. -/
inductive Act
  | create (pane line : String) (first : HerdrAgentStatus)
  | close (pane line : String)
  /-- a pane that is gone is reported again -/
  | closeAgain (pane line : String)
  | change (pane line : String) (status : HerdrAgentStatus)
  /-- a line on A about no pane -/
  | otherLifecycle (line : String)
  /-- a line on B that reports no status -/
  | otherStatus (line : String)
  /-- a layout poll, or a read of the agent inventory -/
  | register (pane terminal : String) (refresh : Bool)
  | lifecycleAcked
  | enumerate
  | buffer
  | enumerated (ids : List String)
  /-- the enumeration failed, or herdr rejected the subscription, or did not ack it in time -/
  | failed
  | acked
  | committed
  | listed (p : ResyncPane)
  | resynced
  | resyncFailed
  /-- both connections are up at the head of the loop -/
  | resume
  | pumpLifecycle
  | widen
  | pumpStatus
  | lifecycleLost
  | statusLost
  | discard
  | drained
  | shutdown
  deriving DecidableEq

variable (fromStr : String → Option Value)

/-- White space at the end of a line makes no difference. -/
def Plain (line : String) : Prop :=
  pushedEnvelope fromStr (trimEnd line) = pushedEnvelope fromStr line

/-- **A step**: when something can happen, and what becomes of the state. -/
inductive Step (s : State) : Act → State → Prop
  | create {pane line : String} {first : HerdrAgentStatus} (hp : pane ∉ s.herdr.used)
      (hl : Creates fromStr line pane) (hw : Plain fromStr line) :
      Step s (.create pane line first) (State.pushLifecycle { s with
        herdr := ⟨pane :: s.herdr.live, pane :: s.herdr.used,
          Function.update s.herdr.current pane first⟩ } line)
  | close {pane line : String} (hp : pane ∈ s.herdr.live) (hl : Closes fromStr line pane)
      (hw : Plain fromStr line) :
      Step s (.close pane line) (State.pushLifecycle { s with
        herdr := { s.herdr with live := s.herdr.live.filter (· ≠ pane) } } line)
  | closeAgain {pane line : String} (hp : pane ∈ s.herdr.used) (hd : pane ∉ s.herdr.live)
      (hl : Closes fromStr line pane) (hw : Plain fromStr line) :
      Step s (.closeAgain pane line) (s.pushLifecycle line)
  | change {pane line : String} {status : HerdrAgentStatus} (hp : pane ∈ s.herdr.live)
      (hl : statusReport fromStr (trimEnd line) = some (pane, status)) :
      Step s (.change pane line status) (State.pushStatusOf { s with
        herdr := { s.herdr with current := Function.update s.herdr.current pane status } } pane line)
  | otherLifecycle {line : String} (hl : (lifecycleChange fromStr line).bind PaneChange.pane = none)
      (hs : statusReport fromStr line = none) (hw : Plain fromStr line) :
      Step s (.otherLifecycle line) (s.pushLifecycle line)
  | otherStatus {line : String} (hs : statusReport fromStr (trimEnd line) = none) :
      Step s (.otherStatus line) (s.pushStatus line)
  | register (pane terminal : String) (refresh : Bool) :
      Step s (.register pane terminal refresh) { s with
        kernel := { s.kernel with
          panes := (s.kernel.panes.assignOrGetInner pane terminal refresh).1 } }
  | lifecycleAcked (ht : s.phase = .top) (hl : s.lifecycle = none) :
      Step s .lifecycleAcked { s with lifecycle := some [], status := none, subscribed := [] }
  | enumerate (ht : s.phase = .top) (hl : s.lifecycle ≠ none) (hs : s.status = none) :
      Step s .enumerate { s with phase := .enumerating s.herdr.live [] }
  | buffer {start buffered rest : List String} {line : String}
      (ht : s.phase = .enumerating start buffered) (hl : s.lifecycle = some (line :: rest)) :
      Step s .buffer { s with
        phase := .enumerating start (buffered ++ [line]), lifecycle := some rest }
  | enumerated {start buffered ids : List String} (ht : s.phase = .enumerating start buffered)
      (hall : ∀ p ∈ start, p ∈ s.herdr.live → p ∈ ids) (hused : ∀ p ∈ ids, p ∈ s.herdr.used) :
      Step s (.enumerated ids)
        { s with phase := .subscribing (bootstrapPaneSet fromStr ids buffered) }
  | failed (ht : s.phase.Connects) : Step s .failed { s with phase := .top, status := none }
  | acked {paneIds : List String} (ht : s.phase = .subscribing paneIds) :
      Step s .acked { s with phase := .acked paneIds, status := some ⟨paneIds, [], false⟩ }
  | committed {paneIds : List String} (ht : s.phase = .acked paneIds) :
      Step s .committed { s with phase := .resyncing s.herdr.live [], subscribed := paneIds }
  | listed {start : List String} {input : List ResyncPane} {p : ResyncPane}
      (ht : s.phase = .resyncing start input) (hp : p.herdrPaneId ∈ s.herdr.live)
      (hs : p.status = s.herdr.current p.herdrPaneId) :
      Step s (.listed p) { s with phase := .resyncing start (input ++ [p]) }
  | resynced {start : List String} {input : List ResyncPane}
      (ht : s.phase = .resyncing start input)
      (hall : ∀ p ∈ start, p ∈ s.herdr.live → p ∈ input.map (·.herdrPaneId)) :
      Step s .resynced { s with
        kernel := resync s.kernel (some input)
        status := s.status.map fun w => { w with resynced := true }
        phase := .pumping }
  | resyncFailed {start : List String} {input : List ResyncPane}
      (ht : s.phase = .resyncing start input) :
      Step s .resyncFailed { s with kernel := resync s.kernel none, phase := .pumping }
  | resume (ht : s.phase = .top) (hl : s.lifecycle ≠ none) (hs : s.status ≠ none) :
      Step s .resume { s with phase := .pumping }
  | pumpLifecycle {rest subscribed : List String} {line : String} {kernel : Kernel}
      (ht : s.phase = .pumping) (hl : s.lifecycle = some (line :: rest))
      (hk : pumpLifecycle fromStr s.kernel s.subscribed line = some (kernel, subscribed)) :
      Step s .pumpLifecycle { s with kernel, subscribed, lifecycle := some rest }
  | widen {rest : List String} {line : String} (ht : s.phase = .pumping)
      (hl : s.lifecycle = some (line :: rest))
      (hk : Tables.pumpLifecycle fromStr s.kernel s.subscribed line = none) :
      Step s .widen { s with lifecycle := some rest, status := none, phase := .draining }
  | pumpStatus {w : Watcher} {rest : List String} {line : String} (ht : s.phase = .pumping)
      (hs : s.status = some w) (hl : w.unread = line :: rest) :
      Step s .pumpStatus { s with
        kernel := pumpStatus fromStr s.kernel line, status := some { w with unread := rest } }
  | lifecycleLost (ht : s.phase.ReadsLifecycle) :
      Step s .lifecycleLost { s with lifecycle := none, phase := .top }
  | statusLost (ht : s.phase = .pumping) :
      Step s .statusLost { s with status := none, phase := .top }
  | discard {rest : List String} {line : String} (ht : s.phase = .draining)
      (hl : s.lifecycle = some (line :: rest)) :
      Step s .discard { s with lifecycle := some rest }
  | drained (ht : s.phase = .draining) : Step s .drained { s with phase := .top }
  /-- a listing is not interrupted -/
  | shutdown (ht : ∀ start input, s.phase ≠ .resyncing start input) :
      Step s .shutdown { s with phase := .stopped }

variable {fromStr}

/-- What happens determines the next state. -/
theorem step_unique {s t t' : State} {a : Act} (h : Step fromStr s a t)
    (h' : Step fromStr s a t') : t = t' := by
  cases h <;> cases h' <;> simp_all

/-! ### A session with one pane -/

/-- herdr reports that `w1:p2` was created. -/
def createdLine : String :=
  "\x7b\"event\":\"pane_created\",\"data\":\x7b\"pane\":\x7b\"pane_id\":\"w1:p2\"\x7d\x7d\x7d"

/-- herdr reports that `w1:p1` was closed. -/
def closedLine : String :=
  "\x7b\"event\":\"pane_closed\",\"data\":\x7b\"pane_id\":\"w1:p1\"\x7d\x7d"

/-- herdr reports that the agent in `w1:p1` is blocked. -/
def blockedLine : String :=
  "\x7b\"event\":\"pane.agent_status_changed\",\"data\":\x7b\"pane_id\":\"w1:p1\"," ++
    "\"workspace_id\":\"w1\",\"agent_status\":\"blocked\"\x7d\x7d"

/-- What a JSON parser makes of these lines. -/
def parseSample (line : String) : Option Value :=
  if line = createdLine then
    some (.object [("event", .string "pane_created"),
      ("data", .object [("pane", .object [("pane_id", .string "w1:p2")])])])
  else if line = closedLine then
    some (.object [("event", .string "pane_closed"),
      ("data", .object [("pane_id", .string "w1:p1")])])
  else if line = blockedLine then
    some (.object [("event", .string "pane.agent_status_changed"),
      ("data", .object [("pane_id", .string "w1:p1"), ("workspace_id", .string "w1"),
        ("agent_status", .string "blocked")])])
  else none

theorem creates_createdLine : Creates parseSample createdLine "w1:p2" := by decide +kernel

theorem closes_closedLine : Closes parseSample closedLine "w1:p1" := by decide +kernel

theorem trimEnd_createdLine : trimEnd createdLine = createdLine :=
  trimEnd_of_getLast (by decide +kernel)

theorem trimEnd_closedLine : trimEnd closedLine = closedLine :=
  trimEnd_of_getLast (by decide +kernel)

theorem trimEnd_blockedLine : trimEnd blockedLine = blockedLine :=
  trimEnd_of_getLast (by decide +kernel)

theorem report_blockedLine :
    statusReport parseSample (trimEnd blockedLine) = some ("w1:p1", .blocked) := by
  rw [trimEnd_blockedLine]
  decide +kernel

theorem plain_of_trimmed {line : String} (h : trimEnd line = line) : Plain fromStr line := by
  rw [Plain, h]

/-- One pane, whose agent is idle. -/
def oneIdle : World := ⟨["w1:p1"], ["w1:p1"], fun _ => .idle⟩

/-- The pane as it is listed. -/
def listedIdle : ResyncPane :=
  ⟨"w1:p1", "term-1", "w1", "main", "w1:t1", none, some "claude", none, .idle⟩

/-- Both connections are brought up. -/
def bringUp : List Act :=
  [.lifecycleAcked, .enumerate, .enumerated ["w1:p1"], .acked, .committed, .listed listedIdle,
    .resynced]

/-- The pump waits. -/
def upIdle : State :=
  ⟨oneIdle, some [], some ⟨["w1:p1"], [], true⟩, ["w1:p1"],
    resync .init (some [listedIdle]), .pumping⟩

theorem run_bringUp : Run (Step parseSample) (.init oneIdle) bringUp upIdle := by
  refine .cons (.lifecycleAcked rfl rfl) (.cons (.enumerate rfl (by simp) rfl)
    (.cons (.enumerated rfl (by decide) (by decide)) (.cons (.acked rfl)
      (.cons (.committed rfl) (.cons (.listed rfl (by decide) rfl)
        (.cons (.resynced rfl (by decide)) ?_))))))
  exact Run.nil upIdle

/-- The registry knows one pane. -/
theorem distinct_of_single {reg : HerdrPaneRegistry} {pane : String} {n : ℕ}
    (h : reg.byHerdr = Function.update (fun _ => none) pane (some n)) : Distinct reg := by
  intro p q id hp hq
  rw [h] at hp hq
  have hp' := (update_eq_some_iff.mp hp).resolve_right (by simp)
  have hq' := (update_eq_some_iff.mp hq).resolve_right (by simp)
  rw [hp'.1, hq'.1]

theorem distinct_upIdle : Distinct upIdle.kernel.panes := distinct_of_single rfl

/-- Reading the status registers no pane. -/
theorem panes_pumpStatus {k : Kernel} (hk : k.panes.byHerdr "w1:p1" = some 1) :
    (pumpStatus parseSample k blockedLine).panes = k.panes := by
  obtain ⟨ev, -, -, hpump⟩ := pumpStatus_of_status (k := k) report_blockedLine
  rw [hpump, translatePane_of_some hk]
  rfl

end MuxrCore.Herdr.Subscribe.Session
