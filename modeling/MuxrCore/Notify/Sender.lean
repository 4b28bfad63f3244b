import MuxrCore.Grpc.PushOps
import MuxrCore.Lib.Runs
import MuxrCore.Lib.Slice
import MuxrCore.Multiplexer.Agents

/-! # The notifier

The notifier takes an event from the bus, reads the registry, and sends to each device in turn; a
transient failure is retried once. When the push relay answers that a handle is gone, the devices of
the handle are removed from the registry. In the meantime clients register and remove devices.

`State.step` is one step of the notifier or of a client. `State.renewed` are the devices that have
been registered since the last send began. A line of the log has the first bytes of a handle, and
the notifier is over if they are no text (`panics_iff_cut`).

* `prunes_older_iff`: a removal leaves all of them, exactly if none that is still registered has the
  handle that is gone.
* `prunes_renewed`: a device that registers again during the send is removed. -/

namespace MuxrCore.Notify.Sender

open MuxrCore.Lib.Runs MuxrCore.Lib.Slice MuxrCore.Multiplexer.Agents MuxrCore.Grpc.PushOps
  MuxrCore.Notify.Devices

/-- How long a repeated trigger is suppressed, in nanoseconds. -/
def debounceWindow : ℕ := 30 * 10 ^ 9

/-- The transitions that trigger a notification. -/
inductive TriggerKind
  | blocked
  | done
  deriving DecidableEq, Repr

def TriggerKind.wire : TriggerKind → String
  | .blocked => "agent_blocked"
  | .done => "agent_done"

/-- The trigger of a status. -/
def triggerKind : AgentStatus → Option TriggerKind
  | .blocked => some .blocked
  | .done => some .done
  | .idle | .working | .unknown => none

/-- What is sent to every device. -/
structure NotifyContent where
  kind : String
  title : Option String
  body : Option String
  deriving DecidableEq, Repr

/-- How a send ended. -/
inductive SendOutcome
  | ok
  | gone
  | rateLimited
  | transient
  deriving DecidableEq, Repr

/-- The outcome of an answer's status. -/
def SendOutcome.ofStatus (status : ℕ) : SendOutcome :=
  if status = 204 then .ok
  else if status = 404 ∨ status = 410 then .gone
  else if status = 429 then .rateLimited
  else .transient

/-- When a pane last sent for a trigger. -/
structure Debouncer where
  lastSent : ℕ → TriggerKind → Option ℕ

def Debouncer.new : Debouncer := ⟨fun _ _ => none⟩

/-- Forget the sends that are a window ago. -/
def Debouncer.retain (d : Debouncer) (now : ℕ) : Debouncer :=
  ⟨fun pane kind => (d.lastSent pane kind).filter fun t => now - t < debounceWindow⟩

/-- Note a send. -/
def Debouncer.note (d : Debouncer) (pane : ℕ) (kind : TriggerKind) (now : ℕ) : Debouncer :=
  ⟨Function.update d.lastSent pane (Function.update (d.lastSent pane) kind (some now))⟩

/-- Whether a trigger is to send now; if so, it is noted. -/
def Debouncer.shouldSend (d : Debouncer) (pane : ℕ) (kind : TriggerKind) (now : ℕ) :
    Debouncer × Bool :=
  match (d.retain now).lastSent pane kind with
  | some t =>
    if now - t < debounceWindow then (d.retain now, false)
    else ((d.retain now).note pane kind now, true)
  | none => ((d.retain now).note pane kind now, true)

/-- What a trigger sends: a workspace's label, or a fixed text. -/
def contentFor (kind : TriggerKind) (ev : AgentStatusChanged) (verbosity : String) :
    NotifyContent :=
  let label := (ev.workspaceName.filter (· ≠ "")).getD ev.workspaceId
  let body :=
    if verbosity = "generic" then "Attention needed"
    else match kind with
      | .blocked => s!"Agent blocked in {label}"
      | .done => s!"Agent finished in {label}"
  ⟨kind.wire, some "Muxr", some body⟩

/-! ### What is logged -/

/-- The levels of the lines, the gravest first. -/
inductive Level
  | error
  | warn
  | info
  | debug
  | trace
  deriving DecidableEq, Repr

def Level.rank : Level → ℕ
  | .error => 1
  | .warn => 2
  | .info => 3
  | .debug => 4
  | .trace => 5

/-- The log takes the lines up to a level; none if it is off. -/
def logs (maxLevel : Option Level) (level : Level) : Bool := maxLevel.any (level.rank ≤ ·.rank)

def handlePrefixLen : ℕ := 8

/-- The first bytes of a handle; none where the slice panics. -/
def handlePrefix (handle : String) : Option String :=
  (takeBytes (min handlePrefixLen handle.utf8ByteSize) handle.toList).map String.ofList

/-- The level of the line about a device, after its last attempt. -/
def SendOutcome.level : SendOutcome → Level
  | .ok => .debug
  | .gone => .info
  | .rateLimited | .transient => .warn

/-- The line about a device panics: it is taken, and has the first bytes of the handle. -/
def panics (maxLevel : Option Level) (outcome : SendOutcome) (handle : String) : Bool :=
  logs maxLevel outcome.level && (handlePrefix handle).isNone

/-- **A line panics** exactly if it is taken and a character of the handle is cut. -/
theorem panics_iff_cut {maxLevel : Option Level} {outcome : SendOutcome} {handle : String} :
    panics maxLevel outcome handle = true ↔
      logs maxLevel outcome.level = true ∧ Cut handlePrefixLen handle := by
  rw [panics, Bool.and_eq_true, Option.isNone_iff_eq_none, handlePrefix, Option.map_eq_none_iff,
    takeBytes_min_eq_none_iff]

/-! ### The notifier and the clients -/

/-- How far the notifier is; the next step is named after the phase. -/
inductive Phase
  | recv
  | list (ev : AgentStatusChanged) (kind : TriggerKind)
  /-- `retried` is set for the second attempt -/
  | send (content : NotifyContent) (device : PushDevice) (rest : List PushDevice) (retried : Bool)
  | outcome (content : NotifyContent) (device : PushDevice) (rest : List PushDevice)
      (retried : Bool)
  | prune (content : NotifyContent) (device : PushDevice) (rest : List PushDevice)
  | stopped
  /-- the task is gone -/
  | panicked
  deriving DecidableEq, Repr

/-- The next device is up. -/
def Phase.next (content : NotifyContent) : List PushDevice → Phase
  | [] => .recv
  | device :: rest => .send content device rest false

/-- On what the bus gives: what is no trigger is dropped, and so is a finish that is only observed
again. -/
def Phase.received : Recv → Phase
  | .ok (.agentStatusChanged ev) =>
    match triggerKind ev.status with
    | none => .recv
    | some kind => if ev.synthetic && kind = .done then .recv else .list ev kind
  | .ok _ => .recv
  | .error (.lagged _) => .recv
  | .error .closed => .stopped

/-- After the last attempt at a device: a line is logged first. -/
def Phase.settled (maxLevel : Option Level) (content : NotifyContent) (device : PushDevice)
    (rest : List PushDevice) (outcome : SendOutcome) : Phase :=
  if panics maxLevel outcome device.pushHandle then .panicked
  else match outcome with
    | .gone => .prune content device rest
    | .ok => .next content rest
    | .rateLimited => .next content rest
    | .transient => .next content rest

/-- On the outcome of a send. -/
def Phase.sent (maxLevel : Option Level) (content : NotifyContent) (device : PushDevice)
    (rest : List PushDevice) (retried : Bool) (outcome : SendOutcome) : Phase :=
  if outcome = .transient && !retried then .send content device rest true
  else .settled maxLevel content device rest outcome

/-- The registry's file, the notifier, and what has been registered since the last send began. -/
structure State where
  file : File
  debouncer : Debouncer
  phase : Phase
  renewed : List PushDevice

/-- What happens next. An operation on the registry fails where `failed` is set. -/
inductive Act
  | recv (r : Recv)
  | stop
  | list (now : ℕ) (failed : Option String)
  | send
  | outcome (o : SendOutcome)
  | prune (failed : Option String)
  | registerPushTarget (readOnly : Option Bool) (req : RegisterPushTargetReq) (registeredAt : ℕ)
      (failed : Option String)
  | removePushTarget (readOnly : Option Bool) (deviceName : String) (failed : Option String)
  /-- a removal from the control panel -/
  | removeDevice (name : String) (failed : Option String)

/-- On the devices of the registry. -/
def State.listed (s : State) (verbosity : String) (ev : AgentStatusChanged) (kind : TriggerKind)
    (now : ℕ) : Except String (List PushDevice) → State
  | .error _ => { s with phase := .recv }
  | .ok [] => { s with phase := .recv }
  | .ok (device :: rest) =>
    match s.debouncer.shouldSend ev.pane kind now with
    | (debouncer, false) => { s with debouncer, phase := .recv }
    | (debouncer, true) =>
      { s with debouncer, phase := .next (contentFor kind ev verbosity) (device :: rest) }

/-- A client registers a device. -/
def State.registerPushTarget (s : State) (svc : MuxrService) (readOnly : Option Bool)
    (req : RegisterPushTargetReq) (registeredAt : ℕ) (failed : Option String) : State :=
  match registerPushTargetImpl svc s.file readOnly req registeredAt failed with
  | (file, .ok _) => { s with file, renewed := req.device registeredAt :: s.renewed }
  | (file, .error _) => { s with file }

/-- One step; the notifier's are enabled in their phase. -/
def State.step (svc : MuxrService) (verbosity : String) (maxLevel : Option Level) (s : State) :
    Act → Option State
  | .recv r =>
    match s.phase with
    | .recv => some { s with phase := .received r }
    | _ => none
  | .stop =>
    match s.phase with
    | .recv => some { s with phase := .stopped }
    | _ => none
  | .list now failed =>
    match s.phase with
    | .list ev kind => some (s.listed verbosity ev kind now (list s.file failed))
    | _ => none
  | .send =>
    match s.phase with
    | .send content device rest retried =>
      some { s with phase := .outcome content device rest retried, renewed := [] }
    | _ => none
  | .outcome o =>
    match s.phase with
    | .outcome content device rest retried =>
      some { s with phase := .sent maxLevel content device rest retried o }
    | _ => none
  | .prune failed =>
    match s.phase with
    | .prune content device rest =>
      some { s with
        file := (removeByHandle s.file failed device.pushHandle).1
        phase := .next content rest }
    | _ => none
  | .registerPushTarget readOnly req registeredAt failed =>
    some (s.registerPushTarget svc readOnly req registeredAt failed)
  | .removePushTarget readOnly deviceName failed =>
    some { s with file := (removePushTargetImpl s.file readOnly deviceName failed).1 }
  | .removeDevice name failed => some { s with file := (removeByName s.file failed name).1 }

/-! ### Which devices are removed -/

variable {svc : MuxrService} {verbosity : String} {maxLevel : Option Level} {s t : State} {a : Act}

/-- A removal leaves the devices that were registered since the send began. -/
def PrunesOlder (svc : MuxrService) (verbosity : String) (maxLevel : Option Level) (_ : List Act)
    (s : State) (a : Act) : Prop :=
  ∀ failed t, a = .prune failed → s.step svc verbosity maxLevel a = some t →
    ∀ d ∈ s.renewed, d ∈ s.file.entries → d ∈ t.file.entries

/-- When a handle is removed, no device that was registered with it since the send began is still
there. -/
def Unrenewed (_ : List Act) (s : State) (a : Act) : Prop :=
  ∀ content device rest, a = .prune none → s.phase = .prune content device rest →
    ∀ d ∈ s.renewed, d.pushHandle = device.pushHandle → d ∉ s.file.entries

/-- What the step of a removal is. -/
theorem step_prune {failed : Option String}
    (h : s.step svc verbosity maxLevel (.prune failed) = some t) :
    ∃ content device rest, s.phase = .prune content device rest ∧
      t.file = (removeByHandle s.file failed device.pushHandle).1 := by
  unfold State.step at h
  rcases hp : s.phase with _ | _ | _ | _ | ⟨content, device, rest⟩ | _ | _ <;>
    simp only [hp, reduceCtorEq, Option.some.injEq] at h
  exact ⟨content, device, rest, rfl, by rw [← h]⟩

/-- **Which devices are removed**: in a run, every removal leaves the devices that were registered
since the send began, exactly if none of those still there ever has the handle that is removed. -/
theorem prunes_older_iff {as : List Act} :
    Along (ofFn (State.step svc verbosity maxLevel)) (PrunesOlder svc verbosity maxLevel) s as ↔
      Along (ofFn (State.step svc verbosity maxLevel)) Unrenewed s as := by
  refine ⟨fun h => h.mono ?_, fun h => h.mono ?_⟩
  · rintro pre u a - hold content device rest rfl hp d hd hhandle hmem
    have hstep : u.step svc verbosity maxLevel (.prune none) = some
        { u with
          file := (removeByHandle u.file none device.pushHandle).1
          phase := .next content rest } := by
      simp only [State.step, hp]
    have hkept := hold none _ rfl hstep d hd hmem
    rw [entries_removeByHandle, mem_removeHandle] at hkept
    exact hkept.2 hhandle
  · rintro pre u a - hun failed t rfl hstep d hd hmem
    obtain ⟨content, device, rest, hp, hfile⟩ := step_prune hstep
    rw [hfile]
    rcases failed with _ | e
    · rw [entries_removeByHandle, mem_removeHandle]
      exact ⟨hmem, fun hhandle => hun content device rest rfl hp d hd hhandle hmem⟩
    · rwa [entries_removeByHandle_failed]

/-! ### Runs -/

/-- A service that has a relay and herdr. -/
def service : MuxrService := ⟨some "https://push.example", true⟩

/-- A registered phone. -/
def phone : PushDevice := ⟨"phone", "0123456789abcdef0123456789abcdef", "android", 100⟩

/-- The handles that clients register have characters of one byte. -/
theorem panics_phone (outcome : SendOutcome) :
    panics maxLevel outcome phone.pushHandle = false := by
  have hcut : ¬ Cut handlePrefixLen phone.pushHandle :=
    not_cut_of_bytes (by simp [phone, Char.utf8Size])
  rw [← Bool.not_eq_true, panics_iff_cut]
  exact fun h => hcut h.2

/-- The registry has the phone, and the notifier waits for an event. -/
def onePhone : State := ⟨.present [phone], .new, .recv, []⟩

/-- An agent waits for input. -/
def waiting : AgentStatusChanged := ⟨7, "w1", none, .blocked, none, none, none, none, false⟩

/-- The phone registers again, under the handle it has, while a send to it is under way. -/
def reregistered : List Act :=
  [.recv (.ok (.agentStatusChanged waiting)), .list 0 none, .send,
    .registerPushTarget (some false) ⟨"phone", "0123456789abcdef0123456789abcdef", "android"⟩ 105
      none,
    .outcome .gone]

/-- Then the phone is registered, and is about to be removed. -/
theorem run_reregistered : ∃ content u,
    Run (ofFn (State.step service "normal" (some .info))) onePhone reregistered u ∧
      u.phase = .prune content phone [] ∧
      u.renewed = [⟨"phone", phone.pushHandle, "android", 105⟩] ∧
      u.file = .present [⟨"phone", phone.pushHandle, "android", 105⟩] := by
  let content := contentFor .blocked waiting "normal"
  let debouncer := (Debouncer.new.retain 0).note 7 .blocked 0
  have hreg : registerPushTargetImpl service (.present [phone]) (some false)
      ⟨"phone", "0123456789abcdef0123456789abcdef", "android"⟩ 105 none =
        (.present [⟨"phone", phone.pushHandle, "android", 105⟩], .ok ⟨true, "", ""⟩) := by
    decide +kernel
  have hstep : State.step service "normal" (some .info)
      ⟨.present [phone], debouncer, .outcome content phone [] false, []⟩
      (.registerPushTarget (some false) ⟨"phone", "0123456789abcdef0123456789abcdef", "android"⟩
        105 none) = some ⟨.present [⟨"phone", phone.pushHandle, "android", 105⟩], debouncer,
          .outcome content phone [] false, [⟨"phone", phone.pushHandle, "android", 105⟩]⟩ := by
    rw [State.step, State.registerPushTarget, hreg]
    rfl
  have hgone : State.step service "normal" (some .info)
      ⟨.present [⟨"phone", phone.pushHandle, "android", 105⟩], debouncer,
        .outcome content phone [] false, [⟨"phone", phone.pushHandle, "android", 105⟩]⟩
      (.outcome .gone) = some ⟨.present [⟨"phone", phone.pushHandle, "android", 105⟩], debouncer,
        .prune content phone [], [⟨"phone", phone.pushHandle, "android", 105⟩]⟩ := by
    have hphase : Phase.sent (some .info) content phone [] false .gone =
        .prune content phone [] := by
      simp [Phase.sent, Phase.settled, panics_phone]
    simp only [State.step, hphase]
  exact ⟨content, ⟨.present [⟨"phone", phone.pushHandle, "android", 105⟩], debouncer,
    .prune content phone [], [⟨"phone", phone.pushHandle, "android", 105⟩]⟩,
    .cons rfl <| .cons rfl <| .cons rfl <| .cons hstep <| .cons hgone <| .nil _, rfl, rfl, rfl⟩

/-- **A device that has just registered is removed**: the removal goes by the handle alone. -/
theorem prunes_renewed :
    ¬ ∀ (svc : MuxrService) (verbosity : String) (maxLevel : Option Level) (s t : State)
      (as : List Act), Run (ofFn (State.step svc verbosity maxLevel)) s as t →
        Along (ofFn (State.step svc verbosity maxLevel)) (PrunesOlder svc verbosity maxLevel)
          s as := by
  intro h
  obtain ⟨content, u, hu, hphase, hrenewed, hfile⟩ := run_reregistered
  have hstep : u.step service "normal" (some .info) (.prune none) = some
      { u with
        file := (removeByHandle u.file none phone.pushHandle).1
        phase := .next content [] } := by
    simp only [State.step, hphase]
  have hrun : Run (ofFn (State.step service "normal" (some .info))) onePhone
      (reregistered ++ [Act.prune none]) _ :=
    hu.concat hstep
  have hkept := h service "normal" (some .info) onePhone _ _ hrun reregistered (.prune none) [] u
    rfl hu none _ rfl hstep ⟨"phone", phone.pushHandle, "android", 105⟩ (by simp [hrenewed])
    (by rw [hfile]; exact List.mem_singleton_self _)
  rw [entries_removeByHandle, mem_removeHandle] at hkept
  exact hkept.2 rfl

end MuxrCore.Notify.Sender
