import MuxrCore.Lib.Runs
import MuxrCore.Muxrctl.Update

/-! # The runner of the control panel

The runner gives the reducer one message after another and does each action once, as a task of its
own. A task posts its one result at any later time, whatever else happens in between.

Two records are kept of what the wizard has gone through: how often it has come to a step, or has
been opened or closed, and how many tokens it has asked for since it was opened at its first step,
not counting those that could not be created. -/

namespace MuxrCore.Muxrctl

open MuxrCore.Lib.Runs
open MuxrCore.Pairing.Qr (AdvertiseTrust)

/-- A task in flight: its action, the message that it was dispatched for, if there was one, and the
visit of the wizard at that time. -/
structure Task where
  action : UpdateAction
  origin : Option Message
  visit : ℕ
  deriving DecidableEq, Repr

/-- The control panel with its tasks. -/
structure Panel where
  app : AppState
  tasks : List Task
  visit : ℕ
  /-- none if the wizard is closed, has not been opened at its first step, or has gone back since -/
  asked : Option ℕ
  deriving DecidableEq, Repr

/-- What happens next: an input, or the result of a task. -/
inductive Event
  | input (msg : Message)
  | result (index : ℕ) (msg : Message)
  deriving DecidableEq, Repr

def Event.msg : Event → Message
  | .input msg | .result _ msg => msg

/-- The place of a step. -/
def WizardStep.index : WizardStep → ℕ
  | .welcome => 0
  | .network => 1
  | .certificate => 2
  | .token => 3
  | .start => 4
  | .pair => 5

/-- The message for the current step of the wizard to be done. -/
def wizardNext : Message := .ui (.wizard .next)

/-- The action creates a token. -/
def UpdateAction.isCreateToken : UpdateAction → Bool
  | .createToken .. => true
  | _ => false

/-- The task was dispatched by the step that the wizard is at. -/
def Panel.isOwn (p : Panel) (task : Task) : Bool :=
  task.origin = some wizardNext && task.visit = p.visit

/-- The wizard has asked for a token, and it could not be created. -/
def Panel.failed (p : Panel) (task : Task) (msg : Message) : ℕ :=
  match msg with
  | .actionFailed _ => if p.isOwn task && task.action.isCreateToken then 1 else 0
  | _ => 0

/-- The tokens asked for since the wizard was opened at its first step. -/
def askedAfter (before after : AppState) (asked : Option ℕ) (minted failed : ℕ) : Option ℕ :=
  if !Wizard.isOpen after then none
  else if !Wizard.isOpen before then (if after.wizard.step = .welcome then some 0 else none)
  else if after.wizard.step.index < before.wizard.step.index then none
  else asked.map (· + minted - failed)

/-- Give the reducer a message, and dispatch what is to be done. -/
def Panel.reduce (p : Panel) (tasks : List Task) (msg : Message) (failed : ℕ) : Panel :=
  let u := update p.app msg
  { app := u.1
    tasks := tasks ++ (u.2.filter UpdateAction.isTask).map (⟨·, some msg, p.visit⟩)
    visit :=
      if u.1.wizard.step = p.app.wizard.step && Wizard.isOpen u.1 = Wizard.isOpen p.app then p.visit
      else p.visit + 1
    asked := askedAfter p.app u.1 p.asked
      (if msg = wizardNext then u.2.countP UpdateAction.isCreateToken else 0) failed }

def Panel.step (p : Panel) : Event → Option Panel
  | .input msg => if msg.isResult then none else some (p.reduce p.tasks msg 0)
  | .result index msg =>
    match p.tasks[index]? with
    | none => none
    | some task =>
      if task.action.posts msg then
        some (p.reduce (p.tasks.eraseIdx index) msg (p.failed task msg))
      else none

/-- The first loads are in flight. -/
def startup (trust : AdvertiseTrust) : Panel where
  app := {
    server := { loading := true }
    config := { loading := true }
    tokens := { loading := true }
    cert := { loading := true, advertiseTrust := trust }
    devices := { loading := true } }
  tasks := [.refreshStatus, .loadConfig, .loadTokens, .loadCertInfo, .loadDevices,
    .loadCertMode].map (⟨·, none, 0⟩)
  visit := 0
  asked := none

/-! ### What a step does -/

variable {p q : Panel}

/-- An input is reduced as it comes. -/
theorem step_input {msg : Message} (h : p.step (.input msg) = some q) :
    msg.isResult = false ∧ q = p.reduce p.tasks msg 0 := by
  unfold Panel.step at h
  dsimp only at h
  split_ifs at h with hmsg
  exact ⟨by simpa using hmsg, (Option.some.inj h).symm⟩

/-- A result is that of a task, which is done. -/
theorem step_result {index : ℕ} {msg : Message} (h : p.step (.result index msg) = some q) :
    ∃ task, p.tasks[index]? = some task ∧ task.action.posts msg = true ∧
      q = p.reduce (p.tasks.eraseIdx index) msg (p.failed task msg) := by
  unfold Panel.step at h
  dsimp only at h
  split at h
  · cases h
  next task htask =>
    split_ifs at h with hposts
    exact ⟨task, htask, hposts, (Option.some.inj h).symm⟩

/-- The state after a step is what the reducer makes of the message. -/
theorem step_app {e : Event} (h : p.step e = some q) : q.app = (update p.app e.msg).1 := by
  cases e with
  | input msg => rw [(step_input h).2]; rfl
  | result index msg =>
    obtain ⟨task, -, -, rfl⟩ := step_result h
    rfl

/-- The tasks of a certain kind. -/
def Panel.inFlight (p : Panel) (k : Task → Bool) : ℕ := p.tasks.countP k

/-- The tasks of a kind among those that a message dispatches. -/
def dispatched (s : AppState) (msg : Message) (visit : ℕ) (k : Task → Bool) : ℕ :=
  (((update s msg).2.filter UpdateAction.isTask).map (⟨·, some msg, visit⟩)).countP k

theorem inFlight_reduce (p : Panel) (tasks : List Task) (msg : Message) (failed : ℕ)
    (k : Task → Bool) :
    (p.reduce tasks msg failed).inFlight k = tasks.countP k + dispatched p.app msg p.visit k := by
  rw [Panel.inFlight, Panel.reduce, List.countP_append]
  rfl

/-- An input adds the tasks that it dispatches. -/
theorem inFlight_input {msg : Message} (h : p.step (.input msg) = some q) (k : Task → Bool) :
    q.inFlight k = p.inFlight k + dispatched p.app msg p.visit k := by
  rw [(step_input h).2, inFlight_reduce]
  rfl

/-- A result takes its task away. -/
theorem inFlight_result {index : ℕ} {msg : Message} (h : p.step (.result index msg) = some q)
    (k : Task → Bool) : q.inFlight k ≤ p.inFlight k + dispatched p.app msg p.visit k := by
  obtain ⟨task, htask, -, rfl⟩ := step_result h
  rw [inFlight_reduce]
  have := (List.eraseIdx_sublist p.tasks index).countP_le (p := k)
  exact Nat.add_le_add_right this _

end MuxrCore.Muxrctl
