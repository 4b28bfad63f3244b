import MuxrCore.Lib.Files
import MuxrCore.Lib.Locks
import MuxrCore.Lib.Runs
import MuxrCore.Notify.Devices

/-! # Calls on the registry of devices that overlap

A call takes the lock, shared to list and exclusively to change; reads the registry; and a change is
stored by way of a temporary file, which is opened and emptied, written, restricted, and renamed
over the registry. The call can fail at each step, and its process can stop; either way the lock is
freed.

`State.step` is one such step of one call. `State.acquired` are the calls in the order in which they
took the lock exclusively, and `State.renamed` those whose rename took place.

* `steps_of_step`: what a step needs and what it leads to. -/

namespace MuxrCore.Notify.Concurrent

open MuxrCore.Lib.Files MuxrCore.Lib.Locks MuxrCore.Lib.Runs MuxrCore.Notify.Devices

/-- The names in the directory. -/
inductive Name
  | registry
  | tmp
  deriving DecidableEq, Repr

/-- What a file has: nothing or a part of a text, a list of devices, or anything else. -/
inductive Content
  | torn
  | json (devices : List PushDevice)
  | foreign
  deriving DecidableEq, Repr

/-- The devices, if it can be parsed. -/
def Content.parse : Content → Option (List PushDevice)
  | .json devices => some devices
  | .torn => none
  | .foreign => none

/-- Write the devices to a file that is open. -/
def Content.write (devices : List PushDevice) : Content → Content
  | .torn => .json devices
  | .json _ => .foreign
  | .foreign => .foreign

/-- The calls. -/
inductive Op
  | list
  | upsert (device : PushDevice)
  | removeByName (name : String)
  | removeByHandle (handle : String)
  deriving DecidableEq, Repr

/-- Whether a call takes the lock exclusively. -/
def Op.exclusive : Op → Bool
  | .list => false
  | .upsert _ => true
  | .removeByName _ => true
  | .removeByHandle _ => true

/-- What a call makes of the devices. -/
def Op.effect : Op → List PushDevice → List PushDevice
  | .list, devices => devices
  | .upsert device, devices => insert devices device
  | .removeByName name, devices => removeName devices name
  | .removeByHandle handle, devices => removeHandle devices handle

/-- Whether a call stores what it has made: a removal only if it has removed something. -/
def Op.stores : Op → List PushDevice → Bool
  | .list, _ => false
  | .upsert _, _ => true
  | .removeByName name, devices => (removeName devices name).length ≠ devices.length
  | .removeByHandle handle, devices => (removeHandle devices handle).length ≠ devices.length

/-- Why a call fails. -/
inductive Fault
  | io
  | parse
  deriving DecidableEq, Repr

/-- What a call returns. -/
inductive Answer
  | listed (devices : List PushDevice)
  | done
  | removed (any : Bool)
  deriving DecidableEq, Repr

/-- The answer of a call that does not store, given the devices it has read. -/
def Op.unchanged : Op → List PushDevice → Answer
  | .list, devices => .listed devices
  | .upsert _, _ => .done
  | .removeByName _, _ => .removed false
  | .removeByHandle _, _ => .removed false

/-- The answer of a call that has stored. -/
def Op.stored : Op → Answer
  | .list => .done
  | .upsert _ => .done
  | .removeByName _ => .removed true
  | .removeByHandle _ => .removed true

/-- How far a call is that has the lock. -/
inductive Stage
  | locked
  | reading (file : ℕ)
  | loaded (devices : List PushDevice)
  | opened (devices : List PushDevice) (file : ℕ)
  | written (devices : List PushDevice)
  | restricted (devices : List PushDevice)
  | renamed
  deriving DecidableEq, Repr

/-- How far a call is. -/
inductive Phase
  | idle
  | waiting (op : Op)
  | held (op : Op) (stage : Stage)
  | returned (result : Except Fault Answer)
  | crashed

/-- The call does not have the lock yet. -/
def Phase.Before : Phase → Prop
  | .idle => True
  | .waiting _ => True
  | _ => False

/-- The call may have renamed. -/
def Phase.Through : Phase → Prop
  | .held _ .renamed => True
  | .returned (.ok _) => True
  | .crashed => True
  | _ => False

/-- What is under the registry's name, as a call reads it. -/
def load (d : Dir Name Content) : Except Fault (List PushDevice) :=
  match d.read .registry with
  | none => .ok []
  | some content => content.parse.elim (.error .parse) .ok

/-- The directory, the lock, and the calls. -/
structure State where
  dir : Dir Name Content
  lock : Lock ℕ
  calls : ℕ → Phase
  acquired : List (ℕ × Op)
  renamed : List ℕ

/-- A call goes on. -/
def State.set (s : State) (id : ℕ) (phase : Phase) : State :=
  { s with calls := Function.update s.calls id phase }

/-- A call ends; the lock is freed with it. -/
def State.leave (s : State) (id : ℕ) (phase : Phase) : State :=
  { s with lock := s.lock.release id, calls := Function.update s.calls id phase }

/-- A call takes the lock. -/
def State.acquire (s : State) (id : ℕ) (op : Op) (lock : Lock ℕ) : State :=
  { s with
    lock
    calls := Function.update s.calls id (.held op .locked)
    acquired := if op.exclusive then s.acquired ++ [(id, op)] else s.acquired }

/-- One step of a call, which is named after what it does next; `fail` is that this fails, and
`crash` that the call's process stops. -/
inductive Act
  | start (id : ℕ) (op : Op)
  | lock (id : ℕ)
  | openRegistry (id : ℕ)
  | read (id : ℕ)
  | openTmp (id : ℕ)
  | write (id : ℕ)
  | chmod (id : ℕ)
  | rename (id : ℕ)
  | ret (id : ℕ)
  | fail (id : ℕ)
  | crash (id : ℕ)
  deriving DecidableEq, Repr

/-- One step of a call that has the lock. -/
def State.advance (s : State) (id : ℕ) (op : Op) : Stage → Act → Option State
  | .locked, .openRegistry _ =>
    match s.dir.names .registry with
    | none => some (s.set id (.held op (.loaded [])))
    | some file => some (s.set id (.held op (.reading file)))
  | .reading file, .read _ =>
    match (s.dir.content file).parse with
    | none => some (s.leave id (.returned (.error .parse)))
    | some devices => some (s.set id (.held op (.loaded devices)))
  | .loaded devices, .openTmp _ =>
    if op.stores devices then
      let (dir, file) := s.dir.openTruncate .tmp .torn
      some ({ s with dir }.set id (.held op (.opened (op.effect devices) file)))
    else none
  | .opened devices file, .write _ =>
    let dir := s.dir.write file ((s.dir.content file).write devices)
    some ({ s with dir }.set id (.held op (.written devices)))
  | .written devices, .chmod _ =>
    if (s.dir.names .tmp).isSome then some (s.set id (.held op (.restricted devices)))
    else some (s.leave id (.returned (.error .io)))
  | .restricted _, .rename _ =>
    match s.dir.rename .tmp .registry with
    | some dir =>
      some ({ s with dir, renamed := id :: s.renamed }.set id (.held op .renamed))
    | none => some (s.leave id (.returned (.error .io)))
  | .loaded devices, .ret _ =>
    if op.stores devices then none
    else some (s.leave id (.returned (.ok (op.unchanged devices))))
  | .renamed, .ret _ => some (s.leave id (.returned (.ok op.stored)))
  | .loaded devices, .fail _ =>
    -- a call that does not store has nothing more to do
    if op.stores devices then some (s.leave id (.returned (.error .io))) else none
  | .renamed, .fail _ => none
  | _, .fail _ => some (s.leave id (.returned (.error .io)))
  | _, .crash _ => some (s.leave id .crashed)
  | _, _ => none

/-- The call of a step. -/
def Act.id : Act → ℕ
  | .start id _ | .lock id | .openRegistry id | .read id | .openTmp id | .write id | .chmod id
  | .rename id | .ret id | .fail id | .crash id => id

/-- One step of a call; it is not enabled in another phase. -/
def State.step (s : State) (a : Act) : Option State :=
  match s.calls a.id, a with
  | .idle, .start id op => some (s.set id (.waiting op))
  | .waiting op, .lock id => (s.lock.acquire op.exclusive id).map (s.acquire id op)
  | .waiting _, .fail id => some (s.set id (.returned (.error .io)))
  | .waiting _, .crash id => some (s.set id .crashed)
  | .held op stage, a => s.advance a.id op stage a
  | _, _ => none

/-- The changes whose rename took place, in the order of the lock. -/
def State.committed (s : State) : List Op :=
  (s.acquired.filter fun c => c.1 ∈ s.renamed).map Prod.snd

/-- No call is begun. -/
structure Initial (s : State) : Prop where
  dir : s.dir.WellFormed
  lock : s.lock = .free
  idle : ∀ id, s.calls id = .idle
  acquired : s.acquired = []
  renamed : s.renamed = []

/-! ### What a step does -/

/-- The steps, with what they need and what they lead to. -/
inductive Steps (s : State) : Act → State → Prop
  | start {id : ℕ} {op : Op} (h : s.calls id = .idle) :
      Steps s (.start id op) (s.set id (.waiting op))
  | lock {id : ℕ} {op : Op} {lock : Lock ℕ} (h : s.calls id = .waiting op)
      (hl : s.lock.acquire op.exclusive id = some lock) : Steps s (.lock id) (s.acquire id op lock)
  | openMissing {id : ℕ} {op : Op} (h : s.calls id = .held op .locked)
      (hr : s.dir.names .registry = none) :
      Steps s (.openRegistry id) (s.set id (.held op (.loaded [])))
  | openFound {id : ℕ} {op : Op} {file : ℕ} (h : s.calls id = .held op .locked)
      (hr : s.dir.names .registry = some file) :
      Steps s (.openRegistry id) (s.set id (.held op (.reading file)))
  | read {id : ℕ} {op : Op} {file : ℕ} {devices : List PushDevice}
      (h : s.calls id = .held op (.reading file))
      (hp : (s.dir.content file).parse = some devices) :
      Steps s (.read id) (s.set id (.held op (.loaded devices)))
  | openTmp {id : ℕ} {op : Op} {devices : List PushDevice}
      (h : s.calls id = .held op (.loaded devices)) (hs : op.stores devices = true) :
      Steps s (.openTmp id) ({ s with dir := (s.dir.openTruncate .tmp .torn).1 }.set id
        (.held op (.opened (op.effect devices) (s.dir.openTruncate .tmp .torn).2)))
  | write {id : ℕ} {op : Op} {devices : List PushDevice} {file : ℕ}
      (h : s.calls id = .held op (.opened devices file)) :
      Steps s (.write id)
        ({ s with dir := s.dir.write file ((s.dir.content file).write devices) }.set id
          (.held op (.written devices)))
  | chmod {id : ℕ} {op : Op} {devices : List PushDevice}
      (h : s.calls id = .held op (.written devices)) :
      Steps s (.chmod id) (s.set id (.held op (.restricted devices)))
  | rename {id : ℕ} {op : Op} {devices : List PushDevice} {dir : Dir Name Content}
      (h : s.calls id = .held op (.restricted devices))
      (hr : s.dir.rename .tmp .registry = some dir) :
      Steps s (.rename id)
        ({ s with dir, renamed := id :: s.renamed }.set id (.held op .renamed))
  | unchanged {id : ℕ} {op : Op} {devices : List PushDevice}
      (h : s.calls id = .held op (.loaded devices)) (hs : op.stores devices = false) :
      Steps s (.ret id) (s.leave id (.returned (.ok (op.unchanged devices))))
  | stored {id : ℕ} {op : Op} (h : s.calls id = .held op .renamed) :
      Steps s (.ret id) (s.leave id (.returned (.ok op.stored)))
  | error {id : ℕ} {op : Op} {stage : Stage} (a : Act) (h : s.calls id = .held op stage)
      (hs : stage ≠ .renamed) (e : Fault) : Steps s a (s.leave id (.returned (.error e)))
  | crash {id : ℕ} {op : Op} {stage : Stage} (h : s.calls id = .held op stage) :
      Steps s (.crash id) (s.leave id .crashed)
  | unlocked {id : ℕ} {op : Op} {phase : Phase} (a : Act) (h : s.calls id = .waiting op)
      (hp : phase = .returned (.error .io) ∨ phase = .crashed) : Steps s a (s.set id phase)

variable {s t : State} {a : Act}

theorem steps_advance {op : Op} {stage : Stage} (h : s.calls a.id = .held op stage)
    (ha : s.advance a.id op stage a = some t) : Steps s a t := by
  rcases stage with _ | file | devices | ⟨devices, file⟩ | devices | devices | _ <;>
    cases a <;> simp only [State.advance, Act.id, reduceCtorEq, Option.some.injEq] at h ha
  case locked.openRegistry =>
    split at ha <;> cases ha
    · exact .openMissing h ‹_›
    · exact .openFound h ‹_›
  case reading.read =>
    split at ha <;> cases ha
    · exact .error _ h (by simp) .parse
    · exact .read h ‹_›
  case loaded.openTmp =>
    split at ha <;> cases ha
    exact .openTmp h ‹_›
  case loaded.ret =>
    split at ha <;> cases ha
    exact .unchanged h (Bool.eq_false_iff.mpr ‹_›)
  case loaded.fail =>
    split at ha <;> cases ha
    exact .error _ h (by simp) .io
  case opened.write =>
    cases ha
    exact .write h
  case written.chmod =>
    split at ha <;> cases ha
    · exact .chmod h
    · exact .error _ h (by simp) .io
  case restricted.rename =>
    split at ha <;> cases ha
    · exact .rename h ‹_›
    · exact .error _ h (by simp) .io
  case renamed.ret =>
    cases ha
    exact .stored h
  case locked.crash | reading.crash | loaded.crash | opened.crash | written.crash |
      restricted.crash | renamed.crash =>
    cases ha
    exact .crash h
  all_goals
    cases ha
    exact .error _ h (by simp) .io

theorem steps_of_step (h : s.step a = some t) : Steps s a t := by
  unfold State.step at h
  rcases hc : s.calls a.id with _ | op | ⟨op, stage⟩ | _ | _ <;> simp only [hc] at h
  · cases a <;> cases h
    exact .start hc
  · cases a <;> simp only [reduceCtorEq, Option.some.injEq, Option.map_eq_some_iff] at h
    case lock id =>
      obtain ⟨lock, hl, rfl⟩ := h
      exact .lock hc hl
    case fail id =>
      cases h
      exact .unlocked _ hc (.inl rfl)
    case crash id =>
      cases h
      exact .unlocked _ hc (.inr rfl)
  · cases a <;> exact steps_advance hc h
  · cases a <;> cases h
  · cases a <;> cases h

end MuxrCore.Notify.Concurrent
