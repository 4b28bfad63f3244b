import MuxrCore.Lib.Runs
import MuxrCore.Lib.Text
import MuxrCore.PushRelay.Store

/-! # Notify requests

A notify request looks its handle up, reads the clock, checks the daily cap, asks the handle's
limiter, sends, and then counts the send, or notes that the push service has disowned the token.
Each of these is a step of its own, and between them other requests, registrations and deletions
act.

`Relay.step` is one such step. `Relay.accepted` is what the push service has accepted, with the
handle and the day of the request. -/

namespace MuxrCore.PushRelay.Notify

open MuxrCore.PushRelay.Store

/-- The HTTP answers. -/
inductive StatusCode
  | ok | noContent | badRequest | notFound | gone | tooManyRequests | internalServerError
  | badGateway
  deriving DecidableEq, Repr

def maxTitleChars : ℕ := 100

def maxBodyChars : ℕ := 512

def maxTokenChars : ℕ := 512

structure RegisterRequest where
  platform : String
  fcmToken : String
  existingHandle : Option String
  deriving DecidableEq, Repr

structure NotifyRequest where
  pushHandle : String
  kind : String
  title : Option String
  body : Option String
  deriving DecidableEq, Repr

/-- The day a time lies in. -/
def dayBucket (now : ℕ) : ℕ := now / 86400

/-- How a send ended. -/
inductive SendOutcome
  | delivered
  | unregistered
  | upstreamError
  deriving DecidableEq, Repr

/-! ### Registrations -/

/-- A registration; `allowed` is what the limiter says. The relay answers with the handle. -/
def register (rows : Rows) (allowed : Bool) (req : RegisterRequest) (newHandle : String)
    (now : ℕ) : Rows × Except StatusCode String :=
  if !allowed then (rows, .error .tooManyRequests)
  else if req.platform ≠ "android" then (rows, .error .badRequest)
  else if Lib.Text.isBlank req.fcmToken || req.fcmToken.length > maxTokenChars then
    (rows, .error .badRequest)
  else
    match Store.register rows req.platform req.fcmToken req.existingHandle newHandle now with
    | (rows, .ok handle) => (rows, .ok handle)
    | (rows, .error _) => (rows, .error .internalServerError)

/-! ### A notify request -/

/-- How far a request is; the next step is named after the phase. -/
inductive Phase
  | lookup (req : NotifyRequest)
  | check (req : NotifyRequest) (reg : Registration)
  | limit (req : NotifyRequest) (reg : Registration) (day now : ℕ)
  | send (req : NotifyRequest) (reg : Registration) (day now : ℕ)
  | record (reg : Registration) (day now : ℕ)
  | prune (reg : Registration)
  | answered (status : StatusCode)
  deriving DecidableEq, Repr

/-- What comes before the lookup. -/
def Phase.received (allowed : Bool) (req : NotifyRequest) : Phase :=
  if !allowed then .answered .tooManyRequests
  else if (req.title.map String.length).getD 0 > maxTitleChars ||
      (req.body.map String.length).getD 0 > maxBodyChars then .answered .badRequest
  else .lookup req

/-- On the row that was found. -/
def Phase.found (req : NotifyRequest) : Except String (Option Registration) → Phase
  | .ok (some reg) => if reg.pruned then .answered .gone else .check req reg
  | .ok none => .answered .notFound
  | .error _ => .answered .internalServerError

/-- On the reading of the clock. -/
def Phase.checked (dailyCap : ℕ) (req : NotifyRequest) (reg : Registration) (now : ℕ) : Phase :=
  if reg.dayBucket = some (dayBucket now) && reg.sendsToday ≥ dailyCap then
    .answered .tooManyRequests
  else .limit req reg (dayBucket now) now

/-- On the outcome of the send. -/
def Phase.sent (reg : Registration) (day now : ℕ) : Except String SendOutcome → Phase
  | .ok .delivered => .record reg day now
  | .ok .unregistered => .prune reg
  | .ok .upstreamError => .answered .badGateway
  | .error _ => .answered .badGateway

/-- The row that a request has found. -/
def Phase.reg? : Phase → Option Registration
  | .check _ reg => some reg
  | .limit _ reg _ _ => some reg
  | .send _ reg _ _ => some reg
  | .record reg _ _ => some reg
  | .prune reg => some reg
  | _ => none

/-! ### The relay -/

/-- The rows, the requests, what the push service has accepted, and the handles minted so far. -/
structure Relay where
  rows : Rows
  requests : List Phase
  accepted : List (String × ℕ)
  minted : String → Prop

/-- What happens next. The store fails where `failed` is set; `allowed` is what a limiter says. -/
inductive Act
  | notify (allowed : Bool) (req : NotifyRequest)
  | lookup (id : ℕ) (failed : Option String)
  | check (id now : ℕ)
  | limit (id : ℕ) (allowed : Bool)
  | send (id : ℕ) (outcome : Except String SendOutcome)
  | record (id : ℕ) (failed : Bool)
  | prune (id : ℕ) (failed : Bool)
  | register (allowed : Bool) (req : RegisterRequest) (newHandle : String) (now : ℕ)
      (answer : Except StatusCode String)
  | delete (handle : String)

def Relay.set (s : Relay) (id : ℕ) (phase : Phase) : Relay :=
  { s with requests := s.requests.set id phase }

/-- One step. New handles are drawn at random: none has been minted before. -/
inductive Step (dailyCap : ℕ) : Relay → Act → Relay → Prop
  | notify (s : Relay) (allowed : Bool) (req : NotifyRequest) :
      Step dailyCap s (.notify allowed req)
        { s with requests := s.requests ++ [.received allowed req] }
  | lookup {s : Relay} {id : ℕ} {req : NotifyRequest} (h : s.requests[id]? = some (.lookup req))
      (failed : Option String) :
      Step dailyCap s (.lookup id failed)
        (s.set id (.found req (failed.elim (.ok (Store.get s.rows req.pushHandle)) .error)))
  | check {s : Relay} {id : ℕ} {req : NotifyRequest} {reg : Registration}
      (h : s.requests[id]? = some (.check req reg)) (now : ℕ) :
      Step dailyCap s (.check id now) (s.set id (.checked dailyCap req reg now))
  | limit {s : Relay} {id : ℕ} {req : NotifyRequest} {reg : Registration} {day now : ℕ}
      (h : s.requests[id]? = some (.limit req reg day now)) (allowed : Bool) :
      Step dailyCap s (.limit id allowed)
        (s.set id (if allowed then .send req reg day now else .answered .tooManyRequests))
  | send {s : Relay} {id : ℕ} {req : NotifyRequest} {reg : Registration} {day now : ℕ}
      (h : s.requests[id]? = some (.send req reg day now)) (outcome : Except String SendOutcome) :
      Step dailyCap s (.send id outcome)
        { s.set id (.sent reg day now outcome) with
          accepted :=
            if outcome = .ok .delivered then (reg.handle, day) :: s.accepted else s.accepted }
  | record {s : Relay} {id : ℕ} {reg : Registration} {day now : ℕ}
      (h : s.requests[id]? = some (.record reg day now)) (failed : Bool) :
      Step dailyCap s (.record id failed)
        { s.set id (.answered .noContent) with
          rows := if failed then s.rows else recordSend s.rows reg.handle day now }
  | prune {s : Relay} {id : ℕ} {reg : Registration} (h : s.requests[id]? = some (.prune reg))
      (failed : Bool) :
      Step dailyCap s (.prune id failed)
        { s.set id (.answered .gone) with
          rows := if failed then s.rows else markPruned s.rows reg.handle }
  | register (s : Relay) (allowed : Bool) (req : RegisterRequest) {newHandle : String} (now : ℕ)
      (hfresh : ¬ s.minted newHandle) :
      Step dailyCap s
        (.register allowed req newHandle now (register s.rows allowed req newHandle now).2)
        { s with
          rows := (register s.rows allowed req newHandle now).1
          minted := fun handle => s.minted handle ∨ handle = newHandle }
  | delete (s : Relay) (handle : String) :
      Step dailyCap s (.delete handle) { s with rows := delete s.rows handle }

/-- An action has one outcome. -/
theorem Step.unique {dailyCap : ℕ} {s t t' : Relay} {a : Act} (h : Step dailyCap s a t)
    (h' : Step dailyCap s a t') : t = t' := by
  rcases h with _ | ⟨hold, _⟩ | ⟨hold, _⟩ | ⟨hold, _⟩ | ⟨hold, _⟩ | ⟨hold, _⟩ | ⟨hold, _⟩ | _ | _
  · cases h'
    rfl
  · rcases h' with _ | ⟨hold', _⟩
    obtain rfl := Phase.lookup.inj (Option.some.inj (hold.symm.trans hold'))
    rfl
  · rcases h' with _ | _ | ⟨hold', _⟩
    cases hold.symm.trans hold'
    rfl
  · rcases h' with _ | _ | _ | ⟨hold', _⟩
    cases hold.symm.trans hold'
    rfl
  · rcases h' with _ | _ | _ | _ | ⟨hold', _⟩
    cases hold.symm.trans hold'
    rfl
  · rcases h' with _ | _ | _ | _ | _ | ⟨hold', _⟩
    cases hold.symm.trans hold'
    rfl
  · rcases h' with _ | _ | _ | _ | _ | _ | ⟨hold', _⟩
    cases hold.symm.trans hold'
    rfl
  · cases h'
    rfl
  · cases h'
    rfl

end MuxrCore.PushRelay.Notify
