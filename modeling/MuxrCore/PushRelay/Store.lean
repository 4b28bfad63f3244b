import Mathlib.Algebra.Group.Nat.Defs
import Mathlib.Logic.Function.Basic
import Mathlib.Tactic.SplitIfs
import MuxrCore.Lib.Tables

/-! # The relay's registrations

The relay keeps a row for each handle: the token that the push service knows the device by, whether
the push service has disowned the token, and how many messages went out on the last day one did.
Every operation is one transaction. -/

namespace MuxrCore.PushRelay.Store

/-- The row of a handle. Days are counted from the epoch; there is none before the first send. -/
structure Row where
  platform : String
  fcmToken : String
  createdAt : ℕ
  lastSend : Option ℕ
  dayBucket : Option ℕ
  sendsToday : ℕ
  pruned : Bool
  deriving DecidableEq, Repr

/-- The rows, by handle. -/
abbrev Rows := String → Option Row

/-- What is read of a row. -/
structure Registration where
  handle : String
  platform : String
  fcmToken : String
  pruned : Bool
  dayBucket : Option ℕ
  sendsToday : ℕ
  deriving DecidableEq, Repr

variable (rows : Rows)

/-- The row with a new token; it is not disowned. -/
def Row.refresh (row : Row) (platform token : String) : Row :=
  { row with fcmToken := token, platform, pruned := false }

/-- The row of a new handle. -/
def Row.new (platform token : String) (now : ℕ) : Row :=
  ⟨platform, token, now, none, none, 0, false⟩

/-- Register a device: refresh the row of the handle it has, or else insert one for the new handle.
-/
def register (platform token : String) (existing : Option String) (newHandle : String) (now : ℕ) :
    Rows × Except String String :=
  match existing.bind fun handle => (rows handle).map fun row => (handle, row) with
  | some (handle, row) =>
    (Function.update rows handle (some (row.refresh platform token)), .ok handle)
  | none =>
    match rows newHandle with
    | some _ => (rows, .error "UNIQUE constraint failed: registrations.handle")
    | none => (Function.update rows newHandle (some (.new platform token now)), .ok newHandle)

/-- Read a row; the count is read in 32 bits. -/
def get (handle : String) : Option Registration :=
  (rows handle).map fun row =>
    ⟨handle, row.platform, row.fcmToken, row.pruned, row.dayBucket, row.sendsToday % 2 ^ 32⟩

/-- The row after a send on a day. -/
def Row.record (row : Row) (day now : ℕ) : Row :=
  { row with
    sendsToday := if row.dayBucket = some day then row.sendsToday + 1 else 1
    dayBucket := some day
    lastSend := some now }

/-- Count a send. -/
def recordSend (handle : String) (day now : ℕ) : Rows :=
  Function.update rows handle ((rows handle).map fun row => row.record day now)

/-- Note that the push service has disowned the token of a handle. -/
def markPruned (handle : String) : Rows :=
  Function.update rows handle ((rows handle).map fun row => { row with pruned := true })

/-- Forget a handle. -/
def delete (handle : String) : Rows := Function.update rows handle none

end MuxrCore.PushRelay.Store
