import MuxrCore.Grpc.AgentOps
import MuxrCore.Grpc.PaneOps
import MuxrCore.Grpc.PushOps
import MuxrCore.Grpc.SpaceOps
import MuxrCore.Grpc.TokenOps
import MuxrCore.Lib.Program

/-! # What the handlers do

The handlers of the RPCs are programs; these are their operations. A backend is asked to act
(`ActionCall`) or read (`ReadCall`) on the blocking pool, the two registries of relays are read, a
command is put on a relay's channel and its reply waited for, and the token database and the push
devices are used. The answers are the environment's. -/

namespace MuxrCore.Grpc.Operation

open MuxrCore.Lib.Program MuxrCore.Lib.Rpc MuxrCore.Multiplexer.Routing
open MuxrCore.Multiplexer.Agents MuxrCore.Multiplexer.Layout MuxrCore.Relay.Control
open MuxrCore.Grpc.SpaceOps MuxrCore.Grpc.TokenOps
open MuxrCore.Grpc.PaneOps (Awaited)
open MuxrCore.Herdr.Backend (ActionAck SpaceSnapshot)
open MuxrCore.Notify.Devices (PushDevice)

inductive ResizeKind
  | increase | decrease
  deriving DecidableEq, Repr

inductive ResizeDir
  | left | right | up | down
  deriving DecidableEq, Repr

inductive ScrollDir
  | up | down | toTop | toBottom | pageUp | pageDown | halfPageUp | halfPageDown
  deriving DecidableEq, Repr

/-- What a backend is asked to do. -/
inductive ActionCall
  | createSession (name : String) (layout : Option String)
  | killSession (session : String)
  | renameSession (session newName : String)
  | writeToPane (session : String) (pane : PaneRef) (data : List UInt8)
  | focusPane (session : String) (pane : PaneRef)
  | closePane (session : String) (pane : PaneRef)
  | newPane (session : String) (floating : Bool) (name : Option String)
  | renamePane (session : String) (pane : PaneRef) (name : String)
  | resizePane (session : String) (pane : PaneRef) (resize : ResizeKind) (dir : Option ResizeDir)
  | togglePaneFloating (session : String) (pane : PaneRef)
  | togglePaneFullscreen (session : String) (pane : PaneRef)
  | scrollPane (session : String) (pane : PaneRef) (dir : ScrollDir)
  | newTab (session : String) (name : Option String)
  | closeTab (session : String) (tabId : ℕ)
  | goToTab (session : String) (tabId : ℕ)
  | renameTab (session : String) (tabId : ℕ) (name : String)
  | createSpace (label : Option String)
  | renameSpace (spaceId label : String)
  | closeSpace (spaceId : String) (closeGroup : Bool)
  deriving DecidableEq, Repr

/-- The session an action is about; the spaces are the daemon's. -/
def ActionCall.session : ActionCall → Option String
  | .createSession _ _ | .createSpace _ | .renameSpace _ _ | .closeSpace _ _ => none
  | .killSession session | .renameSession session _ | .writeToPane session _ _
  | .focusPane session _ | .closePane session _ | .newPane session _ _ | .renamePane session _ _
  | .resizePane session _ _ _ | .togglePaneFloating session _ | .togglePaneFullscreen session _
  | .scrollPane session _ _ | .newTab session _ | .closeTab session _ | .goToTab session _
  | .renameTab session _ _ => some session

/-- What a backend is asked about. -/
inductive ReadCall
  | listSessionsWithResurrectables
  | listSpaces (session : String)
  | spacesRemovedByClose (spaceId : String) (closeGroup : Bool)
  | queryLayoutForSpace (session : String) (spaceId : Option String)
  | listAgents (session : String)
  deriving DecidableEq, Repr

/-- What it answers: a session is its name, its age in seconds, and whether it has to be
resurrected. -/
def ReadCall.Reply : ReadCall → Type
  | .listSessionsWithResurrectables => List (String × ℕ × Bool)
  | .listSpaces _ => List SpaceSnapshot
  | .spacesRemovedByClose _ _ => List String
  | .queryLayoutForSpace _ _ => LayoutSnapshot
  | .listAgents _ => List AgentSnapshot

/-- The session a read is about. -/
def ReadCall.session : ReadCall → Option String
  | .listSessionsWithResurrectables | .spacesRemovedByClose _ _ => none
  | .listSpaces session | .queryLayoutForSpace session _ | .listAgents session => some session

/-- Why a backend fails: the text of the whole chain, and which of the typed causes is in it. -/
structure BackendError where
  text : String
  unknownSession : Bool
  unknownSpace : Bool
  deriving DecidableEq, Repr

/-- How a task on the blocking pool ends; the outer error is a panic of the task. -/
abbrev Blocking (ε α : Type) := Except String (Except ε α)

/-- A token, as the database lists it. -/
structure StoredToken where
  name : String
  createdAt : String
  readOnly : Bool
  deriving DecidableEq, Repr

/-- What a handler does. -/
inductive Op
  | validateSessionToken (token : String)
  | isSessionTokenReadOnly (token : String)
  | action (kind : BackendKind) (call : ActionCall)
  | read (kind : BackendKind) (call : ReadCall)
  /-- a read that is given up after a while -/
  | timedRead (kind : BackendKind) (call : ReadCall)
  /-- the time for a read ran out -/
  | elapsed
  | control
  | viewState
  | oneshot
  | send (tx : ChannelId) (cmd : RelayControl)
  | awaitReply (reply : ReplyId)
  | awaitLayout (reply : ReplyId)
  | clientCount (id : String)
  | login (authToken : String) (rememberMe : Bool)
  | createToken (name : Option String) (readOnly : Bool)
  | listTokens
  | revokeToken (name : String)
  | nowEpoch
  | upsertDevice (device : PushDevice)
  | listDevices
  | removeDevice (name : String)
  /-- attach a relay, which reads its stream from here on -/
  | attachRelay (readOnly : Bool) (token : Option String)
  /-- subscribe to the event bus -/
  | subscribe
  /-- open a watch, which reads the bus from here on -/
  | openWatch (session : String) (token : Option String) (subscribed : Bool)
  deriving DecidableEq, Repr

def Op.Answer : Op → Type
  | .validateSessionToken _ | .isSessionTokenReadOnly _ => Except String Bool
  | .action _ _ => Blocking BackendError ActionAck
  | .read _ call => Blocking BackendError call.Reply
  | .timedRead _ call => Option (Blocking BackendError call.Reply)
  | .elapsed => Bool
  | .control => ControlRegistry
  | .viewState => String → Option ViewStateEntry
  | .oneshot => ReplyId
  | .send _ _ => Bool
  | .awaitReply _ => Awaited
  | .awaitLayout _ => Option LayoutSnapshot
  | .clientCount _ => ℕ
  | .login _ _ => Except String (Except LoginErr (String × Bool))
  | .createToken _ _ => Blocking String (String × String)
  | .listTokens => Blocking String (List StoredToken)
  | .revokeToken _ => Blocking String Bool
  | .nowEpoch => ℕ
  | .upsertDevice _ => Blocking String Unit
  | .listDevices => Blocking String (List PushDevice)
  | .removeDevice _ => Blocking String Bool
  | .attachRelay _ _ => Except Status Unit
  | .subscribe => Unit
  | .openWatch _ _ _ => Unit

/-- What has been done, with the answers. -/
abbrev History := List (Event Op.Answer)

/-- How a handler fails: it answers a status, or it panics. -/
inductive Fault
  | status (s : Status)
  | panicked
  deriving DecidableEq, Repr

/-- A handler. -/
abbrev Handle (α : Type) := Handler Op.Answer Fault α

/-- Perform an operation. -/
def perform (op : Op) : Handle op.Answer := Handler.op op

/-- Go on, or answer the status. -/
def ensure {α : Type} (r : Except Status α) : Handle α := Handler.check (r.mapError .status)

end MuxrCore.Grpc.Operation
