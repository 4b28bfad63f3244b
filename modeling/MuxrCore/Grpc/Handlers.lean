import MuxrCore.Grpc.Layout
import MuxrCore.Grpc.Repoint
import MuxrCore.Lib.Slice
import MuxrCore.Muxrd.Auth

/-! # The handlers

Every RPC's handler, as a program over the operations of `Grpc.Operation`. A handler checks the
request's tier, resolves its session, checks its texts, and then has a relay or a backend act, in
the order of the source. What a relay does with a command is `Relay.Inbound`; a stream that a
handler opens is `Relay.Inbound` too, or `Grpc.Watch`. -/

namespace MuxrCore.Grpc.Handlers

open MuxrCore.Lib.Program MuxrCore.Lib.Rpc MuxrCore.Lib.Slice MuxrCore.Lib.Text
open MuxrCore.Multiplexer.Routing
open MuxrCore.Multiplexer.Agents MuxrCore.Multiplexer.Layout MuxrCore.Relay.Control
open MuxrCore.Grpc.Operation MuxrCore.Grpc.AgentOps MuxrCore.Grpc.Route MuxrCore.Grpc.SpaceOps
open MuxrCore.Grpc.Repoint MuxrCore.Muxrd.Auth
open MuxrCore.Grpc.PaneOps (Awaited awaitToggleReply)
open MuxrCore.Grpc.PushOps (rejectIfReadOnly RegisterPushTargetReq)
open MuxrCore.Grpc.TokenOps (LoginRequest LoginResponse)
open MuxrCore.Grpc.Layout (SessionRef LayoutMsg shouldApplyViewStateOverride isSpaceScoped
  rejectsSpaceScope spaceIsOwn buildLayout)
open MuxrCore.Herdr.Backend (ActionAck SpaceSnapshot)
open MuxrCore.Notify.Devices (PushDevice validatePushHandle validateDeviceName)

/-! ### The service -/

/-- What is known of a backend without a call. -/
structure Backend where
  supportsSpaces : Bool
  supportsAgents : Bool
  backendVersion : String
  deriving DecidableEq, Repr

/-- The service; `logsInfo` is whether the log takes lines of the level `info`. -/
structure MuxrService where
  env : Externs
  backends : BackendSet Backend
  notifyRelayUrl : Option String
  eventBus : Bool
  logsInfo : Bool

/-- The version of this server. -/
def serverVersion : String := "0.5.2"

/-! ### Helpers -/

/-- The first bytes of a text, at most `n`; the slice panics inside a character. -/
def slice (n : ℕ) (s : String) : Handle String :=
  match takeBytes (min n s.utf8ByteSize) s.toList with
  | some cs => return String.ofList cs
  | none => throw .panicked

/-- The part of a connection id that is logged. -/
def shortConn (id : String) : Handle String := slice 8 id

/-- Log a line that names a connection. -/
def logConn (svc : MuxrService) (connectionId : String) : Handle Unit := do
  if svc.logsInfo then let _ ← shortConn connectionId

/-- The part of a handle that may be shown. -/
def handlePrefix (handle : String) : Handle String := slice 8 handle

/-- The tier of a request; without a mark it is read-only. -/
def sessionIsReadOnly (ext : Extensions) : Bool := ext.sessionReadOnly.getD true

/-- The backend that owns a session, and the session's bare name. -/
def resolveSession (svc : MuxrService) (id : String) : Handle (BackendKind × Backend × String) :=
  ensure (resolveSessionKind svc.env svc.backends id)

/-- A field that has to be there. -/
def required {α : Type} (message : String) : Option α → Except Status α
  | some a => .ok a
  | none => .error (.invalidArgument message)

/-- The characters that a terminal takes as control. -/
def isControl (c : Char) : Bool := c.toNat < 0x20 || (0x7f ≤ c.toNat && c.toNat < 0xa0)

/-- The longest name of a tab or a pane, in bytes. -/
def maxDisplayNameLen : ℕ := 128

/-- A name that is displayed. -/
def validateDisplayName (name kind : String) : Except Status Unit :=
  if name.isEmpty then .error (.invalidArgument s!"{kind} name must not be empty")
  else if name.utf8ByteSize > maxDisplayNameLen then
    .error (.invalidArgument s!"{kind} name too long (max {maxDisplayNameLen} bytes)")
  else if name.toList.any isControl then
    .error (.invalidArgument (s!"invalid {kind} name: control characters (ANSI escapes, " ++
      "newlines, NUL) are not allowed"))
  else .ok ()

/-- A name, or none for an empty one. -/
def optionalName (name kind : String) : Except Status (Option String) :=
  if name.isEmpty then .ok none else (validateDisplayName name kind).map fun _ => some name

/-- A layout is named by a bare name. -/
def validateLayoutName (env : Externs) (layout : String) : Except Status Unit :=
  if layout.isEmpty || !layout.toList.all fun c => c.isAlphanum || c == '_' || c == '-' then
    .error (.invalidArgument
      (s!"invalid layout {env.debug layout}: only a bare layout name [A-Za-z0-9_-] is allowed " ++
        "(absolute paths, '/', and '..' are rejected)"))
  else .ok ()

/-- The longest label of a space, in bytes. -/
def maxSpaceLabelLen : ℕ := 64

/-- The label of a space. -/
def validateSpaceLabel (label : String) : Except Status Unit :=
  if label.isEmpty then .error (.invalidArgument "space label must not be empty")
  else if label.utf8ByteSize > maxSpaceLabelLen then
    .error (.invalidArgument s!"space label too long (max {maxSpaceLabelLen} bytes)")
  else if !label.toList.all fun c => c.isAlphanum || c == ' ' || c == '_' || c == '-' || c == '.'
  then .error (.invalidArgument
    "invalid space label: only [A-Za-z0-9], space, and the characters _-. are allowed")
  else .ok ()

/-- The answer of an action, with the cause of a failure. -/
def actionAnswer (rpc : String) : Blocking BackendError ActionAck → Except Status ProtoAck
  | .error e => .error (.internal s!"{rpc}: action task panicked: {e}")
  | .ok (.error e) => .error (.internal s!"{rpc}: {e.text}")
  | .ok (.ok ack) => .ok (protoAck ack)

/-- Have a backend act. -/
def runAction (rpc : String) (kind : BackendKind) (call : ActionCall) : Handle ProtoAck := do
  let answer ← perform (.action kind call)
  ensure (actionAnswer rpc answer)

/-- The answer of an action on a space, without the cause of a failure. -/
def spaceActionAnswer (rpc : String) : Blocking BackendError ActionAck → Except Status ProtoAck
  | .error e => .error (.internal s!"{rpc}: action task panicked: {e}")
  | .ok (.error _) => .error (.internal s!"{rpc}: backend error")
  | .ok (.ok ack) => .ok (protoAck ack)

/-- Have a backend act on its spaces. -/
def runSpaceAction (rpc : String) (kind : BackendKind) (call : ActionCall) : Handle ProtoAck := do
  let answer ← perform (.action kind call)
  ensure (spaceActionAnswer rpc answer)

/-! ### Routing -/

/-- Send the command, and answer nothing if the relay is gone. -/
def sendOrNone (tx : ChannelId) (cmd : RelayControl) (info : String) :
    Handle (Option ProtoAck) := do
  let sent : Bool ← perform (.send tx cmd)
  return if sent then some (routed info) else none

/-- Route a command to a live relay: the registry is read for the caller's own relay, and once more
for the fallback. -/
def tryRouteControl (session connectionId : String) (readOnly : Bool) (cmd : RelayControl) :
    Handle (Option ProtoAck) := do
  let control ← perform .control
  let exact := exactMatch control session connectionId
  if isCollapsedBackendSession session then
    match exact with
    | some tx =>
      let sent : Bool ← perform (.send tx cmd)
      return some (if sent then routed perConnectionInfo else reattachRequired)
    | none => return some reattachRequired
  else
    match exact with
    | some tx => sendOrNone tx cmd perConnectionInfo
    | none =>
      if readOnly then return some reattachRequired
      else
        let control : ControlRegistry ← perform .control
        match control.find fun entry => entry.session = session && !entry.readOnly with
        | some entry => sendOrNone entry.sender cmd fallbackInfo
        | none => return none

/-! ### Requests -/

structure PaneTarget where
  session : String
  paneId : ℕ
  isPlugin : Bool
  connectionId : String
  deriving DecidableEq, Repr

def paneRef (target : PaneTarget) : PaneRef := ⟨target.paneId, target.isPlugin⟩

structure WriteToPaneReq where
  target : Option PaneTarget
  data : List UInt8
  deriving DecidableEq, Repr

structure NewPaneReq where
  session : String
  floating : Bool
  paneName : String
  deriving DecidableEq, Repr

structure RenamePaneReq where
  target : Option PaneTarget
  name : String
  deriving DecidableEq, Repr

structure ResizePaneReq where
  target : Option PaneTarget
  resize : ℤ
  direction : ℤ
  deriving DecidableEq, Repr

structure ToggleFullscreenReq where
  target : Option PaneTarget
  targetIsFloating : Bool
  floatingVisible : Bool
  targetIsFocusedFloating : Bool
  hasFloatingHint : Bool
  deriving DecidableEq, Repr

structure ScrollReq where
  target : Option PaneTarget
  direction : ℤ
  deriving DecidableEq, Repr

structure NewTabReq where
  session : String
  tabName : String
  deriving DecidableEq, Repr

structure TabTarget where
  session : String
  tabId : ℕ
  connectionId : String
  deriving DecidableEq, Repr

structure RenameTabReq where
  session : String
  tabId : ℕ
  name : String
  deriving DecidableEq, Repr

structure RenameSessionReq where
  session : String
  name : String
  deriving DecidableEq, Repr

structure CreateSessionReq where
  name : String
  layout : String
  backend : ℤ
  deriving DecidableEq, Repr

structure SwitchSpaceReq where
  session : String
  spaceId : String
  connectionId : String
  deriving DecidableEq, Repr

structure CreateSpaceReq where
  session : String
  label : String
  deriving DecidableEq, Repr

structure RenameSpaceReq where
  session : String
  spaceId : String
  label : String
  deriving DecidableEq, Repr

structure CloseSpaceReq where
  session : String
  spaceId : String
  connectionId : String
  closeGroup : Bool
  deriving DecidableEq, Repr

structure CreateTokenReq where
  name : String
  readOnly : Bool
  deriving DecidableEq, Repr

/-! ### Panes -/

/-- The largest write to a pane, in bytes. -/
def maxWriteToPaneBytes : ℕ := 1024 * 1024

/-- The payload of a write is bounded. -/
def validatePayload (data : List UInt8) : Except Status Unit :=
  if data.length > maxWriteToPaneBytes then
    .error (.invalidArgument (s!"WriteToPane: payload {data.length} bytes exceeds the " ++
      s!"{maxWriteToPaneBytes} byte limit"))
  else .ok ()

variable (svc : MuxrService) (ext : Extensions)

def writeToPaneImpl (req : WriteToPaneReq) : Handle ProtoAck := do
  ensure (rejectIfReadOnly ext.sessionReadOnly)
  ensure (validatePayload req.data)
  let target ← ensure (required "WriteToPane: target is required" req.target)
  let (kind, _, session) ← resolveSession svc target.session
  runAction "WriteToPane" kind (.writeToPane session (paneRef target) req.data)

def focusPaneImpl (target : PaneTarget) : Handle ProtoAck := do
  let readOnly := sessionIsReadOnly ext
  let (kind, _, session) ← resolveSession svc target.session
  logConn svc target.connectionId
  match ← tryRouteControl target.session target.connectionId readOnly
      (.focusPane (paneRef target)) with
  | some ack => return ack
  | none => runAction "FocusPane" kind (.focusPane session (paneRef target))

def closePaneImpl (target : PaneTarget) : Handle ProtoAck := do
  ensure (rejectIfReadOnly ext.sessionReadOnly)
  let (kind, _, session) ← resolveSession svc target.session
  runAction "ClosePane" kind (.closePane session (paneRef target))

def newPaneImpl (req : NewPaneReq) : Handle ProtoAck := do
  ensure (rejectIfReadOnly ext.sessionReadOnly)
  let (kind, _, session) ← resolveSession svc req.session
  let paneName ← ensure (optionalName req.paneName "pane")
  runAction "NewPane" kind (.newPane session req.floating paneName)

def renamePaneImpl (req : RenamePaneReq) : Handle ProtoAck := do
  ensure (rejectIfReadOnly ext.sessionReadOnly)
  let target ← ensure (required "RenamePane: target is required" req.target)
  let (kind, _, session) ← resolveSession svc target.session
  -- an empty name resets the pane to its own title
  let _ ← ensure (optionalName req.name "pane")
  runAction "RenamePane" kind (.renamePane session (paneRef target) req.name)

/-- The kind of a resize; what is not known grows the pane. -/
def resizeKind (resize : ℤ) : ResizeKind := if resize = 1 then .decrease else .increase

def resizeDir (direction : ℤ) : Option ResizeDir :=
  if direction = 1 then some .left
  else if direction = 2 then some .right
  else if direction = 3 then some .up
  else if direction = 4 then some .down
  else none

def resizePaneImpl (req : ResizePaneReq) : Handle ProtoAck := do
  ensure (rejectIfReadOnly ext.sessionReadOnly)
  let target ← ensure (required "ResizePane: target is required" req.target)
  let (kind, _, session) ← resolveSession svc target.session
  runAction "ResizePane" kind
    (.resizePane session (paneRef target) (resizeKind req.resize) (resizeDir req.direction))

def togglePaneFloatingImpl (target : PaneTarget) : Handle ProtoAck := do
  ensure (rejectIfReadOnly ext.sessionReadOnly)
  let (kind, _, session) ← resolveSession svc target.session
  runAction "TogglePaneFloating" kind (.togglePaneFloating session (paneRef target))

/-- The client's account of the target, if it says that it gives one. -/
def floatingHint (req : ToggleFullscreenReq) : Option FloatingHint :=
  if req.hasFloatingHint then
    some ⟨req.targetIsFloating, req.floatingVisible, req.targetIsFocusedFloating⟩
  else none

def togglePaneFullscreenImpl (req : ToggleFullscreenReq) : Handle ProtoAck := do
  ensure (rejectIfReadOnly ext.sessionReadOnly)
  let readOnly := sessionIsReadOnly ext
  let target ← ensure (required "TogglePaneFullscreen: missing target" req.target)
  let (kind, _, session) ← resolveSession svc target.session
  logConn svc target.connectionId
  let reply ← perform .oneshot
  match ← tryRouteControl target.session target.connectionId readOnly
      (.toggleFullscreen (paneRef target) (floatingHint req) (some reply)) with
  | some ack =>
    if ack.ok then
      let outcome ← perform (.awaitReply reply)
      return awaitToggleReply ack.info outcome
    else return ack
  | none =>
    runAction "TogglePaneFullscreen" kind (.togglePaneFullscreen session (paneRef target))

def scrollDir (direction : ℤ) : ScrollDir :=
  if direction = 1 then .down
  else if direction = 2 then .toTop
  else if direction = 3 then .toBottom
  else if direction = 4 then .pageUp
  else if direction = 5 then .pageDown
  else if direction = 6 then .halfPageUp
  else if direction = 7 then .halfPageDown
  else .up

def scrollPaneImpl (req : ScrollReq) : Handle ProtoAck := do
  let target ← ensure (required "ScrollPane: target is required" req.target)
  let (kind, _, session) ← resolveSession svc target.session
  runAction "ScrollPane" kind (.scrollPane session (paneRef target) (scrollDir req.direction))

/-! ### Tabs -/

def newTabImpl (req : NewTabReq) : Handle ProtoAck := do
  ensure (rejectIfReadOnly ext.sessionReadOnly)
  let (kind, _, session) ← resolveSession svc req.session
  let tabName ← ensure (optionalName req.tabName "tab")
  runAction "NewTab" kind (.newTab session tabName)

def closeTabImpl (req : TabTarget) : Handle ProtoAck := do
  ensure (rejectIfReadOnly ext.sessionReadOnly)
  let (kind, _, session) ← resolveSession svc req.session
  runAction "CloseTab" kind (.closeTab session req.tabId)

def goToTabImpl (req : TabTarget) : Handle ProtoAck := do
  let readOnly := sessionIsReadOnly ext
  let (kind, _, session) ← resolveSession svc req.session
  logConn svc req.connectionId
  match ← tryRouteControl req.session req.connectionId readOnly (.switchTab req.tabId) with
  | some ack => return ack
  | none => runAction "GoToTab" kind (.goToTab session req.tabId)

def renameTabImpl (req : RenameTabReq) : Handle ProtoAck := do
  ensure (rejectIfReadOnly ext.sessionReadOnly)
  let (kind, _, session) ← resolveSession svc req.session
  ensure (validateDisplayName req.name "tab")
  runAction "RenameTab" kind (.renameTab session req.tabId req.name)

/-! ### Sessions -/

/-- The number a kind of backend is sent as. -/
def protoBackend : BackendKind → ℤ
  | .zellij => 1
  | .herdr => 2

/-- The kind that a number names; none for the unspecified one. -/
def kindFromProto (backend : ℤ) : Except Status (Option BackendKind) :=
  if backend = 0 then .ok none
  else if backend = 1 then .ok (some .zellij)
  else if backend = 2 then .ok (some .herdr)
  else .error (.invalidArgument s!"CreateSession: unknown backend tag {backend}")

/-- One row of the listing. -/
structure SessionInfo where
  name : String
  ageSecs : ℕ
  resurrectable : Bool
  tabCount : ℕ
  paneCount : ℕ
  hasBell : Bool
  isCurrent : Bool
  connectedClients : ℕ
  backend : ℤ
  id : String
  spaceCount : ℕ
  agents : Option AgentSummary
  deriving DecidableEq, Repr

/-- The summaries of sessions, by bare name. -/
abbrev Summaries := AList fun _ : String => AgentSummary

/-- The sessions' summaries, one after the other; none if the task panics. -/
def listEach (kind : BackendKind) : List String → Summaries → Handle (Option Summaries)
  | [], out => return some out
  | name :: rest, out => do
    let answer : Blocking BackendError (List AgentSnapshot) ←
      perform (.read kind (.listAgents name))
    match answer with
    | .error _ => return none
    | .ok (.error _) => listEach kind rest out
    | .ok (.ok agents) =>
      listEach kind rest (out.insert name (AgentSummary.from (sortAgents agents)))

/-- The summaries of the live sessions; none at all if the task panics or takes too long. -/
def sessionAgentSummaries (kind : BackendKind) (sessions : List (String × ℕ × Bool)) :
    Handle Summaries := do
  match (sessions.filter fun s => !s.2.2).map (·.1) with
  | [] => return ∅
  | live =>
    let summaries ← listEach kind live ∅
    let elapsed : Bool ← perform .elapsed
    return if elapsed then ∅ else summaries.getD ∅

/-- What a backend lists, with its summaries; none if it fails or takes too long. -/
def queryBackend (kind : BackendKind) (backend : Backend) :
    Handle (Option (List (String × ℕ × Bool)) × Summaries) := do
  let answer : Option (Blocking BackendError (List (String × ℕ × Bool))) ←
    perform (.timedRead kind .listSessionsWithResurrectables)
  match answer with
  | some (.ok (.ok sessions)) =>
    let agents ← if backend.supportsAgents then sessionAgentSummaries kind sessions else pure ∅
    return (some sessions, agents)
  | _ => return (none, ∅)

/-- The answers of all backends. -/
def queryBackends : List (BackendKind × Backend) →
    Handle (List (BackendKind × Option (List (String × ℕ × Bool)) × Summaries))
  | [] => return []
  | (kind, backend) :: rest => do
    let answer ← queryBackend kind backend
    return (kind, answer) :: (← queryBackends rest)

/-- How many spaces herdr has; `0` if it does not say, and for any other backend. -/
def spaceCount (kind : BackendKind) : Handle ℕ :=
  match kind with
  | .zellij => return 0
  | .herdr => do
    let answer : Option (Blocking BackendError (List SpaceSnapshot)) ←
      perform (.timedRead .herdr (.listSpaces "herdr"))
    match answer with
    | some (.ok (.ok spaces)) => return min spaces.length (2 ^ 32 - 1)
    | _ => return 0

/-- The rows of one backend. -/
def sessionRows (kind : BackendKind) (spaces : ℕ) :
    List (String × ℕ × Bool) → Summaries → Handle (List SessionInfo)
  | [], _ => return []
  | (name, ageSecs, resurrectable) :: rest, agents => do
    let id := makeId kind name
    let connectedClients : ℕ ← perform (.clientCount id)
    let row : SessionInfo :=
      { name, ageSecs, resurrectable, tabCount := 0, paneCount := 0, hasBell := false,
        isCurrent := false, connectedClients, backend := protoBackend kind, id,
        spaceCount := spaces, agents := agents.lookup name }
    return row :: (← sessionRows kind spaces rest (agents.erase name))

/-- The rows of all backends that answered. -/
def mergeSessions : List (BackendKind × Option (List (String × ℕ × Bool)) × Summaries) →
    Handle (List SessionInfo)
  | [] => return []
  | (_, none, _) :: rest => mergeSessions rest
  | (kind, some sessions, agents) :: rest => do
    let spaces ← spaceCount kind
    let rows ← sessionRows kind spaces sessions agents
    return rows ++ (← mergeSessions rest)

def listSessionsImpl : Handle (List SessionInfo) := do
  let results ← queryBackends svc.backends.backends
  mergeSessions results

/-- Attach a relay; without a mark it is read-only, and without a token it ends at its first
check. -/
def attachTerminalImpl : Handle Unit := do
  let answer : Except Status Unit ←
    perform (.attachRelay (sessionIsReadOnly ext) ext.sessionToken)
  ensure answer

def renameSessionImpl (req : RenameSessionReq) : Handle ProtoAck := do
  ensure (rejectIfReadOnly ext.sessionReadOnly)
  let (kind, _, session) ← resolveSession svc req.session
  ensure (validateSession svc.env req.name)
  runAction "RenameSession" kind (.renameSession session req.name)

def killSessionImpl (req : SessionRef) : Handle ProtoAck := do
  ensure (rejectIfReadOnly ext.sessionReadOnly)
  ensure (if isCollapsedBackendSession req.session then
    .error (.invalidArgument
      "the herdr session cannot be killed — manage its workspaces via CloseSpace") else .ok ())
  let (kind, _, session) ← resolveSession svc req.session
  runAction "KillSession" kind (.killSession session)

/-- The backend that a session is to be created on. -/
def createBackend (req : CreateSessionReq) : Except Status BackendKind := do
  let requested ← kindFromProto req.backend
  let kind ← match requested with
    | some kind => .ok kind
    | none =>
      if svc.backends.kinds.length ≤ 1 then .ok (svc.backends.kinds.head svc.backends.kinds_ne)
      else .error (.invalidArgument ("CreateSession: this server runs multiple backends — " ++
        "specify which backend to create the session on"))
  match svc.backends.get kind with
  | some _ => .ok kind
  | none => .error (.notFound (s!"CreateSession: backend '{kind.display}' is recognised but not " ++
    "running on this server — re-list to see available backends"))

/-- The layout of a new session; none for the server's own. -/
def createLayout (req : CreateSessionReq) : Except Status (Option String) :=
  if req.layout.isEmpty then .ok none
  else (validateLayoutName svc.env req.layout).map fun _ => some req.layout

def createSessionImpl (req : CreateSessionReq) : Handle ProtoAck := do
  ensure (rejectIfReadOnly ext.sessionReadOnly)
  let kind ← ensure (createBackend svc req)
  ensure (validateSession svc.env req.name)
  let layout ← ensure (createLayout svc req)
  runAction "CreateSession" kind (.createSession req.name layout)

/-! ### Spaces -/

/-- A space, as it is sent. -/
structure Space where
  id : String
  name : String
  active : Bool
  deriving DecidableEq, Repr

/-- The spaces of a session, the caller's own view in place of the active one where it is known. -/
def spaceList (relaySpace : Option String) (snapshots : List SpaceSnapshot) : List Space :=
  snapshots.map fun s =>
    ⟨s.id, s.name, (relaySpace.map fun ws => decide (s.id = ws)).getD s.active⟩

/-- What a listing that has to be answered gives. -/
def listAnswer {α : Type} (panicked failed : String → Status) :
    Blocking BackendError α → Except Status α
  | .error e => .error (panicked e)
  | .ok (.error e) => .error (failed e.text)
  | .ok (.ok a) => .ok a

def getSpacesImpl (req : SessionRef) : Handle (List Space) := do
  let (kind, _, bare) ← resolveSession svc req.session
  logConn svc req.connectionId
  let answer : Blocking BackendError (List SpaceSnapshot) ← perform (.read kind (.listSpaces bare))
  let snapshots ← ensure (listAnswer (fun e => .internal s!"GetSpaces: list task panicked: {e}")
    (fun e => .internal s!"GetSpaces: {e}") answer)
  let viewState : String → Option ViewStateEntry ← perform .viewState
  return spaceList (connectionCurrentSpace viewState req.session req.connectionId) snapshots

/-- The acknowledgement of a switch. -/
def switchAck : Awaited → ProtoAck
  | .replied (.ok ()) => ⟨true, "", ""⟩
  | .replied (.error e) => ⟨false, s!"SwitchSpace failed: {e}", ""⟩
  | .cancelled => ⟨false, "SwitchSpace: relay cancelled the request", ""⟩
  | .elapsed => ⟨false, "SwitchSpace: timed out waiting for the relay", ""⟩

def switchSpaceImpl (req : SwitchSpaceReq) : Handle ProtoAck := do
  ensure (validateSpaceId req.spaceId)
  let _ ← resolveSession svc req.session
  logConn svc req.connectionId
  let control : ControlRegistry ← perform .control
  match resolveSpaceRelay control req.session req.connectionId with
  | none => do
    logConn svc req.connectionId
    return reattachRequired
  | some sender => do
    let reply : ReplyId ← perform .oneshot
    let sent : Bool ← perform (.send sender (.switchSpace req.spaceId reply))
    if sent then
      let outcome : Awaited ← perform (.awaitReply reply)
      return switchAck outcome
    else return ⟨false, "SwitchSpace: relay unavailable (tearing down)", ""⟩

/-- The label of a new space; none lets herdr choose one. -/
def optionalLabel (label : String) : Except Status (Option String) :=
  if label.isEmpty then .ok none else (validateSpaceLabel label).map fun _ => some label

def createSpaceImpl (req : CreateSpaceReq) : Handle ProtoAck := do
  ensure (rejectIfReadOnly ext.sessionReadOnly)
  let (kind, _, _) ← resolveSession svc req.session
  let label ← ensure (optionalLabel req.label)
  runSpaceAction "CreateSpace" kind (.createSpace label)

def renameSpaceImpl (req : RenameSpaceReq) : Handle ProtoAck := do
  ensure (rejectIfReadOnly ext.sessionReadOnly)
  let (kind, _, _) ← resolveSession svc req.session
  ensure (validateSpaceId req.spaceId)
  ensure (validateSpaceLabel req.label)
  runSpaceAction "RenameSpace" kind (.renameSpace req.spaceId req.label)

/-- What a close would remove; only a group close has to ask. -/
def removalsOf (kind : BackendKind) (req : CloseSpaceReq) : Handle (List String) :=
  if req.closeGroup then do
    let answer : Blocking BackendError (List String) ←
      perform (.read kind (.spacesRemovedByClose req.spaceId true))
    ensure (listAnswer (fun e => .internal s!"CloseSpace: group task panicked: {e}")
      (fun _ => .internal "CloseSpace: failed to resolve the group close set") answer)
  else return [req.spaceId]

/-- Switch the caller's relay to the space, if it has one. -/
def repointCaller (session connectionId : String) (target : Option String) : Handle Unit := do
  let control : ControlRegistry ← perform .control
  match resolveSpaceRelay control session connectionId, target with
  | some sender, some target => do
    let reply : ReplyId ← perform .oneshot
    let sent : Bool ← perform (.send sender (.switchSpace target reply))
    if sent then let _ ← perform (.awaitReply reply)
  | _, _ => return ()

/-- The spaces that remain, if they can be listed. -/
def listSpacesAfterClose (kind : BackendKind) (bare : String) :
    Handle (Option (List SpaceSnapshot)) := do
  let answer : Blocking BackendError (List SpaceSnapshot) ← perform (.read kind (.listSpaces bare))
  return match answer with
    | .ok (.ok spaces) => some spaces
    | _ => none

/-- The answer of a close, with no cause of a failure. -/
def closeAnswer : Blocking BackendError ActionAck → Except Status ProtoAck
  | .error e => .error (.internal s!"CloseSpace: close task panicked: {e}")
  | .ok (.error _) => .error (.internal "CloseSpace: backend error")
  | .ok (.ok ack) => .ok (protoAck ack)

def closeSpaceImpl (req : CloseSpaceReq) : Handle ProtoAck := do
  ensure (rejectIfReadOnly ext.sessionReadOnly)
  let (kind, _, bare) ← resolveSession svc req.session
  ensure (validateSpaceId req.spaceId)
  let counted : Blocking BackendError (List SpaceSnapshot) ← perform (.read kind (.listSpaces bare))
  let spaces ← ensure (listAnswer (fun e => .internal s!"CloseSpace: list task panicked: {e}")
    (fun _ => .internal "CloseSpace: failed to enumerate spaces") counted)
  let removals ← removalsOf kind req
  match closeRefusal req.closeGroup spaces.length removals with
  | some error => return ⟨false, error, ""⟩
  | none => do
    let answer : Blocking BackendError ActionAck ←
      perform (.action kind (.closeSpace req.spaceId req.closeGroup))
    let ack ← ensure (closeAnswer answer)
    if ack.ok then
      let remaining ← listSpacesAfterClose kind bare
      let viewState : String → Option ViewStateEntry ← perform .viewState
      if connectionCurrentSpace viewState req.session req.connectionId = some req.spaceId then
        repointCaller req.session req.connectionId (remaining.bind pickRepointTarget)
      return ⟨true, "", closedInfo removals remaining⟩
    else return ack

/-! ### Layouts and agents -/

def spaceQueryStatus (e : BackendError) : Status :=
  if e.unknownSpace then .notFound "space_id: no such space"
  else .internal "GetLayout: backend error"

/-- The layout that a backend answers for a session. -/
def backendQueryLayout (kind : BackendKind) (bare : String) : Handle LayoutSnapshot := do
  let answer : Blocking BackendError LayoutSnapshot ←
    perform (.read kind (.queryLayoutForSpace bare none))
  ensure (listAnswer (fun e => .internal s!"GetLayout query task panicked: {e}")
    (fun e => .internal s!"GetLayout query failed: {e}") answer)

/-- The layout that a backend answers for a space. -/
def spaceQueryLayout (kind : BackendKind) (bare spaceId : String) : Handle LayoutSnapshot := do
  let answer : Blocking BackendError LayoutSnapshot ←
    perform (.read kind (.queryLayoutForSpace bare (some spaceId)))
  match answer with
  | .error _ => throw (.status (.internal "GetLayout: query task failed"))
  | .ok (.error e) => throw (.status (spaceQueryStatus e))
  | .ok (.ok snapshot) => return snapshot

/-- A look at a named space. -/
def spaceScopedLayout (req : SessionRef) (kind : BackendKind) (backend : Backend) (bare : String) :
    Handle LayoutMsg := do
  ensure (validateSpaceId req.spaceId)
  ensure (if rejectsSpaceScope req.spaceId backend.supportsSpaces then
    .error (.invalidArgument "space_id: this session's backend does not support spaces")
    else .ok ())
  let snapshot ← spaceQueryLayout kind bare req.spaceId
  let viewState : String → Option ViewStateEntry ← perform .viewState
  if spaceIsOwn (connectionSpace viewState req.session req.connectionId) req.spaceId then
    let viewState : String → Option ViewStateEntry ← perform .viewState
    return buildLayout snapshot
      (((viewState req.connectionId).filter (·.session = req.session)).map (·.state))
  else return buildLayout snapshot none

/-- Any relay of a session. -/
def sessionRelay (control : ControlRegistry) (session : String) : Option (String × ChannelId) :=
  (control.entries.entries.find? fun kv => kv.2.session = session).map fun kv =>
    (kv.1, kv.2.sender)

/-- The relay a query is sent to: the caller's own, or else any of the session. -/
def relayFor (req : SessionRef) : Handle (Option (String × ChannelId)) := do
  let control : ControlRegistry ← perform .control
  match exactMatch control req.session req.connectionId with
  | some sender => return some (req.connectionId, sender)
  | none => do
    let control : ControlRegistry ← perform .control
    return sessionRelay control req.session

/-- The snapshot that a relay answers, and which relay that is. -/
def relayLayout (req : SessionRef) : Handle (Option (LayoutSnapshot × String)) := do
  match ← relayFor req with
  | none => return none
  | some (connId, sender) => do
    let reply : ReplyId ← perform .oneshot
    let sent : Bool ← perform (.send sender (.queryLayout reply))
    if sent then
      let snapshot : Option LayoutSnapshot ← perform (.awaitLayout reply)
      return snapshot.map fun snapshot => (snapshot, connId)
    else return none

def getLayoutImpl (req : SessionRef) : Handle LayoutMsg := do
  let (kind, backend, bare) ← resolveSession svc req.session
  logConn svc req.connectionId
  if isSpaceScoped req.spaceId then spaceScopedLayout req kind backend bare
  else
    match ← relayLayout req with
    | some (snapshot, relayConnId) =>
      let relayVs ←
        if shouldApplyViewStateOverride true req.connectionId relayConnId then do
          let viewState : String → Option ViewStateEntry ← perform .viewState
          pure ((viewState relayConnId).map (·.state))
        else pure none
      logConn svc relayConnId
      return buildLayout snapshot relayVs
    | none =>
      let snapshot ← backendQueryLayout kind bare
      logConn svc ""
      return buildLayout snapshot none

/-- An inventory that has to be answered in time. -/
def agentsAnswer (rpc : String) :
    Option (Blocking BackendError (List AgentSnapshot)) → Except Status (List AgentSnapshot)
  | none => .error (.internal s!"{rpc}: backend query timed out")
  | some (.error _) => .error (.internal s!"{rpc}: query task failed")
  | some (.ok (.error e)) =>
    if e.unknownSession then .error (.notFound "session: no such session")
    else .error (.internal s!"{rpc}: backend query failed")
  | some (.ok (.ok snapshots)) => .ok snapshots

def listAgentsImpl (req : SessionRef) : Handle AgentList := do
  let (kind, _, bare) ← resolveSession svc req.session
  let answer : Option (Blocking BackendError (List AgentSnapshot)) ←
    perform (.timedRead kind (.listAgents bare))
  let snapshots ← ensure (agentsAnswer "ListAgents" answer)
  return buildAgentList snapshots

/-- Open a watch: subscribe, list, and only then stream. -/
def watchAgentsImpl (req : SessionRef) : Handle AgentList := do
  let (kind, backend, bare) ← resolveSession svc req.session
  let subscribed := backend.supportsAgents && svc.eventBus
  if subscribed then let _ ← perform .subscribe
  let answer : Option (Blocking BackendError (List AgentSnapshot)) ←
    perform (.timedRead kind (.listAgents bare))
  let snapshots ← ensure (agentsAnswer "WatchAgents" answer)
  let _ ← perform (.openWatch req.session ext.sessionToken subscribed)
  return buildAgentList snapshots

/-! ### Tokens -/

/-- The version of a backend. -/
structure BackendVersion where
  backend : ℤ
  version : String
  deriving DecidableEq, Repr

structure VersionInfo where
  serverVersion : String
  zellijVersion : String
  backends : List BackendVersion
  availableBackends : List ℤ
  capabilities : List String
  notificationRelayUrl : String
  deriving DecidableEq, Repr

/-- A push can be delivered: there is a relay for it, and a herdr that sends the events. -/
def pushAvailable : Bool := svc.notifyRelayUrl.isSome && (svc.backends.get .herdr).isSome

def getVersionImpl : VersionInfo where
  serverVersion := serverVersion
  zellijVersion :=
    ((svc.backends.backends.filter (·.1 = .zellij)).getLast?.map (·.2.backendVersion)).getD ""
  backends := svc.backends.backends.map fun (kind, b) => ⟨protoBackend kind, b.backendVersion⟩
  availableBackends := svc.backends.backends.map fun (kind, _) => protoBackend kind
  capabilities :=
    "mouse-input" :: (if pushAvailable svc then ["push-notifications"] else [])
      ++ (if svc.backends.backends.any (·.2.supportsAgents) then ["agents"] else [])
      ++ (if svc.eventBus then ["agents-stream"] else [])
  notificationRelayUrl := if pushAvailable svc then svc.notifyRelayUrl.getD "" else ""

/-- What a login answers. -/
def loginAnswer : Except String (Except TokenOps.LoginErr (String × Bool)) →
    Except Status LoginResponse
  | .error e => .error (.internal s!"Login task panicked: {e}")
  | .ok (.error .expired) =>
    .error (.unauthenticated "pairing token expired — request a fresh pairing QR")
  | .ok (.error (.invalid _)) => .error (.unauthenticated "invalid auth token")
  | .ok (.ok (sessionToken, isReadOnly)) => .ok ⟨sessionToken, isReadOnly⟩

def loginImpl (req : LoginRequest) : Handle LoginResponse := do
  let answer : Except String (Except TokenOps.LoginErr (String × Bool)) ←
    perform (.login req.authToken req.rememberMe)
  ensure (loginAnswer answer)

/-- A token, as it is sent; its secret only when it is made. -/
structure TokenInfo where
  name : String
  token : String
  readOnly : Bool
  createdAt : String
  deriving DecidableEq, Repr

/-- What a task on the token database answers. -/
def dbAnswer {α : Type} (rpc what : String) : Blocking String α → Except Status α
  | .error e => .error (.internal s!"{rpc} task panicked: {e}")
  | .ok (.error e) => .error (.internal s!"{what} failed: {e}")
  | .ok (.ok a) => .ok a

def createTokenImpl (req : CreateTokenReq) : Handle TokenInfo := do
  ensure (rejectIfReadOnly ext.sessionReadOnly)
  let name := if isBlank req.name then none else some (trim req.name)
  let answer : Blocking String (String × String) ← perform (.createToken name req.readOnly)
  let (token, actualName) ← ensure (dbAnswer "CreateToken" "create token" answer)
  return ⟨actualName, token, req.readOnly, ""⟩

def listTokensImpl : Handle (List TokenInfo) := do
  ensure (rejectIfReadOnly ext.sessionReadOnly)
  let answer : Blocking String (List StoredToken) ← perform .listTokens
  let tokens ← ensure (dbAnswer "ListTokens" "list tokens" answer)
  return tokens.map fun t => ⟨t.name, "", t.readOnly, t.createdAt⟩

/-- A name that has to be there. -/
def requireName (message name : String) : Except Status Unit :=
  if isBlank name then .error (.invalidArgument message) else .ok ()

def revokeTokenImpl (name : String) : Handle ProtoAck := do
  ensure (rejectIfReadOnly ext.sessionReadOnly)
  ensure (requireName "RevokeToken: name must not be empty" name)
  let answer : Blocking String Bool ← perform (.revokeToken name)
  let removed ← ensure (dbAnswer "RevokeToken" "revoke token" answer)
  return ⟨removed, if removed then "" else
    s!"token '{name}' not found (already revoked or never existed)", ""⟩

/-! ### Devices -/

/-- What a task on the devices answers. -/
def devicesAnswer {α : Type} (rpc what : String) : Blocking String α → Except Status α
  | .error e => .error (.internal s!"{rpc} task panicked: {e}")
  | .ok (.error e) => .error (.internal s!"failed to {what}: {e}")
  | .ok (.ok a) => .ok a

def registerPushTargetImpl (req : RegisterPushTargetReq) : Handle ProtoAck := do
  ensure (PushOps.admitRegister ⟨svc.notifyRelayUrl, (svc.backends.get .herdr).isSome⟩
    ext.sessionReadOnly req)
  let registeredAt : ℕ ← perform .nowEpoch
  if svc.logsInfo then let _ ← handlePrefix req.pushHandle
  let answer : Blocking String Unit ← perform (.upsertDevice (req.device registeredAt))
  ensure (devicesAnswer "RegisterPushTarget" "persist device" answer)
  return ⟨true, "", ""⟩

/-- A device, as it is sent. -/
structure PushTargetInfo where
  deviceName : String
  platform : String
  registeredAt : ℕ
  handlePrefix : String
  deriving DecidableEq, Repr

def pushTargets : List PushDevice → Handle (List PushTargetInfo)
  | [] => return []
  | d :: rest => do
    let shown ← handlePrefix d.pushHandle
    return ⟨d.deviceName, d.platform, d.registeredAt, shown⟩ :: (← pushTargets rest)

def listPushTargetsImpl : Handle (List PushTargetInfo) := do
  ensure (rejectIfReadOnly ext.sessionReadOnly)
  let answer : Blocking String (List PushDevice) ← perform .listDevices
  let listed ← ensure (devicesAnswer "ListPushTargets" "read devices" answer)
  pushTargets listed

def removePushTargetImpl (name : String) : Handle ProtoAck := do
  ensure (PushOps.admitRemove ext.sessionReadOnly name)
  let answer : Blocking String Bool ← perform (.removeDevice name)
  let removed ← ensure (devicesAnswer "RemovePushTarget" "remove device" answer)
  return ⟨removed, if removed then "" else s!"device '{name}' not found", ""⟩

end MuxrCore.Grpc.Handlers
