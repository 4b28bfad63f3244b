import MuxrCore.Grpc.Handlers

/-! # The service

Every RPC, behind the bearer layer: what the server does with a request is the program
`serve svc header rpc`. The properties of the whole surface are stated here, of an operation that
any request performs, after anything that it has done so far; they are proved in `Grpc.Mediation`.

* `Proven`: what the database has been asked about the caller's token.
* `Confined`: whose relay a command goes to.
* `OnTarget`: which backend acts, on what, and with what texts.
* `LogsCut`: what a handler panics on. -/

namespace MuxrCore.Grpc.Service

open MuxrCore.Lib.Program MuxrCore.Lib.Rpc MuxrCore.Lib.Slice MuxrCore.Multiplexer.Routing
open MuxrCore.Relay.Control
open MuxrCore.Grpc.Operation MuxrCore.Grpc.Handlers MuxrCore.Grpc.Route MuxrCore.Grpc.SpaceOps
open MuxrCore.Muxrd.Auth
open MuxrCore.Grpc.AgentOps (AgentList)
open MuxrCore.Grpc.Layout (SessionRef LayoutMsg)
open MuxrCore.Grpc.PushOps (RegisterPushTargetReq)
open MuxrCore.Grpc.TokenOps (LoginRequest LoginResponse)
open MuxrCore.Notify.Devices (PushDevice)

/-- A request. -/
inductive Rpc
  | getVersion
  | login (req : LoginRequest)
  | attachTerminal
  | listSessions
  | getLayout (req : SessionRef)
  | writeToPane (req : WriteToPaneReq)
  | focusPane (req : PaneTarget)
  | closePane (req : PaneTarget)
  | newPane (req : NewPaneReq)
  | renamePane (req : RenamePaneReq)
  | resizePane (req : ResizePaneReq)
  | togglePaneFloating (req : PaneTarget)
  | togglePaneFullscreen (req : ToggleFullscreenReq)
  | newTab (req : NewTabReq)
  | closeTab (req : TabTarget)
  | goToTab (req : TabTarget)
  | renameTab (req : RenameTabReq)
  | scrollPane (req : ScrollReq)
  | renameSession (req : RenameSessionReq)
  | killSession (req : SessionRef)
  | createSession (req : CreateSessionReq)
  | getSpaces (req : SessionRef)
  | switchSpace (req : SwitchSpaceReq)
  | createSpace (req : CreateSpaceReq)
  | renameSpace (req : RenameSpaceReq)
  | closeSpace (req : CloseSpaceReq)
  | listAgents (req : SessionRef)
  | watchAgents (req : SessionRef)
  | createToken (req : CreateTokenReq)
  | listTokens
  | revokeToken (name : String)
  | registerPushTarget (req : RegisterPushTargetReq)
  | listPushTargets
  | removePushTarget (deviceName : String)
  deriving DecidableEq, Repr

/-- The name of an RPC. -/
def Rpc.name : Rpc → String
  | .getVersion => "GetVersion"
  | .login _ => "Login"
  | .attachTerminal => "AttachTerminal"
  | .listSessions => "ListSessions"
  | .getLayout _ => "GetLayout"
  | .writeToPane _ => "WriteToPane"
  | .focusPane _ => "FocusPane"
  | .closePane _ => "ClosePane"
  | .newPane _ => "NewPane"
  | .renamePane _ => "RenamePane"
  | .resizePane _ => "ResizePane"
  | .togglePaneFloating _ => "TogglePaneFloating"
  | .togglePaneFullscreen _ => "TogglePaneFullscreen"
  | .newTab _ => "NewTab"
  | .closeTab _ => "CloseTab"
  | .goToTab _ => "GoToTab"
  | .renameTab _ => "RenameTab"
  | .scrollPane _ => "ScrollPane"
  | .renameSession _ => "RenameSession"
  | .killSession _ => "KillSession"
  | .createSession _ => "CreateSession"
  | .getSpaces _ => "GetSpaces"
  | .switchSpace _ => "SwitchSpace"
  | .createSpace _ => "CreateSpace"
  | .renameSpace _ => "RenameSpace"
  | .closeSpace _ => "CloseSpace"
  | .listAgents _ => "ListAgents"
  | .watchAgents _ => "WatchAgents"
  | .createToken _ => "CreateToken"
  | .listTokens => "ListTokens"
  | .revokeToken _ => "RevokeToken"
  | .registerPushTarget _ => "RegisterPushTarget"
  | .listPushTargets => "ListPushTargets"
  | .removePushTarget _ => "RemovePushTarget"

/-- The path of a request, by which the layer and the router know it. -/
def Rpc.path (rpc : Rpc) : String := "/muxr.v1.Muxr/" ++ rpc.name

/-- An answer. -/
inductive Response
  | version (info : VersionInfo)
  | login (resp : LoginResponse)
  | stream
  | sessions (rows : List SessionInfo)
  | layout (layout : LayoutMsg)
  | ack (ack : ProtoAck)
  | spaces (spaces : List Space)
  | agents (list : AgentList)
  | token (info : TokenInfo)
  | tokens (tokens : List TokenInfo)
  | targets (targets : List PushTargetInfo)

/-- The handler of a request. -/
def dispatch (svc : MuxrService) (ext : Extensions) : Rpc → Handle Response
  | .getVersion => return .version (getVersionImpl svc)
  | .login req => .login <$> loginImpl req
  | .attachTerminal => (fun _ => .stream) <$> attachTerminalImpl ext
  | .listSessions => .sessions <$> listSessionsImpl svc
  | .getLayout req => .layout <$> getLayoutImpl svc req
  | .writeToPane req => .ack <$> writeToPaneImpl svc ext req
  | .focusPane req => .ack <$> focusPaneImpl svc ext req
  | .closePane req => .ack <$> closePaneImpl svc ext req
  | .newPane req => .ack <$> newPaneImpl svc ext req
  | .renamePane req => .ack <$> renamePaneImpl svc ext req
  | .resizePane req => .ack <$> resizePaneImpl svc ext req
  | .togglePaneFloating req => .ack <$> togglePaneFloatingImpl svc ext req
  | .togglePaneFullscreen req => .ack <$> togglePaneFullscreenImpl svc ext req
  | .newTab req => .ack <$> newTabImpl svc ext req
  | .closeTab req => .ack <$> closeTabImpl svc ext req
  | .goToTab req => .ack <$> goToTabImpl svc ext req
  | .renameTab req => .ack <$> renameTabImpl svc ext req
  | .scrollPane req => .ack <$> scrollPaneImpl svc req
  | .renameSession req => .ack <$> renameSessionImpl svc ext req
  | .killSession req => .ack <$> killSessionImpl svc ext req
  | .createSession req => .ack <$> createSessionImpl svc ext req
  | .getSpaces req => .spaces <$> getSpacesImpl svc req
  | .switchSpace req => .ack <$> switchSpaceImpl svc req
  | .createSpace req => .ack <$> createSpaceImpl svc ext req
  | .renameSpace req => .ack <$> renameSpaceImpl svc ext req
  | .closeSpace req => .ack <$> closeSpaceImpl svc ext req
  | .listAgents req => .agents <$> listAgentsImpl svc req
  | .watchAgents req => .agents <$> watchAgentsImpl svc ext req
  | .createToken req => .token <$> createTokenImpl ext req
  | .listTokens => .tokens <$> listTokensImpl ext
  | .revokeToken name => .ack <$> revokeTokenImpl ext name
  | .registerPushTarget req => .ack <$> registerPushTargetImpl svc ext req
  | .listPushTargets => .targets <$> listPushTargetsImpl ext
  | .removePushTarget name => .ack <$> removePushTargetImpl ext name

/-- **What the server does with a request.** -/
def serve (svc : MuxrService) (header : Header) (rpc : Rpc) : Handle Response := do
  let ext ← bearerAuth rpc.path header
  dispatch svc ext rpc

/-! ### Who may do what -/

/-- Whom an operation is for. -/
inductive Tier
  | anyone
  /-- any valid token -/
  | viewer
  /-- a valid token that is not read-only -/
  | writer
  deriving DecidableEq, Repr

/-- Focus, tabs and scrolling are a viewer's; what changes a session is a writer's. -/
def actionTier : ActionCall → Tier
  | .focusPane _ _ | .goToTab _ _ | .scrollPane _ _ _ => .viewer
  | _ => .writer

/-- What changes how a session is shown to others is a writer's. -/
def commandTier : RelayControl → Tier
  | .toggleFullscreen _ _ _ => .writer
  | _ => .viewer

/-- The tokens and the devices are a writer's, also to read. -/
def Op.tier : Op → Tier
  | .validateSessionToken _ | .isSessionTokenReadOnly _ | .login _ _ => .anyone
  | .action _ call => actionTier call
  | .send _ cmd => commandTier cmd
  | .attachRelay readOnly _ => if readOnly then .viewer else .writer
  | .createToken _ _ | .listTokens | .revokeToken _ | .nowEpoch | .upsertDevice _ | .listDevices
  | .removeDevice _ => .writer
  | _ => .viewer

/-- The request carries the token, and the database has taken it for valid. -/
structure Valid (header : Header) (token : String) (h : History) : Prop where
  carried : header = some (some ("Bearer " ++ token))
  nonempty : token ≠ ""
  taken : (⟨.validateSessionToken token, .ok true⟩ : Event Op.Answer) ∈ h

theorem Valid.append {header : Header} {token : String} {h : History} (hv : Valid header token h)
    (es : History) : Valid header token (h ++ es) :=
  ⟨hv.carried, hv.nonempty, List.mem_append_left es hv.taken⟩

/-- The database has said that the token is not read-only. -/
def Writable (token : String) (h : History) : Prop :=
  (⟨.isSessionTokenReadOnly token, .ok false⟩ : Event Op.Answer) ∈ h

/-- The caller has been found to be of the tier. -/
def Proven (header : Header) (h : History) : Tier → Prop
  | .anyone => True
  | .viewer => ∃ token, Valid header token h
  | .writer => ∃ token, Valid header token h ∧ Writable token h

/-! ### Whose relay -/

/-- The session that a request names. -/
def Rpc.session : Rpc → Option String
  | .getLayout req | .killSession req | .getSpaces req | .listAgents req | .watchAgents req =>
    some req.session
  | .focusPane req | .closePane req | .togglePaneFloating req => some req.session
  | .writeToPane req => req.target.map (·.session)
  | .renamePane req => req.target.map (·.session)
  | .resizePane req => req.target.map (·.session)
  | .togglePaneFullscreen req => req.target.map (·.session)
  | .scrollPane req => req.target.map (·.session)
  | .newPane req => some req.session
  | .newTab req => some req.session
  | .closeTab req | .goToTab req => some req.session
  | .renameTab req => some req.session
  | .renameSession req => some req.session
  | .switchSpace req => some req.session
  | .createSpace req => some req.session
  | .renameSpace req => some req.session
  | .closeSpace req => some req.session
  | _ => none

/-- The connection that a request says it comes from. -/
def Rpc.connectionId : Rpc → String
  | .getLayout req | .getSpaces req => req.connectionId
  | .focusPane req => req.connectionId
  | .togglePaneFullscreen req => (req.target.map (·.connectionId)).getD ""
  | .goToTab req => req.connectionId
  | .switchSpace req => req.connectionId
  | .closeSpace req => req.connectionId
  | _ => ""

/-- The command asks the relay for something, and changes nothing. -/
def isQuery : RelayControl → Bool
  | .queryLayout _ => true
  | _ => false

/-- **The relay on channel `tx` may get the command.** It has been found in the registry, for the
session of the request. It is the caller's own; or it is only asked; or else it is writable, the
caller is a writer, and the session is not one that all callers share. -/
def Confined (header : Header) (rpc : Rpc) (h : History) (tx : ChannelId) (cmd : RelayControl) :
    Prop :=
  ∃ control k e, (⟨.control, control⟩ : Event Op.Answer) ∈ h ∧
    ControlRegistry.get control k = some e ∧ e.sender = tx ∧ rpc.session = some e.session ∧
    ((k = rpc.connectionId ∧ k ≠ "") ∨ isQuery cmd = true ∨
      (e.readOnly = false ∧ isCollapsedBackendSession e.session = false ∧
        Proven header h .writer))

/-! ### Which backend, and with what -/

/-- A bare name. -/
def BareName (name : String) : Prop :=
  name ≠ "" ∧ ∀ c ∈ name.toList, c.isAlphanum = true ∨ c = '_' ∨ c = '-'

/-- A name that is displayed: short, and nothing in it that a terminal would take as control. -/
def Displayable (name : String) : Prop :=
  name ≠ "" ∧ name.utf8ByteSize ≤ maxDisplayNameLen ∧ ∀ c ∈ name.toList, isControl c = false

/-- The label of a space. -/
def Label (label : String) : Prop :=
  label ≠ "" ∧ label.utf8ByteSize ≤ maxSpaceLabelLen ∧
    ∀ c ∈ label.toList, c.isAlphanum = true ∨ c = ' ' ∨ c = '_' ∨ c = '-' ∨ c = '.'

/-- The id of a space. -/
def SpaceId (spaceId : String) : Prop :=
  spaceId ≠ "" ∧ spaceId.utf8ByteSize ≤ maxSpaceIdLen ∧
    ∀ c ∈ spaceId.toList, c.isAlphanum = true ∨ c = '_' ∨ c = '-' ∨ c = '.' ∨ c = ':'

/-- The texts of an action can be handed to a backend. -/
def Clean : ActionCall → Prop
  | .createSession name layout => BareName name ∧ ∀ l, layout = some l → BareName l
  | .renameSession _ newName => BareName newName
  | .writeToPane _ _ data => data.length ≤ maxWriteToPaneBytes
  | .newPane _ _ name | .newTab _ name => ∀ n, name = some n → Displayable n
  | .renamePane _ _ name => name = "" ∨ Displayable name
  | .renameTab _ _ name => Displayable name
  | .createSpace label => ∀ l, label = some l → Label l
  | .renameSpace spaceId label => SpaceId spaceId ∧ Label label
  | .closeSpace spaceId _ => SpaceId spaceId
  | _ => True

/-- The session that the request names is this backend's, under this bare name. -/
def Owns (svc : MuxrService) (rpc : Rpc) (kind : BackendKind) (bare : String) : Prop :=
  ∃ id b, rpc.session = some id ∧ resolveSessionKind svc.env svc.backends id = .ok (kind, b, bare)

/-- **The backend may be asked to act so**: the request's session is its own, and the action is on
that session or on its spaces; or the request is to create a session on it. -/
def OnTarget (svc : MuxrService) (rpc : Rpc) (kind : BackendKind) (call : ActionCall) : Prop :=
  Clean call ∧
    ((∃ bare, Owns svc rpc kind bare ∧ BareName bare ∧ ∀ s, call.session = some s → s = bare) ∨
      ∃ req, rpc = .createSession req ∧ createBackend svc req = .ok kind ∧
        call.session = none)

/-- A read that names a session is of the backend that owns the request's session, under its bare
name; but for the listing of all sessions. -/
def ReadOnTarget (svc : MuxrService) (rpc : Rpc) (kind : BackendKind) (call : ReadCall) : Prop :=
  rpc = .listSessions ∨
    ∃ bare, Owns svc rpc kind bare ∧ BareName bare ∧ ∀ s, call.session = some s → s = bare

/-! ### What a handler panics on -/

/-- The session and the connection id of the line that a request logs once it is resolved. -/
def Rpc.logged : Rpc → Option (String × String)
  | .getLayout req | .getSpaces req => some (req.session, req.connectionId)
  | .focusPane req => some (req.session, req.connectionId)
  | .togglePaneFullscreen req => req.target.map fun t => (t.session, t.connectionId)
  | .goToTab req => some (req.session, req.connectionId)
  | .switchSpace req =>
    if (validateSpaceId req.spaceId).isOk then some (req.session, req.connectionId) else none
  | _ => none

/-- **The request gets to a log line that cuts its connection id.** -/
def LogsCut (svc : MuxrService) (rpc : Rpc) : Prop :=
  svc.logsInfo = true ∧ ∃ session id, rpc.logged = some (session, id) ∧ Cut 8 id ∧
    ∃ r, resolveSessionKind svc.env svc.backends session = .ok r

/-- The ids in the registry and the handles of the devices are the server's own or checked by it:
none of them is cut. -/
def Sound (h : History) : Prop :=
  (∀ control, (⟨.control, control⟩ : Event Op.Answer) ∈ h →
    ∀ k e, ControlRegistry.get control k = some e → ¬ Cut 8 k) ∧
  ∀ devices, (⟨.listDevices, .ok (.ok devices)⟩ : Event Op.Answer) ∈ h →
    ∀ d ∈ (devices : List PushDevice), ¬ Cut 8 d.pushHandle

/-! ### The two conditions -/

/-- What a request may do next. -/
structure Allowed (svc : MuxrService) (header : Header) (rpc : Rpc) (h : History) (op : Op) :
    Prop where
  proven : Proven header h (Op.tier op)
  confined : ∀ tx cmd, op = .send tx cmd → Confined header rpc h tx cmd
  acts : ∀ kind call, op = .action kind call → OnTarget svc rpc kind call
  reads : ∀ kind call, op = .read kind call ∨ op = .timedRead kind call →
    ReadOnTarget svc rpc kind call
  marked : ∀ readOnly token, op = .attachRelay readOnly token →
    ∃ t, token = some t ∧ Valid header t h

/-- What a request comes to: a panic is one on a connection id that is cut. -/
def Explained {α : Type} (svc : MuxrService) (rpc : Rpc) (h : History) (r : Except Fault α) :
    Prop :=
  Sound h → r = .error .panicked → LogsCut svc rpc

end MuxrCore.Grpc.Service
