import MuxrCore.Grpc.Operation
import MuxrCore.Lib.Drain
import MuxrCore.Multiplexer.Zellij

/-! # Actions on zellij

An action on the zellij backend goes over a connection of its own, as zellij's own command line does
it: the client does not attach, it sends one message, and reads what comes back until it knows how
the action went. What an action reports, and its errors, come before the message that ends it.

* `reply_iff`: when an action is acknowledged, and how, and when a query has its reply.
* `one_message`: what a call sends, where to, and how often. -/

namespace MuxrCore.Multiplexer.Ephemeral

open MuxrCore.Lib.Program MuxrCore.Lib.Drain MuxrCore.Multiplexer.Routing
open MuxrCore.Multiplexer.Zellij (PaneId toPaneId)
open MuxrCore.Herdr.Backend (ActionAck)
open MuxrCore.Relay.Control (PaneRef)
open MuxrCore.Grpc.Operation (ActionCall ResizeKind ResizeDir ScrollDir)

/-! ### Messages -/

inductive Action
  | writeToPaneId (bytes : List UInt8) (pane : PaneId)
  | focusPaneByPaneId (pane : PaneId)
  | closeTerminalPane (id : ℕ)
  | closePluginPane (id : ℕ)
  | newPane (name : Option String)
  | newFloatingPane (name : Option String)
  | renameTerminalPane (id : ℕ) (name : List UInt8)
  | renamePluginPane (id : ℕ) (name : List UInt8)
  | resizeByPaneId (pane : PaneId) (resize : ResizeKind) (direction : Option ResizeDir)
  | togglePaneEmbedOrFloatingByPaneId (pane : PaneId)
  | toggleFocusNoUiFullscreenByPaneId (pane : PaneId)
  | scrollUpByPaneId (pane : PaneId)
  | scrollDownByPaneId (pane : PaneId)
  | scrollToTopByPaneId (pane : PaneId)
  | scrollToBottomByPaneId (pane : PaneId)
  | pageScrollUpByPaneId (pane : PaneId)
  | pageScrollDownByPaneId (pane : PaneId)
  | halfPageScrollUpByPaneId (pane : PaneId)
  | halfPageScrollDownByPaneId (pane : PaneId)
  | newTab (name : Option String)
  | closeTabById (id : ℕ)
  | goToTabById (id : ℕ)
  | renameTabById (id : ℕ) (name : String)
  | renameSession (name : String)
  | listTabs
  | listPanes
  deriving DecidableEq, Repr

inductive ClientMsg
  | attachClient
  | action (action : Action) (isCliClient : Bool)
  | killSession
  deriving DecidableEq, Repr

/-- What the server sends, as far as it is told apart. -/
inductive ServerMsg
  | unblockInputThread
  | log (lines : List String)
  | logError (lines : List String)
  | exit (reason : String)
  | other (debug : String)
  deriving DecidableEq, Repr

/-! ### A connection -/

/-- What is taken from outside: the check of names, and where a session's socket is. -/
structure Host where
  env : Externs
  socketPath : String → String
  /-- the text of the lines in an error -/
  debugLines : List String → String

inductive Op
  | socketExists (session : String)
  | connect (session : String)
  | send (session : String) (msg : ClientMsg)
  /-- whether the deadline is over -/
  | late
  | recv
  | whichZellij
  /-- the layout without bars, written when it is not there -/
  | defaultLayout
  | spawn (bin : String) (args : List String)
  deriving DecidableEq, Repr

def Op.Answer : Op → Type
  | .socketExists _ => Bool
  | .connect _ => Except String Unit
  | .send _ _ => Except String Unit
  | .late => Bool
  | .recv => Option ServerMsg
  | .whichZellij => Except String String
  | .defaultLayout => Except String String
  | .spawn _ _ => Except String Unit

abbrev History := List (Event Op.Answer)

abbrev Asks (α : Type) := Handler Op.Answer String α

def socketExists (session : String) : Asks Bool := Handler.op (Op.socketExists session)

def late : Asks Bool := Handler.op Op.late

def recv : Asks (Option ServerMsg) := Handler.op Op.recv

/-- The words of a caller, for what goes wrong with its connection. -/
structure Texts where
  missing : String
  connect : String
  send : String

/-- The text of an error, with its context. -/
def withContext (context : String) (r : Except String Unit) : Except String Unit :=
  r.mapError fun e => s!"{context}: {e}"

/-- Connect to a session, and send it one message. -/
def sendOnly (host : Host) (texts : Texts) (session : String) (msg : ClientMsg) : Asks Unit := do
  Handler.check (validateSessionName host.env session)
  let running ← socketExists session
  if running then
    let connected ← (Handler.op (Op.connect session) : Asks (Except String Unit))
    Handler.check (withContext texts.connect connected)
    let sent ← (Handler.op (Op.send session msg) : Asks (Except String Unit))
    Handler.check (withContext texts.send sent)
  else throw texts.missing

/-! ### Waiting for the end of an action -/

def drainLimit : ℕ := 500

/-- What has been reported so far: of the action, and of its errors. -/
structure Reported where
  info : List String
  error : List String
  deriving DecidableEq, Repr

/-- Lines as one text, unless there are none. -/
def joined (lines : List String) : Option String :=
  if lines.isEmpty then none else some ("\n".intercalate lines)

/-- The acknowledgement of an action that has ended. -/
def ackOf (reported : Reported) : ActionAck :=
  let error := joined reported.error
  ⟨error.isNone, error, joined reported.info⟩

/-- What a message says about the action. -/
def judgeAck (reported : Reported) : ServerMsg → Reported ⊕ Except String ActionAck
  | .unblockInputThread => .inr (.ok (ackOf reported))
  | .log lines => .inl { reported with info := reported.info ++ lines }
  | .logError lines => .inl { reported with error := reported.error ++ lines }
  | .exit reason => .inr (.error s!"send_action: session exited during action: {reason}")
  | .other _ => .inl reported

def ackFailures : Failures String where
  late i := s!"send_action: timed out after {i} messages waiting for action ack"
  ended := "send_action: IPC stream closed before action ack arrived"
  limit := s!"send_action: exceeded {drainLimit} messages without an action ack"

def actionTexts (host : Host) (session : String) : Texts where
  missing := s!"session socket {host.socketPath session} does not exist — is '{session}' running?"
  connect := s!"ipc_connect failed for {host.socketPath session}"
  send := "send_action: failed to send Action"

def sendAction (host : Host) (session : String) (action : Action) : Asks ActionAck := do
  sendOnly host (actionTexts host session) session (.action action true)
  drain late recv ackFailures judgeAck drainLimit 0 ⟨[], []⟩

/-! ### Queries -/

def logDrainLimit : ℕ := 200

/-- The first report is the reply. -/
def judgeLog (host : Host) (_ : Unit) : ServerMsg → Unit ⊕ Except String (List String)
  | .log lines => .inr (.ok lines)
  | .logError lines => .inr (.error s!"query: server returned LogError: {host.debugLines lines}")
  | .exit reason => .inr (.error s!"query: session exited during query: {reason}")
  | .unblockInputThread | .other _ => .inl ()

def logFailures : Failures String where
  late i := s!"query: timed out waiting for Log reply after {i} messages"
  ended := "query: IPC stream closed before Log reply arrived"
  limit := s!"query: exceeded {logDrainLimit} messages without receiving a Log reply"

def queryTexts (host : Host) (session : String) : Texts :=
  { actionTexts host session with send := "query: failed to send Action" }

def querySession (host : Host) (session : String) (action : Action) : Asks (List String) := do
  sendOnly host (queryTexts host session) session (.action action true)
  drain late recv logFailures (judgeLog host) logDrainLimit 0 ()

/-! ### The actions -/

section
variable (host : Host) (session : String)

def writeToPane (pane : PaneId) (bytes : List UInt8) : Asks ActionAck :=
  sendAction host session (.writeToPaneId bytes pane)

def focusPane (pane : PaneId) : Asks ActionAck := sendAction host session (.focusPaneByPaneId pane)

def closePane (pane : PaneId) : Asks ActionAck :=
  sendAction host session <| match pane with
    | .terminal id => .closeTerminalPane id
    | .plugin id => .closePluginPane id

def newPane (floating : Bool) (name : Option String) : Asks ActionAck :=
  sendAction host session <| if floating then .newFloatingPane name else .newPane name

def renamePane (pane : PaneId) (name : String) : Asks ActionAck :=
  let nameBytes := name.toUTF8.data.toList
  sendAction host session <| match pane with
    | .terminal id => .renameTerminalPane id nameBytes
    | .plugin id => .renamePluginPane id nameBytes

def resizePane (pane : PaneId) (resize : ResizeKind) (direction : Option ResizeDir) :
    Asks ActionAck :=
  sendAction host session (.resizeByPaneId pane resize direction)

def togglePaneFloating (pane : PaneId) : Asks ActionAck :=
  sendAction host session (.togglePaneEmbedOrFloatingByPaneId pane)

def togglePaneFullscreen (pane : PaneId) : Asks ActionAck :=
  sendAction host session (.toggleFocusNoUiFullscreenByPaneId pane)

def scrollPane (pane : PaneId) (dir : ScrollDir) : Asks ActionAck :=
  sendAction host session <| match dir with
    | .up => .scrollUpByPaneId pane
    | .down => .scrollDownByPaneId pane
    | .toTop => .scrollToTopByPaneId pane
    | .toBottom => .scrollToBottomByPaneId pane
    | .pageUp => .pageScrollUpByPaneId pane
    | .pageDown => .pageScrollDownByPaneId pane
    | .halfPageUp => .halfPageScrollUpByPaneId pane
    | .halfPageDown => .halfPageScrollDownByPaneId pane

def newTab (name : Option String) : Asks ActionAck := sendAction host session (.newTab name)

def closeTab (tabId : ℕ) : Asks ActionAck := sendAction host session (.closeTabById tabId)

def goToTab (tabId : ℕ) : Asks ActionAck := sendAction host session (.goToTabById tabId)

def renameTab (tabId : ℕ) (name : String) : Asks ActionAck :=
  sendAction host session (.renameTabById tabId name)

def renameSession (newName : String) : Asks ActionAck :=
  sendAction host session (.renameSession newName)

def killTexts : Texts where
  missing := s!"kill_session: socket {host.socketPath session} does not exist — is '{session}' " ++
    "running?"
  connect := s!"kill_session: ipc_connect failed for {host.socketPath session}"
  send := "kill_session: failed to send KillSession"

/-- The one message that is no action; nothing comes back. -/
def killSession : Asks ActionAck := do
  sendOnly host (killTexts host session) session .killSession
  pure ⟨true, none, none⟩

def buildCreateSessionArgs (name : String) (layout : Option String) : List String :=
  (match layout with
    | some layout => if layout.isEmpty then [] else ["--layout", layout]
    | none => []) ++ ["attach", "--create-background", name]

/-- A layout that is given wins; the default may be missing. -/
def resolveLayout (layout : Option String) : Asks (Option String) :=
  match layout.filter (!·.isEmpty) with
  | some layout => pure (some layout)
  | none => do
    let default ← (Handler.op Op.defaultLayout : Asks (Except String String))
    pure default.toOption

/-- Wait for the socket of a session. -/
def awaitSocket (name : String) : ℕ → Asks ActionAck
  | 0 => throw (absent name)
  | looks + 1 => do
    if ← socketExists name then pure ⟨true, none, some name⟩
    else if ← late then throw (absent name)
    else awaitSocket name looks
where
  absent (name : String) : String := s!"create_session: '{name}' did not appear within 10s " ++
    s!"(socket {host.socketPath name} never showed up)"

/-- It is looked for at once, and then every 50 ms for 10 s. -/
def createSessionLooks : ℕ := 201

def spawnSession (name bin : String) (layout : Option String) : Asks ActionAck := do
  let spawned ← (Handler.op (Op.spawn bin (buildCreateSessionArgs name layout)) :
    Asks (Except String Unit))
  Handler.check (withContext s!"create_session: failed to spawn '{bin}'" spawned)
  awaitSocket host name createSessionLooks

def createSession (name : String) (layout : Option String) : Asks ActionAck := do
  Handler.check (validateSessionName host.env name)
  let found ← (Handler.op Op.whichZellij : Asks (Except String String))
  let bin ← Handler.check found
  let resolved ← resolveLayout layout
  spawnSession host name bin resolved

def spaceUnsupportedAck (op : String) : ActionAck :=
  ⟨false, some s!"{op}: spaces are not supported on this backend", none⟩

end

/-- What the backend does for a call. -/
def act (host : Host) : ActionCall → Asks ActionAck
  | .createSession name layout => createSession host name layout
  | .killSession session => killSession host session
  | .renameSession session newName => renameSession host session newName
  | .writeToPane session pane data => writeToPane host session (toPaneId pane) data
  | .focusPane session pane => focusPane host session (toPaneId pane)
  | .closePane session pane => closePane host session (toPaneId pane)
  | .newPane session floating name => newPane host session floating name
  | .renamePane session pane name => renamePane host session (toPaneId pane) name
  | .resizePane session pane resize dir => resizePane host session (toPaneId pane) resize dir
  | .togglePaneFloating session pane => togglePaneFloating host session (toPaneId pane)
  | .togglePaneFullscreen session pane => togglePaneFullscreen host session (toPaneId pane)
  | .scrollPane session pane dir => scrollPane host session (toPaneId pane) dir
  | .newTab session name => newTab host session name
  | .closeTab session tabId => closeTab host session tabId
  | .goToTab session tabId => goToTab host session tabId
  | .renameTab session tabId name => renameTab host session tabId name
  | .createSpace _ => pure (spaceUnsupportedAck "create_space")
  | .renameSpace _ _ => pure (spaceUnsupportedAck "rename_space")
  | .closeSpace _ _ => pure (spaceUnsupportedAck "close_space")

/-! ### What is sent -/

/-- The pane that an action is about. -/
def Action.pane : Action → Option PaneId
  | .writeToPaneId _ pane | .focusPaneByPaneId pane | .resizeByPaneId pane _ _
  | .togglePaneEmbedOrFloatingByPaneId pane | .toggleFocusNoUiFullscreenByPaneId pane
  | .scrollUpByPaneId pane | .scrollDownByPaneId pane | .scrollToTopByPaneId pane
  | .scrollToBottomByPaneId pane | .pageScrollUpByPaneId pane | .pageScrollDownByPaneId pane
  | .halfPageScrollUpByPaneId pane | .halfPageScrollDownByPaneId pane => some pane
  | .closeTerminalPane id | .renameTerminalPane id _ => some (.terminal id)
  | .closePluginPane id | .renamePluginPane id _ => some (.plugin id)
  | .newPane _ | .newFloatingPane _ | .newTab _ | .closeTabById _ | .goToTabById _
  | .renameTabById _ _ | .renameSession _ | .listTabs | .listPanes => none

/-- The tab that an action is about. -/
def Action.tab : Action → Option ℕ
  | .closeTabById id | .goToTabById id | .renameTabById id _ => some id
  | _ => none

/-- The pane that a call names. -/
def callPane : ActionCall → Option PaneRef
  | .writeToPane _ pane _ | .focusPane _ pane | .closePane _ pane | .renamePane _ pane _
  | .resizePane _ pane _ _ | .togglePaneFloating _ pane | .togglePaneFullscreen _ pane
  | .scrollPane _ pane _ => some pane
  | _ => none

/-- The tab that a call names. -/
def callTab : ActionCall → Option ℕ
  | .closeTab _ id | .goToTab _ id | .renameTab _ id _ => some id
  | _ => none

/-- The session that a call is about, or makes. -/
def target : ActionCall → Option String
  | .createSession name _ => some name
  | call => call.session

/-- No message has been sent. -/
def Unsent (h : History) : Prop := ∀ e ∈ h, ∀ session msg, e.op ≠ .send session msg

/-- Nothing has been spawned. -/
def Unspawned (h : History) : Prop := ∀ e ∈ h, ∀ bin args, e.op ≠ .spawn bin args

/-- A message that a call may send: an action about the pane and the tab that the call names, as
a command line sends it, or the kill that the call is. -/
inductive Befits (call : ActionCall) : ClientMsg → Prop
  | action {action : Action} (hpane : action.pane = (callPane call).map toPaneId)
      (htab : action.tab = callTab call) : Befits call (.action action true)
  | kill {session : String} (h : call = .killSession session) : Befits call .killSession

/-- The session is that of the call, and its name is valid. -/
def Reaches (host : Host) (call : ActionCall) (session : String) : Prop :=
  target call = some session ∧ validateSessionName host.env session = .ok ()

/-- What a call may do after `h`. -/
def May (host : Host) (call : ActionCall) (h : History) : Op → Prop
  | .socketExists session => Reaches host call session
  | .connect session => Reaches host call session ∧ call.session = some session
  | .send session msg =>
    Reaches host call session ∧ call.session = some session ∧ Unsent h ∧ Befits call msg
  | .late | .recv => True
  | .whichZellij | .defaultLayout => ∃ name layout, call = .createSession name layout
  | .spawn _ args => Unspawned h ∧ ∃ name layout, call = .createSession name layout ∧
      Reaches host call name ∧ ["attach", "--create-background", name] <:+ args

/-! ### What a connection does -/

def lateEvent (expired : Bool) : Event Op.Answer := ⟨.late, expired⟩

def recvEvent (msg : Option ServerMsg) : Event Op.Answer := ⟨.recv, msg⟩

/-- A connection that has sent its message. -/
def sentTo (session : String) (msg : ClientMsg) : History :=
  [⟨.socketExists session, true⟩, ⟨.connect session, (.ok () : Except String Unit)⟩,
    ⟨.send session msg, (.ok () : Except String Unit)⟩]

/-- Messages that are received in time. -/
def received (msgs : List ServerMsg) : History := msgs.flatMap (inTime lateEvent recvEvent)

theorem gives_late (es : History) (r : Except String Bool) :
    Handler.Gives late es r ↔ ∃ expired, es = [lateEvent expired] ∧ r = .ok expired :=
  Handler.gives_op

theorem gives_recv (es : History) (r : Except String (Option ServerMsg)) :
    Handler.Gives recv es r ↔ ∃ msg, es = [recvEvent msg] ∧ r = .ok msg :=
  Handler.gives_op

section
variable {host : Host} {call : ActionCall} {session : String} {texts : Texts} {msg : ClientMsg}
  {es h : History}

theorem withContext_eq_ok {context : String} {r : Except String Unit} :
    withContext context r = .ok () ↔ r = .ok () := by
  rcases r with e | ⟨⟩
  · simp [withContext, Except.mapError]
  · simp [withContext, Except.mapError]

/-- The message is sent to the session, once its name is valid and it is there. -/
theorem sendOnly_gives : Handler.Gives (sendOnly host texts session msg) es (.ok ()) ↔
    validateSessionName host.env session = .ok () ∧ es = sentTo session msg := by
  rw [sendOnly, Handler.gives_check_bind]
  constructor
  · rintro ⟨⟨⟩, hvalid, hrun⟩
    refine ⟨hvalid, ?_⟩
    obtain ⟨running, es₁, rfl, hlooked⟩ := Handler.gives_op_bind.mp hrun
    clear hrun
    rcases running with - | -
    · obtain ⟨-, hbad⟩ := Handler.gives_throw.mp hlooked
      cases hbad
    obtain ⟨connected, es₂, rfl, hreached⟩ := Handler.gives_op_bind.mp hlooked
    obtain ⟨⟨⟩, hconnected, hsending⟩ := Handler.gives_check_bind.mp hreached
    obtain rfl := withContext_eq_ok.mp hconnected
    obtain ⟨sent, es₃, rfl, hlast⟩ := Handler.gives_op_bind.mp hsending
    obtain ⟨rfl, hsent⟩ := Handler.gives_check.mp hlast
    obtain rfl := withContext_eq_ok.mp hsent
    rfl
  · rintro ⟨hvalid, rfl⟩
    exact ⟨(), hvalid, .answered _ (.answered _ (.answered _ (.done _)))⟩

theorem target_of_session (hs : call.session = some session) : target call = some session := by
  cases call with
  | createSession => cases hs
  | _ => exact hs

/-- The session is that of the call, and so is the message. -/
theorem meets_sendOnly (hs : call.session = some session) (hmsg : Befits call msg)
    (hh : Unsent h) :
    Handler.Meets (May host call) (fun _ _ => True) h (sendOnly host texts session msg) := by
  have hconcat {h : History} {e : Event Op.Answer} (hh : Unsent h)
      (he : ∀ session msg, e.op ≠ .send session msg) : Unsent (h ++ [e]) := by
    intro e' hin
    rcases List.mem_append.mp hin with hin | hin
    · exact hh e' hin
    · obtain rfl := List.mem_singleton.mp hin
      exact he
  rw [sendOnly, Handler.meets_bind, Handler.meets_check]
  rcases hvalid : validateSessionName host.env session with e | ⟨⟩
  · exact trivial
  have hreaches : Reaches host call session := ⟨target_of_session hs, hvalid⟩
  refine Handler.meets_op_bind.mpr ⟨hreaches, fun running => ?_⟩
  rcases running with - | -
  · exact Handler.meets_throw.mpr trivial
  have hlooked := hconcat (e := ⟨.socketExists session, true⟩) hh nofun
  refine Handler.meets_op_bind.mpr ⟨⟨hreaches, hs⟩, fun connected => ?_⟩
  rw [Handler.meets_bind, Handler.meets_check]
  rcases withContext texts.connect connected with e | ⟨⟩
  · exact trivial
  have hconnected := hconcat (e := ⟨.connect session, connected⟩) hlooked nofun
  refine Handler.meets_op_bind.mpr ⟨⟨hreaches, hs, hconnected, hmsg⟩, fun sent => ?_⟩
  exact Handler.meets_check.mpr trivial

end

/-! ### What is reported -/

/-- The lines of the reports on the action. -/
def infoLines (msgs : List ServerMsg) : List String :=
  msgs.flatMap fun
    | .log lines => lines
    | _ => []

/-- The lines of the reports on its errors. -/
def errorLines (msgs : List ServerMsg) : List String :=
  msgs.flatMap fun
    | .logError lines => lines
    | _ => []

/-- A message that an action goes on after. -/
def ServerMsg.goesOn : ServerMsg → Bool
  | .unblockInputThread | .exit _ => false
  | .log _ | .logError _ | .other _ => true

theorem collected_judgeAck {msgs : List ServerMsg} {reported after : Reported} :
    collected judgeAck reported msgs = some after ↔ (∀ msg ∈ msgs, msg.goesOn = true) ∧
      after = ⟨reported.info ++ infoLines msgs, reported.error ++ errorLines msgs⟩ := by
  induction msgs generalizing reported with
  | nil =>
    simp only [collected, infoLines, errorLines, List.flatMap_nil, List.append_nil]
    constructor
    · intro hsame
      exact ⟨fun msg hin => absurd hin List.not_mem_nil, (Option.some.inj hsame).symm⟩
    · rintro ⟨-, rfl⟩
      rfl
  | cons msg msgs ih =>
    cases msg with
    | unblockInputThread | exit => simp [collected, judgeAck, ServerMsg.goesOn]
    | log | logError | other =>
      simp [collected, judgeAck, ih, ServerMsg.goesOn, infoLines, errorLines]

/-- When an action is acknowledged: the first message that ends an action is the terminator. -/
theorem sendAction_gives {host : Host} {session : String} {action : Action} {es : History}
    {ack : ActionAck} : Handler.Gives (sendAction host session action) es (.ok ack) ↔
      validateSessionName host.env session = .ok () ∧ ∃ msgs : List ServerMsg,
        msgs.length < drainLimit ∧ (∀ msg ∈ msgs, msg.goesOn = true) ∧
        es = sentTo session (.action action true) ++ received (msgs ++ [.unblockInputThread]) ∧
        ack = ⟨(errorLines msgs).isEmpty, joined (errorLines msgs), joined (infoLines msgs)⟩ := by
  have hok (lines : List String) : (joined lines).isNone = lines.isEmpty := by
    rcases lines with - | ⟨line, lines⟩
    · rfl
    · rfl
  rw [sendAction, Handler.gives_bind]
  constructor
  · rintro (⟨e, ⟨⟩, -⟩ | ⟨⟨⟩, es₁, es₂, rfl, hsend, hdrain⟩)
    obtain ⟨hvalid, rfl⟩ := sendOnly_gives.mp hsend
    obtain ⟨msgs, last, reported, hlt, hcollected, hlast, rfl⟩ :=
      (gives_drain_ok gives_late gives_recv).mp hdrain
    obtain ⟨hgoes, rfl⟩ := collected_judgeAck.mp hcollected
    cases last with
    | unblockInputThread =>
      have hack := Except.ok.inj (Sum.inr.inj hlast)
      simp only [ackOf, List.nil_append, hok] at hack
      exact ⟨hvalid, msgs, hlt, hgoes, rfl, hack.symm⟩
    | log | logError | exit | other => cases hlast
  · rintro ⟨hvalid, msgs, hlt, hgoes, rfl, rfl⟩
    refine Or.inr ⟨(), _, _, rfl, sendOnly_gives.mpr ⟨hvalid, rfl⟩, ?_⟩
    refine (gives_drain_ok gives_late gives_recv).mpr
      ⟨msgs, .unblockInputThread, _, hlt, collected_judgeAck.mpr ⟨hgoes, rfl⟩, ?_, rfl⟩
    simp only [judgeAck, ackOf, List.nil_append, hok]

/-- A message that a query goes on after. -/
def ServerMsg.silent : ServerMsg → Bool
  | .unblockInputThread | .other _ => true
  | .log _ | .logError _ | .exit _ => false

theorem collected_judgeLog {host : Host} {msgs : List ServerMsg} {after : Unit} :
    collected (judgeLog host) () msgs = some after ↔ ∀ msg ∈ msgs, msg.silent = true := by
  induction msgs with
  | nil => simp [collected]
  | cons msg msgs ih =>
    cases msg with
    | log | logError | exit => simp [collected, judgeLog, ServerMsg.silent]
    | unblockInputThread | other => simp [collected, judgeLog, ih, ServerMsg.silent]

/-- When a query has a reply: the first report that comes back is not on an error. -/
theorem querySession_gives {host : Host} {session : String} {action : Action} {es : History}
    {lines : List String} : Handler.Gives (querySession host session action) es (.ok lines) ↔
      validateSessionName host.env session = .ok () ∧ ∃ msgs : List ServerMsg,
        msgs.length < logDrainLimit ∧ (∀ msg ∈ msgs, msg.silent = true) ∧
        es = sentTo session (.action action true) ++ received (msgs ++ [.log lines]) := by
  rw [querySession, Handler.gives_bind]
  constructor
  · rintro (⟨e, ⟨⟩, -⟩ | ⟨⟨⟩, es₁, es₂, rfl, hsend, hdrain⟩)
    obtain ⟨hvalid, rfl⟩ := sendOnly_gives.mp hsend
    obtain ⟨msgs, last, _, hlt, hcollected, hlast, rfl⟩ :=
      (gives_drain_ok gives_late gives_recv).mp hdrain
    have hsilent := collected_judgeLog.mp hcollected
    cases last with
    | log =>
      obtain rfl := Except.ok.inj (Sum.inr.inj hlast)
      exact ⟨hvalid, msgs, hlt, hsilent, rfl⟩
    | unblockInputThread | logError | exit | other => cases hlast
  · rintro ⟨hvalid, msgs, hlt, hsilent, rfl⟩
    refine Or.inr ⟨(), _, _, rfl, sendOnly_gives.mpr ⟨hvalid, rfl⟩, ?_⟩
    exact (gives_drain_ok gives_late gives_recv).mpr
      ⟨msgs, .log lines, (), hlt, collected_judgeLog.mpr hsilent, rfl, rfl⟩

/-- **When a connection has its answer, and which**: the name is valid, the session is there, the one
message has been sent, and what ends the wait comes in time and within the limit. For an action that
is the terminator, before any exit; the acknowledgement has every line of the reports before it, and
is a failure if one of them is on an error. For a query it is the first report, unless that is on an
error. -/
theorem reply_iff {host : Host} {session : String} {action : Action} {es : History} :
    (∀ ack, Handler.Gives (sendAction host session action) es (.ok ack) ↔
      validateSessionName host.env session = .ok () ∧ ∃ msgs : List ServerMsg,
        msgs.length < drainLimit ∧ (∀ msg ∈ msgs, msg.goesOn = true) ∧
        es = sentTo session (.action action true) ++ received (msgs ++ [.unblockInputThread]) ∧
        ack = ⟨(errorLines msgs).isEmpty, joined (errorLines msgs), joined (infoLines msgs)⟩) ∧
    ∀ lines, Handler.Gives (querySession host session action) es (.ok lines) ↔
      validateSessionName host.env session = .ok () ∧ ∃ msgs : List ServerMsg,
        msgs.length < logDrainLimit ∧ (∀ msg ∈ msgs, msg.silent = true) ∧
        es = sentTo session (.action action true) ++ received (msgs ++ [.log lines]) :=
  ⟨fun _ => sendAction_gives, fun _ => querySession_gives⟩

/-! ### Every call -/

/-- What has been done for a call that succeeded. -/
inductive Done (call : ActionCall) : History → Prop
  /-- the action has ended, and reported no error -/
  | ended {session : String} {action : Action} {msgs : List ServerMsg}
      (h : call.session = some session) (herr : errorLines msgs = []) :
      Done call (sentTo session (.action action true) ++ received (msgs ++ [.unblockInputThread]))
  /-- the kill has been sent -/
  | killed {session : String} (h : call = .killSession session) :
      Done call (sentTo session .killSession)
  /-- a session was spawned, and its socket has been seen -/
  | appeared {name : String} {layout : Option String} {before : History}
      (h : call = .createSession name layout)
      (hspawned : ∃ bin args, ⟨.spawn bin args, (.ok () : Except String Unit)⟩ ∈ before) :
      Done call (before ++ [⟨.socketExists name, true⟩])

/-- A success is acknowledged only if the call was done. -/
def Honest (call : ActionCall) (h : History) (r : Except String ActionAck) : Prop :=
  ∀ ack, r = .ok ack → ack.ok = true → Done call h

section
variable {host : Host} {call : ActionCall} {session name : String} {layout : Option String}
  {action : Action} {h : History}

theorem meets_sendAction (hs : call.session = some session)
    (hpane : action.pane = (callPane call).map toPaneId) (htab : action.tab = callTab call) :
    Handler.Meets (May host call) (Honest call) [] (sendAction host session action) := by
  refine Handler.meets_of_gives ?_ fun es r hrun ack hr hok => ?_
  · rw [sendAction, Handler.meets_bind]
    have hunsent : Unsent [] := fun e hin => nomatch hin
    refine (meets_sendOnly hs (.action hpane htab) hunsent).mono
      (fun _ _ hp => hp) fun h r _ => ?_
    rcases r with e | ⟨⟩
    · exact trivial
    · have hlate (h : History) : Handler.Meets (May host call) (fun _ _ => True) h late :=
        Handler.meets_op.mpr ⟨trivial, fun _ => trivial⟩
      have hrecv (h : History) : Handler.Meets (May host call) (fun _ _ => True) h recv :=
        Handler.meets_op.mpr ⟨trivial, fun _ => trivial⟩
      exact meets_drain hlate hrecv
  · subst hr
    obtain ⟨-, msgs, -, -, rfl, rfl⟩ := sendAction_gives.mp hrun
    have herr : errorLines msgs = [] := List.isEmpty_iff.mp hok
    exact .ended hs herr

theorem meets_killSession :
    Handler.Meets (May host (.killSession session)) (Honest (.killSession session)) []
      (killSession host session) := by
  refine Handler.meets_of_gives ?_ fun es r hrun ack hr hok => ?_
  · rw [killSession, Handler.meets_bind]
    have hunsent : Unsent [] := fun e hin => nomatch hin
    refine (meets_sendOnly rfl (.kill rfl) hunsent).mono (fun _ _ hp => hp) fun h r _ => ?_
    rcases r with e | ⟨⟩
    · exact trivial
    · exact trivial
  · subst hr
    rw [killSession, Handler.gives_bind] at hrun
    obtain ⟨e, ⟨⟩, -⟩ | ⟨⟨⟩, es₁, es₂, rfl, hsend, hrest⟩ := hrun
    obtain ⟨-, rfl⟩ := sendOnly_gives.mp hsend
    obtain ⟨rfl, -⟩ := Handler.gives_pure.mp hrest
    exact .killed rfl

/-- The wait for a socket, after a session was spawned. -/
theorem meets_awaitSocket {looks : ℕ} (hvalid : validateSessionName host.env name = .ok ())
    (hspawned : ∃ bin args, ⟨.spawn bin args, (.ok () : Except String Unit)⟩ ∈ h) :
    Handler.Meets (May host (.createSession name layout)) (Honest (.createSession name layout)) h
      (awaitSocket host name looks) := by
  induction looks generalizing h with
  | zero => exact fun ack hr => nomatch hr
  | succ looks ih =>
    refine Handler.meets_op_bind.mpr ⟨⟨rfl, hvalid⟩, fun seen => ?_⟩
    rcases seen with - | -
    · refine Handler.meets_op_bind.mpr ⟨trivial, fun expired => ?_⟩
      rcases expired with - | -
      · obtain ⟨bin, args, hin⟩ := hspawned
        refine ih ⟨bin, args, ?_⟩
        simp [hin]
      · exact fun ack hr => nomatch hr
    · exact fun ack _ _ => .appeared rfl hspawned

/-- A session's name comes last, and the layout before the command. -/
theorem suffix_buildCreateSessionArgs :
    ["attach", "--create-background", name] <:+ buildCreateSessionArgs name layout :=
  List.suffix_append _ _

theorem meets_spawnSession {bin : String} {resolved : Option String}
    (hvalid : validateSessionName host.env name = .ok ()) (hh : Unspawned h) :
    Handler.Meets (May host (.createSession name layout)) (Honest (.createSession name layout)) h
      (spawnSession host name bin resolved) := by
  have hmay : May host (.createSession name layout) h
      (.spawn bin (buildCreateSessionArgs name resolved)) :=
    ⟨hh, name, layout, rfl, ⟨rfl, hvalid⟩, suffix_buildCreateSessionArgs⟩
  refine Handler.meets_op_bind.mpr ⟨hmay, fun spawned => ?_⟩
  refine Handler.meets_bind.mpr (Handler.meets_check.mpr ?_)
  rcases spawned with e | ⟨⟩
  · exact fun ack hr => nomatch hr
  · exact meets_awaitSocket hvalid ⟨bin, _, List.mem_append_right _ (List.mem_singleton_self _)⟩

theorem meets_resolveLayout (hh : Unspawned h) :
    Handler.Meets (May host (.createSession name layout))
      (fun h r => (∃ resolved, r = .ok resolved) ∧ Unspawned h) h (resolveLayout layout) := by
  unfold resolveLayout
  split
  · exact ⟨⟨_, rfl⟩, hh⟩
  · refine Handler.meets_op_bind.mpr ⟨⟨name, layout, rfl⟩, fun default => ?_⟩
    refine ⟨⟨_, rfl⟩, fun e hin => ?_⟩
    rcases List.mem_append.mp hin with hin | hin
    · exact hh e hin
    · obtain rfl := List.mem_singleton.mp hin
      exact nofun

theorem meets_createSession :
    Handler.Meets (May host (.createSession name layout)) (Honest (.createSession name layout)) []
      (createSession host name layout) := by
  rw [createSession, Handler.meets_bind, Handler.meets_check]
  rcases hvalid : validateSessionName host.env name with e | ⟨⟩
  · exact fun ack hr => nomatch hr
  refine Handler.meets_op_bind.mpr ⟨⟨name, layout, rfl⟩, fun found => ?_⟩
  refine Handler.meets_bind.mpr (Handler.meets_check.mpr ?_)
  rcases found with e | bin
  · exact fun ack hr => nomatch hr
  have hfound : Unspawned [⟨.whichZellij, (.ok bin : Except String String)⟩] := by
    intro e hin
    obtain rfl := List.mem_singleton.mp hin
    exact nofun
  refine Handler.meets_bind.mpr ((meets_resolveLayout hfound).mono (fun _ _ hp => hp) ?_)
  rintro h r ⟨⟨resolved, rfl⟩, hh⟩
  exact meets_spawnSession hvalid hh

theorem honest_unsupported {op : String} : Honest call h (.ok (spaceUnsupportedAck op)) := by
  intro ack hr hok
  obtain rfl := Except.ok.inj hr
  cases hok

/-- What a call may do, and when it is acknowledged. -/
theorem act_meets (host : Host) (call : ActionCall) :
    Handler.Meets (May host call) (Honest call) [] (act host call) := by
  cases call with
  | createSession => exact meets_createSession
  | killSession => exact meets_killSession
  | createSpace | renameSpace | closeSpace => exact honest_unsupported
  | closePane session pane | renamePane session pane =>
    refine meets_sendAction rfl ?_ ?_
    · cases hpane : toPaneId pane with
      | terminal | plugin => simp [Action.pane, callPane, hpane]
    · cases toPaneId pane with
      | terminal | plugin => rfl
  | newPane session floating =>
    refine meets_sendAction rfl ?_ ?_
    · cases floating with
      | false | true => rfl
    · cases floating with
      | false | true => rfl
  | scrollPane session pane dir =>
    refine meets_sendAction rfl ?_ ?_
    · cases dir <;> rfl
    · cases dir <;> rfl
  | _ => exact meets_sendAction rfl rfl rfl

end

/-- **Every call keeps to its session, and sends one message**: whatever comes back, nothing is
reached or spawned but under the call's own checked name, at most one message is sent, as a command
line's client and never as an attached one, it is about the pane and tab that the call names, and
it kills only for a kill. A success is acknowledged only for what was done: the action's own
terminator came with no line on an error, the kill was sent, or a session was spawned and its
socket seen. -/
theorem one_message {host : Host} {call : ActionCall} {es : History}
    {s : Stage Op (Except String ActionAck)} (hd : Prog.Does (act host call).run es s) :
    (∀ op, s = .performs op → May host call es op) ∧ ∀ r, s = .done r → Honest call es r := by
  have hstage : Prog.AtStage (May host call) (Honest call) es s :=
    Prog.meets_iff.mp (act_meets host call) es s hd
  constructor
  · rintro op rfl
    exact hstage
  · rintro r rfl
    exact hstage

/-- Every name is valid. -/
def someHost : Host := ⟨⟨fun _ => .ok (), id⟩, id, String.join⟩

/-- A pane is being closed. -/
theorem one_message_closePane :
    May someHost (.closePane "main" ⟨3, false⟩)
      [⟨.socketExists "main", true⟩, ⟨.connect "main", (.ok () : Except String Unit)⟩]
      (.send "main" (.action (.closeTerminalPane 3) true)) := by
  have hd : Prog.Does (act someHost (.closePane "main" ⟨3, false⟩)).run
      [⟨.socketExists "main", true⟩, ⟨.connect "main", (.ok () : Except String Unit)⟩]
      (.performs (.send "main" (.action (.closeTerminalPane 3) true))) :=
    .answered _ (.answered _ (.performs _ _))
  exact (one_message hd).1 _ rfl

end MuxrCore.Multiplexer.Ephemeral
