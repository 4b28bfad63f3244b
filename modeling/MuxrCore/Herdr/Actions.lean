import MuxrCore.Grpc.Operation
import MuxrCore.Herdr.Sightings
import MuxrCore.Lib.Runs

/-! # Actions on herdr

An action on the herdr backend is at most one request that acts, after what has to be looked up: the
workspaces that are listed, for what goes by a session's name, and the pane or tab that a number
stands for. Meanwhile others number panes and tabs, and act.

* `act_meets`: what an action sends, and that an acknowledgement is not better than herdr's.
* `sends_to_shown`: the pane or tab that a request names is the one that was shown to the client.
* `acknowledged_done`: and herdr has done what is acknowledged. -/

namespace MuxrCore.Herdr.Actions

open MuxrCore.Lib.Program MuxrCore.Lib.Runs MuxrCore.Herdr.Api MuxrCore.Herdr.Backend
open MuxrCore.Herdr.Registry MuxrCore.Herdr.Sightings
open MuxrCore.Grpc.Operation (ActionCall)

/-! ### The API -/

inductive SplitDirection
  | right | down
  deriving DecidableEq, Repr

inductive PaneZoomMode
  | toggle | on | off
  deriving DecidableEq, Repr

/-- A request, with the parameters that are sent. -/
inductive Request
  | workspaceList
  | workspaceCreate (focus : Bool) (label : Option String)
  | workspaceRename (workspaceId label : String)
  | workspaceClose (workspaceId : String) (closeGroup : Bool)
  | tabCreate (workspaceId : Option String) (focus : Bool) (label : Option String)
  | tabFocus (tabId : String)
  | tabClose (tabId : String)
  | tabRename (tabId label : String)
  | paneSplit (workspaceId targetPaneId : Option String) (direction : SplitDirection)
      (focus : Bool)
  | paneClose (paneId : String)
  | paneRename (paneId : String) (label : Option String)
  | paneZoom (paneId : Option String) (mode : PaneZoomMode)
  deriving DecidableEq, Repr

def Request.method : Request → String
  | .workspaceList => "workspace.list"
  | .workspaceCreate _ _ => "workspace.create"
  | .workspaceRename _ _ => "workspace.rename"
  | .workspaceClose _ _ => "workspace.close"
  | .tabCreate _ _ _ => "tab.create"
  | .tabFocus _ => "tab.focus"
  | .tabClose _ => "tab.close"
  | .tabRename _ _ => "tab.rename"
  | .paneSplit _ _ _ _ => "pane.split"
  | .paneClose _ => "pane.close"
  | .paneRename _ _ => "pane.rename"
  | .paneZoom _ _ => "pane.zoom"

/-- A request that is not only read. -/
def Request.acts (request : Request) : Bool := request ≠ .workspaceList

structure ApiErrorBody where
  code : String
  message : String
  deriving DecidableEq, Repr

/-- A result, as far as it is told apart. -/
inductive ApiResult
  | workspaceList (workspaces : List WorkspaceInfo)
  | other (debug : String)
  deriving DecidableEq, Repr

/-- What comes back; a result may not decode. -/
inductive ApiResponseBody
  | ok (result : Except String ApiResult)
  | err (error : ApiErrorBody)

/-- The body of the response; the error is one of the transport. -/
abbrev ApiReply := Except String ApiResponseBody

/-- What an action does: it calls herdr, or looks a number up. -/
inductive Op
  | call (request : Request)
  | herdrPaneId (id : ℕ)
  | herdrTabId (id : ℕ)
  deriving DecidableEq, Repr

def Op.Answer : Op → Type
  | .call _ => ApiReply
  | .herdrPaneId _ => Option String
  | .herdrTabId _ => Option String

abbrev History := List (Event Op.Answer)

/-- An action, or a part of one. -/
abbrev Asks (α : Type) := Handler Op.Answer String α

def callRaw (request : Request) : Asks ApiReply := Handler.op (Op.call request)

/-- A result, or why there is none. -/
def typed (request : Request) : ApiReply → Except String ApiResult
  | .error e => .error e
  | .ok (.ok (.ok result)) => .ok result
  | .ok (.ok (.error e)) => .error s!"decode herdr {request.method} result: {e}"
  | .ok (.err error) => .error s!"herdr {request.method} error {error.code}: {error.message}"

def callTyped (request : Request) : Asks ApiResult := do
  let reply ← callRaw request
  Handler.check (typed request reply)

def ackOk : ActionAck := ⟨true, none, none⟩

def ackErr (message : String) : ActionAck := ⟨false, some message, none⟩

def unknownPane (id : ℕ) : ActionAck := ackErr s!"unknown herdr pane id {id}"

def unknownTab (id : ℕ) : ActionAck := ackErr s!"unknown herdr tab id {id}"

/-- The refusals to close a worktree group by the way, in words that say what to do. -/
def worktreeGroupRefusal (method : String) (error : ApiErrorBody) : Option ActionAck :=
  if method = "workspace.close" ∧ error.code = "workspace_group_close_required" then
    some (ackErr ("this space is a worktree-group primary with linked worktree spaces — " ++
      "closing it alone is not possible; re-issue CloseSpace with group intent " ++
      s!"(close_group=true) to close the whole group ({error.message})"))
  else if (method = "tab.close" ∨ method = "pane.close") ∧ error.code = "confirmation_required" then
    some (ackErr ("this would close the last of its space, and that space is a " ++
      "worktree-group primary — close the space with group intent " ++
      s!"(CloseSpace with close_group=true) to remove the group ({error.message})"))
  else none

/-- How an action is acknowledged; an error of the transport is no acknowledgement. -/
def acknowledged (request : Request) : ApiReply → Except String ActionAck
  | .error e => .error e
  | .ok (.ok _) => .ok ackOk
  | .ok (.err error) => .ok ((worktreeGroupRefusal request.method error).getD
      (ackErr s!"{error.code}: {error.message}"))

def callAction (request : Request) : Asks ActionAck := do
  let reply ← callRaw request
  Handler.check (acknowledged request reply)

/-! ### The control client -/

def listWorkspaces : Asks (List WorkspaceInfo) := do
  match ← callTyped .workspaceList with
  | .workspaceList workspaces => pure workspaces
  | .other debug => throw s!"herdr workspace.list returned unexpected result: {debug}"

def createWorkspace (label : Option String) : Asks ActionAck :=
  callAction (.workspaceCreate true label)

def renameWorkspace (workspaceId label : String) : Asks ActionAck :=
  callAction (.workspaceRename workspaceId label)

def closeWorkspace (workspaceId : String) (closeGroup : Bool) : Asks ActionAck :=
  callAction (.workspaceClose workspaceId closeGroup)

def createTab (workspaceId label : Option String) : Asks ActionAck :=
  callAction (.tabCreate workspaceId true label)

def lookTab (tabId : ℕ) : Asks (Option String) := Handler.op (Op.herdrTabId tabId)

/-- An action on a tab that goes by its number. -/
def onTab (tabId : ℕ) (request : String → Request) : Asks ActionAck := do
  match ← lookTab tabId with
  | none => pure (unknownTab tabId)
  | some herdrTab => callAction (request herdrTab)

def focusTab (tabId : ℕ) : Asks ActionAck := onTab tabId .tabFocus

def closeTab (tabId : ℕ) : Asks ActionAck := onTab tabId .tabClose

def renameTab (tabId : ℕ) (label : String) : Asks ActionAck := onTab tabId (.tabRename · label)

def lookPane (pane : ℕ) : Asks (Option String) := Handler.op (Op.herdrPaneId pane)

/-- An action on a pane that goes by its number. -/
def onPane (pane : ℕ) (request : String → Request) : Asks ActionAck := do
  match ← lookPane pane with
  | none => pure (unknownPane pane)
  | some paneId => callAction (request paneId)

def closePane (pane : ℕ) : Asks ActionAck := onPane pane .paneClose

def renamePane (pane : ℕ) (label : Option String) : Asks ActionAck :=
  onPane pane (.paneRename · label)

/-- An action on a pane, or else on the one that has the focus. -/
def onOptPane (pane : Option ℕ) (request : Option String → Request) : Asks ActionAck :=
  match pane with
  | none => callAction (request none)
  | some id => onPane id (request ∘ some)

def splitPane (workspaceId : Option String) (target : Option ℕ) (direction : SplitDirection)
    (focus : Bool) : Asks ActionAck :=
  onOptPane target (.paneSplit workspaceId · direction focus)

def zoomPane (pane : Option ℕ) (mode : PaneZoomMode) : Asks ActionAck :=
  onOptPane pane (.paneZoom · mode)

/-! ### The backend -/

def noopAck : ActionAck := ⟨true, none, none⟩

def unsupportedAck (op : String) : ActionAck :=
  ⟨false, some s!"{op} is unsupported on the herdr backend", none⟩

def immutableAck : ActionAck := ⟨false, some herdrSessionImmutableMsg, none⟩

/-- The workspace of a session, as they are listed now. -/
def resolveListed (session : String) : Asks String := do
  let workspaces ← listWorkspaces
  Handler.check (resolveWorkspace workspaces session)

def createSession (name : String) : Asks ActionAck := do
  let workspaces ← listWorkspaces
  if workspaces.any (·.label = name) then
    pure ⟨false, some s!"session '{name}' already exists", none⟩
  else createWorkspace (some name)

def killSession (session : String) : Asks ActionAck := do
  if session = herdrSession then pure immutableAck
  else
    let workspaces ← listWorkspaces
    match ← Handler.check (Backend.killSession (.ok workspaces) session) with
    | .inl ack => pure ack
    | .inr workspaceId => closeWorkspace workspaceId false

def renameSession (session newName : String) : Asks ActionAck := do
  if session = herdrSession then pure immutableAck
  else
    let workspaces ← listWorkspaces
    let workspaceId ← Handler.check (workspaceIdIn workspaces session)
    renameWorkspace workspaceId newName

def newPane (session : String) : Asks ActionAck := do
  let workspaceId ← resolveListed session
  splitPane (some workspaceId) none .right true

def newTab (session : String) (name : Option String) : Asks ActionAck := do
  let workspaceId ← resolveListed session
  createTab (some workspaceId) name

/-- What the backend does for an action; herdr takes input, resizes and scrolling on the wire only,
it has no floating panes, and the focus is the relay's. -/
def act : ActionCall → Asks ActionAck
  | .createSession name _ => createSession name
  | .killSession session => killSession session
  | .renameSession session newName => renameSession session newName
  | .writeToPane _ _ _ => pure (unsupportedAck "write_to_pane")
  | .focusPane _ _ => pure noopAck
  | .closePane _ pane => closePane pane.id
  | .newPane session _ _ => newPane session
  | .renamePane _ pane name => renamePane pane.id (some name)
  | .resizePane _ _ _ _ => pure (unsupportedAck "resize_pane")
  | .togglePaneFloating _ _ => pure noopAck
  | .togglePaneFullscreen _ pane => zoomPane (some pane.id) .toggle
  | .scrollPane _ _ _ => pure (unsupportedAck "scroll_pane")
  | .newTab session name => newTab session name
  | .closeTab _ tabId => closeTab tabId
  | .goToTab _ tabId => focusTab tabId
  | .renameTab _ tabId name => renameTab tabId name
  | .createSpace label => createWorkspace label
  | .renameSpace spaceId label => renameWorkspace spaceId label
  | .closeSpace spaceId closeGroup => closeWorkspace spaceId closeGroup

/-! ### What an action sends -/

/-- The workspaces were listed so. -/
def Listed (h : History) (workspaces : List WorkspaceInfo) : Prop :=
  ⟨.call .workspaceList, (.ok (.ok (.ok (.workspaceList workspaces))) : ApiReply)⟩ ∈ h

/-- The pane was looked up under this number. -/
def Looked (h : History) (id : ℕ) (pane : String) : Prop :=
  ⟨.herdrPaneId id, (some pane : Option String)⟩ ∈ h

/-- The tab was looked up under this number. -/
def LookedTab (h : History) (id : ℕ) (tab : String) : Prop :=
  ⟨.herdrTabId id, (some tab : Option String)⟩ ∈ h

/-- The request is the one that the action stands for, after what was looked up. -/
inductive Sends (h : History) : ActionCall → Request → Prop
  | createSession {name : String} {layout : Option String} {workspaces : List WorkspaceInfo}
      (hl : Listed h workspaces) (hnew : ∀ w ∈ workspaces, w.label ≠ name) :
      Sends h (.createSession name layout) (.workspaceCreate true (some name))
  | killSession {session : String} {workspaces : List WorkspaceInfo} {w : WorkspaceInfo}
      (hl : Listed h workspaces) (hs : session ≠ herdrSession)
      (honly : workspaces.filter (·.label = session) = [w]) (htwo : 2 ≤ workspaces.length) :
      Sends h (.killSession session) (.workspaceClose w.workspaceId false)
  | renameSession {session newName : String} {workspaces : List WorkspaceInfo} {w : WorkspaceInfo}
      (hl : Listed h workspaces) (hs : session ≠ herdrSession)
      (honly : workspaces.filter (·.label = session) = [w]) :
      Sends h (.renameSession session newName) (.workspaceRename w.workspaceId newName)
  | closePane {session : String} {pane : Relay.Control.PaneRef} {paneId : String}
      (hl : Looked h pane.id paneId) : Sends h (.closePane session pane) (.paneClose paneId)
  | newPane {session : String} {floating : Bool} {name : Option String}
      {workspaces : List WorkspaceInfo} {workspaceId : String} (hl : Listed h workspaces)
      (hr : resolveWorkspace workspaces session = .ok workspaceId) :
      Sends h (.newPane session floating name) (.paneSplit (some workspaceId) none .right true)
  | renamePane {session : String} {pane : Relay.Control.PaneRef} {name paneId : String}
      (hl : Looked h pane.id paneId) :
      Sends h (.renamePane session pane name) (.paneRename paneId (some name))
  | togglePaneFullscreen {session : String} {pane : Relay.Control.PaneRef} {paneId : String}
      (hl : Looked h pane.id paneId) :
      Sends h (.togglePaneFullscreen session pane) (.paneZoom (some paneId) .toggle)
  | newTab {session : String} {name : Option String} {workspaces : List WorkspaceInfo}
      {workspaceId : String} (hl : Listed h workspaces)
      (hr : resolveWorkspace workspaces session = .ok workspaceId) :
      Sends h (.newTab session name) (.tabCreate (some workspaceId) true name)
  | closeTab {session : String} {tabId : ℕ} {tab : String} (hl : LookedTab h tabId tab) :
      Sends h (.closeTab session tabId) (.tabClose tab)
  | goToTab {session : String} {tabId : ℕ} {tab : String} (hl : LookedTab h tabId tab) :
      Sends h (.goToTab session tabId) (.tabFocus tab)
  | renameTab {session : String} {tabId : ℕ} {name tab : String} (hl : LookedTab h tabId tab) :
      Sends h (.renameTab session tabId name) (.tabRename tab name)
  | createSpace {label : Option String} : Sends h (.createSpace label) (.workspaceCreate true label)
  | renameSpace {spaceId label : String} :
      Sends h (.renameSpace spaceId label) (.workspaceRename spaceId label)
  | closeSpace {spaceId : String} {closeGroup : Bool} :
      Sends h (.closeSpace spaceId closeGroup) (.workspaceClose spaceId closeGroup)

/-- Nothing has been asked but what reads. -/
def Unsent (h : History) : Prop := ∀ e ∈ h, ∀ request, e.op = .call request → request.acts = false

/-- What is asked: what reads, or once the request that the action stands for. -/
def Asked (call : ActionCall) (h : History) (op : Op) : Prop :=
  Unsent h ∧ ∀ request, op = .call request → request.acts = true → Sends h call request

/-- The actions that herdr has no part in, and that are acknowledged. -/
def isNoop : ActionCall → Bool
  | .focusPane _ _ | .togglePaneFloating _ _ => true
  | _ => false

/-- An action that is acknowledged has been done by herdr, where it has a part in it. -/
def Honest (call : ActionCall) (h : History) (r : Except String ActionAck) : Prop :=
  ∀ ack, r = .ok ack → ack.ok = true → isNoop call = true ∨
    ∃ h' request result, h = h' ++ [⟨.call request, (.ok (.ok result) : ApiReply)⟩] ∧
      Sends h' call request

variable {call : ActionCall} {h : History} {α : Type}

theorem Sends.acts {request : Request} (hs : Sends h call request) : request.acts = true := by
  cases hs <;> rfl

theorem unsent_nil : Unsent [] := by simp [Unsent]

theorem Unsent.concat (hu : Unsent h) {e : Event Op.Answer}
    (he : ∀ request, e.op = .call request → request.acts = false) : Unsent (h ++ [e]) := by
  intro e' he'
  rcases List.mem_append.mp he' with hin | hin
  · exact hu e' hin
  · obtain rfl := List.mem_singleton.mp hin
    exact he

theorem honest_error {e : String} : Honest call h (.error e) := nofun

theorem honest_failed {ack : ActionAck} (hfalse : ack.ok = false) : Honest call h (.ok ack) := by
  intro ack' hack hok
  cases hack
  rw [hfalse] at hok
  cases hok

/-- The request that an action stands for, at its time. -/
theorem meets_callAction {request : Request} (hu : Unsent h) (hs : Sends h call request) :
    Handler.Meets (Asked call) (Honest call) h (callAction request) := by
  refine Handler.meets_op_bind.mpr ⟨⟨hu, ?_⟩, fun reply => ?_⟩
  · rintro request' ⟨⟩ -
    exact hs
  · rw [Handler.meets_check]
    rcases reply with e | result | error
    · exact honest_error
    · exact fun ack _ _ => Or.inr ⟨h, request, result, rfl, hs⟩
    · -- a refusal is a failed acknowledgement, in whatever words
      refine honest_failed ?_
      unfold worktreeGroupRefusal
      split_ifs <;> rfl

/-- Listing the workspaces first. -/
theorem meets_listWorkspaces {Q : History → Except String α → Prop} (herr : ∀ h e, Q h (.error e))
    {f : List WorkspaceInfo → Asks α} (hu : Unsent h)
    (hf : ∀ h' workspaces, Unsent h' → Listed h' workspaces →
      Handler.Meets (Asked call) Q h' (f workspaces)) :
    Handler.Meets (Asked call) Q h (listWorkspaces >>= f) := by
  unfold listWorkspaces callTyped callRaw
  simp only [Handler.meets_bind]
  refine ⟨⟨hu, ?_⟩, fun reply => ?_⟩
  · rintro request ⟨⟩ hacts
    cases hacts
  · have hu' : Unsent (h ++ [⟨.call .workspaceList, reply⟩]) := hu.concat fun request hr => by
      cases hr
      rfl
    rcases reply with e | (e | (workspaces | debug)) | error
    · exact herr _ _
    · exact herr _ _
    · exact hf _ workspaces hu' (by simp [Listed])
    · exact herr _ _
    · exact herr _ _

/-- What goes by the number of a pane. -/
theorem meets_onPane {pane : ℕ} {request : String → Request} (hu : Unsent h)
    (hs : ∀ h' paneId, Looked h' pane paneId → Sends h' call (request paneId)) :
    Handler.Meets (Asked call) (Honest call) h (onPane pane request) := by
  refine Handler.meets_op_bind.mpr ⟨⟨hu, nofun⟩, fun found => ?_⟩
  rcases found with - | paneId
  · exact honest_failed rfl
  · exact meets_callAction (hu.concat nofun) (hs _ _ (by simp [Looked]))

theorem meets_onTab {tabId : ℕ} {request : String → Request} (hu : Unsent h)
    (hs : ∀ h' tab, LookedTab h' tabId tab → Sends h' call (request tab)) :
    Handler.Meets (Asked call) (Honest call) h (onTab tabId request) := by
  refine Handler.meets_op_bind.mpr ⟨⟨hu, nofun⟩, fun found => ?_⟩
  rcases found with - | tab
  · exact honest_failed rfl
  · exact meets_callAction (hu.concat nofun) (hs _ _ (by simp [LookedTab]))

/-- What goes by the workspace of a session. -/
theorem meets_resolveListed {session : String} {f : String → Asks ActionAck} (hu : Unsent h)
    (hf : ∀ h' workspaces workspaceId, Unsent h' → Listed h' workspaces →
      resolveWorkspace workspaces session = .ok workspaceId →
      Handler.Meets (Asked call) (Honest call) h' (f workspaceId)) :
    Handler.Meets (Asked call) (Honest call) h (resolveListed session >>= f) := by
  rw [Handler.meets_bind]
  refine meets_listWorkspaces ?_ hu ?_
  · exact fun h' e => honest_error
  · intro h' workspaces hu' hl
    rw [Handler.meets_check]
    rcases hr : resolveWorkspace workspaces session with e | workspaceId
    · exact honest_error
    · exact hf h' workspaces workspaceId hu' hl hr

/-- The one workspace with a label. -/
theorem workspaceIdIn_eq_ok {workspaces : List WorkspaceInfo} {session workspaceId : String} :
    workspaceIdIn workspaces session = .ok workspaceId ↔
      ∃ w, workspaces.filter (·.label = session) = [w] ∧ w.workspaceId = workspaceId := by
  unfold workspaceIdIn
  rcases hf : workspaces.filter (·.label = session) with - | ⟨w, - | ⟨v, rest⟩⟩ <;> simp [hf]

theorem meets_killSession {session : String} (hu : Unsent h) :
    Handler.Meets (Asked (.killSession session)) (Honest (.killSession session)) h
      (killSession session) := by
  unfold killSession
  split_ifs with hs
  · exact honest_failed rfl
  · refine meets_listWorkspaces (fun _ _ => honest_error) hu fun h' workspaces hu' hl => ?_
    rw [Handler.meets_bind, Handler.meets_check]
    rcases hw : workspaceIdIn workspaces session with e | workspaceId
    · simp only [Backend.killSession, if_neg hs, bind, Except.bind, hw]
      exact honest_error
    · obtain ⟨w, honly, rfl⟩ := workspaceIdIn_eq_ok.mp hw
      by_cases hlast : wouldKillLastSpace workspaces.length = true
      · simp only [Backend.killSession, if_neg hs, bind, Except.bind, hw, if_pos hlast]
        exact honest_failed rfl
      · simp only [Backend.killSession, if_neg hs, bind, Except.bind, hw, if_neg hlast]
        have htwo : 2 ≤ workspaces.length := by
          have hlt : ¬ workspaces.length ≤ 1 := by simpa [wouldKillLastSpace] using hlast
          omega
        exact meets_callAction hu' (.killSession hl hs honly htwo)

theorem meets_renameSession {session newName : String} (hu : Unsent h) :
    Handler.Meets (Asked (.renameSession session newName)) (Honest (.renameSession session newName))
      h (renameSession session newName) := by
  unfold renameSession
  split_ifs with hs
  · exact honest_failed rfl
  · refine meets_listWorkspaces (fun _ _ => honest_error) hu fun h' workspaces hu' hl => ?_
    rw [Handler.meets_bind, Handler.meets_check]
    rcases hw : workspaceIdIn workspaces session with e | workspaceId
    · exact honest_error
    · obtain ⟨w, honly, rfl⟩ := workspaceIdIn_eq_ok.mp hw
      exact meets_callAction hu' (.renameSession hl hs honly)

theorem meets_createSession {name : String} {layout : Option String} (hu : Unsent h) :
    Handler.Meets (Asked (.createSession name layout)) (Honest (.createSession name layout)) h
      (createSession name) := by
  refine meets_listWorkspaces (fun _ _ => honest_error) hu fun h' workspaces hu' hl => ?_
  by_cases hany : workspaces.any (·.label = name) = true
  · rw [if_pos hany]
    exact honest_failed rfl
  · rw [if_neg hany]
    have hnew : ∀ w ∈ workspaces, w.label ≠ name := by
      intro w hw he
      exact hany (List.any_eq_true.mpr ⟨w, hw, by simpa using he⟩)
    exact meets_callAction hu' (.createSession hl hnew)

/-- **An action asks herdr at most once to act, and this is the request that it stands for**; and
its acknowledgement is not better than herdr's. -/
theorem act_meets (call : ActionCall) :
    Handler.Meets (Asked call) (Honest call) [] (act call) := by
  have hu := unsent_nil
  cases call with
  | createSession name layout => exact meets_createSession hu
  | killSession session => exact meets_killSession hu
  | renameSession session newName => exact meets_renameSession hu
  | writeToPane session pane data => exact honest_failed rfl
  | focusPane session pane => exact fun ack _ _ => Or.inl rfl
  | closePane session pane => exact meets_onPane hu fun h' paneId hl => .closePane hl
  | newPane session floating name =>
    exact meets_resolveListed hu fun h' workspaces workspaceId hu' hl hr =>
      meets_callAction hu' (.newPane hl hr)
  | renamePane session pane name => exact meets_onPane hu fun h' paneId hl => .renamePane hl
  | resizePane session pane resize dir => exact honest_failed rfl
  | togglePaneFloating session pane => exact fun ack _ _ => Or.inl rfl
  | togglePaneFullscreen session pane =>
    exact meets_onPane hu fun h' paneId hl => .togglePaneFullscreen hl
  | scrollPane session pane dir => exact honest_failed rfl
  | newTab session name =>
    exact meets_resolveListed hu fun h' workspaces workspaceId hu' hl hr =>
      meets_callAction hu' (.newTab hl hr)
  | closeTab session tabId => exact meets_onTab hu fun h' tab hl => .closeTab hl
  | goToTab session tabId => exact meets_onTab hu fun h' tab hl => .goToTab hl
  | renameTab session tabId name => exact meets_onTab hu fun h' tab hl => .renameTab hl
  | createSpace label => exact meets_callAction hu .createSpace
  | renameSpace spaceId label => exact meets_callAction hu .renameSpace
  | closeSpace spaceId closeGroup => exact meets_callAction hu .closeSpace

/-! ### What a number stands for -/

/-- The pane that an operation is about, where it answers a number. -/
def aboutPane : PaneOp → Option String
  | .idForHerdrPane pane => some pane
  | op => op.gives.map Prod.fst

/-- The number was given for this pane, and at no time for another. -/
def ShownAs (ops : List PaneOp) (id : ℕ) (pane : String) : Prop :=
  (∃ pre op post, ops = pre ++ op :: post ∧ aboutPane op = some pane ∧
    (op.apply (panesAfter pre)).2 = some id) ∧
  ∀ pre op post pane', ops = pre ++ op :: post → aboutPane op = some pane' →
    (op.apply (panesAfter pre)).2 = some id → pane' = pane

/-- The number was given for this tab, and at no time for another. -/
def ShownAsTab (ops : List TabOp) (id : ℕ) (tab : String) : Prop :=
  (∃ pre op post, ops = pre ++ op :: post ∧ op.gives = some tab ∧
    (op.apply (tabsAfter pre)).2 = some id) ∧
  ∀ pre op post tab', ops = pre ++ op :: post → op.gives = some tab' →
    (op.apply (tabsAfter pre)).2 = some id → tab' = tab

theorem mem_seen {names : List String} {name : String} : name ∈ seen names ↔ name ∈ names := by
  induction names using List.reverseRecOn with
  | nil => simp [seen]
  | append_singleton names last ih =>
    rw [seen_concat, see]
    split_ifs with hin
    · rw [ih, List.mem_append, List.mem_singleton]
      constructor
      · exact Or.inl
      · rintro (hname | rfl)
        · exact hname
        · exact ih.mp hin
    · rw [List.mem_append, List.mem_append, ih]

section
variable {ops pre post : List PaneOp} {op : PaneOp} {id : ℕ} {pane : String}

/-- The number that an operation answered is the one that its pane has in the end. -/
theorem number_stays (hroom : (panesSeen (pre ++ op :: post)).length < 2 ^ 32 - 1)
    (hop : aboutPane op = some pane) (hid : (op.apply (panesAfter pre)).2 = some id) :
    (panesAfter (pre ++ op :: post)).byHerdr pane = some id := by
  have hpre := panesSeen_append (pre ++ [op]) post
  rw [List.append_assoc, List.singleton_append] at hpre
  have hle := hpre.length_le
  have hfirst := paneRun (pre ++ [op]) (by omega)
  have hlast := paneRun (pre ++ op :: post) hroom
  obtain ⟨pane', habout, hafter⟩ := apply_snd hid
  have hsame : pane' = pane := by
    rcases habout with hgives | rfl
    · cases op with
      | idForHerdrPane q => cases hgives
      | _ => exact Option.some.inj (hgives.symm.trans hop)
    · exact Option.some.inj hop
  subst hsame
  rw [panesAfter, List.foldl_append] at hfirst
  exact hfirst.counts.of_prefix hlast.counts hpre hafter

/-- **A number stands for one pane at all times**: the one that it is looked up as. -/
theorem shownAs_of_lookup (hroom : (panesSeen ops).length < 2 ^ 32 - 1)
    (h : (panesAfter ops).herdrPaneId id = some pane) : ShownAs ops id pane := by
  have hrun := paneRun ops hroom
  have hid : (panesAfter ops).byHerdr pane = some id := (hrun.inverse pane id).mpr h
  constructor
  · -- it was seen, and was numbered then
    have hsome : ((panesAfter ops).byHerdr pane).isSome := by
      rw [hid]
      rfl
    have hseen : pane ∈ panesSeen ops := hrun.counts.isSome_iff.mp hsome
    obtain ⟨op, hop, hgives⟩ := List.mem_filterMap.mp (mem_seen.mp hseen)
    obtain ⟨pre, post, rfl⟩ := List.append_of_mem hop
    have habout : aboutPane op = some pane := by
      cases op with
      | idForHerdrPane q => cases hgives
      | _ => exact hgives
    rcases hn : (op.apply (panesAfter pre)).2 with - | n
    · cases op <;> cases hgives <;> cases hn
    · have hstays := number_stays hroom habout hn
      rw [hid] at hstays
      obtain rfl := Option.some.inj hstays
      exact ⟨pre, op, post, rfl, habout, hn⟩
  · rintro pre op post pane' rfl hop hn
    exact hrun.counts.distinct (number_stays hroom hop hn) hid

end

section
variable {ops pre post : List TabOp} {op : TabOp} {id : ℕ} {tab : String}

theorem tabNumber_stays (hroom : (tabsSeen (pre ++ op :: post)).length < 2 ^ 64 - 1)
    (hop : op.gives = some tab) (hid : (op.apply (tabsAfter pre)).2 = some id) :
    (tabsAfter (pre ++ op :: post)).byHerdr tab = some id := by
  have hpre := tabsSeen_append (pre ++ [op]) post
  rw [List.append_assoc, List.singleton_append] at hpre
  have hle := hpre.length_le
  have hfirst := tabRun (pre ++ [op]) (by omega)
  have hlast := tabRun (pre ++ op :: post) hroom
  rw [tabsAfter, List.foldl_append] at hfirst
  cases op with
  | herdrTabId id => cases hid
  | assignOrGet tab' =>
    obtain rfl := Option.some.inj hop
    refine hfirst.counts.of_prefix hlast.counts hpre ?_
    rw [← Option.some.inj hid]
    exact HerdrTabRegistry.byHerdr_assign_self (tabsAfter pre) tab'

theorem shownAsTab_of_lookup (hroom : (tabsSeen ops).length < 2 ^ 64 - 1)
    (h : (tabsAfter ops).herdrTabId id = some tab) : ShownAsTab ops id tab := by
  have hrun := tabRun ops hroom
  have hid : (tabsAfter ops).byHerdr tab = some id := (hrun.inverse tab id).mpr h
  constructor
  · have hsome : ((tabsAfter ops).byHerdr tab).isSome := by
      rw [hid]
      rfl
    have hseen : tab ∈ tabsSeen ops := hrun.counts.isSome_iff.mp hsome
    obtain ⟨op, hop, hgives⟩ := List.mem_filterMap.mp (mem_seen.mp hseen)
    obtain ⟨pre, post, rfl⟩ := List.append_of_mem hop
    rcases hn : (op.apply (tabsAfter pre)).2 with - | n
    · cases op with
      | assignOrGet tab' => cases hn
      | herdrTabId n => cases hgives
    · have hstays := tabNumber_stays hroom hgives hn
      rw [hid] at hstays
      obtain rfl := Option.some.inj hstays
      exact ⟨pre, op, post, rfl, hgives, hn⟩
  · rintro pre op post tab' rfl hop hn
    exact hrun.counts.distinct (tabNumber_stays hroom hop hn) hid

end

/-! ### Others at the same time -/

/-- An action under way, with what it has done. -/
structure Caller where
  call : ActionCall
  done : History

/-- What has been done to the registries so far, and the actions. -/
structure System where
  panes : List PaneOp
  tabs : List TabOp
  callers : List Caller

def System.init : System := ⟨[], [], []⟩

inductive Act
  /-- a layout, the inventory, the kernel or a relay numbers a pane, or looks one up -/
  | pane (op : PaneOp)
  | tab (op : TabOp)
  | receive (call : ActionCall)
  | perform (i : ℕ) (e : Event Op.Answer)

/-- The registries answer what they hold, and herdr anything. -/
def System.Answers (s : System) : Event Op.Answer → Prop
  | ⟨.call _, _⟩ => True
  | ⟨.herdrPaneId id, found⟩ => found = (panesAfter s.panes).herdrPaneId id
  | ⟨.herdrTabId id, found⟩ => found = (tabsAfter s.tabs).herdrTabId id

/-- One step. -/
def System.Step (s : System) : Act → System → Prop
  | .pane op, t => t = { s with panes := s.panes ++ [op] }
  | .tab op, t => t = { s with tabs := s.tabs ++ [op] }
  | .receive call, t => t = { s with callers := s.callers ++ [⟨call, []⟩] }
  | .perform i e, t => ∃ caller, s.callers[i]? = some caller ∧
      Prog.Does (act caller.call).run caller.done (.performs e.op) ∧ s.Answers e ∧
      t = { s with callers := s.callers.set i { caller with done := caller.done ++ [e] } }

/-- What was looked up is what the registries hold. -/
structure Current (s : System) (h : History) : Prop where
  panes : ∀ id pane, Looked h id pane → (panesAfter s.panes).herdrPaneId id = some pane
  tabs : ∀ id tab, LookedTab h id tab → (tabsAfter s.tabs).herdrTabId id = some tab

/-- The numbers are not exhausted. -/
structure Room (s : System) : Prop where
  panes : (panesSeen s.panes).length < 2 ^ 32 - 1
  tabs : (tabsSeen s.tabs).length < 2 ^ 64 - 1

variable {s t : System} {a : Act} {as : List Act}

/-- What the pane registry holds, it holds on. -/
theorem herdrPaneId_concat {ops : List PaneOp} {op : PaneOp} {id : ℕ} {pane : String}
    (hroom : (panesSeen (ops ++ [op])).length < 2 ^ 32 - 1)
    (h : (panesAfter ops).herdrPaneId id = some pane) :
    (panesAfter (ops ++ [op])).herdrPaneId id = some pane := by
  have hpre := panesSeen_append ops [op]
  have hle := hpre.length_le
  have hold := paneRun ops (by omega)
  have hnew := paneRun (ops ++ [op]) hroom
  have hid := (hold.inverse pane id).mpr h
  exact (hnew.inverse pane id).mp (hold.counts.of_prefix hnew.counts hpre hid)

theorem herdrTabId_concat {ops : List TabOp} {op : TabOp} {id : ℕ} {tab : String}
    (hroom : (tabsSeen (ops ++ [op])).length < 2 ^ 64 - 1)
    (h : (tabsAfter ops).herdrTabId id = some tab) :
    (tabsAfter (ops ++ [op])).herdrTabId id = some tab := by
  have hpre := tabsSeen_append ops [op]
  have hle := hpre.length_le
  have hold := tabRun ops (by omega)
  have hnew := tabRun (ops ++ [op]) hroom
  have hid := (hold.inverse tab id).mpr h
  exact (hnew.inverse tab id).mp (hold.counts.of_prefix hnew.counts hpre hid)

theorem Room.of_step (h : Room t) (hst : s.Step a t) : Room s := by
  cases a with
  | pane op =>
    obtain rfl := hst
    have hle := (panesSeen_append s.panes [op]).length_le
    have hpanes : (panesSeen (s.panes ++ [op])).length < 2 ^ 32 - 1 := h.panes
    exact ⟨by omega, h.tabs⟩
  | tab op =>
    obtain rfl := hst
    have hle := (tabsSeen_append s.tabs [op]).length_le
    have htabs : (tabsSeen (s.tabs ++ [op])).length < 2 ^ 64 - 1 := h.tabs
    exact ⟨h.panes, by omega⟩
  | receive call =>
    obtain rfl := hst
    exact ⟨h.panes, h.tabs⟩
  | perform i e =>
    obtain ⟨caller, -, -, -, rfl⟩ := hst
    exact ⟨h.panes, h.tabs⟩

/-- One more answer. -/
theorem Current.concat {h : History} (hc : Current s h) {e : Event Op.Answer} (he : s.Answers e) :
    Current s (h ++ [e]) := by
  constructor
  · intro id pane hl
    rcases List.mem_append.mp hl with hl | hl
    · exact hc.panes id pane hl
    · obtain rfl := List.mem_singleton.mp hl
      exact he.symm
  · intro id tab hl
    rcases List.mem_append.mp hl with hl | hl
    · exact hc.tabs id tab hl
    · obtain rfl := List.mem_singleton.mp hl
      exact he.symm

/-- Every action has looked up what is current, and done what it does. -/
def AllCurrent (s : System) : Prop :=
  ∀ caller ∈ s.callers, Current s caller.done

theorem allCurrent_step (h : AllCurrent s) (hroom : Room t) (hst : s.Step a t) :
    AllCurrent t := by
  cases a with
  | pane op =>
    obtain rfl := hst
    intro caller hin
    exact ⟨fun id pane hl => herdrPaneId_concat hroom.panes ((h caller hin).panes id pane hl),
      (h caller hin).tabs⟩
  | tab op =>
    obtain rfl := hst
    intro caller hin
    exact ⟨(h caller hin).panes,
      fun id tab hl => herdrTabId_concat hroom.tabs ((h caller hin).tabs id tab hl)⟩
  | receive call =>
    obtain rfl := hst
    intro caller hin
    rcases List.mem_append.mp hin with hin | hin
    · exact ⟨(h caller hin).panes, (h caller hin).tabs⟩
    · obtain rfl := List.mem_singleton.mp hin
      exact ⟨nofun, nofun⟩
  | perform i e =>
    obtain ⟨caller, hcaller, -, he, rfl⟩ := hst
    intro caller' hin
    have hcurrent : Current s caller'.done := by
      rcases List.mem_or_eq_of_mem_set hin with hin | rfl
      · exact h caller' hin
      · exact (h caller (List.mem_of_getElem? hcaller)).concat he
    exact ⟨hcurrent.panes, hcurrent.tabs⟩

theorem allCurrent_run (h : Run System.Step System.init as s) (hroom : Room s) : AllCurrent s := by
  have hstep : ∀ (s : System) (a : Act) (t : System), (Room s → AllCurrent s) → s.Step a t →
      (Room t → AllCurrent t) :=
    fun s a t hs hst hroom => allCurrent_step (hs (hroom.of_step hst)) hroom hst
  exact h.invariant hstep (fun _ => by simp [AllCurrent, System.init]) hroom

/-- **The pane or tab that a request names is the one that was shown**: whatever else goes on, an
action asks herdr at most once to act, the request is the one that it stands for, and the pane or
tab that it looked up is the only one that its number has ever been given for. -/
theorem sends_to_shown (h : Run System.Step System.init as s) (hroom : Room s) {i : ℕ}
    {caller : Caller} (hi : s.callers[i]? = some caller) {request : Request}
    (hd : Prog.Does (act caller.call).run caller.done (.performs (.call request))) :
    Unsent caller.done ∧ (request.acts = true → Sends caller.done caller.call request) ∧
      (∀ id pane, Looked caller.done id pane → ShownAs s.panes id pane) ∧
      ∀ id tab, LookedTab caller.done id tab → ShownAsTab s.tabs id tab := by
  have hcurrent := allCurrent_run h hroom caller (List.mem_of_getElem? hi)
  obtain ⟨hunsent, hsends⟩ := Prog.meets_iff.mp (act_meets caller.call) _ _ hd
  exact ⟨hunsent, hsends request rfl,
    fun id pane hl => shownAs_of_lookup hroom.panes (hcurrent.panes id pane hl),
    fun id tab hl => shownAsTab_of_lookup hroom.tabs (hcurrent.tabs id tab hl)⟩

/-- A pane has been shown, and a client closes it. -/
def closing : List Act :=
  [.pane (.assignOrGet "w1:p1" "t1"), .receive (.closePane "herdr" ⟨1, false⟩),
    .perform 0 ⟨.herdrPaneId 1, some "w1:p1"⟩]

theorem sends_to_shown_closing : ∃ s, Run System.Step System.init closing s ∧
    ShownAs s.panes 1 "w1:p1" := by
  have hlook : Prog.Does (act (.closePane "herdr" ⟨1, false⟩)).run []
      (.performs (.herdrPaneId 1)) := .performs _ _
  have hask : Prog.Does (act (.closePane "herdr" ⟨1, false⟩)).run
      [⟨.herdrPaneId 1, some "w1:p1"⟩] (.performs (.call (.paneClose "w1:p1"))) :=
    .answered _ (.performs _ _)
  have hrun : Run System.Step System.init closing
      ⟨[.assignOrGet "w1:p1" "t1"], [],
        [⟨.closePane "herdr" ⟨1, false⟩, [⟨.herdrPaneId 1, some "w1:p1"⟩]⟩]⟩ :=
    .cons rfl (.cons rfl (.cons ⟨_, rfl, hlook, rfl, rfl⟩ (.nil _)))
  obtain ⟨-, -, hshown, -⟩ := sends_to_shown hrun ⟨by decide, by decide⟩ (i := 0) rfl hask
  exact ⟨_, hrun, hshown 1 "w1:p1" (by simp [Looked])⟩

/-- **An action that is acknowledged has been done**: unless herdr has no part in it, its last
request was the one that it stands for, herdr answered with a result, and the pane or tab that the
request names is the one that was shown. -/
theorem acknowledged_done (h : Run System.Step System.init as s) (hroom : Room s) {i : ℕ}
    {caller : Caller} (hi : s.callers[i]? = some caller) {ack : ActionAck}
    (hd : Prog.Does (act caller.call).run caller.done (.done (.ok ack))) (hok : ack.ok = true) :
    isNoop caller.call = true ∨ ∃ before request result,
      caller.done = before ++ [⟨.call request, (.ok (.ok result) : ApiReply)⟩] ∧
        Sends before caller.call request ∧
        (∀ id pane, Looked before id pane → ShownAs s.panes id pane) ∧
        ∀ id tab, LookedTab before id tab → ShownAsTab s.tabs id tab := by
  have hcurrent := allCurrent_run h hroom caller (List.mem_of_getElem? hi)
  have hhonest : Honest caller.call caller.done (.ok ack) :=
    Prog.meets_iff.mp (act_meets caller.call) _ _ hd
  rcases hhonest ack rfl hok with hnoop | ⟨before, request, result, hdone, hsends⟩
  · exact Or.inl hnoop
  · rw [hdone] at hcurrent
    refine Or.inr ⟨before, request, result, hdone, hsends, fun id pane hl => ?_,
      fun id tab hl => ?_⟩
    · exact shownAs_of_lookup hroom.panes (hcurrent.panes id pane (List.mem_append_left _ hl))
    · exact shownAsTab_of_lookup hroom.tabs (hcurrent.tabs id tab (List.mem_append_left _ hl))

theorem acknowledged_done_closing : ∃ s, Run System.Step System.init
      (closing ++ [.perform 0 ⟨.call (.paneClose "w1:p1"), .ok (.ok (.ok (.other "ok")))⟩]) s ∧
    ∃ pane, ShownAs s.panes 1 pane := by
  have hlook : Prog.Does (act (.closePane "herdr" ⟨1, false⟩)).run []
      (.performs (.herdrPaneId 1)) := .performs _ _
  have hask : Prog.Does (act (.closePane "herdr" ⟨1, false⟩)).run
      [⟨.herdrPaneId 1, some "w1:p1"⟩] (.performs (.call (.paneClose "w1:p1"))) :=
    .answered _ (.performs _ _)
  have hdone : Prog.Does (act (.closePane "herdr" ⟨1, false⟩)).run
      [⟨.herdrPaneId 1, some "w1:p1"⟩,
        ⟨.call (.paneClose "w1:p1"), .ok (.ok (.ok (.other "ok")))⟩] (.done (.ok ackOk)) :=
    .answered _ (.answered _ (.done _))
  have hrun : Run System.Step System.init
      (closing ++ [.perform 0 ⟨.call (.paneClose "w1:p1"), .ok (.ok (.ok (.other "ok")))⟩])
      ⟨[.assignOrGet "w1:p1" "t1"], [], [⟨.closePane "herdr" ⟨1, false⟩,
        [⟨.herdrPaneId 1, some "w1:p1"⟩,
          ⟨.call (.paneClose "w1:p1"), .ok (.ok (.ok (.other "ok")))⟩]⟩]⟩ :=
    .cons rfl (.cons rfl (.cons ⟨_, rfl, hlook, rfl, rfl⟩
      (.cons ⟨_, rfl, hask, trivial, rfl⟩ (.nil _))))
  rcases acknowledged_done hrun ⟨by decide, by decide⟩ (i := 0) rfl hdone rfl with
    hnoop | ⟨before, request, result, -, hsends, hshown, -⟩
  · cases hnoop
  · cases hsends with
    | closePane hl => exact ⟨_, hrun, _, hshown 1 _ hl⟩

end MuxrCore.Herdr.Actions
