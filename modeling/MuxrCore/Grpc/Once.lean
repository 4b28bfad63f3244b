import MuxrCore.Grpc.Mediation

/-! # A request takes effect at most once

What a request does to a session is done by a backend, or by a relay that takes a command. A request
is for one such effect. It has no other, and it does not have it twice: it is not routed and acted
on as well, and what is refused is not tried on another way. Only a close of a space may, once the
backend has closed it, switch the caller's relay to another.

* `at_most_once`: the effects of a request, whatever it is answered. -/

namespace MuxrCore.Grpc.Once

open MuxrCore.Lib.Program MuxrCore.Lib.Rpc MuxrCore.Lib.Slice MuxrCore.Multiplexer.Routing
open MuxrCore.Relay.Control
open MuxrCore.Grpc.Operation MuxrCore.Grpc.Handlers MuxrCore.Grpc.Service MuxrCore.Grpc.Steps
open MuxrCore.Grpc.Mediation (oneBackend someHeader letThrough somePane does_marked resolve_main)
open MuxrCore.Grpc.SpaceOps MuxrCore.Grpc.Route MuxrCore.Muxrd.Auth
open MuxrCore.Grpc.PushOps (rejectIfReadOnly)

variable {α β : Type} {svc : MuxrService} {header : Header} {rpc : Rpc} {ext : Extensions}

/-! ### Effects -/

/-- An event that does nothing to a session: a command is one once it is taken, unless it only
asks. -/
def quiet : Event Op.Answer → Bool
  | ⟨.action _ _, _⟩ => false
  | ⟨.send _ cmd, (taken : Bool)⟩ => isQuery cmd || !taken
  | _ => true

/-- What has been done to a session. -/
def effects (h : History) : History := h.filter (!quiet ·)

/-- The action that a request is for, on the session of this bare name. -/
def Rpc.action (bare : String) : Rpc → Option ActionCall
  | .writeToPane req => req.target.map fun t => .writeToPane bare (paneRef t) req.data
  | .focusPane req => some (.focusPane bare (paneRef req))
  | .closePane req => some (.closePane bare (paneRef req))
  | .newPane req => some (.newPane bare req.floating (if req.paneName.isEmpty then none
      else some req.paneName))
  | .renamePane req => req.target.map fun t => .renamePane bare (paneRef t) req.name
  | .resizePane req => req.target.map fun t =>
      .resizePane bare (paneRef t) (resizeKind req.resize) (resizeDir req.direction)
  | .togglePaneFloating req => some (.togglePaneFloating bare (paneRef req))
  | .togglePaneFullscreen req => req.target.map fun t => .togglePaneFullscreen bare (paneRef t)
  | .scrollPane req => req.target.map fun t =>
      .scrollPane bare (paneRef t) (scrollDir req.direction)
  | .newTab req => some (.newTab bare (if req.tabName.isEmpty then none else some req.tabName))
  | .closeTab req => some (.closeTab bare req.tabId)
  | .goToTab req => some (.goToTab bare req.tabId)
  | .renameTab req => some (.renameTab bare req.tabId req.name)
  | .renameSession req => some (.renameSession bare req.name)
  | .killSession _ => some (.killSession bare)
  | .createSession req => some (.createSession req.name (if req.layout.isEmpty then none
      else some req.layout))
  | .createSpace req => some (.createSpace (if req.label.isEmpty then none else some req.label))
  | .renameSpace req => some (.renameSpace req.spaceId req.label)
  | .closeSpace req => some (.closeSpace req.spaceId req.closeGroup)
  | _ => none

/-- The command that a request may be routed as. -/
def Rpc.Command : Rpc → RelayControl → Prop
  | .focusPane req, cmd => cmd = .focusPane (paneRef req)
  | .goToTab req, cmd => cmd = .switchTab req.tabId
  | .togglePaneFullscreen req, cmd => ∃ t reply, req.target = some t ∧
      cmd = .toggleFullscreen (paneRef t) (floatingHint req) (some reply)
  | .switchSpace req, cmd => ∃ reply, cmd = .switchSpace req.spaceId reply
  | _, _ => False

/-- The backend owns the request's session and is asked for what the request is for; or it is the
one that a session is to be created on. -/
def Stands (svc : MuxrService) (rpc : Rpc) (kind : BackendKind) (call : ActionCall) : Prop :=
  ∃ bare, Rpc.action bare rpc = some call ∧
    (Owns svc rpc kind bare ∨ ∃ req, rpc = .createSession req ∧ createBackend svc req = .ok kind)

/-- The effects that a request may have had. -/
inductive Effects (svc : MuxrService) (rpc : Rpc) : History → Prop
  | none : Effects svc rpc []
  | acted {kind : BackendKind} {call : ActionCall} {answer : Blocking BackendError _}
      (h : Stands svc rpc kind call) : Effects svc rpc [⟨.action kind call, answer⟩]
  | routed {tx : ChannelId} {cmd : RelayControl} (h : Rpc.Command rpc cmd) :
      Effects svc rpc [⟨.send tx cmd, true⟩]
  | repointed {req : CloseSpaceReq} {kind : BackendKind} {call : ActionCall}
      {answer : Blocking BackendError _} {tx : ChannelId} {target : String} {reply : ReplyId}
      (hreq : rpc = .closeSpace req) (h : Stands svc rpc kind call) :
      Effects svc rpc [⟨.action kind call, answer⟩, ⟨.send tx (.switchSpace target reply), true⟩]

/-! ### Steps -/

/-- An operation that does nothing to a session. -/
def idle : Op → Bool
  | .action _ _ => false
  | .send _ cmd => isQuery cmd
  | _ => true

/-- Whatever the handler performs next, and whatever the answer, the effects are those that the
request may have; and `L` are those that it has had. -/
def Keeps (svc : MuxrService) (rpc : Rpc) (L : History) (x : Handle α) : Prop :=
  ∀ h, effects h = L → Handler.Meets (fun h op => ∀ a, Effects svc rpc (effects (h ++ [⟨op, a⟩])))
    (fun _ _ => True) h x

/-- A part of a handler that does nothing to a session. -/
def Idle (x : Handle α) : Prop :=
  ∀ h, Handler.Meets (fun h' op => idle op = true ∧ effects h' = effects h)
    (fun h' _ => effects h' = effects h) h x

theorem effects_append (h es : History) : effects (h ++ es) = effects h ++ effects es :=
  List.filter_append h es

theorem effects_idle {op : Op} (hop : idle op = true) (h : History) (a : op.Answer) :
    effects (h ++ [⟨op, a⟩]) = effects h := by
  have hquiet : quiet ⟨op, a⟩ = true := by
    cases op with
    | action => cases hop
    | send tx cmd => exact Bool.or_eq_true_iff.mpr (Or.inl hop)
    | _ => rfl
  rw [effects_append, effects, effects, List.filter_singleton, hquiet]
  exact List.append_nil _

theorem idle_pure {a : α} : Idle (pure a : Handle α) := fun _ => rfl

theorem idle_throw {e : Fault} : Idle (throw e : Handle α) := fun _ => rfl

theorem idle_ensure {r : Except Status α} : Idle (ensure r) := fun _ => rfl

theorem idle_perform {op : Op} (hop : idle op = true) : Idle (perform op) :=
  fun h => ⟨⟨hop, rfl⟩, fun a => effects_idle hop h a⟩

theorem idle_bind {x : Handle α} {f : α → Handle β} (hx : Idle x) (hf : ∀ a, Idle (f a)) :
    Idle (x >>= f) := by
  refine fun h => Handler.meets_bind.mpr ((hx h).mono (fun _ _ hop => hop) fun h' r hr => ?_)
  rcases r with e | a
  · exact hr
  · exact (hf a h').mono (fun _ _ hop => ⟨hop.1, hop.2.trans hr⟩) fun _ _ hr' => hr'.trans hr

theorem idle_log {id : String} : Idle (logConn svc id) := by
  unfold logConn
  split_ifs
  · refine idle_bind (fun h => ?_) fun _ => idle_pure
    unfold shortConn slice
    rcases takeBytes (min 8 id.utf8ByteSize) id.toList with - | cs
    · exact rfl
    · exact rfl
  · exact idle_pure

section
variable {L : History}

theorem keeps_pure {a : α} : Keeps svc rpc L (pure a : Handle α) := fun _ _ => trivial

theorem keeps_ensure {r : Except Status α} : Keeps svc rpc L (ensure r) := fun _ _ => trivial

/-- After a part that does nothing. -/
theorem Idle.then {x : Handle α} {f : α → Handle β} (hx : Idle x) (hL : Effects svc rpc L)
    (hf : ∀ a, Keeps svc rpc L (f a)) : Keeps svc rpc L (x >>= f) := by
  rintro h rfl
  refine Handler.meets_bind.mpr ((hx h).mono (fun h' op hop a => ?_) fun h' r hr => ?_)
  · rw [effects_idle hop.1 h' a, hop.2]
    exact hL
  · rcases r with e | a
    · exact trivial
    · exact hf a h' hr

theorem Idle.keeps {x : Handle α} (hx : Idle x) (hL : Effects svc rpc L) : Keeps svc rpc L x := by
  rintro h rfl
  refine (hx h).mono (fun h' op hop a => ?_) fun _ _ _ => trivial
  rw [effects_idle hop.1 h' a, hop.2]
  exact hL

/-- After a check, with what it gives. -/
theorem keeps_check {r : Except Status α} {f : α → Handle β}
    (hok : ∀ a, r = .ok a → Keeps svc rpc L (f a)) : Keeps svc rpc L (ensure r >>= f) := by
  intro h hh
  rcases r with e | a
  · exact trivial
  · exact hok a rfl h hh

/-- Before an end that does nothing, whatever has been done. -/
theorem keeps_end {x : Handle α} {f : α → Handle β} (hx : Keeps svc rpc L x)
    (hf : ∀ a L, Keeps svc rpc L (f a)) : Keeps svc rpc L (x >>= f) := by
  intro h hh
  refine Handler.meets_bind.mpr ((hx h hh).mono (fun _ _ hop => hop) fun h' r _ => ?_)
  rcases r with e | a
  · exact trivial
  · exact hf a _ h' rfl

theorem keeps_map {g : α → β} {x : Handle α} (hx : Keeps svc rpc L x) :
    Keeps svc rpc L (g <$> x) :=
  fun h hh => Handler.meets_map.mpr ((hx h hh).mono (fun _ _ hop => hop) fun _ _ _ => trivial)

/-- After the session of the request is resolved. -/
theorem keeps_resolve {id : String} {f : BackendKind × Backend × String → Handle β}
    (hid : rpc.session = some id)
    (hnext : ∀ kind b bare, Owns svc rpc kind bare → Keeps svc rpc L (f (kind, b, bare))) :
    Keeps svc rpc L (resolveSession svc id >>= f) :=
  keeps_check fun ⟨kind, b, bare⟩ hr => hnext kind b bare ⟨id, b, hid, hr⟩

/-- A backend is asked for what the request is for, before anything else has been done. -/
theorem keeps_act {kind : BackendKind} {call : ActionCall}
    {f : Blocking BackendError Herdr.Backend.ActionAck → Handle β} (hs : Stands svc rpc kind call)
    (hnext : ∀ answer, Keeps svc rpc [⟨.action kind call, answer⟩] (f answer)) :
    Keeps svc rpc [] (perform (.action kind call) >>= f) := by
  intro h hh
  have hafter : ∀ answer, effects (h ++ [⟨.action kind call, answer⟩]) =
      [⟨.action kind call, answer⟩] := fun answer => by
    rw [effects_append, hh]
    rfl
  refine Handler.meets_op_bind.mpr ⟨fun answer => ?_, fun answer => hnext answer _ (hafter answer)⟩
  rw [hafter]
  exact .acted hs

/-- A command is sent; it is an effect once it is taken. -/
theorem keeps_send {tx : ChannelId} {cmd : RelayControl} {f : Bool → Handle β}
    (hL : Effects svc rpc L) (htaken : Effects svc rpc (L ++ [⟨.send tx cmd, true⟩]))
    (hcmd : isQuery cmd = false) (hlost : Keeps svc rpc L (f false))
    (hnext : Keeps svc rpc (L ++ [⟨.send tx cmd, true⟩]) (f true)) :
    Keeps svc rpc L (perform (.send tx cmd) >>= f) := by
  rintro h rfl
  have hquiet (taken : Bool) : quiet ⟨.send tx cmd, taken⟩ = !taken := by
    simp [quiet, hcmd]
  have hfalse : effects (h ++ [⟨.send tx cmd, false⟩]) = effects h := by
    rw [effects_append, effects, effects, List.filter_singleton, hquiet]
    exact List.append_nil _
  have htrue : effects (h ++ [⟨.send tx cmd, true⟩]) = effects h ++ [⟨.send tx cmd, true⟩] := by
    rw [effects_append]
    congr 1
    rw [effects, List.filter_singleton, hquiet]
    rfl
  refine Handler.meets_op_bind.mpr ⟨fun taken => ?_, fun taken => ?_⟩
  · rcases taken with - | -
    · rw [hfalse]
      exact hL
    · rw [htrue]
      exact htaken
  · rcases taken with - | -
    · exact hlost _ hfalse
    · exact hnext _ htrue

theorem keeps_runAction {name : String} {kind : BackendKind} {call : ActionCall}
    (hs : Stands svc rpc kind call) : Keeps svc rpc [] (runAction name kind call) :=
  keeps_act hs fun _ => keeps_ensure

theorem keeps_runSpaceAction {name : String} {kind : BackendKind} {call : ActionCall}
    (hs : Stands svc rpc kind call) : Keeps svc rpc [] (runSpaceAction name kind call) :=
  keeps_act hs fun _ => keeps_ensure

end

/-! ### Routing -/

/-- How a command comes out: it is answered, or it has not been taken and nothing is. -/
def RoutedAs (svc : MuxrService) (rpc : Rpc) (h : History) (r : Except Fault (Option ProtoAck)) :
    Prop :=
  (∃ ack, r = .ok (some ack) ∧ Effects svc rpc (effects h)) ∨ (r = .ok none ∧ effects h = [])

section
variable {tx : ChannelId} {cmd : RelayControl} {h : History}

/-- What a command may do that is sent before anything else. -/
theorem effects_send (svc : MuxrService) (tx : ChannelId) (hc : Rpc.Command rpc cmd)
    (hcmd : isQuery cmd = false) (hh : effects h = []) (taken : Bool) :
    Effects svc rpc (effects (h ++ [⟨.send tx cmd, taken⟩])) ∧
      (taken = false → effects (h ++ [⟨.send tx cmd, taken⟩]) = []) := by
  rw [effects_append, hh, effects, List.filter_singleton]
  rcases taken with - | -
  · have hquiet : quiet ⟨.send tx cmd, false⟩ = true := by simp [quiet]
    rw [hquiet]
    exact ⟨.none, fun _ => rfl⟩
  · have hloud : quiet ⟨.send tx cmd, true⟩ = false := by simp [quiet, hcmd]
    rw [hloud]
    exact ⟨.routed hc, nofun⟩

theorem meets_sendOrNone {info : String} (hc : Rpc.Command rpc cmd) (hcmd : isQuery cmd = false)
    (hh : effects h = []) :
    Handler.Meets (fun h op => ∀ a, Effects svc rpc (effects (h ++ [⟨op, a⟩])))
      (RoutedAs svc rpc) h (Handlers.sendOrNone tx cmd info) := by
  have hsend := effects_send svc tx hc hcmd hh
  refine Handler.meets_op_bind.mpr ⟨fun taken => (hsend taken).1, fun (taken : Bool) => ?_⟩
  rcases taken with - | -
  · exact Or.inr ⟨rfl, (hsend false).2 rfl⟩
  · exact Or.inl ⟨_, rfl, (hsend true).1⟩

/-- A command that is routed is sent to one relay, once. -/
theorem meets_route {session connectionId : String} {readOnly : Bool} (hc : Rpc.Command rpc cmd)
    (hcmd : isQuery cmd = false) (hh : effects h = []) :
    Handler.Meets (fun h op => ∀ a, Effects svc rpc (effects (h ++ [⟨op, a⟩])))
      (RoutedAs svc rpc) h (Handlers.tryRouteControl session connectionId readOnly cmd) := by
  have hread {h : History} (hh : effects h = []) (control : ControlRegistry) :
      effects (h ++ [⟨.control, control⟩]) = [] := (effects_idle rfl h _).trans hh
  unfold Handlers.tryRouteControl
  refine Handler.meets_op_bind.mpr ⟨fun control => ?_, fun (control : ControlRegistry) => ?_⟩
  · rw [hread hh control]
    exact .none
  have hh' := hread hh control
  have hnothing : Effects svc rpc (effects (h ++ [⟨.control, control⟩])) := by
    rw [hh']
    exact .none
  rcases hx : exactMatch control session connectionId with - | tx
  · by_cases hcollapsed : isCollapsedBackendSession session = true
    · simp only [hcollapsed, if_true]
      exact Or.inl ⟨_, rfl, hnothing⟩
    by_cases hro : readOnly = true
    · simp only [hcollapsed, hro, Bool.false_eq_true, if_true, if_false]
      exact Or.inl ⟨_, rfl, hnothing⟩
    simp only [hcollapsed, hro, Bool.false_eq_true, if_false]
    refine Handler.meets_op_bind.mpr ⟨fun control' => ?_, fun (control' : ControlRegistry) => ?_⟩
    · rw [hread hh' control']
      exact .none
    rcases control'.find fun entry => entry.session = session && !entry.readOnly with - | e
    · exact Or.inr ⟨rfl, hread hh' control'⟩
    · exact meets_sendOrNone hc hcmd (hread hh' control')
  · by_cases hcollapsed : isCollapsedBackendSession session = true
    · simp only [hcollapsed, if_true]
      have hsend := effects_send svc tx hc hcmd hh'
      exact Handler.meets_op_bind.mpr ⟨fun taken => (hsend taken).1,
        fun taken => Or.inl ⟨_, rfl, (hsend taken).1⟩⟩
    · simp only [hcollapsed, Bool.false_eq_true, if_false]
      exact meets_sendOrNone hc hcmd hh'

end

/-- After a command is routed: it is acted on only if it has not been taken. -/
theorem keeps_route {session connectionId : String} {readOnly : Bool} {cmd : RelayControl}
    {f : Option ProtoAck → Handle β} (hc : Rpc.Command rpc cmd) (hcmd : isQuery cmd = false)
    (hsome : ∀ L ack, Effects svc rpc L → Keeps svc rpc L (f (some ack)))
    (hnone : Keeps svc rpc [] (f none)) :
    Keeps svc rpc [] (Handlers.tryRouteControl session connectionId readOnly cmd >>= f) := by
  intro h hh
  refine Handler.meets_bind.mpr ((meets_route hc hcmd hh).mono (fun _ _ hop => hop) ?_)
  rintro h' r (⟨ack, rfl, heffects⟩ | ⟨rfl, hnothing⟩)
  · exact hsome _ ack heffects h' rfl
  · exact hnone h' hnothing

/-! ### Panes and tabs -/

/-- After the check of the tier. -/
theorem keeps_gate {L : History} {f : Unit → Handle β} (hnext : Keeps svc rpc L (f ())) :
    Keeps svc rpc L (ensure (rejectIfReadOnly ext.sessionReadOnly) >>= f) :=
  keeps_check fun _ _ => hnext

/-- The session is owned, and the action is the one that the request is for. -/
theorem stands_of_owns {kind : BackendKind} {bare : String} {call : ActionCall}
    (hs : Owns svc rpc kind bare) (hcall : Rpc.action bare rpc = some call) :
    Stands svc rpc kind call :=
  ⟨bare, hcall, Or.inl hs⟩

theorem optionalName_eq {name kind : String} {n : Option String}
    (hn : optionalName name kind = .ok n) : n = if name.isEmpty then none else some name := by
  rcases optionalName_eq_ok hn with ⟨rfl, rfl⟩ | ⟨rfl, hd⟩
  · rfl
  · have hne : name.isEmpty = false := by
      simpa using hd.1
    rw [hne]
    rfl

theorem required_eq_ok {message : String} {o : Option α} {a : α}
    (hr : required message o = .ok a) : o = some a := by
  rcases o with - | b
  · cases hr
  · exact congrArg some (Except.ok.inj hr)

theorem keeps_writeToPane {req : WriteToPaneReq} :
    Keeps svc (.writeToPane req) [] (writeToPaneImpl svc ext req) := by
  refine keeps_gate (keeps_check fun _ _ => keeps_check fun target ht => ?_)
  have hreq := required_eq_ok ht
  refine keeps_resolve (by simp [Rpc.session, hreq]) fun kind b bare hs => ?_
  exact keeps_runAction (stands_of_owns hs (by simp [Rpc.action, hreq]))

theorem keeps_focusPane {target : PaneTarget} :
    Keeps svc (.focusPane target) [] (focusPaneImpl svc ext target) := by
  refine keeps_resolve rfl fun kind b bare hs => idle_log.then .none fun _ => ?_
  refine keeps_route rfl rfl (fun L ack hL => keeps_pure) ?_
  exact keeps_runAction (stands_of_owns hs rfl)

theorem keeps_closePane {target : PaneTarget} :
    Keeps svc (.closePane target) [] (closePaneImpl svc ext target) :=
  keeps_gate (keeps_resolve rfl fun _ _ _ hs => keeps_runAction (stands_of_owns hs rfl))

theorem keeps_newPane {req : NewPaneReq} :
    Keeps svc (.newPane req) [] (newPaneImpl svc ext req) := by
  refine keeps_gate (keeps_resolve rfl fun kind b bare hs => keeps_check fun name hn => ?_)
  exact keeps_runAction (stands_of_owns hs (by rw [optionalName_eq hn]; rfl))

theorem keeps_renamePane {req : RenamePaneReq} :
    Keeps svc (.renamePane req) [] (renamePaneImpl svc ext req) := by
  refine keeps_gate (keeps_check fun target ht => ?_)
  have hreq := required_eq_ok ht
  refine keeps_resolve (by simp [Rpc.session, hreq]) fun kind b bare hs => ?_
  refine keeps_check fun _ _ => ?_
  exact keeps_runAction (stands_of_owns hs (by simp [Rpc.action, hreq]))

theorem keeps_resizePane {req : ResizePaneReq} :
    Keeps svc (.resizePane req) [] (resizePaneImpl svc ext req) := by
  refine keeps_gate (keeps_check fun target ht => ?_)
  have hreq := required_eq_ok ht
  refine keeps_resolve (by simp [Rpc.session, hreq]) fun kind b bare hs => ?_
  exact keeps_runAction (stands_of_owns hs (by simp [Rpc.action, hreq]))

theorem keeps_togglePaneFloating {target : PaneTarget} :
    Keeps svc (.togglePaneFloating target) [] (togglePaneFloatingImpl svc ext target) :=
  keeps_gate (keeps_resolve rfl fun _ _ _ hs => keeps_runAction (stands_of_owns hs rfl))

theorem keeps_togglePaneFullscreen {req : ToggleFullscreenReq} :
    Keeps svc (.togglePaneFullscreen req) [] (togglePaneFullscreenImpl svc ext req) := by
  refine keeps_gate (keeps_check fun target ht => ?_)
  have hreq := required_eq_ok ht
  refine keeps_resolve (by simp [Rpc.session, hreq]) fun kind b bare hs => ?_
  refine idle_log.then .none fun _ => (idle_perform rfl).then .none fun reply => ?_
  refine keeps_route ⟨target, reply, hreq, rfl⟩ rfl (fun L ack hL => ?_) ?_
  · show Keeps _ _ _ (if ack.ok = true then _ else _)
    split_ifs
    · exact (idle_perform rfl).then hL fun _ => keeps_pure
    · exact keeps_pure
  · exact keeps_runAction (stands_of_owns hs (by simp [Rpc.action, hreq]))

theorem keeps_scrollPane {req : ScrollReq} :
    Keeps svc (.scrollPane req) [] (scrollPaneImpl svc req) := by
  refine keeps_check fun target ht => ?_
  have hreq := required_eq_ok ht
  refine keeps_resolve (by simp [Rpc.session, hreq]) fun kind b bare hs => ?_
  exact keeps_runAction (stands_of_owns hs (by simp [Rpc.action, hreq]))

theorem keeps_newTab {req : NewTabReq} :
    Keeps svc (.newTab req) [] (newTabImpl svc ext req) := by
  refine keeps_gate (keeps_resolve rfl fun kind b bare hs => keeps_check fun name hn => ?_)
  exact keeps_runAction (stands_of_owns hs (by rw [optionalName_eq hn]; rfl))

theorem keeps_closeTab {req : TabTarget} :
    Keeps svc (.closeTab req) [] (closeTabImpl svc ext req) :=
  keeps_gate (keeps_resolve rfl fun _ _ _ hs => keeps_runAction (stands_of_owns hs rfl))

theorem keeps_goToTab {req : TabTarget} :
    Keeps svc (.goToTab req) [] (goToTabImpl svc ext req) := by
  refine keeps_resolve rfl fun kind b bare hs => idle_log.then .none fun _ => ?_
  refine keeps_route rfl rfl (fun L ack hL => keeps_pure) ?_
  exact keeps_runAction (stands_of_owns hs rfl)

theorem keeps_renameTab {req : RenameTabReq} :
    Keeps svc (.renameTab req) [] (renameTabImpl svc ext req) :=
  keeps_gate (keeps_resolve rfl fun _ _ _ hs => keeps_check fun _ _ =>
    keeps_runAction (stands_of_owns hs rfl))

/-! ### Sessions and spaces -/

theorem keeps_renameSession {req : RenameSessionReq} :
    Keeps svc (.renameSession req) [] (renameSessionImpl svc ext req) :=
  keeps_gate (keeps_resolve rfl fun _ _ _ hs => keeps_check fun _ _ =>
    keeps_runAction (stands_of_owns hs rfl))

theorem keeps_killSession {req : Layout.SessionRef} :
    Keeps svc (.killSession req) [] (killSessionImpl svc ext req) :=
  keeps_gate (keeps_check fun _ _ => keeps_resolve rfl fun _ _ _ hs =>
    keeps_runAction (stands_of_owns hs rfl))

theorem keeps_createSession {req : CreateSessionReq} :
    Keeps svc (.createSession req) [] (createSessionImpl svc ext req) := by
  refine keeps_gate (keeps_check fun kind hk => keeps_check fun _ _ =>
    keeps_check fun layout hl => keeps_runAction ⟨"", ?_, Or.inr ⟨req, rfl, hk⟩⟩)
  have hlayout : layout = if req.layout.isEmpty then none else some req.layout := by
    unfold createLayout at hl
    split_ifs at hl ⊢
    · exact (Except.ok.inj hl).symm
    · rcases hv : validateLayoutName svc.env req.layout with e | ⟨⟩
      · rw [hv] at hl
        cases hl
      · rw [hv] at hl
        exact (Except.ok.inj hl).symm
  rw [hlayout]
  rfl

theorem keeps_createSpace {req : CreateSpaceReq} :
    Keeps svc (.createSpace req) [] (createSpaceImpl svc ext req) := by
  refine keeps_gate (keeps_resolve rfl fun kind b bare hs => keeps_check fun label hl =>
    keeps_runSpaceAction (stands_of_owns hs ?_))
  have hlabel : label = if req.label.isEmpty then none else some req.label := by
    unfold optionalLabel at hl
    split_ifs at hl ⊢
    · exact (Except.ok.inj hl).symm
    · rcases hv : validateSpaceLabel req.label with e | ⟨⟩
      · rw [hv] at hl
        cases hl
      · rw [hv] at hl
        exact (Except.ok.inj hl).symm
  rw [hlabel]
  rfl

theorem keeps_renameSpace {req : RenameSpaceReq} :
    Keeps svc (.renameSpace req) [] (renameSpaceImpl svc ext req) :=
  keeps_gate (keeps_resolve rfl fun _ _ _ hs => keeps_check fun _ _ => keeps_check fun _ _ =>
    keeps_runSpaceAction (stands_of_owns hs rfl))

theorem keeps_switchSpace {req : SwitchSpaceReq} :
    Keeps svc (.switchSpace req) [] (switchSpaceImpl svc req) := by
  refine keeps_check fun _ _ => keeps_resolve rfl fun kind b bare hs => ?_
  refine idle_log.then .none fun _ => (idle_perform rfl).then .none fun control => ?_
  rcases Repoint.resolveSpaceRelay control req.session req.connectionId with - | tx
  · exact idle_log.then .none fun _ => keeps_pure
  refine (idle_perform rfl).then .none fun reply => ?_
  have hrouted : Effects svc (.switchSpace req) [⟨.send tx (.switchSpace req.spaceId reply), true⟩] :=
    .routed ⟨reply, rfl⟩
  refine keeps_send .none hrouted rfl keeps_pure ?_
  exact (idle_perform rfl).then hrouted fun _ => keeps_pure

/-- The caller's relay is switched after a close. -/
theorem keeps_repointCaller {req : CloseSpaceReq} {kind : BackendKind} {call : ActionCall}
    {answer : Blocking BackendError Herdr.Backend.ActionAck} {target : Option String}
    (hs : Stands svc (.closeSpace req) kind call) :
    Keeps svc (.closeSpace req) [⟨.action kind call, answer⟩]
      (repointCaller req.session req.connectionId target) := by
  refine (idle_perform rfl).then (.acted hs) fun control => ?_
  rcases Repoint.resolveSpaceRelay control req.session req.connectionId with - | tx
  · exact keeps_pure
  rcases target with - | target
  · exact keeps_pure
  refine (idle_perform rfl).then (.acted hs) fun reply => ?_
  refine keeps_send (.acted hs) (.repointed rfl hs) rfl keeps_pure ?_
  exact (idle_perform rfl).then (.repointed rfl hs) fun _ => keeps_pure

/-- The close comes first, and the caller's relay is switched once it is done. -/
theorem keeps_closeSpace {req : CloseSpaceReq} :
    Keeps svc (.closeSpace req) [] (closeSpaceImpl svc ext req) := by
  refine keeps_gate (keeps_resolve rfl fun kind b bare hs => keeps_check fun _ _ => ?_)
  refine (idle_perform rfl).then .none fun counted => keeps_check fun spaces _ => ?_
  have hremovals : Idle (removalsOf kind req) := by
    unfold removalsOf
    split_ifs
    · exact idle_bind (idle_perform rfl) fun _ => idle_ensure
    · exact idle_pure
  refine hremovals.then .none fun removals => ?_
  rcases closeRefusal req.closeGroup spaces.length removals with - | error
  swap
  · exact keeps_pure
  have hstands : Stands svc (.closeSpace req) kind (.closeSpace req.spaceId req.closeGroup) :=
    stands_of_owns hs rfl
  refine keeps_act hstands fun answer => keeps_check fun ack _ => ?_
  show Keeps _ _ _ (if ack.ok = true then _ else _)
  split_ifs
  swap
  · exact keeps_pure
  have hlist : Idle (listSpacesAfterClose kind bare) :=
    idle_bind (idle_perform rfl) fun _ => idle_pure
  refine hlist.then (.acted hstands) fun remaining => ?_
  refine (idle_perform rfl).then (.acted hstands) fun viewState => ?_
  dsimp only
  split_ifs
  · exact keeps_end (keeps_repointCaller hstands) fun _ _ => keeps_pure
  · exact keeps_pure

/-! ### Requests that only read -/

theorem idle_spaceScopedLayout {req : Layout.SessionRef} {kind : BackendKind} {backend : Backend}
    {bare : String} : Idle (spaceScopedLayout req kind backend bare) := by
  refine idle_bind idle_ensure fun _ => idle_bind idle_ensure fun _ => ?_
  refine idle_bind (idle_bind (idle_perform rfl) fun answer => ?_) fun snapshot => ?_
  · rcases answer with e | e | snapshot
    · exact idle_throw
    · exact idle_throw
    · exact idle_pure
  refine idle_bind (idle_perform rfl) fun viewState => ?_
  split_ifs
  · exact idle_bind (idle_perform rfl) fun _ => idle_pure
  · exact idle_pure

/-- A relay is only asked for its layout. -/
theorem idle_relayLayout {req : Layout.SessionRef} : Idle (relayLayout req) := by
  have hfor : Idle (relayFor req) := by
    refine idle_bind (idle_perform rfl) fun control => ?_
    split
    · exact idle_pure
    · exact idle_bind (idle_perform rfl) fun _ => idle_pure
  refine idle_bind hfor fun found => ?_
  rcases found with - | ⟨connId, sender⟩
  · exact idle_pure
  refine idle_bind (idle_perform rfl) fun reply => idle_bind (idle_perform rfl) fun sent => ?_
  split_ifs
  · exact idle_bind (idle_perform rfl) fun _ => idle_pure
  · exact idle_pure

theorem idle_getLayout {req : Layout.SessionRef} : Idle (getLayoutImpl svc req) := by
  refine idle_bind idle_ensure fun ⟨kind, backend, bare⟩ => idle_bind idle_log fun _ => ?_
  dsimp only
  split_ifs
  · exact idle_spaceScopedLayout
  refine idle_bind idle_relayLayout fun answered => ?_
  rcases answered with - | ⟨snapshot, connId⟩
  · refine idle_bind (idle_bind (idle_perform rfl) fun _ => idle_ensure) fun _ => ?_
    exact idle_bind idle_log fun _ => idle_pure
  · dsimp only
    split_ifs
    · refine idle_bind (idle_perform rfl) fun _ => idle_bind idle_pure fun _ => ?_
      exact idle_bind idle_log fun _ => idle_pure
    · refine idle_bind idle_pure fun _ => ?_
      exact idle_bind idle_log fun _ => idle_pure

theorem idle_getSpaces {req : Layout.SessionRef} : Idle (getSpacesImpl svc req) := by
  refine idle_bind idle_ensure fun ⟨kind, backend, bare⟩ => idle_bind idle_log fun _ => ?_
  refine idle_bind (idle_perform rfl) fun _ => idle_bind idle_ensure fun _ => ?_
  exact idle_bind (idle_perform rfl) fun _ => idle_pure

theorem idle_listAgents {req : Layout.SessionRef} : Idle (listAgentsImpl svc req) :=
  idle_bind idle_ensure fun ⟨_, _, _⟩ => idle_bind (idle_perform rfl) fun _ =>
    idle_bind idle_ensure fun _ => idle_pure

theorem idle_watchAgents {req : Layout.SessionRef} : Idle (watchAgentsImpl svc ext req) := by
  refine idle_bind idle_ensure fun ⟨kind, backend, bare⟩ => ?_
  have hrest (subscribed : Bool) : Idle (do
      let answer ← perform (.timedRead kind (.listAgents bare))
      let snapshots ← ensure (agentsAnswer "WatchAgents" answer)
      let _ ← perform (.openWatch req.session ext.sessionToken subscribed)
      return AgentOps.buildAgentList snapshots) :=
    idle_bind (idle_perform rfl) fun _ => idle_bind idle_ensure fun _ =>
      idle_bind (idle_perform rfl) fun _ => idle_pure
  dsimp only
  split_ifs
  · exact idle_bind (idle_perform rfl) fun _ => hrest _
  · exact hrest _

theorem idle_listEach {kind : BackendKind} {names : List String} {out : Summaries} :
    Idle (listEach kind names out) := by
  induction names generalizing out with
  | nil => exact idle_pure
  | cons name rest ih =>
    refine idle_bind (idle_perform rfl) fun answer => ?_
    rcases answer with e | e | agents
    · exact idle_pure
    · exact ih
    · exact ih

theorem idle_queryBackend {kind : BackendKind} {backend : Backend} :
    Idle (queryBackend kind backend) := by
  have hsummaries (sessions : List (String × ℕ × Bool)) :
      Idle (sessionAgentSummaries kind sessions) := by
    unfold sessionAgentSummaries
    split
    · exact idle_pure
    · exact idle_bind idle_listEach fun _ => idle_bind (idle_perform rfl) fun _ => idle_pure
  refine idle_bind (idle_perform rfl) fun answer => ?_
  rcases answer with - | e | e | sessions
  · exact idle_pure
  · exact idle_pure
  · exact idle_pure
  dsimp only
  split_ifs
  · exact idle_bind (hsummaries sessions) fun _ => idle_pure
  · exact idle_bind idle_pure fun _ => idle_pure

theorem idle_queryBackends {backends : List (BackendKind × Backend)} :
    Idle (queryBackends backends) := by
  induction backends with
  | nil => exact idle_pure
  | cons b rest ih => exact idle_bind idle_queryBackend fun _ => idle_bind ih fun _ => idle_pure

theorem idle_sessionRows {kind : BackendKind} {spaces : ℕ} {sessions : List (String × ℕ × Bool)}
    {agents : Summaries} : Idle (sessionRows kind spaces sessions agents) := by
  induction sessions generalizing agents with
  | nil => exact idle_pure
  | cons s rest ih => exact idle_bind (idle_perform rfl) fun _ => idle_bind ih fun _ => idle_pure

theorem idle_mergeSessions
    {results : List (BackendKind × Option (List (String × ℕ × Bool)) × Summaries)} :
    Idle (mergeSessions results) := by
  have hcount (kind : BackendKind) : Idle (spaceCount kind) := by
    cases kind with
    | zellij => exact idle_pure
    | herdr =>
      refine idle_bind (idle_perform rfl) fun answer => ?_
      rcases answer with - | e | e | spaces <;> exact idle_pure
  induction results with
  | nil => exact idle_pure
  | cons r rest ih =>
    obtain ⟨kind, - | sessions, agents⟩ := r
    · exact ih
    · exact idle_bind (hcount kind) fun _ => idle_bind idle_sessionRows fun _ =>
        idle_bind ih fun _ => idle_pure

/-! ### Tokens and devices -/

theorem idle_handlePrefix {handle : String} : Idle (handlePrefix handle) := by
  intro h
  unfold handlePrefix slice
  rcases takeBytes (min 8 handle.utf8ByteSize) handle.toList with - | cs
  · exact rfl
  · exact rfl

theorem idle_pushTargets {devices : List Notify.Devices.PushDevice} :
    Idle (pushTargets devices) := by
  induction devices with
  | nil => exact idle_pure
  | cons d rest ih => exact idle_bind idle_handlePrefix fun _ => idle_bind ih fun _ => idle_pure

theorem idle_registerPushTarget {req : PushOps.RegisterPushTargetReq} :
    Idle (registerPushTargetImpl svc ext req) := by
  refine idle_bind idle_ensure fun _ => idle_bind (idle_perform rfl) fun registeredAt => ?_
  have hrest : Idle (do
      let answer : Blocking String Unit ← perform (.upsertDevice (req.device registeredAt))
      ensure (devicesAnswer "RegisterPushTarget" "persist device" answer)
      return (⟨true, "", ""⟩ : ProtoAck)) :=
    idle_bind (idle_perform rfl) fun _ => idle_bind idle_ensure fun _ => idle_pure
  dsimp only
  split_ifs
  · exact idle_bind idle_handlePrefix fun _ => hrest
  · exact hrest

theorem keeps_idle {x : Handle α} (hx : Idle x) : Keeps svc rpc [] x := hx.keeps .none

/-- **Every handler**: it has had no effect when it starts. -/
theorem keeps_dispatch : Keeps svc rpc [] (dispatch svc ext rpc) := by
  cases rpc with
  | getVersion => exact keeps_pure
  | login => exact keeps_map (keeps_idle (idle_bind (idle_perform rfl) fun _ => idle_ensure))
  | attachTerminal =>
    exact keeps_map (keeps_idle (idle_bind (idle_perform rfl) fun _ => idle_ensure))
  | listSessions =>
    exact keeps_map (keeps_idle (idle_bind idle_queryBackends fun _ => idle_mergeSessions))
  | getLayout => exact keeps_map (keeps_idle idle_getLayout)
  | writeToPane => exact keeps_map keeps_writeToPane
  | focusPane => exact keeps_map keeps_focusPane
  | closePane => exact keeps_map keeps_closePane
  | newPane => exact keeps_map keeps_newPane
  | renamePane => exact keeps_map keeps_renamePane
  | resizePane => exact keeps_map keeps_resizePane
  | togglePaneFloating => exact keeps_map keeps_togglePaneFloating
  | togglePaneFullscreen => exact keeps_map keeps_togglePaneFullscreen
  | newTab => exact keeps_map keeps_newTab
  | closeTab => exact keeps_map keeps_closeTab
  | goToTab => exact keeps_map keeps_goToTab
  | renameTab => exact keeps_map keeps_renameTab
  | scrollPane => exact keeps_map keeps_scrollPane
  | renameSession => exact keeps_map keeps_renameSession
  | killSession => exact keeps_map keeps_killSession
  | createSession => exact keeps_map keeps_createSession
  | getSpaces => exact keeps_map (keeps_idle idle_getSpaces)
  | switchSpace => exact keeps_map keeps_switchSpace
  | createSpace => exact keeps_map keeps_createSpace
  | renameSpace => exact keeps_map keeps_renameSpace
  | closeSpace => exact keeps_map keeps_closeSpace
  | listAgents => exact keeps_map (keeps_idle idle_listAgents)
  | watchAgents => exact keeps_map (keeps_idle idle_watchAgents)
  | createToken =>
    exact keeps_map (keeps_idle (idle_bind idle_ensure fun _ => idle_bind (idle_perform rfl)
      fun _ => idle_bind idle_ensure fun _ => idle_pure))
  | listTokens =>
    exact keeps_map (keeps_idle (idle_bind idle_ensure fun _ => idle_bind (idle_perform rfl)
      fun _ => idle_bind idle_ensure fun _ => idle_pure))
  | revokeToken =>
    exact keeps_map (keeps_idle (idle_bind idle_ensure fun _ => idle_bind idle_ensure fun _ =>
      idle_bind (idle_perform rfl) fun _ => idle_bind idle_ensure fun _ => idle_pure))
  | registerPushTarget => exact keeps_map (keeps_idle idle_registerPushTarget)
  | listPushTargets =>
    exact keeps_map (keeps_idle (idle_bind idle_ensure fun _ => idle_bind (idle_perform rfl)
      fun _ => idle_bind idle_ensure fun _ => idle_pushTargets))
  | removePushTarget =>
    exact keeps_map (keeps_idle (idle_bind idle_ensure fun _ => idle_bind (idle_perform rfl)
      fun _ => idle_bind idle_ensure fun _ => idle_pure))

/-- The layer only asks about the token. -/
theorem idle_bearerAuth {path : String} : Idle (bearerAuth path header) := by
  unfold bearerAuth
  split_ifs
  · exact idle_pure
  refine idle_bind ?_ fun ⟨_, _⟩ => idle_pure
  refine idle_bind idle_ensure fun token => idle_bind (idle_perform rfl) fun valid => ?_
  exact idle_bind idle_ensure fun _ => idle_bind (idle_perform rfl) fun _ => idle_pure

theorem keeps_serve : Keeps svc rpc [] (serve svc header rpc) :=
  idle_bearerAuth.then .none fun _ => keeps_dispatch

/-- Whatever a request performs next, and whatever the answer. -/
theorem effects_next {es : History} {op : Op}
    (hd : Prog.Does (serve svc header rpc).run es (.performs op)) (a : op.Answer) :
    Effects svc rpc (effects (es ++ [⟨op, a⟩])) := by
  have hkeeps : Keeps svc rpc [] (serve svc header rpc) := keeps_serve
  exact Prog.meets_iff.mp (hkeeps [] rfl) es _ hd a

/-- **A request takes effect at most once**, and as what it is for: whatever it is answered, a
backend has been asked for its action, or a relay has taken its command, or neither; never both, and
never twice. Only a close may have switched the caller's relay as well. -/
theorem at_most_once {es : History} {s : Stage Op _}
    (hd : Prog.Does (serve svc header rpc).run es s) : Effects svc rpc (effects es) := by
  rcases List.eq_nil_or_concat es with rfl | ⟨before, e, rfl⟩
  · exact .none
  · rw [List.concat_eq_append] at hd ⊢
    exact effects_next hd.performs_of_append e.answer

/-- No effect comes before an action. -/
theorem Effects.action_first {L : History} {kind : BackendKind} {call : ActionCall}
    {answer : Blocking BackendError Herdr.Backend.ActionAck}
    (h : Effects svc rpc (L ++ [⟨.action kind call, answer⟩])) :
    L = [] ∧ Stands svc rpc kind call := by
  rcases L with - | ⟨e, - | ⟨e', L⟩⟩
  · cases h with
    | acted hs => exact ⟨rfl, hs⟩
  · cases h
  · have hlong : ∀ M, Effects svc rpc M → M.length ≤ 2 := by
      rintro M (- | - | - | -) <;> simp
    have hlen := hlong _ h
    simp only [List.cons_append, List.length_cons, List.length_append, List.length_nil] at hlen
    omega

/-- A backend is asked to act before anything else is done, and for what the request is for. -/
theorem acts_first {es : History} {kind : BackendKind} {call : ActionCall}
    (hd : Prog.Does (serve svc header rpc).run es (.performs (.action kind call))) :
    effects es = [] ∧ Stands svc rpc kind call := by
  have hnext : Effects svc rpc (effects (es ++ [⟨.action kind call, .error ""⟩])) :=
    effects_next hd (.error "")
  rw [effects_append] at hnext
  exact hnext.action_first

/-- A pane is closed. -/
def closed : Event Op.Answer :=
  ⟨.action .zellij (.closePane "main" ⟨3, false⟩),
    (.ok (.ok ⟨true, none, none⟩) : Blocking BackendError Herdr.Backend.ActionAck)⟩

theorem at_most_once_closePane : Effects oneBackend (.closePane somePane) [closed] := by
  have hd : Prog.Does (serve oneBackend someHeader (.closePane somePane)).run
      (letThrough ++ [closed]) (.done (.ok (.ack ⟨true, "", ""⟩))) := by
    refine does_marked (by simp [publicPaths, Rpc.path, Rpc.name]) ?_
    dsimp only [dispatch, closePaneImpl, resolveSession, somePane]
    rw [resolve_main]
    exact .answered _ (.done _)
  exact at_most_once hd

end MuxrCore.Grpc.Once
