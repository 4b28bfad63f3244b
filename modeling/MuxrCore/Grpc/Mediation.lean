import MuxrCore.Grpc.Steps

/-! # No request does more than its caller may

What every request does next is `Allowed`, whatever it has been answered so far. The handlers are
taken one by one, along the steps of each.

* `serve_allowed`: every operation of every request is allowed.
* `tiered`, `confined`, `on_target`: who, whose relay, and which backend. -/

namespace MuxrCore.Grpc.Mediation

open MuxrCore.Lib.Program MuxrCore.Lib.Rpc MuxrCore.Lib.Slice MuxrCore.Multiplexer.Routing
open MuxrCore.Relay.Control
open MuxrCore.Grpc.Operation MuxrCore.Grpc.Handlers MuxrCore.Grpc.Service MuxrCore.Grpc.Route
open MuxrCore.Grpc.Steps MuxrCore.Grpc.SpaceOps MuxrCore.Muxrd.Auth
open MuxrCore.Grpc.PushOps (rejectIfReadOnly)
open MuxrCore.Multiplexer.Layout (LayoutSnapshot)

variable {β : Type} {svc : MuxrService} {header : Header} {rpc : Rpc} {h : History}
  {ext : Extensions}

/-! ### Routing -/

/-- A relay that is the caller's own. -/
theorem confined_own {control : ControlRegistry} {session connectionId : String} {tx : ChannelId}
    {cmd : RelayControl} (hcontrol : (⟨.control, control⟩ : Event Op.Answer) ∈ h)
    (hsession : rpc.session = some session) (hid : rpc.connectionId = connectionId)
    (hx : exactMatch control session connectionId = some tx) : Confined header rpc h tx cmd := by
  obtain ⟨hne, e, he, hes, htx⟩ := exactMatch_eq_some.mp hx
  exact ⟨control, connectionId, e, hcontrol, he, htx, by rw [hsession, hes],
    Or.inl ⟨hid.symm, hne⟩⟩

theorem meets_sendOrNone {tx : ChannelId} {cmd : RelayControl} {info : String}
    {Q : History → Except Fault (Option ProtoAck) → Prop}
    (hs : Allowed svc header rpc h (.send tx cmd)) (hQ : ∀ es a, Q (h ++ es) (.ok a)) :
    Handler.Meets (Allowed svc header rpc) Q h (Handlers.sendOrNone tx cmd info) :=
  Handler.meets_op_bind.mpr ⟨hs, fun _ => hQ _ _⟩

/-- **A routed command goes to a relay that may get it**, whatever the registry holds. -/
theorem meets_route {session connectionId : String} {cmd : RelayControl}
    {Q : History → Except Fault (Option ProtoAck) → Prop} (hm : Marked header h ext)
    (hsession : rpc.session = some session) (hid : rpc.connectionId = connectionId)
    (hcmd : ∀ es, Proven header (h ++ es) (commandTier cmd))
    (hQ : ∀ es a, Q (h ++ es) (.ok a)) :
    Handler.Meets (Allowed svc header rpc) Q h
      (Handlers.tryRouteControl session connectionId (sessionIsReadOnly ext) cmd) := by
  unfold Handlers.tryRouteControl
  refine Handler.meets_op_bind.mpr
    ⟨allowed_plain hm.viewer rfl, fun (control : ControlRegistry) => ?_⟩
  have hQ' : ∀ es es' a, Q ((h ++ es) ++ es') (.ok a) := fun es es' a => by
    rw [List.append_assoc]
    exact hQ _ a
  have hread : (⟨.control, control⟩ : Event Op.Answer) ∈
      h ++ [(⟨.control, control⟩ : Event Op.Answer)] := by simp
  rcases hx : exactMatch control session connectionId with - | tx
  · by_cases hc : isCollapsedBackendSession session = true
    · simp only [hc, if_true]
      exact hQ _ _
    by_cases hro : sessionIsReadOnly ext = true
    · simp only [hc, hro, Bool.false_eq_true, if_true, if_false]
      exact hQ _ _
    simp only [hc, hro, Bool.false_eq_true, if_false]
    refine Handler.meets_op_bind.mpr ⟨allowed_plain (hm.append _).viewer rfl, ?_⟩
    intro (control : ControlRegistry)
    rcases hf : control.find fun entry => entry.session = session && !entry.readOnly with - | e
    · exact hQ' _ _ _
    · -- the fallback, for a writer and a session that is not shared by all
      obtain ⟨hp, k, hk⟩ := control.get_of_find hf
      simp only [Bool.and_eq_true, decide_eq_true_eq, Bool.not_eq_eq_eq_not,
        Bool.not_true] at hp
      rw [List.append_assoc]
      refine meets_sendOrNone (allowed_send (hcmd _) ?_) fun es a => by
        rw [List.append_assoc]
        exact hQ _ a
      refine ⟨control, k, e, by simp, hk, rfl, by rw [hsession, hp.1], Or.inr (Or.inr
        ⟨hp.2, by rw [hp.1]; simpa using hc, ?_⟩)⟩
      exact (hm.append _).writer_of_not (by simpa using hro)
  · have hown : Confined header rpc (h ++ [(⟨.control, control⟩ : Event Op.Answer)]) tx cmd :=
      confined_own hread hsession hid hx
    by_cases hc : isCollapsedBackendSession session = true
    · simp only [hc, if_true]
      exact Handler.meets_op_bind.mpr ⟨allowed_send (hcmd _) hown, fun _ => hQ' _ _ _⟩
    · simp only [hc, Bool.false_eq_true, if_false]
      exact meets_sendOrNone (allowed_send (hcmd _) hown) (hQ' _)

/-! ### Panes -/

theorem required_eq_ok {message : String} {o : Option α} {a : α}
    (hr : required message o = .ok a) : o = some a := by
  rcases o with - | b
  · cases hr
  · exact congrArg some (Except.ok.inj hr)

/-- After the session of the request is resolved. -/
theorem mediated_resolve {id : String} {f : BackendKind × Backend × String → Handle β}
    (hnext : ∀ kind b bare, resolveSessionKind svc.env svc.backends id = .ok (kind, b, bare) →
      Mediated svc header rpc h (f (kind, b, bare))) :
    Mediated svc header rpc h (resolveSession svc id >>= f) :=
  mediated_check fun ⟨kind, b, bare⟩ hr => hnext kind b bare hr

theorem mediated_writeToPane {req : WriteToPaneReq} (hm : Marked header h ext) :
    Mediated svc header (.writeToPane req) h (writeToPaneImpl svc ext req) := by
  refine mediated_gate fun hro => mediated_check fun _ hsize => mediated_check fun target ht =>
    mediated_resolve fun kind b session hr => mediated_runAction (hm.writer hro) ?_
  refine onTarget_of_resolve ?_ hr (by simp [ActionCall.session]) ?_
  · simp [Rpc.session, required_eq_ok ht]
  · unfold validatePayload at hsize
    split_ifs at hsize with hlen
    exact not_lt.mp hlen

theorem mediated_focusPane {target : PaneTarget} (hm : Marked header h ext) :
    Mediated svc header (.focusPane target) h (focusPaneImpl svc ext target) := by
  refine mediated_resolve fun kind b session hr => mediated_log (fun hlogs hcut _ =>
    ⟨hlogs, target.session, target.connectionId, rfl, hcut, _, hr⟩) ?_
  refine Handler.meets_bind.mpr (meets_route hm rfl rfl (fun es => (hm.append es).viewer) ?_)
  rintro es (- | ack)
  · exact mediated_runAction (hm.append es).viewer
      (onTarget_of_resolve rfl hr (by simp [ActionCall.session]) trivial)
  · exact mediated_pure

theorem mediated_closePane {target : PaneTarget} (hm : Marked header h ext) :
    Mediated svc header (.closePane target) h (closePaneImpl svc ext target) :=
  mediated_gate fun hro => mediated_resolve fun _ _ _ hr => mediated_runAction (hm.writer hro)
    (onTarget_of_resolve rfl hr (by simp [ActionCall.session]) trivial)

theorem mediated_newPane {req : NewPaneReq} (hm : Marked header h ext) :
    Mediated svc header (.newPane req) h (newPaneImpl svc ext req) := by
  refine mediated_gate fun hro => mediated_resolve fun _ _ _ hr => mediated_check fun name hn =>
    mediated_runAction (hm.writer hro) ?_
  refine onTarget_of_resolve rfl hr (by simp [ActionCall.session]) ?_
  rintro n rfl
  exact displayable_of_optionalName hn

theorem mediated_renamePane {req : RenamePaneReq} (hm : Marked header h ext) :
    Mediated svc header (.renamePane req) h (renamePaneImpl svc ext req) := by
  refine mediated_gate fun hro => mediated_check fun target ht => mediated_resolve fun _ _ _ hr =>
    mediated_check fun name hn => mediated_runAction (hm.writer hro) ?_
  refine onTarget_of_resolve (by simp [Rpc.session, required_eq_ok ht]) hr
    (by simp [ActionCall.session]) ?_
  exact (optionalName_eq_ok hn).imp And.right And.right

theorem mediated_resizePane {req : ResizePaneReq} (hm : Marked header h ext) :
    Mediated svc header (.resizePane req) h (resizePaneImpl svc ext req) :=
  mediated_gate fun hro => mediated_check fun _ ht => mediated_resolve fun _ _ _ hr =>
    mediated_runAction (hm.writer hro) (onTarget_of_resolve
      (by simp [Rpc.session, required_eq_ok ht]) hr (by simp [ActionCall.session]) trivial)

theorem mediated_togglePaneFloating {target : PaneTarget} (hm : Marked header h ext) :
    Mediated svc header (.togglePaneFloating target) h (togglePaneFloatingImpl svc ext target) :=
  mediated_gate fun hro => mediated_resolve fun _ _ _ hr => mediated_runAction (hm.writer hro)
    (onTarget_of_resolve rfl hr (by simp [ActionCall.session]) trivial)

theorem mediated_togglePaneFullscreen {req : ToggleFullscreenReq} (hm : Marked header h ext) :
    Mediated svc header (.togglePaneFullscreen req) h (togglePaneFullscreenImpl svc ext req) := by
  refine mediated_gate fun hro => mediated_check fun target ht =>
    mediated_resolve fun kind b session hr => ?_
  have hreq : req.target = some target := required_eq_ok ht
  refine mediated_log (fun hlogs hcut _ => ⟨hlogs, target.session, target.connectionId,
    by simp [Rpc.logged, hreq], hcut, _, hr⟩) ?_
  refine mediated_perform (allowed_plain hm.viewer rfl) fun reply => ?_
  have hm' := hm.append [⟨.oneshot, reply⟩]
  refine Handler.meets_bind.mpr (meets_route hm' (by simp [Rpc.session, hreq])
    (by simp [Rpc.connectionId, hreq]) (fun es => (hm'.append es).writer hro) ?_)
  rintro es (- | ack)
  · exact mediated_runAction ((hm'.append es).writer hro) (onTarget_of_resolve
      (by simp [Rpc.session, hreq]) hr (by simp [ActionCall.session]) trivial)
  · show Mediated _ _ _ _ (if ack.ok = true then _ else _)
    split_ifs
    · exact mediated_perform (allowed_plain (hm'.append es).viewer rfl) fun _ => mediated_pure
    · exact mediated_pure

theorem mediated_scrollPane {req : ScrollReq} (hm : Marked header h ext) :
    Mediated svc header (.scrollPane req) h (scrollPaneImpl svc req) :=
  mediated_check fun _ ht => mediated_resolve fun _ _ _ hr =>
    mediated_runAction hm.viewer (onTarget_of_resolve
      (by simp [Rpc.session, required_eq_ok ht]) hr (by simp [ActionCall.session]) trivial)

/-! ### Tabs -/

theorem mediated_newTab {req : NewTabReq} (hm : Marked header h ext) :
    Mediated svc header (.newTab req) h (newTabImpl svc ext req) := by
  refine mediated_gate fun hro => mediated_resolve fun _ _ _ hr => mediated_check fun name hn =>
    mediated_runAction (hm.writer hro) ?_
  refine onTarget_of_resolve rfl hr (by simp [ActionCall.session]) ?_
  rintro n rfl
  exact displayable_of_optionalName hn

theorem mediated_closeTab {req : TabTarget} (hm : Marked header h ext) :
    Mediated svc header (.closeTab req) h (closeTabImpl svc ext req) :=
  mediated_gate fun hro => mediated_resolve fun _ _ _ hr => mediated_runAction (hm.writer hro)
    (onTarget_of_resolve rfl hr (by simp [ActionCall.session]) trivial)

theorem mediated_goToTab {req : TabTarget} (hm : Marked header h ext) :
    Mediated svc header (.goToTab req) h (goToTabImpl svc ext req) := by
  refine mediated_resolve fun kind b session hr => mediated_log (fun hlogs hcut _ =>
    ⟨hlogs, req.session, req.connectionId, rfl, hcut, _, hr⟩) ?_
  refine Handler.meets_bind.mpr (meets_route hm rfl rfl (fun es => (hm.append es).viewer) ?_)
  rintro es (- | ack)
  · exact mediated_runAction (hm.append es).viewer
      (onTarget_of_resolve rfl hr (by simp [ActionCall.session]) trivial)
  · exact mediated_pure

theorem mediated_renameTab {req : RenameTabReq} (hm : Marked header h ext) :
    Mediated svc header (.renameTab req) h (renameTabImpl svc ext req) :=
  mediated_gate fun hro => mediated_resolve fun _ _ _ hr => mediated_check fun _ hn =>
    mediated_runAction (hm.writer hro) (onTarget_of_resolve rfl hr
      (by simp [ActionCall.session]) (displayable_of_validate hn))

/-! ### Sessions -/

/-- A read of the listing of all sessions. -/
theorem passes_listRead {op : Op} {kind : BackendKind} {call : ReadCall} (hm : Marked header h ext)
    (hop : op = .read kind call ∨ op = .timedRead kind call) :
    Passes svc header .listSessions h (perform op) :=
  passes_perform (allowed_read hm.viewer hop (Or.inl rfl))

theorem passes_listEach {kind : BackendKind} {names : List String} {out : Summaries}
    (hm : Marked header h ext) : Passes svc header .listSessions h (listEach kind names out) := by
  induction names generalizing h out with
  | nil => exact passes_pure
  | cons name rest ih =>
    refine passes_bind (passes_listRead hm (Or.inl rfl)) fun es answer => ?_
    rcases answer with e | e | agents
    · exact passes_pure
    · exact ih (hm.append es)
    · exact ih (hm.append es)

theorem passes_sessionAgentSummaries {kind : BackendKind} {sessions : List (String × ℕ × Bool)}
    (hm : Marked header h ext) :
    Passes svc header .listSessions h (sessionAgentSummaries kind sessions) := by
  unfold sessionAgentSummaries
  split
  · exact passes_pure
  · refine passes_bind (passes_listEach hm) fun es _ => ?_
    exact passes_bind (passes_perform (allowed_plain (hm.append es).viewer rfl)) fun _ _ =>
      passes_pure

theorem passes_queryBackend {kind : BackendKind} {backend : Backend} (hm : Marked header h ext) :
    Passes svc header .listSessions h (queryBackend kind backend) := by
  refine passes_bind (passes_listRead hm (Or.inr rfl)) fun es answer => ?_
  rcases answer with - | e | e | sessions
  · exact passes_pure
  · exact passes_pure
  · exact passes_pure
  dsimp only
  split_ifs
  · exact passes_bind (passes_sessionAgentSummaries (hm.append es)) fun _ _ => passes_pure
  · exact passes_bind passes_pure fun _ _ => passes_pure

theorem passes_queryBackends {backends : List (BackendKind × Backend)}
    (hm : Marked header h ext) : Passes svc header .listSessions h (queryBackends backends) := by
  induction backends generalizing h with
  | nil => exact passes_pure
  | cons b rest ih =>
    refine passes_bind (passes_queryBackend hm) fun es _ => ?_
    exact passes_bind (ih (hm.append es)) fun _ _ => passes_pure

theorem passes_spaceCount {kind : BackendKind} (hm : Marked header h ext) :
    Passes svc header .listSessions h (spaceCount kind) := by
  cases kind with
  | zellij => exact passes_pure
  | herdr =>
    refine passes_bind (passes_listRead hm (Or.inr rfl)) fun _ answer => ?_
    rcases answer with - | e | e | spaces <;> exact passes_pure

theorem passes_sessionRows {kind : BackendKind} {spaces : ℕ}
    {sessions : List (String × ℕ × Bool)} {agents : Summaries} (hm : Marked header h ext) :
    Passes svc header .listSessions h (sessionRows kind spaces sessions agents) := by
  induction sessions generalizing h agents with
  | nil => exact passes_pure
  | cons s rest ih =>
    refine passes_bind (passes_perform (allowed_plain hm.viewer rfl)) fun es _ => ?_
    exact passes_bind (ih (hm.append es)) fun _ _ => passes_pure

theorem passes_mergeSessions
    {results : List (BackendKind × Option (List (String × ℕ × Bool)) × Summaries)}
    (hm : Marked header h ext) : Passes svc header .listSessions h (mergeSessions results) := by
  induction results generalizing h with
  | nil => exact passes_pure
  | cons r rest ih =>
    obtain ⟨kind, - | sessions, agents⟩ := r
    · exact ih hm
    · refine passes_bind (passes_spaceCount hm) fun es _ => ?_
      refine passes_bind (passes_sessionRows (hm.append es)) fun es' _ => ?_
      exact passes_bind (ih ((hm.append es).append es')) fun _ _ => passes_pure

theorem mediated_listSessions (hm : Marked header h ext) :
    Mediated svc header .listSessions h (listSessionsImpl svc) := by
  refine (passes_queryBackends hm).then fun es _ => ?_
  exact (passes_mergeSessions (hm.append es)).mediated

theorem mediated_attachTerminal (hm : Marked header h ext) :
    Mediated svc header .attachTerminal h (attachTerminalImpl ext) := by
  obtain ⟨token, ht, hv, -⟩ := hm.valid
  refine mediated_perform ?_ fun _ => mediated_ensure
  refine ⟨?_, nofun, nofun, by simp, ?_⟩
  · show Proven header h (if sessionIsReadOnly ext = true then _ else _)
    split_ifs with hro
    · exact hm.viewer
    · exact hm.writer_of_not (by simpa using hro)
  · rintro readOnly t he
    obtain ⟨-, rfl⟩ := Op.attachRelay.inj he
    exact ⟨token, ht, hv⟩

theorem mediated_renameSession {req : RenameSessionReq} (hm : Marked header h ext) :
    Mediated svc header (.renameSession req) h (renameSessionImpl svc ext req) :=
  mediated_gate fun hro => mediated_resolve fun _ _ _ hr => mediated_check fun _ hn =>
    mediated_runAction (hm.writer hro) (onTarget_of_resolve rfl hr
      (by simp [ActionCall.session]) (bareName_of_validateSession hn))

theorem mediated_killSession {req : Layout.SessionRef} (hm : Marked header h ext) :
    Mediated svc header (.killSession req) h (killSessionImpl svc ext req) :=
  mediated_gate fun hro => mediated_check fun _ _ => mediated_resolve fun _ _ _ hr =>
    mediated_runAction (hm.writer hro)
      (onTarget_of_resolve rfl hr (by simp [ActionCall.session]) trivial)

theorem mediated_createSession {req : CreateSessionReq} (hm : Marked header h ext) :
    Mediated svc header (.createSession req) h (createSessionImpl svc ext req) := by
  refine mediated_gate fun hro => mediated_check fun kind hk => mediated_check fun _ hn =>
    mediated_check fun layout hl => mediated_runAction (hm.writer hro)
      ⟨⟨bareName_of_validateSession hn, ?_⟩, Or.inr ⟨req, rfl, hk, rfl⟩⟩
  rintro l rfl
  unfold createLayout at hl
  by_cases hempty : req.layout.isEmpty
  · simp [hempty] at hl
  rw [if_neg hempty] at hl
  rcases hv : validateLayoutName svc.env req.layout with e | ⟨⟩
  · simp [hv, Except.map] at hl
  · simp only [hv, Except.map, Except.ok.injEq, Option.some.injEq] at hl
    exact hl ▸ bareName_of_validateLayoutName hv

/-! ### Spaces -/

theorem mediated_getSpaces {req : Layout.SessionRef} (hm : Marked header h ext) :
    Mediated svc header (.getSpaces req) h (getSpacesImpl svc req) := by
  refine mediated_resolve fun kind b bare hr => mediated_log (fun hlogs hcut _ =>
    ⟨hlogs, req.session, req.connectionId, rfl, hcut, _, hr⟩) ?_
  refine mediated_perform (allowed_read hm.viewer (Or.inl rfl)
    (readOnTarget_of_resolve rfl hr (by simp [ReadCall.session]))) fun _ => ?_
  refine mediated_check fun _ _ =>
    mediated_perform (allowed_plain (hm.append _).viewer rfl) fun _ => ?_
  exact mediated_pure

theorem mediated_switchSpace {req : SwitchSpaceReq} (hm : Marked header h ext) :
    Mediated svc header (.switchSpace req) h (switchSpaceImpl svc req) := by
  refine mediated_check fun u hid => mediated_resolve fun kind b bare hr => ?_
  have hlogged : Rpc.logged (.switchSpace req) = some (req.session, req.connectionId) := by
    simp [Rpc.logged, hid, Except.isOk, Except.toBool]
  have hlog : ∀ h' : History, svc.logsInfo = true → Cut 8 req.connectionId → Sound h' →
      LogsCut svc (.switchSpace req) :=
    fun _ hlogs hcut _ => ⟨hlogs, req.session, req.connectionId, hlogged, hcut, _, hr⟩
  refine mediated_log (hlog _) ?_
  refine mediated_perform (allowed_plain hm.viewer rfl) fun (control : ControlRegistry) => ?_
  rcases hx : Repoint.resolveSpaceRelay control req.session req.connectionId with - | tx
  · exact mediated_log (hlog _) mediated_pure
  have hm' := hm.append [⟨.control, control⟩]
  refine mediated_perform (allowed_plain hm'.viewer rfl) fun reply => ?_
  have hm'' := hm'.append [⟨.oneshot, reply⟩]
  refine mediated_perform (allowed_send hm''.viewer
    (confined_own (by simp) rfl rfl hx)) fun (sent : Bool) => ?_
  rcases sent with - | -
  · exact mediated_pure
  · exact mediated_perform (allowed_plain (hm''.append _).viewer rfl) fun _ => mediated_pure

theorem mediated_createSpace {req : CreateSpaceReq} (hm : Marked header h ext) :
    Mediated svc header (.createSpace req) h (createSpaceImpl svc ext req) := by
  refine mediated_gate fun hro => mediated_resolve fun _ _ _ hr => mediated_check fun label hl =>
    mediated_runSpaceAction (hm.writer hro)
      (onTarget_of_resolve rfl hr (by simp [ActionCall.session]) ?_)
  rintro l rfl
  unfold optionalLabel at hl
  by_cases hempty : req.label.isEmpty
  · simp [hempty] at hl
  rw [if_neg hempty] at hl
  rcases hv : validateSpaceLabel req.label with e | ⟨⟩
  · simp [hv, Except.map] at hl
  · simp only [hv, Except.map, Except.ok.injEq, Option.some.injEq] at hl
    exact hl ▸ label_of_validate hv

theorem mediated_renameSpace {req : RenameSpaceReq} (hm : Marked header h ext) :
    Mediated svc header (.renameSpace req) h (renameSpaceImpl svc ext req) :=
  mediated_gate fun hro => mediated_resolve fun _ _ _ hr => mediated_check fun _ hid =>
    mediated_check fun _ hl => mediated_runSpaceAction (hm.writer hro)
      (onTarget_of_resolve rfl hr (by simp [ActionCall.session])
        ⟨spaceId_of_validate hid, label_of_validate hl⟩)

/-- The caller's relay alone is switched. -/
theorem passes_repointCaller {session connectionId : String} {target : Option String}
    (hm : Marked header h ext) (hsession : rpc.session = some session)
    (hid : rpc.connectionId = connectionId) :
    Passes svc header rpc h (repointCaller session connectionId target) := by
  refine passes_answer (allowed_plain hm.viewer rfl) fun (control : ControlRegistry) => ?_
  rcases hx : Repoint.resolveSpaceRelay control session connectionId with - | tx
  · exact passes_pure
  rcases target with - | target
  · exact passes_pure
  have hm' := hm.append [⟨.control, control⟩]
  refine passes_answer (allowed_plain hm'.viewer rfl) fun reply => ?_
  have hm'' := hm'.append [⟨.oneshot, reply⟩]
  refine passes_answer (allowed_send hm''.viewer
    (confined_own (by simp) hsession hid hx)) fun (sent : Bool) => ?_
  rcases sent with - | -
  · exact passes_pure
  · exact passes_bind (passes_perform (allowed_plain (hm''.append _).viewer rfl)) fun _ _ =>
      passes_pure

theorem passes_removalsOf {req : CloseSpaceReq} {kind : BackendKind} {b : Backend} {bare : String}
    (hm : Marked header h ext)
    (hr : resolveSessionKind svc.env svc.backends req.session = .ok (kind, b, bare)) :
    Passes svc header (.closeSpace req) h (removalsOf kind req) := by
  unfold removalsOf
  split_ifs
  · exact passes_bind (passes_perform (allowed_read hm.viewer (Or.inl rfl)
      (readOnTarget_of_resolve rfl hr (by simp [ReadCall.session])))) fun _ _ => passes_ensure
  · exact passes_pure

theorem mediated_closeSpace {req : CloseSpaceReq} (hm : Marked header h ext) :
    Mediated svc header (.closeSpace req) h (closeSpaceImpl svc ext req) := by
  refine mediated_gate fun hro => mediated_resolve fun kind b bare hr =>
    mediated_check fun _ hid => ?_
  have hlist : ∀ h' : History, Marked header h' ext →
      Allowed svc header (.closeSpace req) h' (.read kind (.listSpaces bare)) := fun _ hm' =>
    allowed_read hm'.viewer (Or.inl rfl)
      (readOnTarget_of_resolve rfl hr (by simp [ReadCall.session]))
  refine mediated_perform (hlist _ hm) fun counted => mediated_check fun spaces _ => ?_
  have hm' := hm.append [⟨.read kind (.listSpaces bare), counted⟩]
  refine (passes_removalsOf hm' hr).then fun es removals => ?_
  have hm'' := hm'.append es
  rcases closeRefusal req.closeGroup spaces.length removals with - | error
  swap
  · exact mediated_pure
  refine mediated_perform (allowed_action (hm''.writer hro) (onTarget_of_resolve rfl hr
    (by simp [ActionCall.session]) (spaceId_of_validate hid))) fun answer => ?_
  have hm3 := hm''.append [⟨.action kind (.closeSpace req.spaceId req.closeGroup), answer⟩]
  refine mediated_check fun ack _ => ?_
  show Mediated _ _ _ _ (if ack.ok = true then _ else _)
  split_ifs
  swap
  · exact mediated_pure
  refine Passes.then (passes_bind (passes_perform (hlist _ hm3)) fun _ _ => passes_pure)
    fun es' remaining => ?_
  have hm4 := hm3.append es'
  refine mediated_perform (allowed_plain hm4.viewer rfl) fun viewState => ?_
  dsimp only
  split_ifs
  · exact (passes_repointCaller (hm4.append _) rfl rfl).then fun _ _ => mediated_pure
  · exact mediated_pure

/-! ### Layouts and agents -/

/-- The relay has been found in the registry under this id, for the session. -/
def Found (h : History) (session connId : String) (tx : ChannelId) : Prop :=
  ∃ control e, (⟨.control, control⟩ : Event Op.Answer) ∈ h ∧
    ControlRegistry.get control connId = some e ∧ e.sender = tx ∧ e.session = session

theorem found_of_sessionRelay {control : ControlRegistry} {session connId : String}
    {tx : ChannelId} (hcontrol : (⟨.control, control⟩ : Event Op.Answer) ∈ h)
    (hs : sessionRelay control session = some (connId, tx)) : Found h session connId tx := by
  obtain ⟨kv, hkv, he⟩ := Option.map_eq_some_iff.mp hs
  cases he
  have hsession := List.find?_some hkv
  exact ⟨control, kv.2, hcontrol, AList.mem_lookup_iff.mpr (List.mem_of_find?_eq_some hkv), rfl,
    by simpa using hsession⟩

/-- A layout is asked of a relay of the session. -/
theorem meets_relayFor {req : Layout.SessionRef}
    {Q : History → Except Fault (Option (String × ChannelId)) → Prop} (hm : Marked header h ext)
    (hQ : ∀ es r, (∀ connId tx, r = some (connId, tx) → Found (h ++ es) req.session connId tx) →
      Q (h ++ es) (.ok r)) :
    Handler.Meets (Allowed svc header (.getLayout req)) Q h (relayFor req) := by
  refine Handler.meets_op_bind.mpr
    ⟨allowed_plain hm.viewer rfl, fun (control : ControlRegistry) => ?_⟩
  rcases hx : exactMatch control req.session req.connectionId with - | tx
  · refine Handler.meets_op_bind.mpr ⟨allowed_plain (hm.append _).viewer rfl,
      fun (control : ControlRegistry) => ?_⟩
    rw [List.append_assoc]
    exact hQ _ _ fun connId tx hr => found_of_sessionRelay (by simp) hr
  · refine hQ _ _ ?_
    rintro connId tx' ⟨⟩
    obtain ⟨-, e, he, hes, htx⟩ := exactMatch_eq_some.mp hx
    exact ⟨control, e, by simp, he, htx, hes⟩

theorem passes_spaceScopedLayout {req : Layout.SessionRef} {kind : BackendKind} {b : Backend}
    {bare : String} (hm : Marked header h ext)
    (hr : resolveSessionKind svc.env svc.backends req.session = .ok (kind, b, bare)) :
    Passes svc header (.getLayout req) h (spaceScopedLayout req kind b bare) := by
  refine passes_bind passes_ensure fun es _ => passes_bind passes_ensure fun es' _ => ?_
  have hm' := (hm.append es).append es'
  refine passes_bind (passes_answer (allowed_read hm'.viewer (Or.inl rfl)
    (readOnTarget_of_resolve rfl hr (by simp [ReadCall.session]))) fun answer => ?_)
    fun es'' snapshot => ?_
  · rcases answer with e | e | snapshot
    · exact passes_status
    · exact passes_status
    · exact passes_pure
  have hm'' := hm'.append es''
  refine passes_answer (allowed_plain hm''.viewer rfl) fun viewState => ?_
  split_ifs
  · exact passes_answer (allowed_plain (hm''.append _).viewer rfl) fun _ => passes_pure
  · exact passes_pure

/-- What a relay is asked, and which relay answered. -/
theorem meets_relayLayout {req : Layout.SessionRef}
    {Q : History → Except Fault (Option (LayoutSnapshot × String)) → Prop}
    (hm : Marked header h ext)
    (hQ : ∀ es r, (∀ snapshot connId, r = some (snapshot, connId) →
      ∃ tx, Found (h ++ es) req.session connId tx) → Q (h ++ es) (.ok r)) :
    Handler.Meets (Allowed svc header (.getLayout req)) Q h (relayLayout req) := by
  refine Handler.meets_bind.mpr (meets_relayFor hm fun es r hfound => ?_)
  rcases r with - | ⟨connId, tx⟩
  · exact hQ es none nofun
  have hf := hfound connId tx rfl
  obtain ⟨control, e, hcontrol, he, htx, hsession⟩ := hf
  have hm' := hm.append es
  refine Handler.meets_op_bind.mpr ⟨allowed_plain hm'.viewer rfl, fun reply => ?_⟩
  have hsend : Confined header (.getLayout req) ((h ++ es) ++ [⟨.oneshot, reply⟩]) tx
      (.queryLayout reply) :=
    ⟨control, connId, e, List.mem_append_left _ hcontrol, he, htx, by rw [hsession]; rfl,
      Or.inr (Or.inl rfl)⟩
  have hm'' := hm'.append [⟨.oneshot, reply⟩]
  refine Handler.meets_op_bind.mpr ⟨allowed_send hm''.viewer hsend, fun (sent : Bool) => ?_⟩
  have hv := (hm''.append [⟨.send tx (.queryLayout reply), sent⟩]).viewer
  rw [List.append_assoc, List.append_assoc] at hv ⊢
  rcases sent with - | -
  · exact hQ _ none nofun
  refine Handler.meets_op_bind.mpr ⟨allowed_plain hv rfl, fun (snapshot : Option _) => ?_⟩
  rw [List.append_assoc]
  refine hQ _ _ fun snapshot' connId' hs => ?_
  obtain ⟨_, -, hpair⟩ := Option.map_eq_some_iff.mp hs
  obtain ⟨-, rfl⟩ := Prod.mk.inj hpair
  refine ⟨tx, control, e, ?_, he, htx, hsession⟩
  rw [← List.append_assoc, ← List.append_assoc]
  exact List.mem_append_left _ (List.mem_append_left _ hcontrol)

theorem mediated_getLayout {req : Layout.SessionRef} (hm : Marked header h ext) :
    Mediated svc header (.getLayout req) h (getLayoutImpl svc req) := by
  refine mediated_resolve fun kind b bare hr => mediated_log (fun hlogs hcut _ =>
    ⟨hlogs, req.session, req.connectionId, rfl, hcut, _, hr⟩) ?_
  dsimp only
  split_ifs
  · exact (passes_spaceScopedLayout hm hr).mediated
  refine Handler.meets_bind.mpr (meets_relayLayout hm fun es r hfound => ?_)
  have hm' := hm.append es
  rcases r with - | ⟨snapshot, relayConnId⟩
  · refine Passes.then (passes_bind (passes_perform (allowed_read hm'.viewer (Or.inl rfl)
      (readOnTarget_of_resolve rfl hr (by simp [ReadCall.session])))) fun _ _ => passes_ensure)
      fun es' _ => ?_
    refine mediated_log (fun _ hcut _ => absurd hcut (not_cut_of_bytes (by simp))) mediated_pure
  · obtain ⟨tx, control, e, hcontrol, he, -⟩ := hfound snapshot relayConnId rfl
    -- the id is one of the registry's
    have hlog : ∀ es', Sound ((h ++ es) ++ es') → ¬ Cut 8 relayConnId := fun es' hs =>
      hs.1 control (List.mem_append_left es' hcontrol) relayConnId e he
    dsimp only
    split_ifs
    · refine mediated_perform (allowed_plain hm'.viewer rfl) fun viewState => ?_
      exact mediated_log (fun _ hcut hs => absurd hcut (hlog _ hs)) mediated_pure
    · refine mediated_log (fun _ hcut hs => absurd hcut (hlog [] ?_)) mediated_pure
      rwa [List.append_nil]

theorem mediated_listAgents {req : Layout.SessionRef} (hm : Marked header h ext) :
    Mediated svc header (.listAgents req) h (listAgentsImpl svc req) :=
  mediated_resolve fun _ _ _ hr => mediated_perform (allowed_read hm.viewer (Or.inr rfl)
    (readOnTarget_of_resolve rfl hr (by simp [ReadCall.session]))) fun _ =>
    mediated_check fun _ _ => mediated_pure

theorem mediated_watchAgents {req : Layout.SessionRef} (hm : Marked header h ext) :
    Mediated svc header (.watchAgents req) h (watchAgentsImpl svc ext req) := by
  refine mediated_resolve fun kind b bare hr => ?_
  have hrest : ∀ (h' : History) (subscribed : Bool), Marked header h' ext →
      Mediated svc header (.watchAgents req) h' (do
        let answer ← perform (.timedRead kind (.listAgents bare))
        let snapshots ← ensure (agentsAnswer "WatchAgents" answer)
        let _ ← perform (.openWatch req.session ext.sessionToken subscribed)
        return AgentOps.buildAgentList snapshots) := fun h' subscribed hm' =>
    mediated_perform (allowed_read hm'.viewer (Or.inr rfl)
      (readOnTarget_of_resolve rfl hr (by simp [ReadCall.session]))) fun _ =>
      mediated_check fun _ _ => mediated_perform (allowed_plain (hm'.append _).viewer rfl) fun _ =>
        mediated_pure
  dsimp only
  split_ifs
  · exact mediated_perform (allowed_plain hm.viewer rfl) fun _ => hrest _ _ (hm.append _)
  · exact hrest _ _ hm

/-! ### Tokens and devices -/

theorem mediated_createToken {req : CreateTokenReq} (hm : Marked header h ext) :
    Mediated svc header (.createToken req) h (createTokenImpl ext req) :=
  mediated_gate fun hro => mediated_perform (allowed_plain (hm.writer hro) rfl) fun _ =>
    mediated_check fun _ _ => mediated_pure

theorem mediated_listTokens (hm : Marked header h ext) :
    Mediated svc header .listTokens h (listTokensImpl ext) :=
  mediated_gate fun hro => mediated_perform (allowed_plain (hm.writer hro) rfl) fun _ =>
    mediated_check fun _ _ => mediated_pure

theorem mediated_revokeToken {name : String} (hm : Marked header h ext) :
    Mediated svc header (.revokeToken name) h (revokeTokenImpl ext name) :=
  mediated_gate fun hro => mediated_check fun _ _ =>
    mediated_perform (allowed_plain (hm.writer hro) rfl) fun _ => mediated_check fun _ _ =>
      mediated_pure

/-- A handle is registered by a writer, and is hexadecimal. -/
theorem admitRegister_eq_ok {push : PushOps.MuxrService} {readOnly : Option Bool}
    {req : PushOps.RegisterPushTargetReq} (hok : PushOps.admitRegister push readOnly req = .ok ()) :
    readOnly = some false ∧ ¬ Cut 8 req.pushHandle := by
  unfold PushOps.admitRegister at hok
  obtain ⟨⟨⟩, hro, hok⟩ := bind_eq_ok.mp hok
  have hro := rejectIfReadOnly_eq_ok hro
  refine ⟨hro, ?_⟩
  by_cases hrelay : push.notifyRelayUrl.isNone = true
  · rw [if_pos hrelay] at hok
    cases hok
  by_cases hherdr : (!push.herdr) = true
  · rw [if_neg hrelay, if_pos hherdr] at hok
    cases hok
  rw [if_neg hrelay, if_neg hherdr] at hok
  obtain ⟨⟨⟩, hhandle, -⟩ := bind_eq_ok.mp hok
  apply not_cut_of_bytes
  rcases hv : Notify.Devices.validatePushHandle req.pushHandle with e | ⟨⟩
  · rw [hv] at hhandle
    cases hhandle
  unfold Notify.Devices.validatePushHandle at hv
  split_ifs at hv with hlen hhex
  simp only [Bool.not_eq_true', Bool.not_eq_false, List.all_eq_true, Bool.or_eq_true,
    Bool.and_eq_true, decide_eq_true_eq] at hhex
  intro c hc
  apply Char.utf8Size_eq_one_iff.mpr
  rcases hhex c hc with hdigit | ⟨-, hle⟩
  · simp only [Char.isDigit, Bool.and_eq_true, decide_eq_true_eq] at hdigit
    exact UInt32.le_trans hdigit.2 (by decide)
  · exact UInt32.le_trans (Char.le_def.mp hle) (by decide)

/-- The start of a handle is shown. -/
theorem mediated_handlePrefix {handle : String} {f : String → Handle β}
    (hcut : Sound h → ¬ Cut 8 handle) (hnext : ∀ shown, Mediated svc header rpc h (f shown)) :
    Mediated svc header rpc h (handlePrefix handle >>= f) := by
  refine Handler.meets_bind.mpr ?_
  unfold handlePrefix slice
  rcases ht : takeBytes (min 8 handle.utf8ByteSize) handle.toList with - | cs
  · exact fun hs _ => absurd (takeBytes_min_eq_none_iff.mp ht) (hcut hs)
  · exact hnext _

theorem mediated_registerPushTarget {req : PushOps.RegisterPushTargetReq}
    (hm : Marked header h ext) :
    Mediated svc header (.registerPushTarget req) h (registerPushTargetImpl svc ext req) := by
  refine mediated_check fun _ hok => ?_
  obtain ⟨hro, hbytes⟩ := admitRegister_eq_ok hok
  refine mediated_perform (allowed_plain (hm.writer hro) rfl) fun registeredAt => ?_
  have hrest : Mediated svc header (.registerPushTarget req) (h ++ [⟨.nowEpoch, registeredAt⟩])
      (do
        let answer : Blocking String Unit ← perform (.upsertDevice (req.device registeredAt))
        ensure (devicesAnswer "RegisterPushTarget" "persist device" answer)
        return (⟨true, "", ""⟩ : ProtoAck)) :=
    mediated_perform (allowed_plain ((hm.append _).writer hro) rfl) fun _ =>
      mediated_check fun _ _ => mediated_pure
  split_ifs
  · exact mediated_handlePrefix (fun _ => hbytes) fun _ => hrest
  · exact hrest

theorem mediated_pushTargets {devices : List Notify.Devices.PushDevice}
    (hcut : Sound h → ∀ d ∈ devices, ¬ Cut 8 d.pushHandle) :
    Mediated svc header rpc h (pushTargets devices) := by
  induction devices with
  | nil => exact mediated_pure
  | cons d rest ih =>
    have hrest := ih fun hs d' hd => hcut hs d' (List.mem_cons_of_mem d hd)
    refine mediated_handlePrefix (fun hs => hcut hs d List.mem_cons_self) fun shown => ?_
    refine Handler.meets_bind.mpr (hrest.mono (fun _ _ hop => hop) fun h' r hr => ?_)
    rcases r with e | listed
    · exact fun hs he => hr hs (by cases he; rfl)
    · exact mediated_pure

theorem mediated_listPushTargets (hm : Marked header h ext) :
    Mediated svc header .listPushTargets h (listPushTargetsImpl ext) := by
  refine mediated_gate fun hro => mediated_perform (allowed_plain (hm.writer hro) rfl)
    fun (answer : Blocking String (List Notify.Devices.PushDevice)) => ?_
  refine mediated_check fun listed hl => mediated_pushTargets fun hs => ?_
  rcases answer with e | e | devices
  · cases hl
  · cases hl
  · obtain rfl : devices = listed := Except.ok.inj hl
    exact hs.2 devices (List.mem_append_right h (List.mem_singleton_self _))

theorem mediated_removePushTarget {name : String} (hm : Marked header h ext) :
    Mediated svc header (.removePushTarget name) h (removePushTargetImpl ext name) := by
  refine mediated_check fun _ hok => ?_
  unfold PushOps.admitRemove at hok
  obtain ⟨⟨⟩, hro, -⟩ := bind_eq_ok.mp hok
  exact mediated_perform (allowed_plain (hm.writer (rejectIfReadOnly_eq_ok hro)) rfl) fun _ =>
    mediated_check fun _ _ => mediated_pure

/-! ### The layer -/

/-- A request that needs no token has no handler that touches a session. -/
theorem mediated_public (hpath : rpc.path ∈ publicPaths) :
    Mediated svc header rpc h (dispatch svc ⟨none, none⟩ rpc) := by
  cases rpc with
  | getVersion => exact mediated_pure
  | login req =>
    exact mediated_map (mediated_perform (allowed_plain trivial rfl) fun _ => mediated_ensure)
  | _ => exact absurd hpath (by simp [publicPaths, Rpc.path, Rpc.name])

theorem mediated_dispatch (hpath : rpc.path ∉ publicPaths) (hm : Marked header h ext) :
    Mediated svc header rpc h (dispatch svc ext rpc) := by
  cases rpc with
  | getVersion => exact absurd (by simp [publicPaths, Rpc.path, Rpc.name]) hpath
  | login req => exact absurd (by simp [publicPaths, Rpc.path, Rpc.name]) hpath
  | attachTerminal => exact mediated_map (mediated_attachTerminal hm)
  | listSessions => exact mediated_map (mediated_listSessions hm)
  | getLayout req => exact mediated_map (mediated_getLayout hm)
  | writeToPane req => exact mediated_map (mediated_writeToPane hm)
  | focusPane req => exact mediated_map (mediated_focusPane hm)
  | closePane req => exact mediated_map (mediated_closePane hm)
  | newPane req => exact mediated_map (mediated_newPane hm)
  | renamePane req => exact mediated_map (mediated_renamePane hm)
  | resizePane req => exact mediated_map (mediated_resizePane hm)
  | togglePaneFloating req => exact mediated_map (mediated_togglePaneFloating hm)
  | togglePaneFullscreen req => exact mediated_map (mediated_togglePaneFullscreen hm)
  | newTab req => exact mediated_map (mediated_newTab hm)
  | closeTab req => exact mediated_map (mediated_closeTab hm)
  | goToTab req => exact mediated_map (mediated_goToTab hm)
  | renameTab req => exact mediated_map (mediated_renameTab hm)
  | scrollPane req => exact mediated_map (mediated_scrollPane hm)
  | renameSession req => exact mediated_map (mediated_renameSession hm)
  | killSession req => exact mediated_map (mediated_killSession hm)
  | createSession req => exact mediated_map (mediated_createSession hm)
  | getSpaces req => exact mediated_map (mediated_getSpaces hm)
  | switchSpace req => exact mediated_map (mediated_switchSpace hm)
  | createSpace req => exact mediated_map (mediated_createSpace hm)
  | renameSpace req => exact mediated_map (mediated_renameSpace hm)
  | closeSpace req => exact mediated_map (mediated_closeSpace hm)
  | listAgents req => exact mediated_map (mediated_listAgents hm)
  | watchAgents req => exact mediated_map (mediated_watchAgents hm)
  | createToken req => exact mediated_map (mediated_createToken hm)
  | listTokens => exact mediated_map (mediated_listTokens hm)
  | revokeToken name => exact mediated_map (mediated_revokeToken hm)
  | registerPushTarget req => exact mediated_map (mediated_registerPushTarget hm)
  | listPushTargets => exact mediated_map (mediated_listPushTargets hm)
  | removePushTarget name => exact mediated_map (mediated_removePushTarget hm)

/-- The marks are those of the header's token, as the database has answered of it. -/
theorem meets_checkBearer {Q : History → Except Fault (Bool × String) → Prop}
    (hQ : ∀ es readOnly token, Marked header (h ++ es) ⟨some readOnly, some token⟩ →
      Q (h ++ es) (.ok (readOnly, token)))
    (hstatus : ∀ es s, Q (h ++ es) (.error (.status s))) :
    Handler.Meets (Allowed svc header rpc) Q h (checkBearer header) := by
  have hhere : ∀ s, Q h (.error (.status s)) := fun s => by simpa using hstatus [] s
  unfold checkBearer
  rcases ht : bearerToken header with e | token
  · exact hhere e
  obtain ⟨hcarried, hnonempty⟩ := bearerToken_eq_ok ht
  refine Handler.meets_op_bind.mpr
    ⟨allowed_plain trivial rfl, fun (valid : Except String Bool) => ?_⟩
  rcases valid with e | - | -
  · exact hstatus _ _
  · exact hstatus _ _
  refine Handler.meets_op_bind.mpr
    ⟨allowed_plain trivial rfl, fun (readOnly : Except String Bool) => ?_⟩
  rw [List.append_assoc]
  refine hQ _ (tier readOnly) token ⟨⟨token, rfl, ⟨hcarried, hnonempty, by simp⟩, ?_⟩, nofun⟩
  intro hro
  rcases readOnly with e | readOnly
  · cases hro
  · obtain rfl : readOnly = false := Option.some.inj hro
    exact List.mem_append_right h (by simp)

/-- **Whatever a request does next, it may do.** -/
theorem serve_allowed (svc : MuxrService) (header : Header) (rpc : Rpc) :
    Mediated svc header rpc [] (serve svc header rpc) := by
  unfold serve bearerAuth
  split_ifs with hpath
  · exact mediated_public hpath
  · refine Handler.meets_bind.mpr (Handler.meets_bind.mpr (meets_checkBearer ?_ ?_))
    · exact fun _ _ _ hm => mediated_dispatch hpath hm
    · exact fun _ _ _ he => by cases he

/-! ### What every request keeps to -/

variable {es : History}

/-- **Nothing is done for a caller before the token database has taken the request's token**, and
what only a writer may do, not before it has said that the token is not read-only; a relay is
attached under the caller's own token. -/
theorem tiered {op : Op} (hd : Prog.Does (serve svc header rpc).run es (.performs op)) :
    Proven header es (Op.tier op) ∧
      ∀ readOnly token, op = .attachRelay readOnly token →
        ∃ t, token = some t ∧ Valid header t es := by
  have hop : Allowed svc header rpc es op :=
    Prog.meets_iff.mp (serve_allowed svc header rpc) es _ hd
  exact ⟨hop.proven, hop.marked⟩

/-- A server that drives one multiplexer, and whose log takes no lines. -/
def oneBackend : MuxrService where
  env := ⟨fun _ => .ok (), id⟩
  backends := ⟨[(.zellij, ⟨false, false, "0.43.1"⟩)], List.cons_ne_nil _ _⟩
  notifyRelayUrl := none
  eventBus := false
  logsInfo := false

/-- The header of a caller, and what the layer asks of it. -/
def someHeader : Header := some (some ("Bearer " ++ "t"))

def letThrough : History :=
  [⟨.validateSessionToken "t", .ok true⟩, ⟨.isSessionTokenReadOnly "t", .ok false⟩]

theorem bearerToken_someHeader : bearerToken someHeader = .ok "t" := by
  unfold bearerToken someHeader
  dsimp only
  rw [stripStart_eq_some_iff.mpr rfl]
  rfl

theorem does_marked {s : Stage Op _} (hpath : rpc.path ∉ publicPaths) (hd : Prog.Does
    (dispatch oneBackend ⟨some false, some "t"⟩ rpc).run es s) :
    Prog.Does (serve oneBackend someHeader rpc).run (letThrough ++ es) s :=
  does_serve hpath bearerToken_someHeader hd

theorem resolve_main : resolveSessionKind oneBackend.env oneBackend.backends
    (makeId .zellij "main") = .ok (.zellij, ⟨false, false, "0.43.1"⟩, "main") :=
  resolve_makeId rfl (by decide +kernel)

theorem tiered_listTokens : Proven someHeader (letThrough ++ []) .writer ∧
    ∀ readOnly token, Op.listTokens = .attachRelay readOnly token →
      ∃ t, token = some t ∧ Valid someHeader t (letThrough ++ []) := by
  have hd : Prog.Does (serve oneBackend someHeader .listTokens).run (letThrough ++ [])
      (.performs .listTokens) :=
    does_marked (by simp [publicPaths, Rpc.path, Rpc.name]) (.performs _ _)
  exact tiered hd

/-- **A command goes only to a relay of the request's session.** It is the caller's own, or it is
only asked for its layout, or it is a writable relay of a session that is not shared by all, and the
caller is a writer. -/
theorem confined {tx : ChannelId} {cmd : RelayControl}
    (hd : Prog.Does (serve svc header rpc).run es (.performs (.send tx cmd))) :
    Confined header rpc es tx cmd := by
  have hop : Allowed svc header rpc es (.send tx cmd) :=
    Prog.meets_iff.mp (serve_allowed svc header rpc) es _ hd
  exact hop.confined tx cmd rfl

/-- One relay is attached, of a session of that server. -/
def oneRelay : ControlRegistry :=
  ControlRegistry.empty.insert "c" ⟨makeId .zellij "main", 0, true⟩ fun k _ he =>
    absurd ((ControlRegistry.get_empty k).symm.trans he) nofun

theorem confined_goToTab : Confined someHeader (.goToTab ⟨makeId .zellij "main", 1, "c"⟩)
    (letThrough ++ [⟨.control, oneRelay⟩]) 0 (.switchTab 1) := by
  have hd : Prog.Does (serve oneBackend someHeader (.goToTab ⟨makeId .zellij "main", 1, "c"⟩)).run
      (letThrough ++ [⟨.control, oneRelay⟩]) (.performs (.send 0 (.switchTab 1))) := by
    refine does_marked (by simp [publicPaths, Rpc.path, Rpc.name]) ?_
    have hx : exactMatch oneRelay (makeId .zellij "main") "c" = some 0 :=
      exactMatch_eq_some.mpr ⟨by decide, _, AList.lookup_insert _, rfl, rfl⟩
    dsimp only [dispatch, goToTabImpl, resolveSession, logConn, Handlers.tryRouteControl]
    rw [resolve_main]
    refine Prog.Does.answered (show Op.Answer .control from oneRelay) ?_
    simp only [Prog.bind, ExceptT.bindCont, hx]
    split <;> exact .performs _ _
  exact confined hd

/-- **A backend acts only on the session that the request names and that it owns**, under its bare
name, and with texts that have been checked; or it makes the session that it is asked for. It is
read for that session only, but where all sessions are listed. -/
theorem on_target {op : Op} (hd : Prog.Does (serve svc header rpc).run es (.performs op)) :
    (∀ kind call, op = .action kind call → OnTarget svc rpc kind call) ∧
      ∀ kind call, op = .read kind call ∨ op = .timedRead kind call →
        ReadOnTarget svc rpc kind call := by
  have hop : Allowed svc header rpc es op :=
    Prog.meets_iff.mp (serve_allowed svc header rpc) es _ hd
  exact ⟨hop.acts, hop.reads⟩

/-- A pane of a session of that server. -/
def somePane : PaneTarget := ⟨makeId .zellij "main", 3, false, ""⟩

theorem on_target_closePane :
    (∀ kind call, Op.action .zellij (.closePane "main" ⟨3, false⟩) = .action kind call →
      OnTarget oneBackend (.closePane somePane) kind call) ∧
    ∀ kind call, Op.action .zellij (.closePane "main" ⟨3, false⟩) = .read kind call ∨
      Op.action .zellij (.closePane "main" ⟨3, false⟩) = .timedRead kind call →
        ReadOnTarget oneBackend (.closePane somePane) kind call := by
  have hd : Prog.Does (serve oneBackend someHeader (.closePane somePane)).run (letThrough ++ [])
      (.performs (.action .zellij (.closePane "main" ⟨3, false⟩))) := by
    refine does_marked (by simp [publicPaths, Rpc.path, Rpc.name]) ?_
    dsimp only [dispatch, closePaneImpl, resolveSession, somePane]
    rw [resolve_main]
    exact .performs _ _
  exact on_target hd

end MuxrCore.Grpc.Mediation
