import MuxrCore.Grpc.AgentOps
import MuxrCore.Grpc.SpaceOps

/-! # The layout of a session

`GetLayout` routes its query through the caller's relay, which answers for the space that it is
viewing. If the relay does not answer, or answers with an error, the backend is asked for the
session's layout, and herdr resolves the session to the workspace that has the daemon's focus. A
request that names a space asks the backend for that space, past the relay. Either way the tabs and
panes of the snapshot are sent, with the caller's own view in place of the focus where it is known.

* `tabIds_buildTabMsgs`: the tabs that are sent are those of the snapshot.
* `queryLayout_own`: a query for a workspace is answered with its own tabs.
* `own_tabs_iff`: when a caller whose relay is viewing a space gets that space's tabs. -/

namespace MuxrCore.Grpc.Layout

open MuxrCore.Lib.Rpc MuxrCore.Multiplexer.Routing MuxrCore.Multiplexer.Layout
open MuxrCore.Relay.Control MuxrCore.Relay.View MuxrCore.Grpc.Route MuxrCore.Grpc.AgentOps
open MuxrCore.Grpc.SpaceOps MuxrCore.Herdr.Api MuxrCore.Herdr.Control
open MuxrCore.Herdr.Registry (HerdrTabRegistry)
open MuxrCore.Herdr.Sender (Registries)

/-! ### Messages -/

/-- The agent of a pane, as it is sent. -/
structure AgentMarkMsg where
  kind : String
  name : String
  status : ℤ
  deriving DecidableEq, Repr

def agentMarkMsg (mark : AgentMark) : AgentMarkMsg :=
  ⟨mark.kind, mark.name.getD "", (agentStatusMsg mark.status).toI32⟩

/-- A pane, as it is sent. -/
structure PaneMsg where
  id : ℕ
  title : String
  isFocused : Bool
  isFloating : Bool
  exited : Bool
  command : String
  cwd : String
  x : ℕ
  y : ℕ
  rows : ℕ
  cols : ℕ
  isPlugin : Bool
  isFullscreen : Bool
  agent : Option AgentMarkMsg
  deriving DecidableEq, Repr

/-- A tab, as it is sent. -/
structure TabMsg where
  position : ℕ
  name : String
  active : Bool
  hasBell : Bool
  panesToHide : ℕ
  tabId : ℕ
  panes : List PaneMsg
  fullscreenActive : Bool
  floatingPanesVisible : Bool
  deriving DecidableEq, Repr

/-- The answer. -/
structure LayoutMsg where
  tabs : List TabMsg
  deriving DecidableEq, Repr

def paneIsClientVisible (isPlugin : Bool) : Bool := !isPlugin

/-- The tab that the caller's view is scoped to: the tracked one, or else the one that shows the
tracked pane. -/
def resolveEffectiveActiveTab (relayVs : Option RelayViewState) (snapshot : LayoutSnapshot) :
    Option ℕ :=
  relayVs.bind fun vs => vs.activeTab.or <| vs.focusedPane.bind fun fp =>
    (snapshot.tabs.find? fun tab =>
      (tab.panes.filter fun p => paneIsClientVisible p.isPlugin).any fun p =>
        p.id = fp.id && p.isPlugin = fp.isPlugin).map (·.tabId)

/-- A pane; in the caller's active tab the tracked pane has the focus. -/
def paneMsg (relayVs : Option RelayViewState) (inActiveTab : Bool) (p : PaneSnapshot) :
    PaneMsg where
  id := p.id
  title := p.title
  isFocused :=
    if inActiveTab then
      ((relayVs.bind (·.focusedPane)).map fun fp =>
        decide (fp.isPlugin = p.isPlugin) && decide (fp.id = p.id)).getD p.isFocused
    else p.isFocused
  isFloating := p.isFloating
  exited := p.exited
  command := p.command
  cwd := p.cwd
  x := p.x
  y := p.y
  rows := p.rows
  cols := p.cols
  isPlugin := p.isPlugin
  isFullscreen := p.isFullscreen
  agent := p.agent.map agentMarkMsg

/-- The tabs with their visible panes. Tab ids are sent in 32 bits. -/
def buildTabMsgs (snapshot : LayoutSnapshot) (relayVs : Option RelayViewState) : List TabMsg :=
  let effectiveActiveTab := resolveEffectiveActiveTab relayVs snapshot
  snapshot.tabs.map fun tab =>
    { position := tab.position
      name := tab.name
      active := (effectiveActiveTab.map fun active => decide (tab.tabId = active)).getD tab.active
      hasBell := tab.hasBell
      panesToHide := tab.panesToHide
      tabId := tab.tabId % 2 ^ 32
      panes := (tab.panes.filter fun p => paneIsClientVisible p.isPlugin).map (paneMsg relayVs
        ((effectiveActiveTab.map fun active => decide (tab.tabId = active)).getD false))
      fullscreenActive := tab.fullscreenActive
      floatingPanesVisible := tab.floatingPanesVisible }

def buildLayout (snapshot : LayoutSnapshot) (relayVs : Option RelayViewState) :
    LayoutMsg := ⟨buildTabMsgs snapshot relayVs⟩

/-! ### The request -/

/-- A session, for one of its connections, and perhaps one of its spaces. -/
structure SessionRef where
  session : String
  connectionId : String
  spaceId : String
  deriving DecidableEq, Repr

variable {σ : Type}

/-- What `GetLayout` uses of a backend; a query numbers the panes and tabs that it reports. -/
structure MuxBackend (σ : Type) where
  supportsSpaces : Bool
  queryLayoutForSpace : String → Option String → σ → σ × Except LayoutError LayoutSnapshot

/-- The server. -/
structure MuxrService (σ : Type) where
  env : Externs
  backends : BackendSet (MuxBackend σ)
  control : ControlRegistry
  viewState : String → Option ViewStateEntry

/-- How a query that is sent to a relay ends. -/
inductive Routed
  | closed
  | cancelled
  | timedOut
  | replied (result : Except LayoutError LayoutSnapshot)

/-- The snapshot that the relay answered. -/
def Routed.snapshot : Routed → Option LayoutSnapshot
  | .replied (.ok snapshot) => some snapshot
  | _ => none

/-- The relay a query is sent to: the caller's own, or else any of the session. -/
def relayEntry (control : ControlRegistry) (session connectionId : String) :
    Option (String × ChannelId) :=
  ((exactMatch control session connectionId).map fun sender => (connectionId, sender)).or
    ((control.entries.entries.find? fun kv => kv.2.session = session).map fun kv =>
      (kv.1, kv.2.sender))

/-- The relay that answered is the caller's own. -/
def shouldApplyViewStateOverride (viaRelay : Bool) (requestConnectionId relayConnId : String) :
    Bool := viaRelay && !requestConnectionId.isEmpty && relayConnId = requestConnectionId

def isSpaceScoped (spaceId : String) : Bool := !spaceId.isEmpty

def rejectsSpaceScope (spaceId : String) (backendSupportsSpaces : Bool) : Bool :=
  isSpaceScoped spaceId && !backendSupportsSpaces

def spaceIsOwn (view : ConnectionSpace) (spaceId : String) : Bool := view = .space spaceId

def errorText : LayoutError → String
  | .unknownSpace spaceId => s!"no such space: '{spaceId}'"
  | .other cause => cause

/-- The session's own layout. -/
def backendQueryLayout (backend : MuxBackend σ) (session : String) (s : σ) :
    σ × Except Status LayoutSnapshot :=
  let (s, result) := backend.queryLayoutForSpace session none s
  (s, result.mapError fun e => .internal s!"GetLayout query failed: {errorText e}")

def spaceQueryStatus : LayoutError → Status
  | .unknownSpace _ => .notFound "space_id: no such space"
  | .other _ => .internal "GetLayout: backend error"

/-- The layout of a named space. -/
def spaceQueryLayout (backend : MuxBackend σ) (session spaceId : String) (s : σ) :
    σ × Except Status LayoutSnapshot :=
  let (s, result) := backend.queryLayoutForSpace session (some spaceId) s
  (s, result.mapError spaceQueryStatus)

/-- A look at a named space. -/
def spaceScopedLayout (svc : MuxrService σ) (req : SessionRef) (backend : MuxBackend σ)
    (bare : String) (s : σ) : σ × Except Status LayoutMsg :=
  match validateSpaceId req.spaceId with
  | .error e => (s, .error e)
  | .ok () =>
    if rejectsSpaceScope req.spaceId backend.supportsSpaces then
      (s, .error (.invalidArgument "space_id: this session's backend does not support spaces"))
    else
      let (s, result) := spaceQueryLayout backend bare req.spaceId s
      let view := connectionSpace svc.viewState req.session req.connectionId
      let relayVs :=
        if spaceIsOwn view req.spaceId then
          ((svc.viewState req.connectionId).filter (·.session = req.session)).map (·.state)
        else none
      (s, result.map fun snapshot => buildLayout snapshot relayVs)

/-- The snapshot, whether a relay answered it, and which. -/
def sessionSnapshot (svc : MuxrService σ) (req : SessionRef) (routed : ChannelId → Routed)
    (backend : MuxBackend σ) (bare : String) (s : σ) :
    σ × Except Status (LayoutSnapshot × Bool × String) :=
  match (relayEntry svc.control req.session req.connectionId).bind fun (connId, sender) =>
    (routed sender).snapshot.map fun snapshot => (snapshot, true, connId) with
  | some answer => (s, .ok answer)
  | none =>
    -- no relay, or one that did not answer with a layout
    let (s, result) := backendQueryLayout backend bare s
    (s, result.map fun snapshot => (snapshot, false, ""))

/-- `GetLayout`; `routed` says how a query that is sent on a channel ends. -/
def getLayout (svc : MuxrService σ) (req : SessionRef) (routed : ChannelId → Routed) (s : σ) :
    σ × Except Status LayoutMsg :=
  match resolveSessionKind svc.env svc.backends req.session with
  | .error e => (s, .error e)
  | .ok (_, backend, bare) =>
    if isSpaceScoped req.spaceId then spaceScopedLayout svc req backend bare s
    else
      let (s, result) := sessionSnapshot svc req routed backend bare s
      (s, result.map fun (snapshot, viaRelay, relayConnId) =>
        let relayVs :=
          if shouldApplyViewStateOverride viaRelay req.connectionId relayConnId then
            (svc.viewState relayConnId).map (·.state)
          else none
        buildLayout snapshot relayVs)

/-- The herdr backend, with the answers that its calls get. -/
def herdrBackend (api : Calls) : MuxBackend Registries where
  supportsSpaces := true
  queryLayoutForSpace session spaceId reg :=
    MuxrCore.Herdr.Backend.queryLayoutForSpace api session spaceId reg

/-! ### The tabs of an answer -/

/-- The tabs that are sent are those of the snapshot. -/
theorem tabIds_buildTabMsgs (snapshot : LayoutSnapshot) (relayVs : Option RelayViewState) :
    (buildTabMsgs snapshot relayVs).map (·.tabId) = snapshot.tabs.map (·.tabId % 2 ^ 32) := by
  simp [buildTabMsgs, Function.comp_def]

variable {spaceOf : String → String} {workspaceId : String} {reg : HerdrTabRegistry}

/-- The tab that was sent is one of the workspace. -/
def BelongsTo (spaceOf : String → String) (workspaceId : String) (reg : HerdrTabRegistry)
    (tab : TabMsg) : Prop :=
  ∃ herdrTab n, reg.byHerdr herdrTab = some n ∧ tab.tabId = n % 2 ^ 32 ∧
    spaceOf herdrTab = workspaceId

/-- Every tab of the answer is one of the workspace. -/
def OwnTabs (spaceOf : String → String) (workspaceId : String) (reg : HerdrTabRegistry)
    (layout : LayoutMsg) : Prop :=
  ∀ tab ∈ layout.tabs, BelongsTo spaceOf workspaceId reg tab

/-- The snapshot's tabs have the numbers of tabs of the workspace. -/
def OwnSnapshot (spaceOf : String → String) (workspaceId : String) (reg : HerdrTabRegistry)
    (snapshot : LayoutSnapshot) : Prop :=
  ∀ tab ∈ snapshot.tabs, ∃ herdrTab, reg.byHerdr herdrTab = some tab.tabId ∧
    spaceOf herdrTab = workspaceId

theorem OwnSnapshot.extend {reg' : HerdrTabRegistry} {snapshot : LayoutSnapshot}
    (h : OwnSnapshot spaceOf workspaceId reg snapshot) (hext : reg.Extends reg') :
    OwnSnapshot spaceOf workspaceId reg' snapshot := by
  intro tab htab
  obtain ⟨herdrTab, hn, hspace⟩ := h tab htab
  exact ⟨herdrTab, hext _ _ hn, hspace⟩

theorem OwnSnapshot.ownTabs {snapshot : LayoutSnapshot}
    (h : OwnSnapshot spaceOf workspaceId reg snapshot) (relayVs : Option RelayViewState) :
    OwnTabs spaceOf workspaceId reg (buildLayout snapshot relayVs) := by
  intro tab htab
  have hid : tab.tabId ∈ (buildTabMsgs snapshot relayVs).map (·.tabId) :=
    List.mem_map_of_mem htab
  rw [tabIds_buildTabMsgs] at hid
  obtain ⟨snap, hsnap, heq⟩ := List.mem_map.mp hid
  obtain ⟨herdrTab, hn, hspace⟩ := h snap hsnap
  exact ⟨herdrTab, snap.tabId, hn, heq.symm, hspace⟩

/-! ### What herdr answers -/

/-- The calls answer tabs of the workspaces they are in. -/
structure Honest (spaceOf : String → String) (api : Calls) : Prop where
  snapshot : ∀ d, api.sessionSnapshot = .ok d → ∀ tab ∈ d.tabs, tab.workspaceId = spaceOf tab.tabId
  tabs : ∀ w tabs, api.listTabs w = .ok tabs → ∀ tab ∈ tabs, spaceOf tab.tabId = w

theorem honest_calls {d : SessionSnapshot}
    (h : ∀ tab ∈ d.tabs, tab.workspaceId = spaceOf tab.tabId) :
    Honest spaceOf d.calls where
  snapshot := by
    rintro d' ⟨⟩
    exact h
  tabs := by
    rintro w tabs ⟨⟩ tab htab
    obtain ⟨hmem, hw⟩ := List.mem_filter.mp htab
    rw [← h tab hmem]
    simpa using hw

theorem transcodeLayout_own {tabs : List TabInfo}
    (htabs : ∀ tab ∈ tabs, spaceOf tab.tabId = workspaceId)
    (panes : List PaneInfo) (tabLayouts : String → Option PaneLayoutSnapshot) (activeTabId : String)
    (marks : AgentMarks) (reg : Registries) :
    OwnSnapshot spaceOf workspaceId
      (transcodeLayout tabs panes tabLayouts activeTabId marks reg).1.tabs
      (transcodeLayout tabs panes tabLayouts activeTabId marks reg).2 := by
  obtain ⟨hmap, -⟩ := transcodeLayout_tabs tabs panes tabLayouts activeTabId marks reg
  intro snap hsnap
  have hmem := List.mem_map_of_mem (f := fun snap : TabSnapshot => some snap.tabId) hsnap
  rw [← hmap] at hmem
  obtain ⟨tab, htab, hn⟩ := List.mem_map.mp hmem
  exact ⟨tab.tabId, hn, htabs tab htab⟩

/-- A layout that shows only tabs of a workspace was transcoded from tabs of it, while the numbers
fit in the 32 bits they are sent in. -/
theorem own_of_ownTabs {tabs : List TabInfo} {panes : List PaneInfo}
    {tabLayouts : String → Option PaneLayoutSnapshot} {activeTabId : String} {marks : AgentMarks}
    {reg : Registries} {relayVs : Option RelayViewState} (hnum : reg.tabs.Numbered)
    (hfew : reg.tabs.nextId + tabs.length ≤ 2 ^ 32)
    (h : OwnTabs spaceOf workspaceId
      (transcodeLayout tabs panes tabLayouts activeTabId marks reg).1.tabs
      (buildLayout (transcodeLayout tabs panes tabLayouts activeTabId marks reg).2 relayVs)) :
    ∀ tab ∈ tabs, spaceOf tab.tabId = workspaceId := by
  obtain ⟨hmap, hnext, hkept⟩ := transcodeLayout_tabs tabs panes tabLayouts activeTabId marks reg
  have hnum' := hkept hnum (by omega)
  intro tab htab
  -- the tab has a number, and was sent under it
  have hmem := List.mem_map_of_mem (f := fun tab : TabInfo =>
    (transcodeLayout tabs panes tabLayouts activeTabId marks reg).1.tabs.byHerdr tab.tabId) htab
  rw [hmap] at hmem
  obtain ⟨snap, hsnap, hn⟩ := List.mem_map.mp hmem
  have hid := List.mem_map_of_mem (f := fun snap : TabSnapshot => snap.tabId % 2 ^ 32) hsnap
  rw [← tabIds_buildTabMsgs _ relayVs] at hid
  obtain ⟨msg, hmsg, hmsgid⟩ := List.mem_map.mp hid
  obtain ⟨herdrTab, n, hn', hsent, hspace⟩ := h msg hmsg
  -- so the tab of the workspace that was sent under that number is this one
  have hlt := hnum'.below _ _ hn.symm
  have hlt' := hnum'.below _ _ hn'
  have heq : snap.tabId = n := by
    rw [hsent] at hmsgid
    rw [Nat.mod_eq_of_lt (by omega), Nat.mod_eq_of_lt (by omega)] at hmsgid
    exact hmsgid.symm
  rw [← hspace]
  exact congrArg spaceOf (hnum'.distinct _ _ n (heq ▸ hn.symm) hn')

/-- The tabs of the fan-out are those listed for the workspace. -/
theorem fanout_tabs {api : Calls} {activeTabId : String} {tabs : List TabInfo}
    {panes : List PaneInfo} {tabLayouts : String → Option PaneLayoutSnapshot}
    (h : fanout api workspaceId = .ok (activeTabId, tabs, panes, tabLayouts)) :
    api.listTabs workspaceId = .ok tabs := by
  have hbind : ∀ {α β : Type} {x : Except LayoutError α} {f : α → Except LayoutError β} {b : β},
      x >>= f = .ok b → ∃ a, x = .ok a ∧ f a = .ok b := by
    rintro α β (e | a) f b hb
    · cases hb
    · exact ⟨a, rfl, hb⟩
  obtain ⟨workspaces, -, h⟩ := hbind h
  obtain ⟨w, -, h⟩ := hbind h
  obtain ⟨ts, hts, h⟩ := hbind h
  obtain ⟨ps, -, h⟩ := hbind h
  obtain ⟨ls, -, h⟩ := hbind h
  cases h
  rcases hl : api.listTabs workspaceId with e | ts
  · rw [hl] at hts
    cases hts
  · rw [hl] at hts
    cases hts
    rfl

/-- **A query for a workspace is answered with tabs of it.** -/
theorem queryLayout_own {api : Calls} (h : Honest spaceOf api) {reg reg' : Registries}
    {snapshot : LayoutSnapshot} (hq : queryLayout api workspaceId reg = (reg', .ok snapshot)) :
    OwnSnapshot spaceOf workspaceId reg'.tabs snapshot := by
  have hfanout : ∀ {reg' : Registries} {snapshot : LayoutSnapshot},
      queryLayoutFanout api workspaceId reg = (reg', .ok snapshot) →
        OwnSnapshot spaceOf workspaceId reg'.tabs snapshot := by
    intro reg' snapshot hq
    unfold queryLayoutFanout at hq
    rcases hf : fanout api workspaceId with e | ⟨activeTabId, tabs, panes, tabLayouts⟩
    · simp [hf] at hq
    · simp only [hf, Prod.mk.injEq, Except.ok.injEq] at hq
      obtain ⟨rfl, rfl⟩ := hq
      exact transcodeLayout_own (h.tabs _ _ (fanout_tabs hf)) panes tabLayouts activeTabId _ reg
  unfold queryLayout at hq
  rcases hd : api.sessionSnapshot with e | d
  · rw [hd] at hq
    exact hfanout hq
  · simp only [hd] at hq
    rcases hl : layoutFromSnapshot d workspaceId reg with _ | ⟨reg₁, layout⟩
    · rw [hl] at hq
      exact hfanout hq
    · simp only [hl, Prod.mk.injEq, Except.ok.injEq] at hq
      obtain ⟨rfl, rfl⟩ := hq
      obtain ⟨w, -, heq⟩ := Option.map_eq_some_iff.mp hl
      cases heq
      refine transcodeLayout_own (fun tab htab => ?_) _ _ _ _ reg
      obtain ⟨hmem, hw⟩ := List.mem_filter.mp htab
      rw [← h.snapshot d hd tab hmem]
      simpa using hw

/-! ### The caller's own space -/

variable {svc : MuxrService Registries} {req : SessionRef} {routed : ChannelId → Routed}
  {entry : ControlEntry} {d : SessionSnapshot} {kind : BackendKind} {bare w : String}

/-- The relay that is registered for the caller is the one that the query is sent to. -/
theorem relayEntry_own (hconn : req.connectionId ≠ "")
    (hget : svc.control.get req.connectionId = some entry)
    (hsession : entry.session = req.session) :
    relayEntry svc.control req.session req.connectionId =
      some (req.connectionId, entry.sender) := by
  have hexact : exactMatch svc.control req.session req.connectionId = some entry.sender :=
    exactMatch_eq_some.mpr ⟨hconn, entry, hget, hsession, rfl⟩
  rw [relayEntry, hexact]
  rfl

/-- The answer, when the caller has a relay of its own: the relay's, or else the one for the
session. -/
theorem getLayout_own (routed : ChannelId → Routed) (reg : Registries)
    (hresolve : resolveSessionKind svc.env svc.backends req.session =
      .ok (kind, herdrBackend d.calls, bare))
    (hspace : req.spaceId = "") (hconn : req.connectionId ≠ "")
    (hget : svc.control.get req.connectionId = some entry)
    (hsession : entry.session = req.session) :
    ∃ relayVs, getLayout svc req routed reg =
      match (routed entry.sender).snapshot with
      | some snapshot => (reg, .ok (buildLayout snapshot relayVs))
      | none =>
        let r := MuxrCore.Herdr.Backend.queryLayout d.calls bare reg
        (r.1, (r.2.mapError fun e => .internal s!"GetLayout query failed: {errorText e}").map
          fun snapshot => buildLayout snapshot none) := by
  have hrelay := relayEntry_own hconn hget hsession
  refine ⟨(svc.viewState req.connectionId).map (·.state), ?_⟩
  unfold getLayout sessionSnapshot
  rw [hresolve, hrelay, hspace]
  rcases hs : (routed entry.sender).snapshot with _ | snapshot
  · rcases hq : MuxrCore.Herdr.Backend.queryLayout d.calls bare reg with ⟨reg', e | snapshot⟩ <;>
      simp [isSpaceScoped, hs, hq, backendQueryLayout, herdrBackend, shouldApplyViewStateOverride,
        MuxrCore.Herdr.Backend.queryLayoutForSpace, Except.map, Except.mapError]
  · simp [isSpaceScoped, hs, shouldApplyViewStateOverride, hconn, Except.map]

theorem Routed.snapshot_eq_some {r : Routed} {snapshot : LayoutSnapshot} :
    r.snapshot = some snapshot ↔ r = .replied (.ok snapshot) := by
  rcases r with _ | _ | _ | ⟨_ | _⟩ <;> simp [Routed.snapshot]

theorem queryLayout_unresolved {reg : Registries} {e : String}
    (h : MuxrCore.Herdr.Backend.resolveWorkspace d.workspaces bare = .error e) :
    MuxrCore.Herdr.Backend.queryLayout d.calls bare reg = (reg, .error (.other e)) := by
  have hbind : d.calls.listWorkspaces.bind (fun workspaces =>
      MuxrCore.Herdr.Backend.resolveWorkspace workspaces bare) = .error e := h
  unfold MuxrCore.Herdr.Backend.queryLayout
  rw [hbind]

/-- The session's layout is that of the workspace it resolves to. -/
theorem queryLayout_session (reg : Registries) {workspaceId : String}
    (h : MuxrCore.Herdr.Backend.resolveWorkspace d.workspaces bare = .ok workspaceId) :
    ∃ panes tabLayouts activeTabId marks, MuxrCore.Herdr.Backend.queryLayout d.calls bare reg =
      let r := transcodeLayout (d.tabsOf workspaceId) panes tabLayouts activeTabId marks reg
      (r.1, .ok r.2) := by
  obtain ⟨v, hv, hid⟩ := MuxrCore.Herdr.Backend.resolveWorkspace_mem h
  obtain ⟨u, hu⟩ : ∃ u, d.workspaces.find? (·.workspaceId = workspaceId) = some u := by
    rw [← Option.isSome_iff_exists, List.find?_isSome]
    exact ⟨v, hv, by simpa using hid⟩
  refine ⟨d.panesOf workspaceId, tabLayout d.layouts (d.panesOf workspaceId) workspaceId,
    u.activeTabId, .fromPanes (agentName d.agents), ?_⟩
  have hbind : d.calls.listWorkspaces.bind (fun workspaces =>
      MuxrCore.Herdr.Backend.resolveWorkspace workspaces bare) = .ok workspaceId := h
  unfold MuxrCore.Herdr.Backend.queryLayout
  rw [hbind]
  exact queryLayout_known reg hu

/-- **When a caller whose relay is viewing a space gets that space's tabs**: if the routed query is
answered with a layout, or else if the workspace that the session resolves to is that space or has
no tabs. It gets them in no other case, while numbers fit in the 32 bits they are sent in. -/
theorem own_tabs_iff {reg : Registries}
    (hresolve : resolveSessionKind svc.env svc.backends req.session =
      .ok (kind, herdrBackend d.calls, bare))
    (hspace : req.spaceId = "") (hconn : req.connectionId ≠ "")
    (hget : svc.control.get req.connectionId = some entry) (hsession : entry.session = req.session)
    (hrelay : ∀ snapshot, routed entry.sender = .replied (.ok snapshot) →
      ∃ api reg₀ reg₁, Honest spaceOf api ∧ queryLayout api w reg₀ = (reg₁, .ok snapshot) ∧
        reg₁.tabs.Extends reg.tabs)
    (hhonest : ∀ tab ∈ d.tabs, tab.workspaceId = spaceOf tab.tabId) :
    let own := ∀ layout, (getLayout svc req routed reg).2 = .ok layout →
      OwnTabs spaceOf w (getLayout svc req routed reg).1.tabs layout
    let routedOrOwn := (∃ snapshot, routed entry.sender = .replied (.ok snapshot)) ∨
      ∀ w', MuxrCore.Herdr.Backend.resolveWorkspace d.workspaces bare = .ok w' →
        w' = w ∨ d.tabsOf w' = []
    (routedOrOwn → own) ∧
      (reg.tabs.Numbered → reg.tabs.nextId + d.tabs.length ≤ 2 ^ 32 → own → routedOrOwn) := by
  obtain ⟨relayVs, heq⟩ := getLayout_own routed reg hresolve hspace hconn hget
    hsession
  have hof : ∀ w', ∀ tab ∈ d.tabsOf w', spaceOf tab.tabId = w' :=
    fun w' => (honest_calls hhonest).tabs w' _ rfl
  rcases hs : (routed entry.sender).snapshot with _ | snapshot
  · have hnone : ¬ ∃ snapshot, routed entry.sender = .replied (.ok snapshot) := by
      rintro ⟨snapshot, hr⟩
      rw [Routed.snapshot_eq_some.mpr hr] at hs
      cases hs
    rw [heq, hs]
    dsimp only
    rcases hw : MuxrCore.Herdr.Backend.resolveWorkspace d.workspaces bare with e | w'
    · refine ⟨fun _ layout hl => ?_, fun _ _ _ => Or.inr fun w' hw' => ?_⟩
      · rw [queryLayout_unresolved hw] at hl
        cases hl
      · cases hw'
    · obtain ⟨panes, tabLayouts, activeTabId, marks, hq⟩ := queryLayout_session reg hw
      have hlen : (d.tabsOf w').length ≤ d.tabs.length := List.length_filter_le _ _
      rw [hq]
      refine ⟨fun hc layout hl => ?_, fun hnum hfew hown => Or.inr fun w'' hw'' => ?_⟩
      · cases hl
        refine (transcodeLayout_own (fun tab htab => ?_) _ _ _ _ reg).ownTabs none
        rcases hc.resolve_left hnone w' rfl with rfl | hempty
        · exact hof w' tab htab
        · rw [hempty] at htab
          exact absurd htab (by simp)
      · cases hw''
        have htabs := own_of_ownTabs hnum (by omega) (hown _ rfl)
        rcases ht : d.tabsOf w' with _ | ⟨tab, rest⟩
        · exact Or.inr rfl
        · have htab : tab ∈ d.tabsOf w' := by simp [ht]
          exact Or.inl ((hof w' tab htab).symm.trans (htabs tab htab))
  · have hrep := Routed.snapshot_eq_some.mp hs
    obtain ⟨api, reg₀, reg₁, hapi, hq, hext⟩ := hrelay snapshot hrep
    refine ⟨fun _ layout hl => ?_, fun _ _ _ => Or.inl ⟨snapshot, hrep⟩⟩
    rw [heq, hs] at hl ⊢
    cases hl
    exact ((queryLayout_own hapi hq).extend hext).ownTabs relayVs

/-- A server with herdr alone, and one connection. -/
def oneRelay (d : SessionSnapshot) : MuxrService Registries where
  env := zellijExterns
  backends := ⟨[(.herdr, herdrBackend d.calls)], by simp⟩
  control := ControlRegistry.empty.insert "conn-1" ⟨"herdr:herdr", 0, false⟩ (by simp [
    ControlRegistry.get, ControlRegistry.empty])
  viewState := fun _ => some ⟨"herdr:herdr", none, none, some "w1"⟩

/-- The tabs of `w1` and of `w2`. -/
def tabSpace (tab : String) : String := if tab = "w2:t1" then "w2" else "w1"

/-- The daemon once `w1` is closed. -/
def afterClose : SessionSnapshot where
  workspaces := [⟨"w2", "side", true, "w2:t1", none⟩]
  tabs := [⟨"w2:t1", "w2", 1, "run"⟩]
  panes := []
  layouts := []
  agents := []

theorem get_oneRelay (d : SessionSnapshot) :
    (oneRelay d).control.get "conn-1" = some ⟨"herdr:herdr", 0, false⟩ := by
  simp [oneRelay, ControlRegistry.get, ControlRegistry.insert]

/-- **A closed space's poll succeeds**: the relay says that `w1` is unknown, and the caller gets the
tabs of `w2`. -/
theorem layout_of_other_space :
    ¬ ∀ (svc : MuxrService Registries) (req : SessionRef) (routed : ChannelId → Routed)
      (entry : ControlEntry) (d : SessionSnapshot) (kind : BackendKind) (bare w : String)
      (spaceOf : String → String) (reg : Registries) (layout : LayoutMsg),
      resolveSessionKind svc.env svc.backends req.session =
        .ok (kind, herdrBackend d.calls, bare) →
      req.spaceId = "" → req.connectionId ≠ "" → svc.control.get req.connectionId = some entry →
      entry.session = req.session →
      (∀ snapshot, routed entry.sender = .replied (.ok snapshot) →
        ∃ api reg₀ reg₁, Honest spaceOf api ∧ queryLayout api w reg₀ = (reg₁, .ok snapshot) ∧
          reg₁.tabs.Extends reg.tabs) →
      (∀ tab ∈ d.tabs, tab.workspaceId = spaceOf tab.tabId) →
      (getLayout svc req routed reg).2 = .ok layout →
      OwnTabs spaceOf w (getLayout svc req routed reg).1.tabs layout := by
  intro h
  have hown := h (oneRelay afterClose) ⟨"herdr:herdr", "conn-1", ""⟩
    (fun _ => .replied (.error (.unknownSpace "w1"))) _ afterClose .herdr "herdr" "w1" tabSpace
    ⟨.empty, .empty⟩ _ (by rfl) rfl (by simp) (get_oneRelay _) rfl (by simp) (by decide) rfl
  obtain ⟨tab, n, hn, -, hspace⟩ := hown _ List.mem_cons_self
  rcases MuxrCore.Lib.Tables.update_eq_some_iff.mp hn with ⟨rfl, -⟩ | ⟨-, hn⟩
  · exact absurd hspace (by decide)
  · exact absurd hn (by simp [HerdrTabRegistry.empty])

/-- The query times out while the daemon is on `w1`. -/
theorem own_tabs_iff_timedOut :
    let getLayout := getLayout (oneRelay twoTabs) ⟨"herdr:herdr", "conn-1", ""⟩ (fun _ => .timedOut)
      ⟨.empty, .empty⟩
    ∀ layout, getLayout.2 = .ok layout → OwnTabs tabSpace "w1" getLayout.1.tabs layout := by
  intro getLayout
  refine (own_tabs_iff (by rfl) rfl (by simp) (get_oneRelay _) rfl (by simp) (by decide)).1
    (Or.inr fun w' hw' => Or.inl ?_)
  cases hw'
  rfl

end MuxrCore.Grpc.Layout
