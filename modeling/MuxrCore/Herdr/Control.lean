import Mathlib.Data.List.Find
import MuxrCore.Herdr.Api
import MuxrCore.Herdr.Sender

/-! # Two ways to a layout

The layout of a workspace is projected out of one snapshot of the daemon, or else put together from
several calls: the workspaces, the tabs and panes of the one asked for, and a layout for each tab
that has a pane to address it by. Either way the panes and tabs are numbered in the shared
registries while the layout is transcoded. Only the snapshot says which agents run in the panes.

* `transcodeLayout_omit`: what is transcoded depends on the layouts of the listed tabs, and
  otherwise differs in the marks only.
* `transcodeLayout_tabs`: the tabs of a layout are the listed ones.
* `tabLayout_snapshot`, `fetchLayouts_spec`: either way finds the layout of a listed tab that has a
  pane.
* `paths_agree`: the two ways agree. -/

namespace MuxrCore.Herdr.Control

open MuxrCore.Lib.Tables MuxrCore.Herdr.Api MuxrCore.Herdr.Registry MuxrCore.Multiplexer.Layout
open MuxrCore.Herdr.Sender (Registries)
open MuxrCore.Herdr.Subscribe.Lines (HerdrAgentStatus mapStatus)
open MuxrCore.Multiplexer.Agents (AgentStatus)

/-- Why there is no layout. -/
inductive LayoutError
  | unknownSpace (workspaceId : String)
  | other (cause : String)
  deriving DecidableEq, Repr

/-! ### Transcoding -/

/-- The value, unless it is empty. -/
def nonEmpty (value : Option String) : Option String := value.filter (· ≠ "")

/-- The neutral agent kind. -/
def agentKind (agent displayAgent : Option String) : String :=
  ((nonEmpty agent).or (nonEmpty displayAgent)).getD "agent"

/-- herdr's status in neutral words. -/
def neutralStatus : HerdrAgentStatus → AgentStatus := mapStatus

/-- Whether the panes' agents are marked; the names are by pane. -/
inductive AgentMarks
  | omit
  | fromPanes (names : String → Option String)

/-- The mark of a pane. -/
def paneAgentMark (info : PaneInfo) : AgentMarks → Option AgentMark
  | .omit => none
  | .fromPanes names => (nonEmpty info.agent).map fun agent =>
    ⟨agentKind (some agent) info.displayAgent, names info.paneId, neutralStatus info.agentStatus⟩

/-- A map from keys to the last value listed for them. -/
def lastOf {α : Type} (key : α → String) (values : List α) : String → Option α :=
  values.foldl (fun m v => Function.update m (key v) (some v)) fun _ => none

/-- Give every pane its number. -/
def registerPanes (panes : List PaneInfo) (reg : HerdrPaneRegistry) : HerdrPaneRegistry :=
  panes.foldl (fun reg pane => (reg.assignOrGet pane.paneId pane.terminalId).1) reg

/-- A pane of a layout, under its number. -/
def paneSnapshot (infoByPane : String → Option PaneInfo) (zoomed : Bool) (marks : AgentMarks)
    (reg : HerdrPaneRegistry) (lp : PaneLayoutPane) : HerdrPaneRegistry × PaneSnapshot :=
  let info := infoByPane lp.paneId
  let (reg, id) := reg.assignOrGet lp.paneId ((info.map (·.terminalId)).getD "")
  (reg,
    { id
      title := (info.bind fun i => i.title.or i.label).getD ""
      isFocused := lp.focused
      isFloating := false
      exited := false
      command := ""
      cwd := (info.bind (·.cwd)).getD ""
      x := lp.rect.x
      y := lp.rect.y
      rows := lp.rect.height
      cols := lp.rect.width
      isPlugin := false
      isFullscreen := zoomed
      agent := info.bind fun i => paneAgentMark i marks })

/-- Apply a step that threads a state to the elements of a list, in order. -/
def mapState {σ α β : Type} (f : σ → α → σ × β) : σ → List α → σ × List β
  | s, [] => (s, [])
  | s, a :: as =>
    let (s, b) := f s a
    let (s, bs) := mapState f s as
    (s, b :: bs)

/-- A tab, under its number, with the panes of its layout. -/
def tabSnapshot (infoByPane : String → Option PaneInfo)
    (tabLayouts : String → Option PaneLayoutSnapshot) (activeTabId : String) (marks : AgentMarks)
    (reg : Registries) (tab : TabInfo) : Registries × TabSnapshot :=
  let (tabs, tabId) := reg.tabs.assignOrGet tab.tabId
  let layout := tabLayouts tab.tabId
  let zoomed := (layout.map (·.zoomed)).getD false
  let (panes, paneSnaps) := mapState (paneSnapshot infoByPane zoomed marks) reg.panes
    ((layout.map (·.panes)).getD [])
  (⟨panes, tabs⟩,
    { tabId
      position := tab.number % 2 ^ 32
      name := tab.label
      active := tab.tabId = activeTabId
      hasBell := false
      panesToHide := 0
      fullscreenActive := zoomed
      floatingPanesVisible := false
      panes := paneSnaps })

/-- The layout of the listed tabs; every listed pane is numbered first. -/
def transcodeLayout (tabs : List TabInfo) (panes : List PaneInfo)
    (tabLayouts : String → Option PaneLayoutSnapshot) (activeTabId : String) (marks : AgentMarks)
    (reg : Registries) : Registries × LayoutSnapshot :=
  let reg : Registries := { reg with panes := registerPanes panes reg.panes }
  let (reg, tabSnaps) :=
    mapState (tabSnapshot (lastOf (·.paneId) panes) tabLayouts activeTabId marks) reg tabs
  (reg, ⟨tabSnaps⟩)

/-! ### The two ways -/

/-- The layout that the snapshot has for a tab, if the tab has a pane. -/
def tabLayout (layouts : List PaneLayoutSnapshot) (panes : List PaneInfo) (workspaceId : String)
    (tabId : String) : Option PaneLayoutSnapshot :=
  layouts.find? fun l => l.workspaceId = workspaceId && panes.any (·.tabId = l.tabId) &&
    l.tabId = tabId

/-- The first name that the agent records have for a pane. -/
def agentName (agents : List AgentInfo) (paneId : String) : Option String :=
  agents.findSome? fun a => if a.paneId = paneId then nonEmpty a.name else none

/-- The layout of a workspace, out of a snapshot of the daemon. -/
def layoutFromSnapshot (snapshot : SessionSnapshot) (workspaceId : String) (reg : Registries) :
    Option (Registries × LayoutSnapshot) :=
  (snapshot.workspaces.find? (·.workspaceId = workspaceId)).map fun w =>
    let tabs := snapshot.tabs.filter (·.workspaceId = workspaceId)
    let panes := snapshot.panes.filter (·.workspaceId = workspaceId)
    transcodeLayout tabs panes (tabLayout snapshot.layouts panes workspaceId) w.activeTabId
      (.fromPanes (agentName snapshot.agents)) reg

/-- The first pane listed for a tab. -/
def representative (panes : List PaneInfo) (tabId : String) : Option String :=
  (panes.find? (·.tabId = tabId)).map (·.paneId)

/-- Ask for the layout of every tab that has a pane and none yet. -/
def fetchLayouts (paneLayout : String → Except String PaneLayoutSnapshot) (panes : List PaneInfo) :
    List TabInfo → (String → Option PaneLayoutSnapshot) →
      Except LayoutError (String → Option PaneLayoutSnapshot)
  | [], tabLayouts => .ok tabLayouts
  | tab :: tabs, tabLayouts =>
    if (tabLayouts tab.tabId).isSome then fetchLayouts paneLayout panes tabs tabLayouts
    else match representative panes tab.tabId with
      | none => fetchLayouts paneLayout panes tabs tabLayouts
      | some paneId =>
        match paneLayout paneId with
        | .error e => .error (.other e)
        | .ok layout =>
          fetchLayouts paneLayout panes tabs (Function.update tabLayouts layout.tabId (some layout))

/-- What the calls answer for a workspace: the tab it is on, its tabs and panes, and the layouts. -/
def fanout (api : Calls) (workspaceId : String) : Except LayoutError
    (String × List TabInfo × List PaneInfo × (String → Option PaneLayoutSnapshot)) := do
  let workspaces ← api.listWorkspaces.mapError .other
  let w ← (workspaces.find? (·.workspaceId = workspaceId)).elim
    (.error (.unknownSpace workspaceId)) .ok
  let tabs ← (api.listTabs workspaceId).mapError .other
  let panes ← (api.listPanes workspaceId).mapError .other
  let tabLayouts ← fetchLayouts api.paneLayout panes tabs fun _ => none
  .ok (w.activeTabId, tabs, panes, tabLayouts)

/-- The layout of a workspace, from several calls. -/
def queryLayoutFanout (api : Calls) (workspaceId : String) (reg : Registries) :
    Registries × Except LayoutError LayoutSnapshot :=
  match fanout api workspaceId with
  | .error e => (reg, .error e)
  | .ok (activeTabId, tabs, panes, tabLayouts) =>
    let (reg, layout) := transcodeLayout tabs panes tabLayouts activeTabId .omit reg
    (reg, .ok layout)

/-- The layout of a workspace: out of a snapshot, or else from several calls. -/
def queryLayout (api : Calls) (workspaceId : String) (reg : Registries) :
    Registries × Except LayoutError LayoutSnapshot :=
  match api.sessionSnapshot with
  | .error _ => queryLayoutFanout api workspaceId reg
  | .ok snapshot =>
    match layoutFromSnapshot snapshot workspaceId reg with
    | some (reg, layout) => (reg, .ok layout)
    | none => queryLayoutFanout api workspaceId reg

/-! ### Marks -/

/-- The pane without its agent. -/
def unmarkedPane (pane : PaneSnapshot) : PaneSnapshot := { pane with agent := none }

/-- The tab without the agents of its panes. -/
def unmarkedTab (tab : TabSnapshot) : TabSnapshot :=
  { tab with panes := tab.panes.map unmarkedPane }

/-- The layout without the agents of its panes. -/
def unmarked (layout : LayoutSnapshot) : LayoutSnapshot := ⟨layout.tabs.map unmarkedTab⟩

section Map
variable {σ α β γ : Type}

/-- Steps that thread the state alike, and whose results are related by a map. -/
theorem mapState_congr {f : σ → α → σ × β} {g : σ → α → σ × γ} {φ : β → γ} {as : List α}
    (h : ∀ s, ∀ a ∈ as, g s a = ((f s a).1, φ (f s a).2)) (s : σ) :
    mapState g s as = ((mapState f s as).1, (mapState f s as).2.map φ) := by
  induction as generalizing s with
  | nil => rfl
  | cons a as ih =>
    have hrest := ih (fun s b hb => h s b (List.mem_cons_of_mem a hb)) (f s a).1
    simp only [mapState, h s a List.mem_cons_self, hrest, List.map_cons]

end Map

variable {tabs : List TabInfo} {panes : List PaneInfo} {reg : Registries}
  {workspaceId activeTabId : String} {d : SessionSnapshot}

theorem paneSnapshot_omit (marks : AgentMarks) (infoByPane : String → Option PaneInfo)
    (zoomed : Bool) (reg : HerdrPaneRegistry) (lp : PaneLayoutPane) :
    paneSnapshot infoByPane zoomed .omit reg lp =
      ((paneSnapshot infoByPane zoomed marks reg lp).1,
        unmarkedPane (paneSnapshot infoByPane zoomed marks reg lp).2) := by
  rcases hinfo : infoByPane lp.paneId with _ | info <;>
    simp [paneSnapshot, hinfo, unmarkedPane, paneAgentMark]

theorem tabSnapshot_omit (marks : AgentMarks) (activeTabId : String)
    {tabLayouts tabLayouts' : String → Option PaneLayoutSnapshot} {tab : TabInfo}
    (h : tabLayouts' tab.tabId = tabLayouts tab.tabId)
    (infoByPane : String → Option PaneInfo) (reg : Registries) :
    tabSnapshot infoByPane tabLayouts' activeTabId .omit reg tab =
      ((tabSnapshot infoByPane tabLayouts activeTabId marks reg tab).1,
        unmarkedTab (tabSnapshot infoByPane tabLayouts activeTabId marks reg tab).2) := by
  have hpanes : ∀ zoomed lps, mapState (paneSnapshot infoByPane zoomed .omit) reg.panes lps =
      ((mapState (paneSnapshot infoByPane zoomed marks) reg.panes lps).1,
        (mapState (paneSnapshot infoByPane zoomed marks) reg.panes lps).2.map unmarkedPane) :=
    fun zoomed lps =>
      mapState_congr (fun r lp _ => paneSnapshot_omit marks infoByPane zoomed r lp) reg.panes
  simp only [tabSnapshot, h, hpanes, unmarkedTab]

/-- **A layout depends on the layouts of the listed tabs**, and on nothing else but the marks. -/
theorem transcodeLayout_omit (marks : AgentMarks)
    {tabLayouts tabLayouts' : String → Option PaneLayoutSnapshot}
    (h : ∀ tab ∈ tabs, tabLayouts' tab.tabId = tabLayouts tab.tabId) :
    transcodeLayout tabs panes tabLayouts' activeTabId .omit reg =
      ((transcodeLayout tabs panes tabLayouts activeTabId marks reg).1,
        unmarked (transcodeLayout tabs panes tabLayouts activeTabId marks reg).2) := by
  have htabs := mapState_congr (fun r tab htab =>
    tabSnapshot_omit marks activeTabId (h tab htab) (lastOf (·.paneId) panes) r)
    { reg with panes := registerPanes panes reg.panes }
  simp only [transcodeLayout, htabs, unmarked]

/-! ### The tabs of a layout -/

theorem tabSnapshot_tabs (infoByPane : String → Option PaneInfo)
    (tabLayouts : String → Option PaneLayoutSnapshot) (activeTabId : String) (marks : AgentMarks)
    (reg : Registries) (tab : TabInfo) :
    (tabSnapshot infoByPane tabLayouts activeTabId marks reg tab).1.tabs =
      (reg.tabs.assignOrGet tab.tabId).1 := rfl

/-- The tabs are numbered in order, and no number is forgotten. -/
theorem mapState_tabs (infoByPane : String → Option PaneInfo)
    (tabLayouts : String → Option PaneLayoutSnapshot) (activeTabId : String) (marks : AgentMarks)
    (tabs : List TabInfo) (reg : Registries) :
    let r := mapState (tabSnapshot infoByPane tabLayouts activeTabId marks) reg tabs
    reg.tabs.Extends r.1.tabs ∧
      tabs.map (fun tab => r.1.tabs.byHerdr tab.tabId) = r.2.map (fun snap => some snap.tabId) ∧
      r.1.tabs.nextId ≤ reg.tabs.nextId + tabs.length ∧
      (reg.tabs.Numbered → reg.tabs.nextId + tabs.length < 2 ^ 64 → r.1.tabs.Numbered) := by
  induction tabs generalizing reg with
  | nil => exact ⟨.refl _, rfl, le_rfl, fun h _ => h⟩
  | cons tab tabs ih =>
    have htabs := tabSnapshot_tabs infoByPane tabLayouts activeTabId marks reg tab
    obtain ⟨hext, hall, hnext, hnum⟩ :=
      ih (tabSnapshot infoByPane tabLayouts activeTabId marks reg tab).1
    rw [htabs] at hext hnext hnum
    have hstep := reg.tabs.nextId_assign_le tab.tabId
    refine ⟨(reg.tabs.extends_assign tab.tabId).trans hext, ?_, ?_, fun h hlt => ?_⟩
    · have hid := hext _ _ (reg.tabs.byHerdr_assign_self tab.tabId)
      exact List.cons_eq_cons.mpr ⟨hid, hall⟩
    · simp only [mapState, List.length_cons]
      omega
    · rw [List.length_cons] at hlt
      exact hnum (HerdrTabRegistry.numbered_assign h (by omega) tab.tabId) (by omega)

/-- **A transcoded layout has the listed tabs**, under the numbers that the registry then has. -/
theorem transcodeLayout_tabs (tabs : List TabInfo) (panes : List PaneInfo)
    (tabLayouts : String → Option PaneLayoutSnapshot) (activeTabId : String) (marks : AgentMarks)
    (reg : Registries) :
    let r := transcodeLayout tabs panes tabLayouts activeTabId marks reg
    tabs.map (fun tab => r.1.tabs.byHerdr tab.tabId) =
        r.2.tabs.map (fun snap => some snap.tabId) ∧
      r.1.tabs.nextId ≤ reg.tabs.nextId + tabs.length ∧
      (reg.tabs.Numbered → reg.tabs.nextId + tabs.length < 2 ^ 64 → r.1.tabs.Numbered) :=
  (mapState_tabs (lastOf (·.paneId) panes) tabLayouts activeTabId marks tabs
    { reg with panes := registerPanes panes reg.panes }).2

/-! ### The layouts that either way finds -/

/-- The layout of a tab that has a pane in the workspace. -/
def layoutOfTab (d : SessionSnapshot) (workspaceId tabId : String) : Option PaneLayoutSnapshot :=
  if (d.panesOf workspaceId).any (·.tabId = tabId) then d.layouts.find? (·.tabId = tabId) else none

theorem tabLayout_snapshot (h : d.Coherent) {tab : TabInfo} (ht : tab ∈ d.tabsOf workspaceId) :
    tabLayout d.layouts (d.panesOf workspaceId) workspaceId tab.tabId =
      layoutOfTab d workspaceId tab.tabId := by
  obtain ⟨hmem, hspace⟩ := List.mem_filter.mp ht
  rw [decide_eq_true_eq] at hspace
  unfold tabLayout layoutOfTab
  by_cases hany : (d.panesOf workspaceId).any (·.tabId = tab.tabId) = true
  · rw [if_pos hany]
    refine List.find?_congr fun l hl => ?_
    by_cases hid : l.tabId = tab.tabId
    · simp [h.layouts l hl tab hmem hid, hspace, hid, hany]
    · simp [hid]
  · rw [if_neg hany, List.find?_eq_none]
    intro l _ hl
    simp only [Bool.and_eq_true, decide_eq_true_eq] at hl
    exact hany (hl.2 ▸ hl.1.2)

/-- Every layout fetched so far is that of its tab. -/
def Fetched (d : SessionSnapshot) (workspaceId : String)
    (tabLayouts : String → Option PaneLayoutSnapshot) : Prop :=
  ∀ tabId layout, tabLayouts tabId = some layout → layoutOfTab d workspaceId tabId = some layout

/-- `pane.layout` answers for the panes of a workspace. -/
def Answers (d : SessionSnapshot) (workspaceId : String) : Prop :=
  ∀ p ∈ d.panesOf workspaceId, ∃ layout, d.calls.paneLayout p.paneId = .ok layout

theorem representative_eq_none {tabId : String} :
    representative panes tabId = none ↔ ∀ p ∈ panes, p.tabId ≠ tabId := by
  simp [representative]

/-- The layout fetched for a tab through its representative pane. -/
theorem fetch_representative (h : d.Coherent) (ha : Answers d workspaceId) {tabId paneId : String}
    (hr : representative (d.panesOf workspaceId) tabId = some paneId) :
    ∃ layout, d.calls.paneLayout paneId = .ok layout ∧ layout.tabId = tabId ∧
      layoutOfTab d workspaceId tabId = some layout := by
  obtain ⟨p, hfind, rfl⟩ := Option.map_eq_some_iff.mp hr
  have hmem := List.mem_of_find?_eq_some hfind
  obtain rfl : p.tabId = tabId := by simpa using List.find?_some hfind
  obtain ⟨layout, hl⟩ := ha p hmem
  have hlayout : d.layouts.find? (·.tabId = p.tabId) = some layout := by
    rw [← h.layoutOfPane (List.mem_of_mem_filter hmem)]
    rcases ho : d.layoutOfPane p.paneId with _ | l
    · simp [SessionSnapshot.calls, ho] at hl
    · simpa [SessionSnapshot.calls, ho] using hl
  refine ⟨layout, hl, by simpa using List.find?_some hlayout, ?_⟩
  rw [layoutOfTab, if_pos, hlayout]
  exact List.any_eq_true.mpr ⟨p, hmem, by simp⟩

theorem layoutOfTab_eq_none {tabId : String}
    (hr : representative (d.panesOf workspaceId) tabId = none) :
    layoutOfTab d workspaceId tabId = none := by
  rw [layoutOfTab, if_neg]
  intro hany
  obtain ⟨p, hp, hid⟩ := List.any_eq_true.mp hany
  exact representative_eq_none.mp hr p hp (by simpa using hid)

/-- **The layouts fetched are those of the tabs.** -/
theorem fetchLayouts_spec (h : d.Coherent) (ha : Answers d workspaceId) (tabs : List TabInfo)
    {tabLayouts : String → Option PaneLayoutSnapshot} (hf : Fetched d workspaceId tabLayouts) :
    ∃ fetched,
      fetchLayouts d.calls.paneLayout (d.panesOf workspaceId) tabs tabLayouts = .ok fetched ∧
      Fetched d workspaceId fetched ∧
      (∀ tabId, (tabLayouts tabId).isSome → (fetched tabId).isSome) ∧
      ∀ tab ∈ tabs, fetched tab.tabId = layoutOfTab d workspaceId tab.tabId := by
  induction tabs generalizing tabLayouts with
  | nil => exact ⟨tabLayouts, rfl, hf, fun _ hs => hs, by simp⟩
  | cons tab tabs ih =>
    -- a layout that is known for the tab stays
    have hknown : ∀ {fetched : String → Option PaneLayoutSnapshot},
        Fetched d workspaceId fetched → (fetched tab.tabId).isSome →
        fetched tab.tabId = layoutOfTab d workspaceId tab.tabId := by
      intro fetched hf' hs
      obtain ⟨layout, hl⟩ := Option.isSome_iff_exists.mp hs
      rw [hl, hf' _ _ hl]
    by_cases hs : (tabLayouts tab.tabId).isSome = true
    · obtain ⟨fetched, heq, hf', hmono, htabs⟩ := ih hf
      refine ⟨fetched, by rw [fetchLayouts, if_pos hs, heq], hf', hmono, ?_⟩
      exact List.forall_mem_cons.mpr ⟨hknown hf' (hmono _ hs), htabs⟩
    rcases hr : representative (d.panesOf workspaceId) tab.tabId with _ | paneId
    · obtain ⟨fetched, heq, hf', hmono, htabs⟩ := ih hf
      refine ⟨fetched, by simp only [fetchLayouts, if_neg hs, hr, heq], hf', hmono, ?_⟩
      refine List.forall_mem_cons.mpr ⟨?_, htabs⟩
      rw [layoutOfTab_eq_none hr]
      rcases hfetched : fetched tab.tabId with _ | layout
      · rfl
      · exact absurd (hf' _ _ hfetched) (by rw [layoutOfTab_eq_none hr]; simp)
    · obtain ⟨layout, hcall, hid, hlayout⟩ := fetch_representative h ha hr
      have hf₁ : Fetched d workspaceId
          (Function.update tabLayouts layout.tabId (some layout)) := by
        intro tabId l hl
        rcases update_eq_some_iff.mp hl with ⟨rfl, rfl⟩ | ⟨-, hl⟩
        · rw [hid, hlayout]
        · exact hf tabId l hl
      obtain ⟨fetched, heq, hf', hmono, htabs⟩ := ih hf₁
      refine ⟨fetched, by simp only [fetchLayouts, if_neg hs, hr, hcall, heq], hf', ?_, ?_⟩
      · intro tabId hsome
        refine hmono tabId ?_
        rw [Function.update_apply]
        split
        · rfl
        · exact hsome
      · refine List.forall_mem_cons.mpr ⟨hknown hf' (hmono _ ?_), htabs⟩
        rw [hid, Function.update_self]
        rfl

/-! ### The two ways agree -/

theorem fanout_unknown (hw : d.workspaces.find? (·.workspaceId = workspaceId) = none) :
    fanout d.calls workspaceId = .error (.unknownSpace workspaceId) := by
  simp [fanout, hw, Except.mapError, bind, Except.bind]

theorem fanout_known {w : WorkspaceInfo} {fetched : String → Option PaneLayoutSnapshot}
    (hw : d.workspaces.find? (·.workspaceId = workspaceId) = some w)
    (hf : fetchLayouts d.calls.paneLayout (d.panesOf workspaceId) (d.tabsOf workspaceId)
      (fun _ => none) = .ok fetched) :
    fanout d.calls workspaceId =
      .ok (w.activeTabId, d.tabsOf workspaceId, d.panesOf workspaceId, fetched) := by
  simp [fanout, hw, hf, Except.mapError, bind, Except.bind]

theorem layoutFromSnapshot_known {w : WorkspaceInfo} (reg : Registries)
    (hw : d.workspaces.find? (·.workspaceId = workspaceId) = some w) :
    layoutFromSnapshot d workspaceId reg =
      some (transcodeLayout (d.tabsOf workspaceId) (d.panesOf workspaceId)
        (tabLayout d.layouts (d.panesOf workspaceId) workspaceId) w.activeTabId
        (.fromPanes (agentName d.agents)) reg) := by
  unfold layoutFromSnapshot
  rw [hw]
  rfl

theorem queryLayout_known {w : WorkspaceInfo} (reg : Registries)
    (hw : d.workspaces.find? (·.workspaceId = workspaceId) = some w) :
    queryLayout d.calls workspaceId reg =
      let r := transcodeLayout (d.tabsOf workspaceId) (d.panesOf workspaceId)
        (tabLayout d.layouts (d.panesOf workspaceId) workspaceId) w.activeTabId
        (.fromPanes (agentName d.agents)) reg
      (r.1, .ok r.2) := by
  have hlayout := layoutFromSnapshot_known reg hw
  simp only [queryLayout, SessionSnapshot.calls, hlayout]

/-- The calls give the layout of the snapshot, without the marks. -/
theorem queryLayoutFanout_eq (h : d.Coherent) (ha : Answers d workspaceId) (reg : Registries) :
    queryLayoutFanout d.calls workspaceId reg =
      match layoutFromSnapshot d workspaceId reg with
      | some (reg', layout) => (reg', .ok (unmarked layout))
      | none => (reg, .error (.unknownSpace workspaceId)) := by
  unfold queryLayoutFanout
  rcases hw : d.workspaces.find? (·.workspaceId = workspaceId) with _ | w
  · rw [fanout_unknown hw, layoutFromSnapshot, hw]
    rfl
  · have hempty : Fetched d workspaceId fun _ => none := by
      intro tabId layout hl
      exact absurd hl (by simp)
    obtain ⟨fetched, hf, -, -, htabs⟩ := fetchLayouts_spec h ha (d.tabsOf workspaceId) hempty
    have hagree : ∀ tab ∈ d.tabsOf workspaceId, fetched tab.tabId =
        tabLayout d.layouts (d.panesOf workspaceId) workspaceId tab.tabId :=
      fun tab ht => (htabs tab ht).trans (tabLayout_snapshot h ht).symm
    rw [fanout_known hw hf, layoutFromSnapshot_known reg hw]
    dsimp only
    rw [transcodeLayout_omit (.fromPanes (agentName d.agents)) hagree]

/-- **The two ways to a layout agree**: they know the same workspaces, and leave the same numbers
and the same layout apart from the marks. The answer does not depend on which of them served it. -/
theorem paths_agree (h : d.Coherent) (ha : Answers d workspaceId) (reg : Registries) :
    (queryLayoutFanout d.calls workspaceId reg =
      match layoutFromSnapshot d workspaceId reg with
      | some (reg', layout) => (reg', .ok (unmarked layout))
      | none => (reg, .error (.unknownSpace workspaceId))) ∧
    ∀ cause, queryLayout { d.calls with sessionSnapshot := .error cause } workspaceId reg =
      ((queryLayout d.calls workspaceId reg).1,
        (queryLayout d.calls workspaceId reg).2.map unmarked) := by
  have hfanout := queryLayoutFanout_eq h ha reg
  refine ⟨hfanout, fun cause => ?_⟩
  show queryLayoutFanout d.calls workspaceId reg = _
  have hquery : queryLayout d.calls workspaceId reg =
      match layoutFromSnapshot d workspaceId reg with
      | some (reg', layout) => (reg', .ok layout)
      | none => queryLayoutFanout d.calls workspaceId reg := rfl
  rw [hquery]
  rcases hl : layoutFromSnapshot d workspaceId reg with _ | ⟨reg', layout⟩
  · rw [hl] at hfanout
    rw [hfanout]
    rfl
  · rw [hl] at hfanout
    exact hfanout

/-- Two workspaces; the first has a tab with an agent's pane, and one that has a layout but no
pane. -/
def twoTabs : SessionSnapshot where
  workspaces := [⟨"w1", "main", true, "w1:t1", none⟩, ⟨"w2", "side", false, "w2:t1", none⟩]
  tabs := [⟨"w1:t1", "w1", 1, "edit"⟩, ⟨"w2:t1", "w2", 1, "run"⟩, ⟨"w1:t2", "w1", 2, "logs"⟩]
  panes := [⟨"w1:p1", "term-1", "w1", "w1:t1", none, none, some "claude", none, none, .blocked⟩]
  layouts := [⟨"w1", "w1:t1", true, [⟨"w1:p1", true, ⟨0, 0, 80, 24⟩⟩]⟩, ⟨"w1", "w1:t2", true, []⟩]
  agents := [⟨"w1:p1", some "reviewer"⟩]

/-- A pane that fills a screen of 80 by 24. -/
def wholeScreen : PaneLayoutRect := ⟨0, 0, 80, 24⟩

theorem paths_agree_twoTabs :
    (queryLayoutFanout twoTabs.calls "w1" ⟨.empty, .empty⟩ =
      match layoutFromSnapshot twoTabs "w1" ⟨.empty, .empty⟩ with
      | some (reg', layout) => (reg', .ok (unmarked layout))
      | none => (⟨.empty, .empty⟩, .error (.unknownSpace "w1"))) ∧
    ∀ cause, queryLayout { twoTabs.calls with sessionSnapshot := .error cause } "w1"
        ⟨.empty, .empty⟩ =
      ((queryLayout twoTabs.calls "w1" ⟨.empty, .empty⟩).1,
        (queryLayout twoTabs.calls "w1" ⟨.empty, .empty⟩).2.map unmarked) := by
  have hcoherent : twoTabs.Coherent := by
    refine ⟨by decide, by decide⟩
  have hanswers : Answers twoTabs "w1" := by
    intro p hp
    obtain rfl : p = twoTabs.panes.head (by decide) := by
      simpa [twoTabs, SessionSnapshot.panesOf] using hp
    exact ⟨_, rfl⟩
  exact paths_agree hcoherent hanswers ⟨.empty, .empty⟩

end MuxrCore.Herdr.Control
