import MuxrCore.Herdr.Control

/-! # The agent inventory beside the layout

The inventory and the layout are two readings of one snapshot, which number the panes and tabs in
the shared registries: the inventory by the agent records, the layout by the tabs of a workspace and
the panes of their layouts. A client joins the two by number.

Registries only grow (`Grows`), so a number that one reading gives is the one that the other finds,
whichever is first.

* `numbered_agents`: the entries have the numbers of the registries that the inventory leaves.
* `shown_transcodeLayout`: so have the tabs and panes of a layout.
* `keepsTerminals_agents`: no recorded terminal id is replaced by an empty one, while no two panes
  share a number.
* `agents_join_layout`: how the two agree. -/

namespace MuxrCore.Herdr.AgentInventory

open MuxrCore.Herdr.Api MuxrCore.Herdr.Registry MuxrCore.Herdr.Control
open MuxrCore.Multiplexer.Agents MuxrCore.Multiplexer.Layout
open MuxrCore.Herdr.Sender (Registries)
open MuxrCore.Herdr.Subscribe.Lines (HerdrAgentStatus)

/-- An agent record of a snapshot; one that parsed by its defaults only has empty ids. -/
structure AgentRecord extends AgentInfo where
  terminalId : String
  tabId : String
  workspaceId : String
  agent : Option String
  displayAgent : Option String
  agentStatus : HerdrAgentStatus
  title : Option String
  terminalTitleStripped : Option String
  tokens : String → Option String
  cwd : Option String
  foregroundCwd : Option String
  focused : Bool
  stateChangeSeq : ℕ
  completionSeq : Option ℕ

/-- A snapshot with all that its agent records say. -/
structure AgentSession where
  snapshot : SessionSnapshot
  records : List AgentRecord
  same : snapshot.agents = records.map (·.toAgentInfo)

/-- The terminal id of a record, or else of its pane. -/
def terminalOf (panes : List PaneInfo) (a : AgentRecord) : String :=
  let terminals := fun paneId => (lastOf (·.paneId) panes paneId).map (·.terminalId)
  ((nonEmpty (some a.terminalId)).or (terminals a.paneId)).getD ""

/-- The label of the record's workspace, or else its id. -/
def spaceName (workspaces : List WorkspaceInfo) (a : AgentRecord) : String :=
  ((lastOf (·.workspaceId) workspaces a.workspaceId).bind fun w => nonEmpty (some w.label)).getD
    a.workspaceId

/-- The label of the record's tab, or else its number; empty for a tab that is not listed. -/
def tabName (tabs : List TabInfo) (a : AgentRecord) : String :=
  ((lastOf (·.tabId) tabs a.tabId).map fun t =>
    (nonEmpty (some t.label)).getD (toString t.number)).getD ""

/-- The entry of a record, with the numbers of its pane and tab. -/
def entryOf (snapshot : SessionSnapshot) (a : AgentRecord) (pane tabId : ℕ) : AgentSnapshot where
  pane
  tabId
  spaceId := a.workspaceId
  spaceName := spaceName snapshot.workspaces a
  tabName := tabName snapshot.tabs a
  kind := agentKind a.agent a.displayAgent
  name := nonEmpty a.name
  displayKind := nonEmpty a.displayAgent
  status := neutralStatus a.agentStatus
  title := (nonEmpty a.title).or (nonEmpty a.terminalTitleStripped)
  summary := nonEmpty (a.tokens "summary")
  cwd := (nonEmpty a.foregroundCwd).or (nonEmpty a.cwd)
  focused := a.focused
  changeSeq := a.stateChangeSeq
  completionSeq := a.completionSeq

/-- One record: its pane is numbered, and its tab if it has one. -/
def agentSnapshot (snapshot : SessionSnapshot) (reg : Registries) (a : AgentRecord) :
    Registries × AgentSnapshot :=
  let panes := reg.panes.assignOrGetKeepTerminal a.paneId (terminalOf snapshot.panes a)
  let tabs := if a.tabId = "" then (reg.tabs, 0) else reg.tabs.assignOrGet a.tabId
  (⟨panes.1, tabs.1⟩, entryOf snapshot a panes.2 tabs.2)

/-- The records that name a pane. -/
def AgentSession.named (d : AgentSession) : List AgentRecord :=
  d.records.filter (·.paneId ≠ "")

/-- **The inventory**, by attention. -/
def agentsFromSnapshot (d : AgentSession) (reg : Registries) : Registries × List AgentSnapshot :=
  let (reg, agents) := mapState (agentSnapshot d.snapshot) reg d.named
  (reg, sortAgents agents)

/-! ### Growing registries -/

/-- Every number stays. -/
structure Grows (reg reg' : Registries) : Prop where
  panes : Extends reg.panes reg'.panes
  tabs : HerdrTabRegistry.Extends reg.tabs reg'.tabs

theorem Grows.refl (reg : Registries) : Grows reg reg := ⟨.refl _, .refl _⟩

theorem Grows.trans {reg reg' reg'' : Registries} (h : Grows reg reg') (h' : Grows reg' reg'') :
    Grows reg reg'' :=
  ⟨h.panes.trans h'.panes, h.tabs.trans h'.tabs⟩

section Map
variable {σ α β : Type} {f : σ → α → σ × β} {le : σ → σ → Prop}

/-- What a step leaves behind, and later steps keep, holds of all results in the end. -/
theorem mapState_spec (P : σ → α → β → Prop) (hrefl : ∀ s, le s s)
    (htrans : ∀ s t u, le s t → le t u → le s u) (hstep : ∀ s a, le s (f s a).1)
    (hkeep : ∀ s t a b, le s t → P s a b → P t a b) {as : List α}
    (hres : ∀ s, ∀ a ∈ as, P (f s a).1 a (f s a).2) (s : σ) :
    le s (mapState f s as).1 ∧
      List.Forall₂ (P (mapState f s as).1) as (mapState f s as).2 := by
  induction as generalizing s with
  | nil => exact ⟨hrefl s, .nil⟩
  | cons a as ih =>
    obtain ⟨hle, hall⟩ := ih (fun s b hb => hres s b (List.mem_cons_of_mem a hb)) (f s a).1
    exact ⟨htrans _ _ _ (hstep s a) hle,
      .cons (hkeep _ _ _ _ hle (hres s a List.mem_cons_self)) hall⟩

end Map

variable {d : AgentSession} {reg : Registries} {workspaceId : String}

/-! ### The entries -/

/-- The entry of a record, under the numbers of the registries. -/
structure Numbered (snapshot : SessionSnapshot) (after : Registries) (a : AgentRecord)
    (e : AgentSnapshot) : Prop where
  entry : e = entryOf snapshot a e.pane e.tabId
  pane : after.panes.byHerdr a.paneId = some e.pane
  tab : a.tabId ≠ "" → after.tabs.byHerdr a.tabId = some e.tabId
  tabless : a.tabId = "" → e.tabId = 0

theorem grows_agentSnapshot (snapshot : SessionSnapshot) (reg : Registries) (a : AgentRecord) :
    Grows reg (agentSnapshot snapshot reg a).1 := by
  refine ⟨extends_assign _ _ _ _, ?_⟩
  show HerdrTabRegistry.Extends _ (if a.tabId = "" then (reg.tabs, 0) else _).1
  split_ifs
  · exact .refl _
  · exact HerdrTabRegistry.extends_assign _ _

theorem numbered_agentSnapshot (snapshot : SessionSnapshot) (reg : Registries) (a : AgentRecord) :
    Numbered snapshot (agentSnapshot snapshot reg a).1 a (agentSnapshot snapshot reg a).2 where
  entry := rfl
  pane := byHerdr_assign_self _ _ _ _
  tab h := by
    show (if a.tabId = "" then (reg.tabs, 0) else _).1.byHerdr a.tabId =
      some (if a.tabId = "" then (reg.tabs, 0) else _).2
    rw [if_neg h]
    exact HerdrTabRegistry.byHerdr_assign_self _ _
  tabless h := by
    show (if a.tabId = "" then (reg.tabs, 0) else _).2 = 0
    rw [if_pos h]

theorem Numbered.grows {snapshot : SessionSnapshot} {reg reg' : Registries} {a : AgentRecord}
    {e : AgentSnapshot} (h : Numbered snapshot reg a e) (hg : Grows reg reg') :
    Numbered snapshot reg' a e :=
  ⟨h.entry, hg.panes _ _ h.pane, fun ht => hg.tabs _ _ (h.tab ht), h.tabless⟩

theorem numbered_records (snapshot : SessionSnapshot) (records : List AgentRecord)
    (reg : Registries) :
    Grows reg (mapState (agentSnapshot snapshot) reg records).1 ∧
      List.Forall₂ (Numbered snapshot (mapState (agentSnapshot snapshot) reg records).1) records
        (mapState (agentSnapshot snapshot) reg records).2 :=
  mapState_spec (Numbered snapshot) Grows.refl (fun _ _ _ => Grows.trans)
    (grows_agentSnapshot snapshot) (fun _ _ _ _ hg h => h.grows hg)
    (fun reg a _ => numbered_agentSnapshot snapshot reg a) reg

/-- **The inventory has one entry for each record that names a pane**, under the numbers of the
registries that it leaves. -/
theorem numbered_agents (d : AgentSession) (reg : Registries) :
    Grows reg (agentsFromSnapshot d reg).1 ∧ ∃ entries,
      (agentsFromSnapshot d reg).2.Perm entries ∧
      List.Forall₂ (Numbered d.snapshot (agentsFromSnapshot d reg).1) d.named entries := by
  obtain ⟨hgrows, hall⟩ := numbered_records d.snapshot d.named reg
  exact ⟨hgrows, _, sortAgents_perm _, hall⟩

/-! ### The layout -/

/-- The panes that the layout of a tab shows. -/
def panesOfTab (tabLayouts : String → Option PaneLayoutSnapshot) (tab : TabInfo) :
    List PaneLayoutPane :=
  ((tabLayouts tab.tabId).map (·.panes)).getD []

/-- A tab of a layout, with its panes, under the numbers of the registries. -/
structure Shown (tabLayouts : String → Option PaneLayoutSnapshot) (after : Registries)
    (tab : TabInfo) (ts : TabSnapshot) : Prop where
  number : after.tabs.byHerdr tab.tabId = some ts.tabId
  panes : List.Forall₂ (fun lp ps => after.panes.byHerdr lp.paneId = some ps.id)
    (panesOfTab tabLayouts tab) ts.panes

theorem Shown.grows {tabLayouts : String → Option PaneLayoutSnapshot} {reg reg' : Registries}
    {tab : TabInfo} {ts : TabSnapshot} (h : Shown tabLayouts reg tab ts) (hg : Grows reg reg') :
    Shown tabLayouts reg' tab ts :=
  ⟨hg.tabs _ _ h.number, h.panes.imp fun _ _ hp => hg.panes _ _ hp⟩

/-- The panes of one tab. -/
theorem shown_panes (infoByPane : String → Option PaneInfo) (zoomed : Bool) (marks : AgentMarks)
    (lps : List PaneLayoutPane) (reg : HerdrPaneRegistry) :
    Extends reg (mapState (paneSnapshot infoByPane zoomed marks) reg lps).1 ∧
      List.Forall₂ (fun lp ps =>
        (mapState (paneSnapshot infoByPane zoomed marks) reg lps).1.byHerdr lp.paneId =
          some ps.id) lps (mapState (paneSnapshot infoByPane zoomed marks) reg lps).2 := by
  refine mapState_spec (fun (reg : HerdrPaneRegistry) (lp : PaneLayoutPane) (ps : PaneSnapshot) =>
    reg.byHerdr lp.paneId = some ps.id) Extends.refl (fun _ _ _ => Extends.trans)
    (fun reg lp => extends_assign _ _ _ _) (fun _ _ _ _ hle h => hle _ _ h) (fun reg lp _ => ?_) reg
  exact byHerdr_assignOrGet_self reg lp.paneId _

/-- One tab. -/
theorem shown_tabSnapshot (infoByPane : String → Option PaneInfo)
    (tabLayouts : String → Option PaneLayoutSnapshot) (activeTabId : String) (marks : AgentMarks)
    (reg : Registries) (tab : TabInfo) :
    Grows reg (tabSnapshot infoByPane tabLayouts activeTabId marks reg tab).1 ∧
      Shown tabLayouts (tabSnapshot infoByPane tabLayouts activeTabId marks reg tab).1 tab
        (tabSnapshot infoByPane tabLayouts activeTabId marks reg tab).2 := by
  obtain ⟨hpanes, hshown⟩ := shown_panes infoByPane
    (((tabLayouts tab.tabId).map (·.zoomed)).getD false) marks (panesOfTab tabLayouts tab) reg.panes
  exact ⟨⟨hpanes, HerdrTabRegistry.extends_assign _ _⟩,
    ⟨HerdrTabRegistry.byHerdr_assign_self _ _, hshown⟩⟩

/-- **The tabs and panes of a layout** have the numbers of the registries that it leaves. -/
theorem shown_transcodeLayout (tabs : List TabInfo) (panes : List PaneInfo)
    (tabLayouts : String → Option PaneLayoutSnapshot) (activeTabId : String) (marks : AgentMarks)
    (reg : Registries) :
    Grows reg (transcodeLayout tabs panes tabLayouts activeTabId marks reg).1 ∧
      List.Forall₂
        (Shown tabLayouts (transcodeLayout tabs panes tabLayouts activeTabId marks reg).1) tabs
        (transcodeLayout tabs panes tabLayouts activeTabId marks reg).2.tabs := by
  obtain ⟨hgrows, hall⟩ := mapState_spec (Shown tabLayouts) Grows.refl (fun _ _ _ => Grows.trans)
    (fun reg tab => (shown_tabSnapshot (lastOf (·.paneId) panes) tabLayouts activeTabId marks reg
      tab).1)
    (fun _ _ _ _ hg h => h.grows hg)
    (fun reg tab (_ : tab ∈ tabs) => (shown_tabSnapshot (lastOf (·.paneId) panes) tabLayouts
      activeTabId marks reg tab).2)
    { reg with panes := registerPanes panes reg.panes }
  have hfirst : Grows reg { reg with panes := registerPanes panes reg.panes } :=
    ⟨extends_foldl PaneInfo.paneId PaneInfo.terminalId panes reg.panes, .refl _⟩
  exact ⟨hfirst.trans hgrows, hall⟩

/-! ### Terminal ids -/

/-- No recorded terminal id is replaced by an empty one. -/
def KeepsTerminals (reg reg' : HerdrPaneRegistry) : Prop :=
  ∀ pane terminal, reg.recorded pane = some terminal → terminal ≠ "" →
    ∃ terminal', reg'.recorded pane = some terminal' ∧ terminal' ≠ ""

/-- A pane of the inventory: an empty terminal id is written for a new pane only, and its number is
not that of another one. -/
theorem keepsTerminals_assign {reg : HerdrPaneRegistry} {pane terminal : String}
    (h : Distinct (reg.assignOrGetKeepTerminal pane terminal).1) :
    KeepsTerminals reg (reg.assignOrGetKeepTerminal pane terminal).1 := by
  intro q t hq ht
  obtain ⟨id, entry, hid, he, rfl⟩ := recorded_eq_some.mp hq
  have hgrown := extends_assign reg pane terminal (terminal ≠ "") q id hid
  unfold HerdrPaneRegistry.assignOrGetKeepTerminal at h ⊢
  rcases hp : reg.byHerdr pane with - | id'
  · rw [assign_fresh hp] at h hgrown ⊢
    have hself : Function.update reg.byHerdr pane (some reg.nextId) pane = some reg.nextId :=
      Function.update_self _ _ _
    have hne : id ≠ reg.nextId := by
      rintro rfl
      obtain rfl : q = pane := h q pane _ hgrown hself
      rw [hp] at hid
      cases hid
    refine ⟨entry.terminalId, recorded_eq_some.mpr ⟨id, entry, hgrown, ?_, rfl⟩, ht⟩
    rw [← he]
    exact Function.update_of_ne hne _ _
  · by_cases hempty : terminal = ""
    · rw [show decide (terminal ≠ "") = false from decide_eq_false (not_not.mpr hempty),
        assign_keep hp]
      exact ⟨entry.terminalId, hq, ht⟩
    · rw [show decide (terminal ≠ "") = true from decide_eq_true hempty] at hgrown ⊢
      rcases he' : reg.byId id' with - | entry'
      · have hsame : (reg.assignOrGetInner pane terminal true).1 = reg := by
          simp [HerdrPaneRegistry.assignOrGetInner, hp, he']
        rw [hsame]
        exact ⟨entry.terminalId, hq, ht⟩
      · rw [assign_refresh hp he'] at hgrown ⊢
        by_cases hsame : id = id'
        · subst hsame
          exact ⟨terminal, recorded_eq_some.mpr ⟨id, _, hgrown, Function.update_self _ _ _, rfl⟩,
            hempty⟩
        · refine ⟨entry.terminalId, recorded_eq_some.mpr ⟨id, entry, hgrown, ?_, rfl⟩, ht⟩
          rw [← he]
          exact Function.update_of_ne hsame _ _

theorem keepsTerminals_records (snapshot : SessionSnapshot) (records : List AgentRecord)
    (reg : Registries) (h : Distinct (mapState (agentSnapshot snapshot) reg records).1.panes) :
    KeepsTerminals reg.panes (mapState (agentSnapshot snapshot) reg records).1.panes := by
  induction records generalizing reg with
  | nil => exact fun _ terminal hq ht => ⟨terminal, hq, ht⟩
  | cons a records ih =>
    intro q t hq ht
    have hrest := (numbered_records snapshot records (agentSnapshot snapshot reg a).1).1
    have hfirst : Distinct (agentSnapshot snapshot reg a).1.panes := h.of_extends hrest.panes
    obtain ⟨t', hq', ht'⟩ := keepsTerminals_assign hfirst q t hq ht
    exact ih (agentSnapshot snapshot reg a).1 h q t' hq' ht'

/-- **The inventory keeps the terminal ids**, while no two panes share a number. -/
theorem keepsTerminals_agents (d : AgentSession) (reg : Registries)
    (h : Distinct (agentsFromSnapshot d reg).1.panes) :
    KeepsTerminals reg.panes (agentsFromSnapshot d reg).1.panes :=
  keepsTerminals_records d.snapshot d.named reg h

/-! ### Inventory and layout -/

/-- The layout gives the tab this number. -/
def GivesTab (snapshot : SessionSnapshot) (workspaceId : String) (layout : LayoutSnapshot)
    (tab : String) (n : ℕ) : Prop :=
  ∃ (t : TabInfo) (ts : TabSnapshot), (t, ts) ∈ (snapshot.tabsOf workspaceId).zip layout.tabs ∧
    t.tabId = tab ∧ ts.tabId = n

/-- The layout gives the pane this number, in one of its tabs. -/
def GivesPane (snapshot : SessionSnapshot) (workspaceId : String) (layout : LayoutSnapshot)
    (pane : String) (n : ℕ) : Prop :=
  let tabLayouts := tabLayout snapshot.layouts (snapshot.panesOf workspaceId) workspaceId
  ∃ (t : TabInfo) (ts : TabSnapshot), (t, ts) ∈ (snapshot.tabsOf workspaceId).zip layout.tabs ∧
    ∃ (lp : PaneLayoutPane) (ps : PaneSnapshot), (lp, ps) ∈ (panesOfTab tabLayouts t).zip ts.panes ∧
      lp.paneId = pane ∧ ps.id = n

/-- The layout of a workspace is read just before the inventory is taken, or just after. -/
inductive ReadBeside (d : AgentSession) (reg : Registries) (workspaceId : String)
    (layout : LayoutSnapshot) : Prop
  | before (prior : Registries)
      (h : layoutFromSnapshot d.snapshot workspaceId prior = some (reg, layout))
  | after (later : Registries)
      (h : layoutFromSnapshot d.snapshot workspaceId (agentsFromSnapshot d reg).1 =
        some (later, layout))

/-- What a layout gives are the numbers of the registries that it leaves. -/
theorem layoutFromSnapshot_gives {snapshot : SessionSnapshot} {after : Registries}
    {layout : LayoutSnapshot}
    (h : layoutFromSnapshot snapshot workspaceId reg = some (after, layout)) :
    Grows reg after ∧
      (∀ tab n, GivesTab snapshot workspaceId layout tab n → after.tabs.byHerdr tab = some n) ∧
      ∀ pane n, GivesPane snapshot workspaceId layout pane n →
        after.panes.byHerdr pane = some n := by
  obtain ⟨w, -, hw⟩ := Option.map_eq_some_iff.mp h
  obtain ⟨hgrows, hall⟩ := shown_transcodeLayout (snapshot.tabsOf workspaceId)
    (snapshot.panesOf workspaceId)
    (tabLayout snapshot.layouts (snapshot.panesOf workspaceId) workspaceId) w.activeTabId
    (.fromPanes (agentName snapshot.agents)) reg
  change transcodeLayout (snapshot.tabsOf workspaceId) (snapshot.panesOf workspaceId)
    (tabLayout snapshot.layouts (snapshot.panesOf workspaceId) workspaceId) w.activeTabId
    (.fromPanes (agentName snapshot.agents)) reg = (after, layout) at hw
  rw [hw] at hgrows hall
  refine ⟨hgrows, ?_, ?_⟩
  · rintro tab n ⟨t, ts, ht, rfl, rfl⟩
    exact (List.forall₂_zip hall ht).number
  · rintro pane n ⟨t, ts, ht, lp, ps, hp, rfl, rfl⟩
    exact List.forall₂_zip (List.forall₂_zip hall ht).panes hp

/-- The entry of a record has the numbers that a layout gives its pane and its tab. -/
structure Joins (snapshot : SessionSnapshot) (workspaceId : String) (layout : LayoutSnapshot)
    (a : AgentRecord) (e : AgentSnapshot) : Prop where
  pane : ∀ n, GivesPane snapshot workspaceId layout a.paneId n → e.pane = n
  tab : a.tabId ≠ "" → ∀ n, GivesTab snapshot workspaceId layout a.tabId n → e.tabId = n

theorem joins_of_numbered {snapshot : SessionSnapshot} {after : Registries}
    {layout : LayoutSnapshot} {a : AgentRecord} {e : AgentSnapshot}
    (he : Numbered snapshot after a e)
    (htab : ∀ tab n, GivesTab snapshot workspaceId layout tab n → after.tabs.byHerdr tab = some n)
    (hpane : ∀ pane n, GivesPane snapshot workspaceId layout pane n →
      after.panes.byHerdr pane = some n) :
    Joins snapshot workspaceId layout a e where
  pane n hn := Option.some.inj (he.pane.symm.trans (hpane _ n hn))
  tab ht n hn := Option.some.inj ((he.tab ht).symm.trans (htab _ n hn))

/-- **The inventory and the layout agree**, whichever is read first. The inventory has one entry for
each record that names a pane. An entry has the number that a layout gives its pane, and, if the
record names a tab, the one that a layout gives that tab, or else zero. Known panes and tabs keep
their numbers, and, while no two panes share a number, no terminal id is erased. -/
theorem agents_join_layout (d : AgentSession) (reg : Registries) :
    (∃ entries, (agentsFromSnapshot d reg).2.Perm entries ∧
      List.Forall₂ (fun a e => e = entryOf d.snapshot a e.pane e.tabId ∧
        (a.tabId = "" → e.tabId = 0) ∧
        ∀ workspaceId layout, ReadBeside d reg workspaceId layout →
          Joins d.snapshot workspaceId layout a e) d.named entries) ∧
    Grows reg (agentsFromSnapshot d reg).1 ∧
    (Distinct (agentsFromSnapshot d reg).1.panes →
      KeepsTerminals reg.panes (agentsFromSnapshot d reg).1.panes) := by
  obtain ⟨hgrows, entries, hperm, hall⟩ := numbered_agents d reg
  refine ⟨⟨entries, hperm, hall.imp fun a e he => ⟨he.entry, he.tabless, ?_⟩⟩, hgrows,
    keepsTerminals_agents d reg⟩
  rintro workspaceId layout (⟨prior, hread⟩ | ⟨later, hread⟩)
  · -- the inventory finds the numbers of the layout
    obtain ⟨-, htab, hpane⟩ := layoutFromSnapshot_gives hread
    exact joins_of_numbered he (fun tab n hn => hgrows.tabs _ _ (htab tab n hn))
      fun pane n hn => hgrows.panes _ _ (hpane pane n hn)
  · -- the layout finds the numbers of the inventory
    obtain ⟨hlater, htab, hpane⟩ := layoutFromSnapshot_gives hread
    exact joins_of_numbered (he.grows hlater) htab hpane

/-- One pane in the one tab, and one agent record. -/
def oneAgent (paneId tabId terminalId : String) : AgentSession where
  snapshot :=
    { workspaces := [⟨"w1", "work", true, "t1", none⟩]
      tabs := [⟨"t1", "w1", 1, "main"⟩]
      panes := [⟨"p1", "term-1", "w1", "t1", none, none, some "claude", none, none, .idle⟩]
      layouts := [⟨"w1", "t1", false, [⟨"p1", true, wholeScreen⟩]⟩]
      agents := [⟨paneId, none⟩] }
  records :=
    [{ paneId, name := none, terminalId, tabId, workspaceId := "w1", agent := some "claude"
       displayAgent := none, agentStatus := .idle, title := none, terminalTitleStripped := none
       tokens := fun _ => none, cwd := none, foregroundCwd := none, focused := true
       stateChangeSeq := 1, completionSeq := none }]
  same := rfl

/-- The layout is read first, and the inventory finds its numbers. -/
theorem agents_join_layout_read :
    ∃ reg layout, layoutFromSnapshot (oneAgent "p1" "t1" "").snapshot "w1" ⟨.empty, .empty⟩ =
        some (reg, layout) ∧
      ∃ e, (agentsFromSnapshot (oneAgent "p1" "t1" "") reg).2 = [e] ∧ e.pane = 1 ∧ e.tabId = 1 := by
  refine ⟨_, _, rfl, ?_⟩
  obtain ⟨⟨entries, hperm, hall⟩, -, -⟩ := agents_join_layout (oneAgent "p1" "t1" "") _
  have hnamed : (oneAgent "p1" "t1" "").named = [(oneAgent "p1" "t1" "").records[0]] := rfl
  rw [hnamed] at hall
  rcases hall with - | ⟨⟨-, -, hjoin⟩, hnil⟩
  cases hnil
  have hj := hjoin "w1" _ (.before ⟨.empty, .empty⟩ rfl)
  refine ⟨_, List.perm_singleton.mp hperm, hj.pane 1 ?_, hj.tab (by decide) 1 ?_⟩
  · exact ⟨_, _, List.mem_cons_self, _, _, List.mem_cons_self, rfl, rfl⟩
  · exact ⟨_, _, List.mem_cons_self, rfl, rfl⟩

/-- The numbers of a layout: of each tab, with those of its panes. -/
def layoutNumbers (layout : LayoutSnapshot) : List (ℕ × List ℕ) :=
  layout.tabs.map fun t => (t.tabId, t.panes.map (·.id))

/-- A registry of which only the last number is left. -/
def exhausted : HerdrPaneRegistry where
  nextId := 2 ^ 32 - 1
  byHerdr pane := if pane = "p1" then some (2 ^ 32 - 1) else none
  byId id := if id = 2 ^ 32 - 1 then some ⟨"p1", "term-1"⟩ else none

/-- The record of `p1` names no tab, and so its entry has not the number of the tab of `p1`; and
when the numbers are exhausted, the unknown `p9` takes that of `p1`, and its terminal id. -/
theorem tabless_and_exhausted :
    ((agentsFromSnapshot (oneAgent "p1" "" "term-1") ⟨.empty, .empty⟩).2.map
        fun e => (e.pane, e.tabId)) = [(1, 0)] ∧
    (layoutFromSnapshot (oneAgent "p1" "" "term-1").snapshot "w1"
        (agentsFromSnapshot (oneAgent "p1" "" "term-1") ⟨.empty, .empty⟩).1).map
      (fun r => layoutNumbers r.2) = some [(1, [1])] ∧
    ¬ KeepsTerminals exhausted
      (agentsFromSnapshot (oneAgent "p9" "t1" "") ⟨exhausted, .empty⟩).1.panes := by
  refine ⟨?_, rfl, fun h => ?_⟩
  · have hsort : (agentsFromSnapshot (oneAgent "p1" "" "term-1") ⟨.empty, .empty⟩).2 =
        (mapState (agentSnapshot (oneAgent "p1" "" "term-1").snapshot) ⟨.empty, .empty⟩
          (oneAgent "p1" "" "term-1").named).2 := List.mergeSort_singleton _
    rw [hsort]
    rfl
  obtain ⟨terminal, hrec, hne⟩ := h "p1" "term-1" rfl (by decide)
  have hlost : (agentsFromSnapshot (oneAgent "p9" "t1" "") ⟨exhausted, .empty⟩).1.panes.recorded
      "p1" = some "" := rfl
  rw [hlost, Option.some.injEq] at hrec
  exact hne hrec.symm

end MuxrCore.Herdr.AgentInventory
