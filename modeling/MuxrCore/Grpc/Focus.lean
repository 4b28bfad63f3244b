import MuxrCore.Grpc.Layout

/-! # The active tab and the focused panes of an answer

The caller's view takes the place of the queried focus in the tab that it is scoped to, if any: that
tab is the active one, and the tracked pane the focused one. If the snapshot has that tab, one tab
is active; and a tab with visible panes has a focused one, but for the tab of the view while the
tracked pane is not among its visible panes (`keeps_focus`). A tracked tab that was closed makes no
tab active (`view_loses_focus`). -/

namespace MuxrCore.Grpc.Focus

open MuxrCore.Multiplexer.Layout MuxrCore.Relay.Control MuxrCore.Relay.View MuxrCore.Grpc.Layout

/-- A tab is active, and each tab with visible panes has a focused one. -/
structure Focused (snapshot : LayoutSnapshot) : Prop where
  active : ∃ tab ∈ snapshot.tabs, tab.active = true
  focused : ∀ tab ∈ snapshot.tabs, (∃ p ∈ tab.panes, paneIsClientVisible p.isPlugin = true) →
    ∃ p ∈ tab.panes, paneIsClientVisible p.isPlugin = true ∧ p.isFocused = true

/-- The snapshot has the tab that the view is scoped to, once. -/
def Scoped (snapshot : LayoutSnapshot) (relayVs : Option RelayViewState) : Prop :=
  ∀ tabId, resolveEffectiveActiveTab relayVs snapshot = some tabId →
    snapshot.tabs.countP (·.tabId = tabId) = 1

/-- A tab is active; exactly one, if the view is scoped to one. -/
structure ActiveKept (snapshot : LayoutSnapshot) (relayVs : Option RelayViewState) : Prop where
  some_active : ∃ tab ∈ buildTabMsgs snapshot relayVs, tab.active = true
  one_active : ∀ tabId, resolveEffectiveActiveTab relayVs snapshot = some tabId →
    (∃ tab ∈ snapshot.tabs, tab.tabId = tabId) →
      (buildTabMsgs snapshot relayVs).countP (·.active) = 1

/-- Every tab with visible panes has a focused one. -/
def FocusKept (snapshot : LayoutSnapshot) (relayVs : Option RelayViewState) : Prop :=
  ∀ tab ∈ buildTabMsgs snapshot relayVs, tab.panes ≠ [] → ∃ p ∈ tab.panes, p.isFocused = true

/-- The tab that was sent is the one the view is scoped to, and does not show the tracked pane. -/
def Unshown (snapshot : LayoutSnapshot) (relayVs : Option RelayViewState) (tab : TabMsg) : Prop :=
  (resolveEffectiveActiveTab relayVs snapshot).isSome = true ∧ tab.active = true ∧
    ∃ fp, relayVs.bind (·.focusedPane) = some fp ∧
      ∀ p ∈ tab.panes, (⟨p.id, p.isPlugin⟩ : PaneRef) ≠ fp

variable {snapshot : LayoutSnapshot} {relayVs : Option RelayViewState}

/-! ### One tab -/

/-- The tab is the one the view is scoped to. -/
def inScope (snapshot : LayoutSnapshot) (relayVs : Option RelayViewState) (tab : TabSnapshot) :
    Bool :=
  ((resolveEffectiveActiveTab relayVs snapshot).map fun tabId => decide (tab.tabId = tabId)).getD
    false

theorem mem_buildTabMsgs {msg : TabMsg} (h : msg ∈ buildTabMsgs snapshot relayVs) :
    ∃ tab ∈ snapshot.tabs,
      msg.active = ((resolveEffectiveActiveTab relayVs snapshot).map fun tabId =>
        decide (tab.tabId = tabId)).getD tab.active ∧
      msg.panes = (tab.panes.filter fun p => paneIsClientVisible p.isPlugin).map
        (paneMsg relayVs (inScope snapshot relayVs tab)) := by
  obtain ⟨tab, htab, rfl⟩ := List.mem_map.mp h
  exact ⟨tab, htab, rfl, rfl⟩

theorem active_of_scoped {tabId : ℕ}
    (h : resolveEffectiveActiveTab relayVs snapshot = some tabId) :
    (buildTabMsgs snapshot relayVs).countP (·.active) =
      snapshot.tabs.countP (·.tabId = tabId) := by
  unfold buildTabMsgs
  rw [List.countP_map]
  simp only [h, Option.map_some, Option.getD_some]
  rfl

/-- Out of scope the queried focus is sent. -/
theorem isFocused_out (p : PaneSnapshot) :
    (paneMsg relayVs false p).isFocused = p.isFocused := rfl

/-- In scope the tracked pane has the focus, if one is tracked. -/
theorem isFocused_in (p : PaneSnapshot) :
    (paneMsg relayVs true p).isFocused =
      ((relayVs.bind (·.focusedPane)).map fun fp => decide (p.ref = fp)).getD p.isFocused := by
  show ((relayVs.bind (·.focusedPane)).map fun fp =>
    decide (fp.isPlugin = p.isPlugin) && decide (fp.id = p.id)).getD p.isFocused = _
  rcases relayVs.bind (·.focusedPane) with _ | ⟨id, isPlugin⟩
  · rfl
  · rw [Option.map_some, Option.map_some, Option.getD_some, Option.getD_some,
      ← Bool.decide_and]
    refine decide_eq_decide.mpr ?_
    rw [PaneSnapshot.ref, PaneRef.mk.injEq, and_comm, eq_comm (a := id),
      eq_comm (a := isPlugin)]

/-- Where the queried focus is sent, a tab with visible panes has a focused one. -/
theorem focused_of_queried (h : Focused snapshot) {tab : TabSnapshot} (htab : tab ∈ snapshot.tabs)
    {f : PaneSnapshot → PaneMsg} (hf : ∀ p, (f p).isFocused = p.isFocused)
    (hne : (tab.panes.filter fun p => paneIsClientVisible p.isPlugin).map f ≠ []) :
    ∃ p ∈ (tab.panes.filter fun p => paneIsClientVisible p.isPlugin).map f,
      p.isFocused = true := by
  obtain ⟨msg, hmsg⟩ := List.exists_mem_of_ne_nil _ hne
  obtain ⟨p, hp, -⟩ := List.mem_map.mp hmsg
  obtain ⟨hp, hvisible⟩ := List.mem_filter.mp hp
  obtain ⟨q, hq, hqvisible, hqfocused⟩ := h.focused tab htab ⟨p, hp, hvisible⟩
  exact ⟨f q, List.mem_map_of_mem (List.mem_filter.mpr ⟨hq, hqvisible⟩), (hf q).trans hqfocused⟩

/-! ### All tabs -/

theorem activeKept_of_scoped (h : Focused snapshot) (hs : Scoped snapshot relayVs) :
    ActiveKept snapshot relayVs := by
  refine ⟨?_, fun tabId heff _ => (active_of_scoped heff).trans (hs tabId heff)⟩
  rcases heff : resolveEffectiveActiveTab relayVs snapshot with _ | tabId
  · obtain ⟨tab, htab, hactive⟩ := h.active
    refine ⟨_, List.mem_map_of_mem htab, ?_⟩
    simp only [heff, Option.map_none, Option.getD_none]
    exact hactive
  · have hone : 0 < (buildTabMsgs snapshot relayVs).countP (·.active) := by
      rw [active_of_scoped heff, hs tabId heff]
      exact Nat.one_pos
    exact List.countP_pos_iff.mp hone

theorem focused_iff (h : Focused snapshot) {msg : TabMsg}
    (hmsg : msg ∈ buildTabMsgs snapshot relayVs) (hne : msg.panes ≠ []) :
    (∃ p ∈ msg.panes, p.isFocused = true) ↔ ¬ Unshown snapshot relayVs msg := by
  obtain ⟨tab, htab, hactive, hpanes⟩ := mem_buildTabMsgs hmsg
  by_cases hscope : inScope snapshot relayVs tab = true
  · rw [hscope] at hpanes
    obtain ⟨tabId, heff, htabId⟩ :
        ∃ tabId, resolveEffectiveActiveTab relayVs snapshot = some tabId ∧
          tab.tabId = tabId := by
      unfold inScope at hscope
      rcases heff : resolveEffectiveActiveTab relayVs snapshot with _ | tabId
      · simp [heff] at hscope
      · exact ⟨tabId, rfl, by simpa [heff] using hscope⟩
    have hmsgActive : msg.active = true := by
      rw [hactive, heff]
      simpa using htabId
    rcases htracked : relayVs.bind (·.focusedPane) with _ | fp
    · -- no pane is tracked
      have hqueried : ∀ p, (paneMsg relayVs true p).isFocused = p.isFocused := by
        intro p
        rw [isFocused_in, htracked]
        rfl
      have hfocused := focused_of_queried h htab hqueried (hpanes ▸ hne)
      rw [← hpanes] at hfocused
      refine iff_of_true hfocused ?_
      rintro ⟨-, -, fp, hfp, -⟩
      exact absurd (htracked.symm.trans hfp) (by simp)
    · have hfocus : ∀ p ∈ msg.panes,
          (p.isFocused = true ↔ (⟨p.id, p.isPlugin⟩ : PaneRef) = fp) := by
        intro p hp
        rw [hpanes] at hp
        obtain ⟨q, -, rfl⟩ := List.mem_map.mp hp
        rw [isFocused_in, htracked]
        exact decide_eq_true_iff
      constructor
      · rintro ⟨p, hp, hfocused⟩ ⟨-, -, fp', hfp', hnone⟩
        obtain rfl := Option.some.inj (htracked.symm.trans hfp')
        exact hnone p hp ((hfocus p hp).mp hfocused)
      · intro hshown
        by_contra hnone
        refine hshown ⟨by rw [heff]; rfl, hmsgActive, fp, htracked, fun p hp heq => ?_⟩
        exact hnone ⟨p, hp, (hfocus p hp).mpr heq⟩
  · rw [Bool.not_eq_true] at hscope
    rw [hscope] at hpanes
    have hfocused := focused_of_queried h htab (fun p => isFocused_out p) (hpanes ▸ hne)
    rw [← hpanes] at hfocused
    refine iff_of_true hfocused ?_
    rintro ⟨hsome, hmsgActive, -⟩
    obtain ⟨tabId, heff⟩ := Option.isSome_iff_exists.mp hsome
    rw [hactive, heff] at hmsgActive
    rw [inScope, heff] at hscope
    exact absurd (hscope.symm.trans hmsgActive) (by simp)

/-- **A tab is active if the snapshot has the tab of the view, and every tab with visible panes has
a focused one**, but for the tab of the view while the tracked pane is not shown there. -/
theorem keeps_focus (h : Focused snapshot) :
    (Scoped snapshot relayVs → ActiveKept snapshot relayVs) ∧
      ∀ msg ∈ buildTabMsgs snapshot relayVs, msg.panes ≠ [] →
        ((∃ p ∈ msg.panes, p.isFocused = true) ↔ ¬ Unshown snapshot relayVs msg) :=
  ⟨activeKept_of_scoped h, fun _ hmsg hne => focused_iff h hmsg hne⟩

/-! ### Views that fit -/

/-- The tab a view is scoped to without a tracked one is a tab of the snapshot. -/
theorem exists_of_effective {tabId : ℕ}
    (hopen : ∀ vs, relayVs = some vs → ∀ tabId, vs.activeTab = some tabId →
      ∃ tab ∈ snapshot.tabs, tab.tabId = tabId)
    (h : resolveEffectiveActiveTab relayVs snapshot = some tabId) :
    ∃ tab ∈ snapshot.tabs, tab.tabId = tabId := by
  unfold resolveEffectiveActiveTab at h
  obtain ⟨vs, hvs, h⟩ := Option.bind_eq_some_iff.mp h
  rcases Option.or_eq_some_iff.mp h with htracked | ⟨-, hderived⟩
  · exact hopen vs hvs tabId htracked
  · obtain ⟨fp, -, hfind⟩ := Option.bind_eq_some_iff.mp hderived
    obtain ⟨tab, hfound, rfl⟩ := Option.map_eq_some_iff.mp hfind
    exact ⟨tab, List.mem_of_find?_eq_some hfound, rfl⟩

/-- A view fits a snapshot whose tabs have ids of their own if its tracked tab, if any, is still
there. -/
theorem scoped_of_open (hids : (snapshot.tabs.map (·.tabId)).Nodup)
    (hopen : ∀ vs, relayVs = some vs → ∀ tabId, vs.activeTab = some tabId →
      ∃ tab ∈ snapshot.tabs, tab.tabId = tabId) : Scoped snapshot relayVs := by
  intro tabId heff
  obtain ⟨tab, htab, rfl⟩ := exists_of_effective hopen heff
  have hone := List.count_eq_one_of_mem hids (List.mem_map_of_mem htab)
  rw [List.count, List.countP_map] at hone
  rw [← hone]
  refine List.countP_congr fun t _ => ?_
  simp

/-! ### Two tabs -/

/-- A pane of which only the focus matters. -/
def paneOf (id : ℕ) (isFocused isPlugin : Bool) : PaneSnapshot :=
  ⟨id, "", isFocused, false, false, "", "", 0, 0, 24, 80, isPlugin, false, none⟩

/-- Tab 1 is active; each of the two has a focused pane, and the first a plugin. -/
def twoTabs : LayoutSnapshot :=
  ⟨[⟨1, 0, "main", true, false, 0, false, false,
      [paneOf 10 true false, paneOf 11 false false, paneOf 90 true true]⟩,
    ⟨2, 1, "logs", false, false, 0, false, false,
      [paneOf 20 false false, paneOf 21 true false]⟩]⟩

theorem focused_twoTabs : Focused twoTabs := ⟨by decide, by decide⟩

/-- The view tracks the second tab and its first pane. -/
theorem keeps_focus_twoTabs :
    ActiveKept twoTabs (some ⟨some 2, some ⟨20, false⟩, none⟩) ∧
      ∀ msg ∈ buildTabMsgs twoTabs (some ⟨some 2, some ⟨20, false⟩, none⟩), msg.panes ≠ [] →
        ((∃ p ∈ msg.panes, p.isFocused = true) ↔
          ¬ Unshown twoTabs (some ⟨some 2, some ⟨20, false⟩, none⟩) msg) := by
  obtain ⟨hactive, hfocus⟩ := keeps_focus focused_twoTabs
  refine ⟨hactive (scoped_of_open (by decide) ?_), hfocus⟩
  rintro vs ⟨⟩ tabId ⟨⟩
  decide

/-- A view that tracks a pane of another tab hides the focus of its own, and one whose tab was
closed makes no tab active. -/
theorem view_loses_focus :
    Focused twoTabs ∧ ¬ FocusKept twoTabs (some ⟨some 1, some ⟨20, false⟩, none⟩) ∧
      ¬ ActiveKept twoTabs (some ⟨some 9, none, none⟩) := by
  refine ⟨focused_twoTabs, ?_, fun h => ?_⟩
  · unfold FocusKept
    decide
  · exact absurd h.some_active (by decide)

end MuxrCore.Grpc.Focus
