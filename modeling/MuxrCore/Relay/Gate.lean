import MuxrCore.Multiplexer.Zellij
import MuxrCore.Relay.View

/-! # The gate before an exit and a hide

Leaving fullscreen and hiding the floating layer act on the active tab of the relay's client, not on
the pane that was named. A toggle is resolved to one of them only by a live read, and only if the
tab that holds the target is the one the relay is on by its own evidence (`gated`). -/

namespace MuxrCore.Relay.Gate

open MuxrCore.Relay.Control MuxrCore.Relay.View MuxrCore.Multiplexer.Layout
open MuxrCore.Multiplexer.Zellij
open PaneFullscreenContext (tabOf fromSnapshot notFound)

/-- The floating layer is hidden. -/
def Hides (hint : FullscreenHint) : Prop :=
  hint.isFloating = true ∧ hint.floatingVisible = true ∧ hint.isFocusedFloating = true

/-- The tab leaves fullscreen. -/
def Exits (hint : FullscreenHint) : Prop := hint.isFloating = false ∧ hint.tabFullscreen = true

/-- A hide is what makes the sender toggle the floating layer. -/
theorem hides_iff {pane : PaneId} {hint : FullscreenHint} :
    Hides hint ↔ Action.toggleFloatingPanes ∈ fullscreenActions pane hint := by
  unfold Hides fullscreenActions
  rcases hint with ⟨_ | _, _ | _, _ | _, _ | _, _ | _⟩ <;> simp

/-- The tab the relay is on by its own evidence: the one that holds its tracked pane, or without one
the tracked tab. -/
def ownTab (snapshot : LayoutSnapshot) (view : RelayTabView) : Option ℕ :=
  match view.focusedPane with
  | some focused => (tabOf snapshot focused).map (·.tabId)
  | none => view.activeTab

/-- No tab holds the pane. -/
def Missing (snapshot : LayoutSnapshot) (pane : PaneRef) : Prop := tabOf snapshot pane = none

/-- The pane is a floating one whose tab does not show the floating panes. -/
def Hidden (snapshot : LayoutSnapshot) (pane : PaneRef) : Prop :=
  ∃ tab target, tabOf snapshot pane = some tab ∧
    tab.panes.find? (fun p => p.ref = pane) = some target ∧ target.isFloating = true ∧
    tab.floatingPanesVisible = false

/-- The toggle is resolved by the live read. -/
def ReadsLive (hint : Option FloatingHint) : Prop := ∀ h, hint = some h → hintIsHide h = true

/-- What the resolution of a toggle promises. -/
structure Gated (snapshot : LayoutSnapshot) (pane : PaneRef) (view : RelayTabView)
    (hint : Option FloatingHint) (live : LiveQuery) : Prop where
  /-- An exit or a hide is read live, and the relay is on the target's tab. -/
  own : ∀ applied, resolveToggleTarget pane hint view live = .ok applied →
    Hides applied.hint ∨ Exits applied.hint →
      (∃ ctx, live = .answered ctx ∧ resolveLiveContext pane ctx view = .ok applied) ∧
      ∃ tab, tabOf snapshot pane = some tab ∧ ownTab snapshot view = some tab.tabId
  /-- An exit refocuses the relay's own pane, which is in the target's tab. -/
  anchor : ∀ applied, resolveToggleTarget pane hint view live = .ok applied →
    Exits applied.hint → view.focusedPane = some applied.pane ∧
      ∃ tab own, tabOf snapshot pane = some tab ∧ tabOf snapshot applied.pane = some own ∧
        own.tabId = tab.tabId
  /-- A missing or hidden target is refused where the toggle is resolved by the live read. -/
  refused : ReadsLive hint → Missing snapshot pane ∨ Hidden snapshot pane →
    ∃ message, resolveToggleTarget pane hint view live = .error message
  /-- A target that is hidden by the client's own account is refused as well. -/
  hinted : ∀ h, hint = some h → h.targetIsFloating = true → h.floatingVisible = false →
    resolveToggleTarget pane hint view live = .error (hiddenFloatingRefusal pane)

/-! ### Contexts of a snapshot -/

variable {snapshot : LayoutSnapshot} {pane : PaneRef} {view : RelayTabView}

/-- The first tab with a matching pane, and that pane. -/
theorem findSome_eq (tabs : List TabSnapshot) (f : PaneSnapshot → Bool) :
    (tabs.findSome? fun tab => (tab.panes.find? f).map fun target => (tab, target)) =
      (tabs.find? fun tab => tab.panes.any f).bind fun tab =>
        (tab.panes.find? f).map fun target => (tab, target) := by
  induction tabs with
  | nil => rfl
  | cons tab tabs ih =>
    rw [List.findSome?_cons, List.find?_cons]
    rcases hfind : tab.panes.find? f with _ | target
    · have hany : tab.panes.any f = false := by
        rw [List.any_eq_false]
        exact List.find?_eq_none.mp hfind
      simp only [hany]
      exact ih
    · have hany : tab.panes.any f = true :=
        List.any_eq_true.mpr ⟨target, List.mem_of_find?_eq_some hfind, List.find?_some hfind⟩
      simp only [hany, Option.map_some, Option.bind_some, hfind]

theorem fromSnapshot_missing (h : Missing snapshot pane) (focus : Option PaneRef) :
    fromSnapshot snapshot pane focus = notFound := by
  unfold fromSnapshot
  rw [findSome_eq]
  have hnone : (snapshot.tabs.find? fun tab => tab.panes.any fun p => p.ref = pane) = none := h
  rw [hnone]
  rfl

/-- The context of a pane that a tab holds. -/
theorem fromSnapshot_held {tab : TabSnapshot} (h : tabOf snapshot pane = some tab)
    (focus : Option PaneRef) :
    ∃ target, tab.panes.find? (fun p => p.ref = pane) = some target ∧
      fromSnapshot snapshot pane focus =
        { exist := true
          isFloating := target.isFloating
          floatingVisible := tab.floatingPanesVisible
          focusedFloating := (tab.panes.find? fun p => p.isFloating && p.isFocused).map (·.ref)
          tabFullscreen := tab.fullscreenActive
          tabId := some tab.tabId
          tabActive := tab.active
          relayFocusTabId := (focus.bind (tabOf snapshot)).map (·.tabId) } := by
  have hany := List.find?_some h
  obtain ⟨p, hp, href⟩ := List.any_eq_true.mp hany
  obtain ⟨target, htarget⟩ : ∃ target, tab.panes.find? (fun p => p.ref = pane) = some target := by
    rw [← Option.isSome_iff_exists, List.find?_isSome]
    exact ⟨p, hp, href⟩
  refine ⟨target, htarget, ?_⟩
  unfold fromSnapshot
  rw [findSome_eq]
  have hsome : (snapshot.tabs.find? fun tab => tab.panes.any fun p => p.ref = pane) = some tab := h
  rw [hsome, Option.bind_some, htarget]
  rfl

/-- A context that exists is that of the tab that holds the pane. -/
theorem held_of_exist {focus : Option PaneRef}
    (h : (fromSnapshot snapshot pane focus).exist = true) :
    ∃ tab, tabOf snapshot pane = some tab := by
  rcases htab : tabOf snapshot pane with _ | tab
  · rw [fromSnapshot_missing htab] at h
    exact absurd h (by simp [notFound])
  · exact ⟨tab, rfl⟩

/-- Where the pane is found, the evidence the gate reads is the relay's own. -/
theorem relayOwnTab_fromSnapshot {tab : TabSnapshot} (h : tabOf snapshot pane = some tab) :
    relayOwnTab (fromSnapshot snapshot pane view.focusedPane) view = ownTab snapshot view := by
  obtain ⟨target, -, hctx⟩ := fromSnapshot_held h view.focusedPane
  rw [hctx, relayOwnTab, ownTab]
  rcases view.focusedPane with _ | focused
  · rfl
  · rfl

/-! ### Resolved toggles -/

variable {hint : Option FloatingHint} {live : LiveQuery} {applied : AppliedToggle}

/-- A hint is resolved to neither a hide nor an exit. -/
theorem resolveClientHint_stays {h : FloatingHint} (hh : hintIsHide h = false)
    (hres : resolveClientHint pane h view = .ok applied) :
    ¬ (Hides applied.hint ∨ Exits applied.hint) := by
  unfold resolveClientHint at hres
  split_ifs at hres
  cases hres
  rintro (⟨hfloating, hvisible, hfocused⟩ | ⟨-, hfull⟩)
  · have hhide : hintIsHide h = true := by
      unfold hintIsHide
      rw [Bool.and_eq_true, Bool.and_eq_true]
      exact ⟨⟨hfloating, hvisible⟩, hfocused⟩
    exact absurd (hh.symm.trans hhide) Bool.false_ne_true
  · exact absurd hfull Bool.false_ne_true

/-- A toggle is resolved by the client's hint, or by the live read. -/
theorem resolveToggleTarget_cases (pane : PaneRef) (hint : Option FloatingHint)
    (view : RelayTabView) (live : LiveQuery) :
    (∃ h, hint = some h ∧ hintIsHide h = false ∧
      resolveToggleTarget pane hint view live = resolveClientHint pane h view) ∨
    ReadsLive hint ∧ resolveToggleTarget pane hint view live = live.resolve pane view := by
  rcases hint with _ | h
  · exact Or.inr ⟨by simp [ReadsLive], rfl⟩
  · rcases hh : hintIsHide h with _ | _
    · refine Or.inl ⟨h, rfl, hh, ?_⟩
      simp only [resolveToggleTarget, hh, Bool.false_eq_true, if_false]
    · refine Or.inr ⟨?_, ?_⟩
      · rintro h' ⟨⟩
        exact hh
      · simp only [resolveToggleTarget, hh, if_true]

/-- A hide or an exit is read live. -/
theorem live_of_acts (h : resolveToggleTarget pane hint view live = .ok applied)
    (hacts : Hides applied.hint ∨ Exits applied.hint) :
    ∃ ctx, live = .answered ctx ∧ resolveLiveContext pane ctx view = .ok applied := by
  rcases resolveToggleTarget_cases pane hint view live with ⟨c, -, hc, heq⟩ | ⟨-, heq⟩
  · rw [heq] at h
    exact absurd hacts (resolveClientHint_stays hc h)
  · rw [heq] at h
    rcases live with ctx | _ | _ | _
    · exact ⟨ctx, rfl, h⟩
    · cases h
    · cases h
    · cases h

/-- The gate that a hide or an exit has passed. -/
theorem gate_of_acts {ctx : PaneFullscreenContext}
    (h : resolveLiveContext pane ctx view = .ok applied)
    (hacts : Hides applied.hint ∨ Exits applied.hint) :
    ctx.exist = true ∧ requireRelayTab pane ctx view = .ok () := by
  obtain ⟨hexist, -, hgate, -, -, hhint⟩ := resolveLiveContext_spec h
  refine ⟨hexist, hgate ?_⟩
  rw [hhint] at hacts
  rcases hacts with ⟨-, -, hfocused⟩ | ⟨hfloating, hfull⟩
  · exact Bool.or_eq_true_iff.mpr (Or.inl hfocused)
  · have hfloating : ctx.isFloating = false := hfloating
    have hfull : ctx.tabFullscreen = true := hfull
    simp [hfloating, hfull]

/-- The pane an exit refocuses where the backend reports tab ids. -/
theorem anchor_of_exits {ctx : PaneFullscreenContext} {tab : ℕ} (htab : ctx.tabId = some tab)
    (h : resolveLiveContext pane ctx view = .ok applied) (hexits : Exits applied.hint) :
    view.focusedPane = some applied.pane := by
  obtain ⟨-, -, -, hsend, -, hhint⟩ := resolveLiveContext_spec h
  rw [hhint] at hexits
  have hfloating : ctx.isFloating = false := hexits.1
  have hfull : ctx.tabFullscreen = true := hexits.2
  rw [hfloating, hfull] at hsend
  unfold sendPane at hsend
  rw [htab] at hsend
  rcases hfocus : view.focusedPane with _ | focused
  · simp [hfocus] at hsend
  · rw [hfocus] at hsend
    exact congrArg some (Except.ok.inj hsend)

/-- A missing or hidden target is refused. -/
theorem resolveLiveContext_refused (h : Missing snapshot pane ∨ Hidden snapshot pane)
    (view : RelayTabView) (focus : Option PaneRef) :
    ∃ message, resolveLiveContext pane (fromSnapshot snapshot pane focus) view =
      .error message := by
  rcases h with hmissing | ⟨tab, target, htab, htarget, hfloating, hhidden⟩
  · rw [fromSnapshot_missing hmissing]
    exact ⟨notFoundRefusal pane, rfl⟩
  · obtain ⟨target', htarget', hctx⟩ := fromSnapshot_held htab focus
    obtain rfl : target = target' := Option.some.inj (htarget.symm.trans htarget')
    refine ⟨hiddenFloatingRefusal pane, ?_⟩
    rw [hctx, resolveLiveContext, hfloating, hhidden]
    rfl

/-- **The gate.** On a context read from a snapshot, a toggle that acts on the relay's active tab
was read live, and the relay is on the target's tab. -/
theorem gated (hread : ∀ ctx, live = .answered ctx →
    ctx = fromSnapshot snapshot pane view.focusedPane) :
    Gated snapshot pane view hint live := by
  have hown : ∀ applied, resolveToggleTarget pane hint view live = .ok applied →
      Hides applied.hint ∨ Exits applied.hint →
      (∃ ctx, live = .answered ctx ∧ resolveLiveContext pane ctx view = .ok applied) ∧
      ∃ tab, tabOf snapshot pane = some tab ∧ ownTab snapshot view = some tab.tabId := by
    intro applied h hacts
    obtain ⟨ctx, hlive, hres⟩ := live_of_acts h hacts
    obtain ⟨hexist, hgate⟩ := gate_of_acts hres hacts
    obtain rfl := hread ctx hlive
    obtain ⟨tab, htab⟩ := held_of_exist hexist
    obtain ⟨target, -, hctx⟩ := fromSnapshot_held htab view.focusedPane
    have hid : (fromSnapshot snapshot pane view.focusedPane).tabId = some tab.tabId := by
      rw [hctx]
    have hplace := requireRelayTab_ok hgate hid
    rw [relayOwnTab_fromSnapshot htab] at hplace
    exact ⟨⟨_, hlive, hres⟩, tab, htab, hplace⟩
  refine ⟨hown, fun applied h hexits => ?_, fun hreads htarget => ?_, ?_⟩
  · obtain ⟨⟨ctx, hlive, hres⟩, tab, htab, hplace⟩ := hown applied h (Or.inr hexits)
    obtain rfl := hread ctx hlive
    obtain ⟨target, -, hctx⟩ := fromSnapshot_held htab view.focusedPane
    have hid : (fromSnapshot snapshot pane view.focusedPane).tabId = some tab.tabId := by
      rw [hctx]
    have hfocus := anchor_of_exits hid hres hexits
    rw [ownTab, hfocus] at hplace
    obtain ⟨own, hheld, hsame⟩ := Option.map_eq_some_iff.mp hplace
    exact ⟨hfocus, tab, own, htab, hheld, hsame⟩
  · rcases resolveToggleTarget_cases pane hint view live with ⟨c, hc, hhide, -⟩ | ⟨-, heq⟩
    · exact absurd ((hreads c hc).symm.trans hhide) (by simp)
    · rw [heq]
      rcases live with ctx | _ | _ | _
      · obtain rfl := hread ctx rfl
        exact resolveLiveContext_refused htarget view view.focusedPane
      · exact ⟨_, rfl⟩
      · exact ⟨_, rfl⟩
      · exact ⟨_, rfl⟩
  · rintro c rfl hfloating hhidden
    have hhide : hintIsHide c = false := by
      unfold hintIsHide
      rw [hfloating, hhidden]
      rfl
    simp only [resolveToggleTarget, hhide, Bool.false_eq_true, if_false]
    rw [resolveClientHint, hfloating, hhidden]
    rfl

/-! ### One fullscreen tab -/

/-- The panes 1 and 2 of a tab in fullscreen. -/
def fullscreenTab : LayoutSnapshot :=
  ⟨[⟨5, 0, "main", true, false, 1, true, false,
    [⟨1, "", true, false, false, "", "", 0, 0, 24, 80, false, true, none⟩,
      ⟨2, "", false, false, false, "", "", 0, 0, 24, 80, false, false, none⟩]⟩]⟩

/-- The relay is on the first pane; a toggle for the hidden second one leaves fullscreen on the
first. -/
theorem gated_fullscreenTab :
    Gated fullscreenTab ⟨2, false⟩ ⟨some ⟨1, false⟩, none⟩ none
        (.answered (fromSnapshot fullscreenTab ⟨2, false⟩ (some ⟨1, false⟩))) ∧
      resolveToggleTarget ⟨2, false⟩ none ⟨some ⟨1, false⟩, none⟩
          (.answered (fromSnapshot fullscreenTab ⟨2, false⟩ (some ⟨1, false⟩))) =
        .ok ⟨⟨false, false, false, true, false⟩, .known 5, ⟨1, false⟩⟩ := by
  refine ⟨gated ?_, rfl⟩
  rintro ctx ⟨⟩
  rfl

/-- By the client's hint, a toggle for a pane that no tab holds is sent. -/
theorem hinted_missing :
    Missing fullscreenTab ⟨7, false⟩ ∧
      resolveToggleTarget ⟨7, false⟩ (some ⟨false, false, false⟩) ⟨none, none⟩
          (.answered (fromSnapshot fullscreenTab ⟨7, false⟩ none)) =
        .ok ⟨⟨false, false, false, false, false⟩, .unknown, ⟨7, false⟩⟩ := ⟨rfl, rfl⟩

end MuxrCore.Relay.Gate
