import MuxrCore.Multiplexer.Layout

/-! # A relay's own view

A relay tracks the tab its last move landed on and the pane it last focused. A fullscreen toggle is
resolved, from the client's hint or from a live read of the backend, into what is sent or into a
refusal, and a toggle that was sent is recorded in the tracked view.

`Agrees` says that the tracked pane lies in the tracked tab whenever both are known.
`agrees_recordAppliedToggle_iff` says which toggles keep it that way: a toggle read live from a
backend that reports no tab ids moves the tracked pane and leaves the tracked tab alone. -/

namespace MuxrCore.Relay.View

open MuxrCore.Relay.Control MuxrCore.Multiplexer.Layout

/-- The tracked view of one relay. -/
structure RelayViewState where
  activeTab : Option ℕ
  focusedPane : Option PaneRef
  currentSpace : Option String
  deriving DecidableEq, Repr

/-- Nothing is known. -/
def RelayViewState.default : RelayViewState := ⟨none, none, none⟩

/-- The view an attach landed on. -/
def viewStateFromResumed (view : ResumedView) : RelayViewState :=
  ⟨some view.tabId, some view.pane, some view.spaceId⟩

/-- The view read live at attach: the first active tab, and its focused pane. -/
def initRelayViewState (snapshot : LayoutSnapshot) : RelayViewState :=
  let active := snapshot.tabs.find? (·.active)
  ⟨active.map (·.tabId), active.bind fun t => (t.panes.find? (·.isFocused)).map (·.ref), none⟩

/-- What a toggle's resolution reads of the tracked view. -/
structure RelayTabView where
  focusedPane : Option PaneRef
  activeTab : Option ℕ
  deriving DecidableEq, Repr

def RelayTabView.of (state : RelayViewState) : RelayTabView := ⟨state.focusedPane, state.activeTab⟩

/-! ### Refusals -/

def paneLabel (pane : PaneRef) : String :=
  if pane.isPlugin then "plugin pane " ++ toString pane.id else "pane " ++ toString pane.id

def notFoundRefusal (pane : PaneRef) : String := paneLabel pane ++ " not found"

def hiddenFloatingRefusal (pane : PaneRef) : String :=
  paneLabel pane ++ " is a hidden floating pane; fullscreen applies to tiled panes"

def otherTabRefusal (pane : PaneRef) : String :=
  paneLabel pane ++ " is in another tab; switch to it first"

def relayTabUnknown : String := "relay tab unknown; switch to the pane's tab first"

def relayFocusUnknown : String := "relay focus unknown; tap the fullscreen pane first"

def unreadableMessage (pane : PaneRef) : String :=
  "could not read the live state of " ++ paneLabel pane ++ "; fullscreen skipped"

def timedOutMessage (pane : PaneRef) : String :=
  "live state of " ++ paneLabel pane ++ " timed out; fullscreen skipped"

def abandonedMessage (pane : PaneRef) : String :=
  "fullscreen toggle for " ++ paneLabel pane ++ " abandoned by its caller; nothing sent"

def notSentMessage (pane : PaneRef) : String :=
  "fullscreen toggle for " ++ paneLabel pane ++ " could not be sent"

/-! ### Resolving a toggle -/

/-- The tab the relay is on, by its own evidence. -/
def relayOwnTab (ctx : PaneFullscreenContext) (view : RelayTabView) : Option ℕ :=
  if view.focusedPane.isSome then ctx.relayFocusTabId else view.activeTab

/-- The target's tab must be the relay's own, where the backend reports tab ids. -/
def requireRelayTab (pane : PaneRef) (ctx : PaneFullscreenContext) (view : RelayTabView) :
    Except String Unit :=
  match ctx.tabId with
  | none => .ok ()
  | some targetTab =>
    match relayOwnTab ctx view with
    | some relayTab => if relayTab = targetTab then .ok () else .error (otherTabRefusal pane)
    | none => .error relayTabUnknown

/-- The target is already the relay's focused pane. -/
def targetIsRelayFocus (pane : PaneRef) (isFloating floatingVisible : Bool)
    (view : RelayTabView) : Bool :=
  view.focusedPane = some pane && (isFloating || !floatingVisible)

/-- Where a toggle leaves the tracked tab. -/
inductive TabAfter
  | known (tab : ℕ)
  | unknown
  | unchanged
  deriving DecidableEq, Repr

/-- A toggle to apply: what the sender is told, and where it leaves the tracked tab. -/
structure AppliedToggle where
  hint : FullscreenHint
  tabAfter : TabAfter
  pane : PaneRef
  deriving DecidableEq, Repr

/-- The pane an exit refocuses: the relay's own, if it tracks one. -/
def sendPane (isExit : Bool) (pane : PaneRef) (ctx : PaneFullscreenContext)
    (view : RelayTabView) : Except String PaneRef :=
  match isExit, view.focusedPane, ctx.tabId with
  | true, some anchor, _ => .ok anchor
  | true, none, some _ => .error relayFocusUnknown
  | _, _, _ => .ok pane

/-- Resolve a live context. -/
def resolveLiveContext (pane : PaneRef) (ctx : PaneFullscreenContext) (view : RelayTabView) :
    Except String AppliedToggle :=
  if !ctx.exist then .error (notFoundRefusal pane)
  else if ctx.isFloating && !ctx.floatingVisible then .error (hiddenFloatingRefusal pane)
  else
    let isFocusedFloating := ctx.isFloating && ctx.focusedFloating = some pane
    let hide := isFocusedFloating
    let isExit := !ctx.isFloating && ctx.tabFullscreen
    match if hide || isExit then requireRelayTab pane ctx view else .ok () with
    | .error refusal => .error refusal
    | .ok () =>
      match sendPane isExit pane ctx view with
      | .error refusal => .error refusal
      | .ok target =>
        .ok {
          hint := {
            isFloating := ctx.isFloating
            floatingVisible := ctx.floatingVisible
            isFocusedFloating
            tabFullscreen := ctx.tabFullscreen
            targetIsRelayFocus := targetIsRelayFocus pane ctx.isFloating ctx.floatingVisible view }
          tabAfter := ctx.tabId.elim .unchanged .known
          pane := target }

/-- The client's hint amounts to hiding the floating layer. -/
def hintIsHide (hint : FloatingHint) : Bool :=
  hint.targetIsFloating && hint.floatingVisible && hint.targetIsFocusedFloating

/-- Resolve a client's hint. -/
def resolveClientHint (pane : PaneRef) (hint : FloatingHint) (view : RelayTabView) :
    Except String AppliedToggle :=
  if hint.targetIsFloating && !hint.floatingVisible then .error (hiddenFloatingRefusal pane)
  else
    let skipFocus := targetIsRelayFocus pane hint.targetIsFloating hint.floatingVisible view
    .ok {
      hint := {
        isFloating := hint.targetIsFloating
        floatingVisible := hint.floatingVisible
        isFocusedFloating := hint.targetIsFocusedFloating
        tabFullscreen := false
        targetIsRelayFocus := skipFocus }
      tabAfter := if skipFocus then .unchanged else .unknown
      pane }

/-- How the live read of the target fares. -/
inductive LiveQuery
  | answered (ctx : PaneFullscreenContext)
  | failed
  | panicked
  | timedOut
  deriving DecidableEq, Repr

/-- Resolve a live read, if it was answered. -/
def LiveQuery.resolve (pane : PaneRef) (view : RelayTabView) :
    LiveQuery → Except String AppliedToggle
  | .answered ctx => resolveLiveContext pane ctx view
  | .failed => .error (unreadableMessage pane)
  | .panicked => .error (unreadableMessage pane)
  | .timedOut => .error (timedOutMessage pane)

/-- Resolve a toggle: by the client's hint, unless there is none or it amounts to a hide. -/
def resolveToggleTarget (pane : PaneRef) (hint : Option FloatingHint) (view : RelayTabView)
    (live : LiveQuery) : Except String AppliedToggle :=
  match hint with
  | some h => if hintIsHide h then live.resolve pane view else resolveClientHint pane h view
  | none => live.resolve pane view

/-! ### Recording a toggle -/

/-- What an applied toggle does to the tracked pane. -/
inductive ToggleFocusEffect
  | cleared
  | unchanged
  | focused
  deriving DecidableEq, Repr

def toggleFocusEffect (applied : FullscreenHint) : ToggleFocusEffect :=
  if applied.isFloating then
    if applied.floatingVisible && applied.isFocusedFloating then .cleared else .focused
  else if applied.tabFullscreen then .unchanged
  else .focused

/-- Record an applied toggle. -/
def recordAppliedToggle (state : RelayViewState) (pane : PaneRef) (applied : AppliedToggle) :
    RelayViewState :=
  let state := match toggleFocusEffect applied.hint with
    | .cleared => { state with focusedPane := none }
    | .unchanged => state
    | .focused => { state with focusedPane := some pane }
  match applied.tabAfter with
  | .known tab => { state with activeTab := some tab }
  | .unknown => { state with activeTab := none }
  | .unchanged => state

/-! ### Agreement -/

variable {tabOfPane : PaneRef → ℕ}

/-- The tracked pane lies in the tracked tab, whenever both are known. -/
def Agrees (tabOfPane : PaneRef → ℕ) (state : RelayViewState) : Prop :=
  ∀ pane tab, state.focusedPane = some pane → state.activeTab = some tab → tabOfPane pane = tab

theorem agrees_of_focusedPane {state : RelayViewState} (h : state.focusedPane = none) :
    Agrees tabOfPane state := by
  intro pane tab hp
  rw [h] at hp
  exact absurd hp (by simp)

theorem agrees_of_activeTab {state : RelayViewState} (h : state.activeTab = none) :
    Agrees tabOfPane state := by
  intro pane tab _ ht
  rw [h] at ht
  exact absurd ht (by simp)

theorem agrees_viewStateFromResumed {view : ResumedView} (h : tabOfPane view.pane = view.tabId) :
    Agrees tabOfPane (viewStateFromResumed view) := by
  rintro pane tab ⟨⟩ ⟨⟩
  exact h

theorem agrees_initRelayViewState {snapshot : LayoutSnapshot} (h : Of tabOfPane snapshot) :
    Agrees tabOfPane (initRelayViewState snapshot) := by
  intro pane tab hp ht
  obtain ⟨t, hactive, hfind⟩ := Option.bind_eq_some_iff.mp hp
  obtain ⟨t', hactive', rfl⟩ := Option.map_eq_some_iff.mp ht
  obtain ⟨p, hfocused, rfl⟩ := Option.map_eq_some_iff.mp hfind
  obtain rfl : t = t' := Option.some.inj (hactive.symm.trans hactive')
  exact h t (List.mem_of_find?_eq_some hactive) p (List.mem_of_find?_eq_some hfocused)

/-- A live context that is resolved: the target exists and is not hidden, a hide or an exit passed
the tab gate, and the toggle says what was read, what it is sent for and where it leaves the tracked
tab. -/
theorem resolveLiveContext_spec {pane : PaneRef} {ctx : PaneFullscreenContext}
    {view : RelayTabView} {applied : AppliedToggle}
    (h : resolveLiveContext pane ctx view = .ok applied) :
    ctx.exist = true ∧ ¬ (ctx.isFloating && !ctx.floatingVisible) = true ∧
      (((ctx.isFloating && decide (ctx.focusedFloating = some pane)) ||
        (!ctx.isFloating && ctx.tabFullscreen)) = true →
          requireRelayTab pane ctx view = .ok ()) ∧
      sendPane (!ctx.isFloating && ctx.tabFullscreen) pane ctx view = .ok applied.pane ∧
      applied.tabAfter = ctx.tabId.elim .unchanged .known ∧
      applied.hint = ⟨ctx.isFloating, ctx.floatingVisible,
        ctx.isFloating && decide (ctx.focusedFloating = some pane), ctx.tabFullscreen,
        targetIsRelayFocus pane ctx.isFloating ctx.floatingVisible view⟩ := by
  unfold resolveLiveContext at h
  by_cases hexist : ctx.exist = true
  · rw [if_neg (by simp [hexist])] at h
    by_cases hhidden : (ctx.isFloating && !ctx.floatingVisible) = true
    · rw [if_pos hhidden] at h
      cases h
    · rw [if_neg hhidden] at h
      dsimp only at h
      rcases hgate : (if ((ctx.isFloating && decide (ctx.focusedFloating = some pane)) ||
          (!ctx.isFloating && ctx.tabFullscreen)) = true then requireRelayTab pane ctx view
          else .ok ()) with refusal | _
      · rw [hgate] at h
        cases h
      · rw [hgate] at h
        dsimp only at h
        rcases hsend : sendPane (!ctx.isFloating && ctx.tabFullscreen) pane ctx view with e | target
        · rw [hsend] at h
          cases h
        · rw [hsend] at h
          cases h
          refine ⟨hexist, hhidden, fun hacts => ?_, rfl, rfl, rfl⟩
          rwa [if_pos hacts] at hgate
  · rw [if_pos (by simpa using hexist)] at h
    cases h

/-- What is recorded of a live context that is resolved. -/
theorem resolveLiveContext_ok {pane : PaneRef} {ctx : PaneFullscreenContext} {view : RelayTabView}
    {applied : AppliedToggle} (h : resolveLiveContext pane ctx view = .ok applied) :
    ctx.exist = true ∧ ¬ (ctx.isFloating && !ctx.floatingVisible) = true ∧
      (ctx.isFloating = false ∧ ctx.tabFullscreen = true → requireRelayTab pane ctx view = .ok ()) ∧
      applied.tabAfter = ctx.tabId.elim .unchanged .known ∧
      applied.hint = ⟨ctx.isFloating, ctx.floatingVisible,
        ctx.isFloating && decide (ctx.focusedFloating = some pane), ctx.tabFullscreen,
        targetIsRelayFocus pane ctx.isFloating ctx.floatingVisible view⟩ := by
  obtain ⟨hexist, hhidden, hgate, -, hafter, hhint⟩ := resolveLiveContext_spec h
  refine ⟨hexist, hhidden, ?_, hafter, hhint⟩
  rintro ⟨hf, ht⟩
  exact hgate (by simp [hf, ht])

/-- The tab gate is passed by a relay that is on the target's tab. -/
theorem requireRelayTab_ok {pane : PaneRef} {ctx : PaneFullscreenContext} {view : RelayTabView}
    {tab : ℕ} (h : requireRelayTab pane ctx view = .ok ()) (ht : ctx.tabId = some tab) :
    relayOwnTab ctx view = some tab := by
  unfold requireRelayTab at h
  rw [ht] at h
  rcases ho : relayOwnTab ctx view with - | own
  · simp [ho] at h
  · simp only [ho] at h
    split_ifs at h with hown
    rw [hown]

/-- A live context in which a toggle moves the focus to its target: it fills with a floating pane, or
makes a tiled one fullscreen. -/
def movesFocus (pane : PaneRef) (ctx : PaneFullscreenContext) : Bool :=
  ctx.exist &&
    if ctx.isFloating then ctx.floatingVisible && ctx.focusedFloating ≠ some pane
    else !ctx.tabFullscreen

/-- How a backend reads a toggle's target: with the tabs of the layout, or with no tab ids. -/
def Reads (tabOfPane : PaneRef → ℕ) (tabIds : Bool) (pane : PaneRef) (relayFocus : Option PaneRef)
    (live : LiveQuery) : Prop :=
  ∀ ctx, live = .answered ctx →
    if tabIds then Within tabOfPane pane relayFocus ctx else ctx.tabId = none

/-- A toggle that is resolved by a live read without tab ids, and moves the focus, finds the tracked
tab unknown or to be the target's. -/
def StaysInTab (tabOfPane : PaneRef → ℕ) (state : RelayViewState) (pane : PaneRef)
    (hint : Option FloatingHint) (live : LiveQuery) : Prop :=
  ∀ ctx, (∀ h, hint = some h → hintIsHide h = true) → live = .answered ctx → ctx.tabId = none →
    movesFocus pane ctx = true → ∀ tab, state.activeTab = some tab → tabOfPane pane = tab

/-- A read without tab ids is resolved unless the target is missing or hidden. -/
theorem resolveLiveContext_untabbed {pane : PaneRef} {ctx : PaneFullscreenContext}
    (view : RelayTabView) (ht : ctx.tabId = none) (hm : movesFocus pane ctx = true) :
    ∃ applied, resolveLiveContext pane ctx view = .ok applied ∧
      toggleFocusEffect applied.hint = .focused ∧ applied.tabAfter = .unchanged := by
  unfold movesFocus at hm
  rcases hf : ctx.isFloating with - | -
  · simp only [hf, Bool.false_eq_true, if_false, Bool.and_eq_true, Bool.not_eq_true'] at hm
    obtain ⟨he, hfull⟩ := hm
    simp [resolveLiveContext, sendPane, toggleFocusEffect, he, hf, hfull, ht]
  · simp only [hf, if_true, Bool.and_eq_true, decide_eq_true_eq] at hm
    obtain ⟨he, hv, hne⟩ := hm
    simp [resolveLiveContext, sendPane, toggleFocusEffect, he, hf, hv, hne, ht]

/-- What a live read that was resolved does to the tracked pane. -/
theorem toggleFocusEffect_live {pane : PaneRef} {ctx : PaneFullscreenContext} {view : RelayTabView}
    {applied : AppliedToggle} (h : resolveLiveContext pane ctx view = .ok applied) :
    (movesFocus pane ctx = true ∧ toggleFocusEffect applied.hint = .focused) ∨
      (movesFocus pane ctx = false ∧
        (toggleFocusEffect applied.hint = .cleared ∨
          toggleFocusEffect applied.hint = .unchanged ∧ ctx.isFloating = false ∧
            ctx.tabFullscreen = true)) := by
  obtain ⟨he, hhidden, -, -, hhint⟩ := resolveLiveContext_ok h
  unfold movesFocus toggleFocusEffect
  rw [hhint]
  rcases hf : ctx.isFloating with - | -
  · rcases hfull : ctx.tabFullscreen with - | - <;> simp [he]
  · have hv : ctx.floatingVisible = true := by simpa [hf] using hhidden
    by_cases hp : ctx.focusedFloating = some pane <;> simp [he, hv, hp]

/-- A toggle resolved by the client's hint leaves nothing to agree on, or names the tracked pane. -/
theorem agrees_recordAppliedToggle_hint {state : RelayViewState} {pane : PaneRef}
    {hint : FloatingHint} {applied : AppliedToggle} (hA : Agrees tabOfPane state)
    (h : resolveClientHint pane hint (RelayTabView.of state) = .ok applied) :
    Agrees tabOfPane (recordAppliedToggle state pane applied) := by
  unfold resolveClientHint at h
  split_ifs at h with hhidden
  cases h
  by_cases hskip : targetIsRelayFocus pane hint.targetIsFloating hint.floatingVisible
      (RelayTabView.of state) = true
  · have hfocus : state.focusedPane = some pane := by
      unfold targetIsRelayFocus at hskip
      rw [Bool.and_eq_true, decide_eq_true_eq] at hskip
      exact hskip.1
    unfold recordAppliedToggle
    simp only [hskip, if_true]
    split
    · exact agrees_of_focusedPane rfl
    · exact hA
    · intro p tab hp ht
      exact hA p tab (hfocus.trans hp) ht
  · unfold recordAppliedToggle
    simp only [hskip]
    exact agrees_of_activeTab rfl

/-- A toggle resolved by a live read that names the tabs leaves the tracked pane in the tracked
tab. -/
theorem agrees_recordAppliedToggle_within {state : RelayViewState} {pane : PaneRef}
    {ctx : PaneFullscreenContext} {applied : AppliedToggle}
    (hw : Within tabOfPane pane state.focusedPane ctx)
    (h : resolveLiveContext pane ctx (RelayTabView.of state) = .ok applied) :
    Agrees tabOfPane (recordAppliedToggle state pane applied) := by
  obtain ⟨he, -, hgate, hafter, -⟩ := resolveLiveContext_ok h
  have htab := hw.tab he
  rw [htab] at hafter
  unfold recordAppliedToggle
  rw [hafter]
  intro p tab hp ht
  have ht : tabOfPane pane = tab := Option.some.inj ht
  rcases toggleFocusEffect_live h with ⟨-, heff⟩ | ⟨-, heff | ⟨heff, hexit⟩⟩
  · simp only [heff] at hp
    rw [← Option.some.inj hp, ht]
  · simp only [heff] at hp
    exact absurd hp (by simp)
  · -- an exit: the tab gate has placed the relay's own focus on the target's tab
    simp only [heff] at hp
    have hp : state.focusedPane = some p := hp
    have hown := requireRelayTab_ok (hgate hexit) htab
    unfold relayOwnTab RelayTabView.of at hown
    simp only [hp, Option.isSome_some, if_true] at hown
    obtain ⟨focused, hfocused, htab'⟩ := hw.focus _ hown
    rw [hp] at hfocused
    rw [Option.some.inj hfocused, htab', ht]

/-- A toggle resolved by a live read without tab ids leaves the tracked tab as it is. -/
theorem agrees_recordAppliedToggle_untabbed {state : RelayViewState} {pane : PaneRef}
    {ctx : PaneFullscreenContext} {applied : AppliedToggle} (hA : Agrees tabOfPane state)
    (ht : ctx.tabId = none)
    (h : resolveLiveContext pane ctx (RelayTabView.of state) = .ok applied) :
    Agrees tabOfPane (recordAppliedToggle state pane applied) ↔
      (movesFocus pane ctx = true → ∀ tab, state.activeTab = some tab → tabOfPane pane = tab) := by
  obtain ⟨-, -, -, hafter, -⟩ := resolveLiveContext_ok h
  have hafter : applied.tabAfter = .unchanged := by rw [hafter, ht]; rfl
  unfold recordAppliedToggle
  rw [hafter]
  rcases toggleFocusEffect_live h with ⟨hm, heff⟩ | ⟨hm, heff | ⟨heff, -⟩⟩
  · simp only [heff, hm, true_implies]
    constructor
    · intro hagree tab htab
      exact hagree pane tab rfl htab
    · rintro hstay p tab ⟨⟩ htab
      exact hstay tab htab
  · simp only [heff, hm]
    exact ⟨fun _ hx => absurd hx (by simp), fun _ => agrees_of_focusedPane rfl⟩
  · simp only [heff, hm]
    exact ⟨fun _ hx => absurd hx (by simp), fun _ => hA⟩

/-- **Which applied toggles keep the tracked pane in the tracked tab.** -/
theorem agrees_recordAppliedToggle_iff {state : RelayViewState} {tabIds : Bool} {pane : PaneRef}
    {hint : Option FloatingHint} {live : LiveQuery} {applied : AppliedToggle}
    (hA : Agrees tabOfPane state) (hr : Reads tabOfPane tabIds pane state.focusedPane live)
    (h : resolveToggleTarget pane hint (RelayTabView.of state) live = .ok applied) :
    Agrees tabOfPane (recordAppliedToggle state pane applied) ↔
      StaysInTab tabOfPane state pane hint live := by
  have hlive : live.resolve pane (RelayTabView.of state) = .ok applied →
      (∀ h, hint = some h → hintIsHide h = true) →
      (Agrees tabOfPane (recordAppliedToggle state pane applied) ↔
        StaysInTab tabOfPane state pane hint live) := by
    intro hres hhide
    rcases live with ctx | _ | _ | _
    · have hread := hr ctx rfl
      rcases tabIds with - | -
      · have ht : ctx.tabId = none := hread
        rw [agrees_recordAppliedToggle_untabbed hA ht hres]
        constructor
        · rintro hstay ctx' - ⟨⟩ -
          exact hstay
        · intro hstay
          exact hstay ctx hhide rfl ht
      · have hw : Within tabOfPane pane state.focusedPane ctx := hread
        refine ⟨fun _ => ?_, fun _ => agrees_recordAppliedToggle_within hw hres⟩
        rintro ctx' - ⟨⟩ ht
        rw [hw.tab (resolveLiveContext_ok hres).1] at ht
        exact absurd ht (by simp)
    · cases hres
    · cases hres
    · cases hres
  unfold resolveToggleTarget at h
  rcases hint with - | hint
  · exact hlive h (by simp)
  · rcases hh : hintIsHide hint with - | -
    · simp only [hh, Bool.false_eq_true, if_false] at h
      refine ⟨fun _ ctx hhide => ?_, fun _ => agrees_recordAppliedToggle_hint hA h⟩
      rw [hhide hint rfl] at hh
      exact absurd hh (by simp)
    · simp only [hh, if_true] at h
      exact hlive h fun h' he => by rw [← Option.some.inj he, hh]

end MuxrCore.Relay.View
