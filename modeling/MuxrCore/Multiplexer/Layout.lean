import MuxrCore.Multiplexer.Agents
import MuxrCore.Relay.Control

/-! # Layouts

A snapshot of a session's tabs and panes, the hint a client resumes with and the view it landed on,
and what a fullscreen toggle reads of the snapshot: the context of the pane it is aimed at. zellij
answers with tab ids; a backend without them answers the context `untabbed`.

`Within` says that a context was read from a given assignment of panes to tabs; `fromSnapshot` does
so if the snapshot is of that assignment (`within_fromSnapshot`). -/

namespace MuxrCore.Multiplexer.Layout

open MuxrCore.Multiplexer.Agents MuxrCore.Relay.Control

/-- The agent running in a pane. -/
structure AgentMark where
  kind : String
  name : Option String
  status : AgentStatus
  deriving DecidableEq, Repr

structure PaneSnapshot where
  id : ℕ
  title : String
  isFocused : Bool
  isFloating : Bool
  exited : Bool
  command : String
  cwd : String
  x : ℕ
  y : ℕ
  rows : ℕ
  cols : ℕ
  isPlugin : Bool
  isFullscreen : Bool
  agent : Option AgentMark
  deriving DecidableEq, Repr

structure TabSnapshot where
  tabId : ℕ
  position : ℕ
  name : String
  active : Bool
  hasBell : Bool
  panesToHide : ℕ
  fullscreenActive : Bool
  floatingPanesVisible : Bool
  panes : List PaneSnapshot
  deriving DecidableEq, Repr

structure LayoutSnapshot where
  tabs : List TabSnapshot
  deriving DecidableEq, Repr

/-- The pane's name. -/
def PaneSnapshot.ref (pane : PaneSnapshot) : PaneRef := ⟨pane.id, pane.isPlugin⟩

/-- What a toggle is told about its target. -/
structure FullscreenHint where
  isFloating : Bool
  floatingVisible : Bool
  isFocusedFloating : Bool
  tabFullscreen : Bool
  targetIsRelayFocus : Bool
  deriving DecidableEq, Repr

/-- What a backend reports of a toggle's target. -/
structure PaneFullscreenContext where
  exist : Bool
  isFloating : Bool
  floatingVisible : Bool
  focusedFloating : Option PaneRef
  tabFullscreen : Bool
  tabId : Option ℕ
  tabActive : Bool
  relayFocusTabId : Option ℕ
  deriving DecidableEq, Repr

/-- The client's hint at where it was. -/
structure ResumeTarget where
  spaceId : Option String
  tabId : Option ℕ
  paneId : Option ℕ
  deriving DecidableEq, Repr

def ResumeTarget.isEmpty (resume : ResumeTarget) : Bool :=
  resume.spaceId.isNone && resume.tabId.isNone && resume.paneId.isNone

/-- The view an attach landed on, for a client that asked to resume. -/
structure ResumedView where
  spaceId : String
  tabId : ℕ
  pane : PaneRef
  deriving DecidableEq, Repr

namespace PaneFullscreenContext

/-- The context of a pane the backend does not report. -/
def notFound : PaneFullscreenContext := ⟨false, false, false, none, false, none, false, none⟩

/-- The context as a backend without tabs reports it, from what it knows of floating panes. -/
def untabbed (isFloating floatingVisible : Bool) (focusedFloating : Option PaneRef) :
    PaneFullscreenContext :=
  ⟨true, isFloating, floatingVisible, focusedFloating, false, none, true, none⟩

/-- The tab of the snapshot that holds a pane. -/
def tabOf (snapshot : LayoutSnapshot) (wanted : PaneRef) : Option TabSnapshot :=
  snapshot.tabs.find? fun tab => tab.panes.any fun p => p.ref = wanted

/-- The context of a pane, read from the tab that holds it. -/
def fromSnapshot (snapshot : LayoutSnapshot) (pane : PaneRef) (relayFocus : Option PaneRef) :
    PaneFullscreenContext :=
  let relayFocusTabId := (relayFocus.bind (tabOf snapshot)).map (·.tabId)
  let found := snapshot.tabs.findSome? fun tab =>
    (tab.panes.find? fun p => p.ref = pane).map fun target => (tab, target)
  match found with
  | some (tab, target) =>
    { exist := true
      isFloating := target.isFloating
      floatingVisible := tab.floatingPanesVisible
      focusedFloating := (tab.panes.find? fun p => p.isFloating && p.isFocused).map (·.ref)
      tabFullscreen := tab.fullscreenActive
      tabId := some tab.tabId
      tabActive := tab.active
      relayFocusTabId }
  | none => notFound

end PaneFullscreenContext

/-! ### Contexts of a fixed layout -/

variable {tabOfPane : PaneRef → ℕ}

/-- The snapshot lists panes under the tabs they are in. -/
def Of (tabOfPane : PaneRef → ℕ) (snapshot : LayoutSnapshot) : Prop :=
  ∀ tab ∈ snapshot.tabs, ∀ pane ∈ tab.panes, tabOfPane pane.ref = tab.tabId

/-- The context names the tab that holds the pane and, if any, the one that holds the relay's
focused pane. -/
structure Within (tabOfPane : PaneRef → ℕ) (pane : PaneRef) (relayFocus : Option PaneRef)
    (ctx : PaneFullscreenContext) : Prop where
  tab : ctx.exist = true → ctx.tabId = some (tabOfPane pane)
  focus : ∀ tab, ctx.relayFocusTabId = some tab →
    ∃ focused, relayFocus = some focused ∧ tabOfPane focused = tab

theorem within_fromSnapshot {snapshot : LayoutSnapshot} (h : Of tabOfPane snapshot)
    (pane : PaneRef) (relayFocus : Option PaneRef) :
    Within tabOfPane pane relayFocus
      (PaneFullscreenContext.fromSnapshot snapshot pane relayFocus) := by
  have hfocus : ∀ tab, (relayFocus.bind (PaneFullscreenContext.tabOf snapshot)).map
      TabSnapshot.tabId = some tab →
      ∃ focused, relayFocus = some focused ∧ tabOfPane focused = tab := by
    intro tab ht
    obtain ⟨t, hbind, rfl⟩ := Option.map_eq_some_iff.mp ht
    obtain ⟨focused, hf, hfind⟩ := Option.bind_eq_some_iff.mp hbind
    have hmem := List.mem_of_find?_eq_some hfind
    have hany := List.find?_some hfind
    simp only [List.any_eq_true, decide_eq_true_eq] at hany
    obtain ⟨p, hp, rfl⟩ := hany
    exact ⟨p.ref, hf, h t hmem p hp⟩
  unfold PaneFullscreenContext.fromSnapshot
  dsimp only
  split
  · next tab target hfound =>
    refine ⟨fun _ => ?_, fun t ht => hfocus t ht⟩
    obtain ⟨t, hmem, hfind⟩ := List.exists_of_findSome?_eq_some hfound
    obtain ⟨p, hp, heq⟩ := Option.map_eq_some_iff.mp hfind
    cases heq
    have hpane := List.find?_some hp
    simp only [decide_eq_true_eq] at hpane
    rw [← hpane]
    exact congrArg some (h tab hmem target (List.mem_of_find?_eq_some hp)).symm
  · exact ⟨fun he => absurd he (by simp [PaneFullscreenContext.notFound]),
      fun t ht => absurd ht (by simp [PaneFullscreenContext.notFound])⟩

end MuxrCore.Multiplexer.Layout
