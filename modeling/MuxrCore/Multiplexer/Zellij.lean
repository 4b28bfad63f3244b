import MuxrCore.Multiplexer.Layout

/-! # Fullscreen on zellij

The actions a relay sends, as its own rendering client, for a fullscreen toggle it has resolved. -/

namespace MuxrCore.Multiplexer.Zellij

open MuxrCore.Relay.Control MuxrCore.Multiplexer.Layout

/-- A pane as zellij names it. -/
inductive PaneId
  | terminal (id : ℕ)
  | plugin (id : ℕ)
  deriving DecidableEq, Repr

inductive PercentOrFixed
  | percent (n : ℕ)
  | fixed (n : ℕ)
  deriving DecidableEq, Repr

structure FloatingPaneCoordinates where
  x : Option PercentOrFixed
  y : Option PercentOrFixed
  width : Option PercentOrFixed
  height : Option PercentOrFixed
  pinned : Option Bool
  borderless : Option Bool
  deriving DecidableEq, Repr

/-- The actions a toggle is made of. -/
inductive Action
  | focusPaneByPaneId (pane : PaneId)
  | changeFloatingPaneCoordinates (pane : PaneId) (coordinates : FloatingPaneCoordinates)
  | toggleFloatingPanes
  | toggleFocusNoUiFullscreen
  deriving DecidableEq, Repr

def toPaneId (pane : PaneRef) : PaneId :=
  if pane.isPlugin then .plugin pane.id else .terminal pane.id

/-- The whole display, without a border. -/
def wholeDisplay : FloatingPaneCoordinates :=
  ⟨some (.percent 0), some (.percent 0), some (.percent 100), some (.percent 100), none, some true⟩

/-- The sequence for a toggle: hide the floating layer, fill the display with a floating pane, exit
or enter fullscreen. Only a fill leaves the focus move out when the target has the relay's focus. -/
def fullscreenActions (pane : PaneId) (hint : FullscreenHint) : List Action :=
  if hint.isFloating then
    if hint.floatingVisible && hint.isFocusedFloating then [.toggleFloatingPanes]
    else
      (if !hint.targetIsRelayFocus then [Action.focusPaneByPaneId pane] else []) ++
        [Action.changeFloatingPaneCoordinates pane wholeDisplay]
  else if hint.tabFullscreen then [.focusPaneByPaneId pane, .toggleFocusNoUiFullscreen]
  else [.focusPaneByPaneId pane, .toggleFocusNoUiFullscreen]

/-- A toggle sends something. -/
theorem fullscreenActions_ne_nil (pane : PaneId) (hint : FullscreenHint) :
    fullscreenActions pane hint ≠ [] := by
  unfold fullscreenActions
  split_ifs <;> simp

end MuxrCore.Multiplexer.Zellij
