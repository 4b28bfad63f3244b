import MuxrCore.Herdr.Subscribe.Lines

/-! # What herdr's control socket answers

The records of herdr's API, with the fields that the server reads: workspaces, tabs, panes, the
layout of a tab, and the snapshot of the whole daemon. `Calls` is the socket: the answer to each of
the calls that read it. `SessionSnapshot.calls` answers all of them from one state of the daemon, as
herdr documents them. -/

namespace MuxrCore.Herdr.Api

open MuxrCore.Herdr.Subscribe.Lines (HerdrAgentStatus)

/-- The worktree a workspace was opened for. -/
structure WorkspaceWorktreeInfo where
  repoKey : String
  isLinkedWorktree : Bool
  deriving DecidableEq, Repr

/-- A workspace. -/
structure WorkspaceInfo where
  workspaceId : String
  label : String
  focused : Bool
  activeTabId : String
  worktree : Option WorkspaceWorktreeInfo
  deriving DecidableEq, Repr

/-- A tab of a workspace. -/
structure TabInfo where
  tabId : String
  workspaceId : String
  number : ℕ
  label : String
  deriving DecidableEq, Repr

/-- A pane of a tab. -/
structure PaneInfo where
  paneId : String
  terminalId : String
  workspaceId : String
  tabId : String
  cwd : Option String
  label : Option String
  agent : Option String
  title : Option String
  displayAgent : Option String
  agentStatus : HerdrAgentStatus
  deriving DecidableEq, Repr

/-- A rectangle of cells; each number has 16 bits. -/
structure PaneLayoutRect where
  x : Fin (2 ^ 16)
  y : Fin (2 ^ 16)
  width : Fin (2 ^ 16)
  height : Fin (2 ^ 16)
  deriving DecidableEq, Repr

/-- The place of a pane in a layout. -/
structure PaneLayoutPane where
  paneId : String
  focused : Bool
  rect : PaneLayoutRect
  deriving DecidableEq, Repr

/-- The layout of a tab. -/
structure PaneLayoutSnapshot where
  workspaceId : String
  tabId : String
  zoomed : Bool
  panes : List PaneLayoutPane
  deriving DecidableEq, Repr

/-- The name an agent was given, by its pane. -/
structure AgentInfo where
  paneId : String
  name : Option String
  deriving DecidableEq, Repr

/-- The whole daemon. -/
structure SessionSnapshot where
  workspaces : List WorkspaceInfo
  tabs : List TabInfo
  panes : List PaneInfo
  layouts : List PaneLayoutSnapshot
  agents : List AgentInfo
  deriving DecidableEq, Repr

/-- The answers to the calls that read the daemon. -/
structure Calls where
  sessionSnapshot : Except String SessionSnapshot
  listWorkspaces : Except String (List WorkspaceInfo)
  listTabs (workspaceId : String) : Except String (List TabInfo)
  listPanes (workspaceId : String) : Except String (List PaneInfo)
  paneLayout (paneId : String) : Except String PaneLayoutSnapshot

namespace SessionSnapshot

variable (d : SessionSnapshot)

/-- The tabs of a workspace. -/
def tabsOf (workspaceId : String) : List TabInfo := d.tabs.filter (·.workspaceId = workspaceId)

/-- The panes of a workspace. -/
def panesOf (workspaceId : String) : List PaneInfo :=
  d.panes.filter (·.workspaceId = workspaceId)

/-- The layout of the tab that holds a pane. -/
def layoutOfPane (paneId : String) : Option PaneLayoutSnapshot :=
  (d.panes.find? (·.paneId = paneId)).bind fun pane => d.layouts.find? (·.tabId = pane.tabId)

/-- All calls answer from this state. -/
def calls : Calls where
  sessionSnapshot := .ok d
  listWorkspaces := .ok d.workspaces
  listTabs workspaceId := .ok (d.tabsOf workspaceId)
  listPanes workspaceId := .ok (d.panesOf workspaceId)
  paneLayout paneId := (d.layoutOfPane paneId).elim (.error "pane_not_found") .ok

@[simp] theorem calls_listWorkspaces : d.calls.listWorkspaces = .ok d.workspaces := rfl

@[simp] theorem calls_listTabs (workspaceId : String) :
    d.calls.listTabs workspaceId = .ok (d.tabsOf workspaceId) := rfl

@[simp] theorem calls_listPanes (workspaceId : String) :
    d.calls.listPanes workspaceId = .ok (d.panesOf workspaceId) := rfl

/-- Pane ids are distinct, and a layout names the workspace of its tab. -/
structure Coherent : Prop where
  panes : ∀ p ∈ d.panes, ∀ q ∈ d.panes, p.paneId = q.paneId → p = q
  layouts : ∀ l ∈ d.layouts, ∀ t ∈ d.tabs, l.tabId = t.tabId → l.workspaceId = t.workspaceId

variable {d}

/-- The layout that a pane is asked for is that of its own tab. -/
theorem Coherent.layoutOfPane (h : d.Coherent) {p : PaneInfo} (hp : p ∈ d.panes) :
    d.layoutOfPane p.paneId = d.layouts.find? (·.tabId = p.tabId) := by
  have hfind : d.panes.find? (·.paneId = p.paneId) = some p := by
    rcases hq : d.panes.find? (·.paneId = p.paneId) with _ | q
    · have hnone := List.find?_eq_none.mp hq p hp
      exact absurd (decide_eq_true rfl) hnone
    · have hid := List.find?_some hq
      have hmem := List.mem_of_find?_eq_some hq
      exact hq.trans (congrArg some (h.panes q hmem p hp (by simpa using hid)))
  rw [SessionSnapshot.layoutOfPane, hfind]
  rfl

end SessionSnapshot

end MuxrCore.Herdr.Api
