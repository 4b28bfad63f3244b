import MuxrCore.Lib.Rows
import MuxrCore.Multiplexer.Agents

/-! # Agents on the wire

The proto messages of the agent RPCs: a row for each agent (`AgentMsg`), the list with its summary,
and the three messages of a watch (`AgentEvent`). `hold` is what a client has after a list, by
pane; `row_buildAgentList` says that building the list loses and invents no row. -/

namespace MuxrCore.Grpc.AgentOps

open MuxrCore.Lib.Rows MuxrCore.Multiplexer.Agents

/-- The proto statuses. -/
inductive WireStatus
  | unspecified | idle | working | blocked | done | unknown
  deriving DecidableEq, Repr

/-- The number a proto status is sent as. -/
def WireStatus.toI32 : WireStatus → ℤ
  | .unspecified => 0
  | .idle => 1
  | .working => 2
  | .blocked => 3
  | .done => 4
  | .unknown => 5

def agentStatusMsg : AgentStatus → WireStatus
  | .idle => .idle
  | .working => .working
  | .blocked => .blocked
  | .done => .done
  | .unknown => .unknown

/-- One agent, as it is sent. -/
structure AgentMsg where
  paneId : ℕ
  tabId : ℕ
  spaceId : String
  spaceName : String
  tabName : String
  kind : String
  name : String
  displayKind : String
  status : ℤ
  title : String
  summary : String
  cwd : String
  focused : Bool
  changeSeq : ℕ
  completionSeq : ℕ
  hasCompletionSeq : Bool
  deriving DecidableEq, Repr

/-- The agents of a session, most urgent first, with their counts. -/
structure AgentList where
  agents : List AgentMsg
  summary : Option AgentSummary
  deriving DecidableEq, Repr

/-- A message of a watch. -/
inductive AgentEvent
  | snapshot (list : AgentList)
  | changed (msg : AgentMsg)
  | removedPaneId (pane : ℕ)
  deriving DecidableEq, Repr

/-- The row of an agent: absent text is empty, an absent completion counter is `0` and flagged. -/
def agentMsg (a : AgentSnapshot) : AgentMsg where
  paneId := a.pane
  tabId := a.tabId
  spaceId := a.spaceId
  spaceName := a.spaceName
  tabName := a.tabName
  kind := a.kind
  name := a.name.getD ""
  displayKind := a.displayKind.getD ""
  status := (agentStatusMsg a.status).toI32
  title := a.title.getD ""
  summary := a.summary.getD ""
  cwd := a.cwd.getD ""
  focused := a.focused
  changeSeq := a.changeSeq
  completionSeq := a.completionSeq.getD 0
  hasCompletionSeq := a.completionSeq.isSome

/-- The answer for an inventory. -/
def buildAgentList (snapshots : List AgentSnapshot) : AgentList :=
  let snapshots := sortAgents snapshots
  { agents := snapshots.map agentMsg, summary := some (AgentSummary.from snapshots) }

/-- Rows by pane. -/
abbrev Held := Finmap fun _ : ℕ => AgentMsg

/-- The rows a client holds after a list. -/
def hold (list : AgentList) : Held := insertAll AgentMsg.paneId ∅ list.agents

/-! ### The rows of a list -/

variable {snapshots : List AgentSnapshot}

theorem panes_buildAgentList :
    ((buildAgentList snapshots).agents.map AgentMsg.paneId).Perm
      (snapshots.map AgentSnapshot.pane) := by
  unfold buildAgentList
  rw [List.map_map]
  exact (sortAgents_perm snapshots).map _

theorem nodup_buildAgentList (hn : (snapshots.map AgentSnapshot.pane).Nodup) :
    ((buildAgentList snapshots).agents.map AgentMsg.paneId).Nodup :=
  panes_buildAgentList.nodup_iff.mpr hn

/-- The list has a row for a pane exactly when the inventory has one, and it is that one's. -/
theorem row_buildAgentList (hn : (snapshots.map AgentSnapshot.pane).Nodup) (pane : ℕ) :
    rowAt AgentMsg.paneId (buildAgentList snapshots).agents pane =
      (rowAt AgentSnapshot.pane snapshots pane).map agentMsg := by
  have hn' : ((sortAgents snapshots).map AgentSnapshot.pane).Nodup :=
    ((sortAgents_perm snapshots).map _).nodup_iff.mpr hn
  rw [← rowAt_perm (sortAgents_perm snapshots) hn']
  exact rowAt_map (fun _ => rfl) _

theorem lookup_hold {list : AgentList} (hn : (list.agents.map AgentMsg.paneId).Nodup)
    (pane : ℕ) : (hold list).lookup pane = rowAt AgentMsg.paneId list.agents pane := by
  rw [hold, lookup_insertAll hn, Finmap.lookup_empty, Option.or_none]

end MuxrCore.Grpc.AgentOps
