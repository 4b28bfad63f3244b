import Mathlib.Algebra.Group.Nat.Defs
import Mathlib.Data.List.Perm.Basic

/-! # Agents

The neutral vocabulary of agents: what a backend's inventory lists (`AgentSnapshot`), the order of
attention, and the events the internal bus carries. -/

namespace MuxrCore.Multiplexer.Agents

/-- What an agent is doing. -/
inductive AgentStatus
  | idle | working | blocked | done | unknown
  deriving DecidableEq, Repr

/-- The attention a status calls for. -/
def AgentStatus.priority : AgentStatus → ℕ
  | .blocked => 4
  | .done => 3
  | .working => 2
  | .idle => 1
  | .unknown => 0

/-- One agent of a session's inventory. -/
structure AgentSnapshot where
  pane : ℕ
  tabId : ℕ
  spaceId : String
  spaceName : String
  tabName : String
  kind : String
  name : Option String
  displayKind : Option String
  status : AgentStatus
  title : Option String
  summary : Option String
  cwd : Option String
  focused : Bool
  changeSeq : ℕ
  completionSeq : Option ℕ
  deriving DecidableEq, Repr

/-- An agent of which nothing but its pane and status is known. -/
def AgentSnapshot.bare (pane : ℕ) (status : AgentStatus) : AgentSnapshot :=
  ⟨pane, 0, "", "", "", "", none, none, status, none, none, none, false, 0, none⟩

/-- The key of the attention order; larger comes first. -/
def AgentSnapshot.sortKey (a : AgentSnapshot) : ℕ × ℕ := (a.status.priority, a.changeSeq)

/-- `a` may stand before `b`: its sort key is not smaller. -/
def AgentSnapshot.before (a b : AgentSnapshot) : Bool :=
  b.sortKey.1 < a.sortKey.1 || (b.sortKey.1 = a.sortKey.1 && b.sortKey.2 ≤ a.sortKey.2)

/-- Sort by attention, most urgent first; the sort is stable. -/
def sortAgents (agents : List AgentSnapshot) : List AgentSnapshot :=
  agents.mergeSort AgentSnapshot.before

theorem sortAgents_perm (agents : List AgentSnapshot) : (sortAgents agents).Perm agents :=
  List.mergeSort_perm agents _

/-- The number of distinct kinds a summary lists at most. -/
def summaryKindsCap : ℕ := 8

/-- Counts over a list of agents; they wrap at 32 bits. -/
structure AgentSummary where
  total : ℕ
  blocked : ℕ
  done : ℕ
  working : ℕ
  idle : ℕ
  unknown : ℕ
  kinds : List String
  deriving DecidableEq, Repr

/-- Count one more agent. -/
def AgentSummary.count (out : AgentSummary) (a : AgentSnapshot) : AgentSummary :=
  let out := match a.status with
    | .blocked => { out with blocked := (out.blocked + 1) % 2 ^ 32 }
    | .done => { out with done := (out.done + 1) % 2 ^ 32 }
    | .working => { out with working := (out.working + 1) % 2 ^ 32 }
    | .idle => { out with idle := (out.idle + 1) % 2 ^ 32 }
    | .unknown => { out with unknown := (out.unknown + 1) % 2 ^ 32 }
  if out.kinds.length < summaryKindsCap && !out.kinds.contains a.kind then
    { out with kinds := out.kinds ++ [a.kind] }
  else out

/-- The counts, and the distinct kinds in list order. -/
def AgentSummary.from (agents : List AgentSnapshot) : AgentSummary :=
  agents.foldl AgentSummary.count ⟨agents.length % 2 ^ 32, 0, 0, 0, 0, 0, []⟩

/-! ### Bus events -/

/-- A pane's agent status changed, or was observed again. -/
structure AgentStatusChanged where
  pane : ℕ
  workspaceId : String
  workspaceName : Option String
  status : AgentStatus
  title : Option String
  kind : Option String
  name : Option String
  tab : Option ℕ
  synthetic : Bool
  deriving DecidableEq, Repr

/-- An event of the internal bus. -/
inductive MuxEvent
  | agentStatusChanged (ev : AgentStatusChanged)
  | layoutChanged (workspaceId : String) (tab : ℕ)
  | paneClosed (pane : ℕ)
  | resynced
  deriving DecidableEq, Repr

/-- Why a receive from the bus gave no event. -/
inductive RecvError
  | lagged (n : ℕ)
  | closed
  deriving DecidableEq, Repr

/-- What one receive from the bus gives. -/
abbrev Recv := Except RecvError MuxEvent

end MuxrCore.Multiplexer.Agents
