import Mathlib.Data.List.DropRight
import MuxrCore.Herdr.Translate
import MuxrCore.Multiplexer.Agents

/-! # The lines of the two subscriptions

herdr pushes one JSON line for each event: the panes created and gone and the layouts on the
lifecycle connection, the agent statuses on the other one. `fromStr` is the JSON parser.

* `lifecycleChange` reads a line as a change of the set of panes, and `bootstrapPaneSet` replays
  the lines buffered during an enumeration on it.
* `classifyPushed` reads a line for the pump; an agent status registers its pane.
* `classifyPushed_of_status`, `classifyPushed_cases`: the two readings agree. -/

namespace MuxrCore.Herdr.Subscribe.Lines

open MuxrCore.Herdr.Registry MuxrCore.Herdr.Translate MuxrCore.Multiplexer.Agents

/-- A JSON value. -/
inductive Value
  | null
  | bool (b : Bool)
  | number (n : Int)
  | string (s : String)
  | array (vs : List Value)
  | object (fields : List (String × Value))

/-- The field of an object. -/
def Value.get (v : Value) (key : String) : Option Value :=
  match v with
  | .object fields => fields.lookup key
  | _ => none

def Value.asStr : Value → Option String
  | .string s => some s
  | _ => none

/-- The white space of Unicode. -/
def isWhitespace (c : Char) : Bool :=
  c.toNat ∈ [0x20, 0x85, 0xA0, 0x1680, 0x2028, 0x2029, 0x202F, 0x205F, 0x3000] ||
    (0x9 ≤ c.toNat && c.toNat ≤ 0xD) || (0x2000 ≤ c.toNat && c.toNat ≤ 0x200A)

/-- A line without the white space at its end. -/
def trimEnd (line : String) : String := String.ofList (line.toList.rdropWhile isWhitespace)

theorem trimEnd_of_getLast {line : String}
    (h : line.toList.getLast?.any isWhitespace = false) : trimEnd line = line := by
  have hkept : line.toList.rdropWhile isWhitespace = line.toList := by
    rw [List.rdropWhile_eq_self_iff]
    intro hne
    rw [List.getLast?_eq_some_getLast hne, Option.any_some] at h
    exact Bool.eq_false_iff.mp h
  rw [trimEnd, hkept, String.ofList_toList]

/-- The status of an agent in herdr's words. -/
inductive HerdrAgentStatus
  | idle | working | blocked | done | unknown
  deriving DecidableEq, Repr

def HerdrAgentStatus.ofName : String → Option HerdrAgentStatus
  | "idle" => some .idle
  | "working" => some .working
  | "blocked" => some .blocked
  | "done" => some .done
  | "unknown" => some .unknown
  | _ => none

/-- A status is deserialized from its name, or from an object whose only key it is. -/
def HerdrAgentStatus.fromValue : Value → Option HerdrAgentStatus
  | .string name => ofName name
  | .object [(name, .null)] => ofName name
  | _ => none

def mapStatus : HerdrAgentStatus → AgentStatus
  | .idle => .idle
  | .working => .working
  | .blocked => .blocked
  | .done => .done
  | .unknown => .unknown

/-- A line as a change of the set of panes. -/
inductive PaneChange
  | created (pane : Option String)
  | gone (pane : Option String)
  deriving DecidableEq, Repr

/-- The pane a change is about. -/
def PaneChange.pane : PaneChange → Option String
  | .created pane => pane
  | .gone pane => pane

/-- A classified line. -/
inductive Pushed
  | agentStatus (ev : AgentStatusChanged)
  | paneCreated (pane : Option String)
  | paneGone (herdrPaneId : Option String) (pane : Option ℕ)
  | layoutUpdated (workspaceId herdrTabId : String)
  | ignored
  deriving DecidableEq, Repr

/-- The pane that a `pane.created` payload names. -/
def paneCreatedId (data : Option Value) : Option String := do
  let data ← data
  (((data.get "pane").bind (·.get "pane_id")).bind (·.asStr)).or
    ((data.get "pane_id").bind (·.asStr))

/-- The pane that a `pane.closed` or `pane.exited` payload names. -/
def paneGoneId (data : Option Value) : Option String := do
  let data ← data
  ((data.get "pane_id").bind (·.asStr)).or
    (((data.get "pane").bind (·.get "pane_id")).bind (·.asStr))

/-- The kind of agent a pane reports: its label, or else its display name. -/
def agentKind (agent displayAgent : Option String) : Option String :=
  (agent.filter (· ≠ "")).or (displayAgent.filter (· ≠ ""))

/-- An agent status; its pane is registered, without a terminal id if it is new. -/
def parseAgentStatus (data : Option Value) (panes : HerdrPaneRegistry) :
    HerdrPaneRegistry × Pushed :=
  match data with
  | none => (panes, .ignored)
  | some data =>
    match (data.get "pane_id").bind (·.asStr), (data.get "workspace_id").bind (·.asStr),
        (data.get "agent_status").bind HerdrAgentStatus.fromValue with
    | some paneId, some workspaceId, some status =>
      let (panes, pane) := translatePane panes paneId none
      (panes, .agentStatus
        { pane := pane
          workspaceId := workspaceId
          workspaceName := none
          status := mapStatus status
          title := (data.get "title").bind (·.asStr)
          kind := agentKind ((data.get "agent").bind (·.asStr))
            ((data.get "display_agent").bind (·.asStr))
          name := ((data.get "name").bind (·.asStr)).filter (· ≠ "")
          tab := none
          synthetic := false })
    | _, _, _ => (panes, .ignored)

/-- A layout event; only the ids of its workspace and tab are read. -/
def parseLayoutUpdated (data : Option Value) : Pushed :=
  match data.bind (·.get "layout") with
  | none => .ignored
  | some layout =>
    match (layout.get "workspace_id").bind (·.asStr), (layout.get "tab_id").bind (·.asStr) with
    | some workspaceId, some tabId => .layoutUpdated workspaceId tabId
    | _, _ => .ignored

/-- A closed pane, with its number if it has one. -/
def parsePaneGone (data : Option Value) (panes : HerdrPaneRegistry) : Pushed :=
  match paneGoneId data with
  | none => .ignored
  | some herdrPaneId => .paneGone (some herdrPaneId) (panes.idForHerdrPane herdrPaneId)

/-- The status a payload reports, and the pane; it names a workspace too. -/
def reportedStatus (data : Option Value) : Option (String × HerdrAgentStatus) := do
  let data ← data
  let pane ← (data.get "pane_id").bind (·.asStr)
  let _ ← (data.get "workspace_id").bind (·.asStr)
  let status ← (data.get "agent_status").bind HerdrAgentStatus.fromValue
  some (pane, status)

/-- Must a created pane widen the subscription? -/
def paneNeedsWidening (paneId : Option String) (subscribed : List String) : Bool :=
  match paneId with
  | some pane => !subscribed.contains pane
  | none => true

section Parser
variable (fromStr : String → Option Value)

/-- The event of a line, its name spelt with underscores, and its payload. -/
def pushedEnvelope (line : String) : Option (String × Option Value) :=
  if line = "" then none
  else do
    let value ← fromStr line
    let event ← (value.get "event").bind (·.asStr)
    some (String.ofList (event.toList.map fun c => if c = '.' then '_' else c), value.get "data")

/-- Read a line for the pump. -/
def classifyPushed (line : String) (panes : HerdrPaneRegistry) : HerdrPaneRegistry × Pushed :=
  match pushedEnvelope fromStr line with
  | none => (panes, .ignored)
  | some (event, data) =>
    match event with
    | "pane_agent_status_changed" => parseAgentStatus data panes
    | "pane_created" => (panes, .paneCreated (paneCreatedId data))
    | "pane_closed" => (panes, parsePaneGone data panes)
    | "pane_exited" => (panes, parsePaneGone data panes)
    | "layout_updated" => (panes, parseLayoutUpdated data)
    | _ => (panes, .ignored)

/-- Read a buffered line. -/
def lifecycleChange (line : String) : Option PaneChange :=
  match pushedEnvelope fromStr line with
  | none => none
  | some (event, data) =>
    match event with
    | "pane_created" => some (.created (paneCreatedId data))
    | "pane_closed" => some (.gone (paneGoneId data))
    | "pane_exited" => some (.gone (paneGoneId data))
    | _ => none

/-- One buffered line: the ids, which are also the ones seen, and the panes reported gone. -/
def replay (acc : List String × List String) (line : String) : List String × List String :=
  match lifecycleChange fromStr line with
  | some (.created (some pane)) =>
    if pane ∈ acc.1 then acc else (acc.1 ++ [pane], acc.2)
  | some (.gone (some pane)) => (acc.1, pane :: acc.2)
  | _ => acc

/-- The panes to subscribe to: the enumerated ones and those created in the meantime, without those
that are gone. -/
def bootstrapPaneSet (enumerated buffered : List String) : List String :=
  let (ids, gone) := buffered.foldl (replay fromStr) (enumerated, [])
  ids.filter (· ∉ gone)

/-- The status a line reports, and the pane. -/
def statusReport (line : String) : Option (String × HerdrAgentStatus) :=
  match pushedEnvelope fromStr line with
  | some ("pane_agent_status_changed", data) => reportedStatus data
  | _ => none

/-- The line reports that a pane was created. -/
def Creates (line pane : String) : Prop :=
  lifecycleChange fromStr line = some (.created (some pane))

/-- The line reports that a pane is gone. -/
def Closes (line pane : String) : Prop :=
  lifecycleChange fromStr line = some (.gone (some pane))

instance (line pane : String) : Decidable (Creates fromStr line pane) :=
  inferInstanceAs (Decidable (_ = _))

instance (line pane : String) : Decidable (Closes fromStr line pane) :=
  inferInstanceAs (Decidable (_ = _))

/-! ### The two readings of a line -/

variable {fromStr} {line pane : String} {panes : HerdrPaneRegistry}

theorem parseAgentStatus_of_some (panes : HerdrPaneRegistry) {data : Option Value}
    {status : HerdrAgentStatus} (h : reportedStatus data = some (pane, status)) :
    ∃ ev : AgentStatusChanged, ev.pane = (translatePane panes pane none).2 ∧
      ev.status = mapStatus status ∧
      parseAgentStatus data panes = ((translatePane panes pane none).1, .agentStatus ev) := by
  simp only [reportedStatus, Option.bind_eq_bind, Option.bind_eq_some_iff, Option.some.injEq,
    Prod.mk.injEq] at h
  obtain ⟨data, rfl, _, ⟨v, hv, hpane⟩, workspace, ⟨w, hw, hworkspace⟩, _, ⟨u, hu, hstatus⟩, rfl,
    rfl⟩ := h
  simp only [parseAgentStatus, hv, hw, hu, Option.bind_some, hpane, hworkspace, hstatus]
  exact ⟨_, rfl, rfl, rfl⟩

theorem parseAgentStatus_of_none {data : Option Value} (h : reportedStatus data = none) :
    parseAgentStatus data panes = (panes, .ignored) := by
  rcases data with _ | data
  · rfl
  · unfold parseAgentStatus
    dsimp only
    split
    · rename_i p w st hp hw hst
      simp [reportedStatus, hp, hw, hst] at h
    · rfl

/-- A line about panes reports no status. -/
theorem statusReport_of_change {change : PaneChange}
    (h : lifecycleChange fromStr line = some change) : statusReport fromStr line = none := by
  unfold lifecycleChange at h
  unfold statusReport
  rcases he : pushedEnvelope fromStr line with _ | ⟨event, data⟩
  · rfl
  · rw [he] at h
    simp only at h ⊢
    split at h <;> simp_all

/-- A status report is read as an event of its pane, which is registered. -/
theorem classifyPushed_of_status (panes : HerdrPaneRegistry) {status : HerdrAgentStatus}
    (h : statusReport fromStr line = some (pane, status)) :
    ∃ ev : AgentStatusChanged, ev.pane = (translatePane panes pane none).2 ∧
      ev.status = mapStatus status ∧
      classifyPushed fromStr line panes =
        ((translatePane panes pane none).1, .agentStatus ev) := by
  unfold statusReport at h
  split at h
  · rename_i data he
    obtain ⟨ev, hpane, hstatus, hparse⟩ := parseAgentStatus_of_some panes h
    exact ⟨ev, hpane, hstatus, by simp only [classifyPushed, he, hparse]⟩
  · exact absurd h (by simp)

/-- A line that reports no status is read as the change of panes it tells, or it is about no pane.
The registry is left alone. -/
theorem classifyPushed_cases (h : statusReport fromStr line = none) (panes : HerdrPaneRegistry) :
    (∃ p, lifecycleChange fromStr line = some (.created p) ∧
      classifyPushed fromStr line panes = (panes, .paneCreated p)) ∨
    (∃ p, lifecycleChange fromStr line = some (.gone (some p)) ∧
      classifyPushed fromStr line panes =
        (panes, .paneGone (some p) (panes.idForHerdrPane p))) ∨
    ((lifecycleChange fromStr line).bind PaneChange.pane = none ∧
      (classifyPushed fromStr line panes = (panes, .ignored) ∨
        ∃ workspace tab, classifyPushed fromStr line panes =
          (panes, .layoutUpdated workspace tab))) := by
  unfold lifecycleChange classifyPushed
  unfold statusReport at h
  rcases he : pushedEnvelope fromStr line with _ | ⟨event, data⟩
  · simp
  · simp only [he] at h ⊢
    have hgone : parsePaneGone data panes = .ignored ∧ paneGoneId data = none ∨
        ∃ p, parsePaneGone data panes = .paneGone (some p) (panes.idForHerdrPane p) ∧
          paneGoneId data = some p := by
      unfold parsePaneGone
      rcases paneGoneId data with _ | p <;> simp
    have hlayout : parseLayoutUpdated data = .ignored ∨
        ∃ workspace tab, parseLayoutUpdated data = .layoutUpdated workspace tab := by
      unfold parseLayoutUpdated
      split
      · exact Or.inl rfl
      · split
        · exact Or.inr ⟨_, _, rfl⟩
        · exact Or.inl rfl
    split
    · exact Or.inl ⟨paneCreatedId data, rfl, rfl⟩
    · rcases hgone with ⟨hparse, hid⟩ | ⟨p, hparse, hid⟩
      · exact Or.inr (Or.inr ⟨by rw [hid]; rfl, Or.inl (congrArg (Prod.mk panes) hparse)⟩)
      · exact Or.inr (Or.inl ⟨p, by rw [hid], congrArg (Prod.mk panes) hparse⟩)
    · rcases hgone with ⟨hparse, hid⟩ | ⟨p, hparse, hid⟩
      · exact Or.inr (Or.inr ⟨by rw [hid]; rfl, Or.inl (congrArg (Prod.mk panes) hparse)⟩)
      · exact Or.inr (Or.inl ⟨p, by rw [hid], congrArg (Prod.mk panes) hparse⟩)
    · refine Or.inr (Or.inr ⟨rfl, ?_⟩)
      split
      · exact Or.inl (parseAgentStatus_of_none h)
      · exact absurd rfl ‹"pane_created" = "pane_created" → False›
      · exact absurd rfl ‹"pane_closed" = "pane_closed" → False›
      · exact absurd rfl ‹"pane_exited" = "pane_exited" → False›
      · rcases hlayout with hlayout | ⟨workspace, tab, hlayout⟩
        · exact Or.inl (congrArg (Prod.mk panes) hlayout)
        · exact Or.inr ⟨workspace, tab, congrArg (Prod.mk panes) hlayout⟩
      · exact Or.inl rfl

/-! ### The panes to subscribe to -/

theorem mem_replay_fst {acc : List String × List String} :
    pane ∈ (replay fromStr acc line).1 ↔ pane ∈ acc.1 ∨ Creates fromStr line pane := by
  unfold replay Creates
  split
  · rename_i p hline
    rw [hline]
    by_cases hp : p ∈ acc.1
    · rw [if_pos hp]
      constructor
      · exact Or.inl
      · rintro (h | h)
        · exact h
        · simp only [Option.some.injEq, PaneChange.created.injEq] at h
          exact h ▸ hp
    · rw [if_neg hp, List.mem_append, List.mem_singleton]
      simp [eq_comm]
  · rename_i p hline
    simp [hline]
  · rename_i hcreated hgone
    have hne : lifecycleChange fromStr line ≠ some (.created (some pane)) := hcreated pane
    simp [hne]

theorem mem_replay_snd {acc : List String × List String} :
    pane ∈ (replay fromStr acc line).2 ↔ pane ∈ acc.2 ∨ Closes fromStr line pane := by
  unfold replay Closes
  split
  · rename_i p hline
    rw [hline]
    split <;> simp
  · rename_i p hline
    rw [hline, List.mem_cons]
    simp [eq_comm, or_comm]
  · rename_i hcreated hgone
    have hne : lifecycleChange fromStr line ≠ some (.gone (some pane)) := hgone pane
    simp [hne]

variable (fromStr pane) in
theorem mem_foldl_replay (buffered : List String) (acc : List String × List String) :
    (pane ∈ (buffered.foldl (replay fromStr) acc).1 ↔
      pane ∈ acc.1 ∨ ∃ line ∈ buffered, Creates fromStr line pane) ∧
    (pane ∈ (buffered.foldl (replay fromStr) acc).2 ↔
      pane ∈ acc.2 ∨ ∃ line ∈ buffered, Closes fromStr line pane) := by
  induction buffered generalizing acc with
  | nil => simp
  | cons line buffered ih =>
    rw [List.foldl_cons]
    obtain ⟨hids, hgone⟩ := ih (replay fromStr acc line)
    rw [hids, hgone, mem_replay_fst, mem_replay_snd]
    simp only [List.mem_cons, exists_eq_or_imp, or_assoc, and_self]

/-- **The panes subscribed to** are those enumerated or created during the enumeration, none of
which was reported gone. -/
theorem mem_bootstrapPaneSet {enumerated buffered : List String} :
    pane ∈ bootstrapPaneSet fromStr enumerated buffered ↔
      (pane ∈ enumerated ∨ ∃ line ∈ buffered, Creates fromStr line pane) ∧
        ∀ line ∈ buffered, ¬ Closes fromStr line pane := by
  obtain ⟨hids, hgone⟩ := mem_foldl_replay fromStr pane buffered (enumerated, [])
  unfold bootstrapPaneSet
  rw [List.mem_filter, hids]
  have hgone' : pane ∈ (buffered.foldl (replay fromStr) (enumerated, [])).2 ↔
      ∃ line ∈ buffered, Closes fromStr line pane := by
    rw [hgone]
    simp
  rw [decide_eq_true_iff, hgone']
  simp

end Parser

end MuxrCore.Herdr.Subscribe.Lines
