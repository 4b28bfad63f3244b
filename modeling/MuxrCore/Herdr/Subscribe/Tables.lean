import Mathlib.Data.List.Dedup
import Mathlib.Data.List.Sort
import MuxrCore.Herdr.Subscribe.Lines
import MuxrCore.Lib.Tables

/-! # The tables of the event kernel

The kernel keeps the status last published for each pane, and the tab the pane is in; both are
looked up by the pane's number. A pushed status is published and recorded, a closure removes the
pane's rows, and a resync replaces the tables by what a listing of the panes says, publishing the
differences. -/

namespace MuxrCore.Herdr.Subscribe.Tables

open MuxrCore.Herdr.Registry MuxrCore.Herdr.Translate MuxrCore.Herdr.Subscribe.Lines
open MuxrCore.Lib.Tables MuxrCore.Multiplexer.Agents

/-- The kernel: the registries it shares with the rest of the server, its tables, and the events it
has published. -/
structure Kernel where
  panes : HerdrPaneRegistry
  tabs : HerdrTabRegistry
  lastStatus : AList fun _ : ℕ => AgentStatus
  paneTabs : AList fun _ : ℕ => ℕ
  bus : List MuxEvent

def Kernel.init : Kernel := ⟨.empty, .empty, ∅, ∅, []⟩

/-- Publish a status, and record it as the last one of its pane. An event that names no tab
inherits the one last observed for its pane. -/
def publish (k : Kernel) (ev : AgentStatusChanged) : Kernel :=
  let tab := match ev.tab with
    | some tab => some tab
    | none => k.paneTabs.lookup ev.pane
  { k with
    lastStatus := k.lastStatus.insert ev.pane ev.status
    bus := k.bus ++ [.agentStatusChanged { ev with tab := tab }] }

def publishClosed (k : Kernel) (pane : ℕ) : Kernel :=
  { k with bus := k.bus ++ [.paneClosed pane] }

/-- Drop what is known of a pane that is gone, and publish its closure if it has a number. -/
def forgetPane (k : Kernel) (subscribed : List String) (herdrPaneId : Option String)
    (pane : Option ℕ) : Kernel × List String :=
  let k := match pane with
    | some id => publishClosed
        { k with lastStatus := k.lastStatus.erase id, paneTabs := k.paneTabs.erase id } id
    | none => k
  match herdrPaneId with
  | some hid => (k, subscribed.filter (· ≠ hid))
  | none => (k, subscribed)

/-- Publish that a layout changed; a tab not seen before gets a number. -/
def publishLayout (k : Kernel) (workspaceId herdrTabId : String) : Kernel :=
  let (tabs, tab) := k.tabs.assignOrGet herdrTabId
  { k with tabs := tabs, bus := k.bus ++ [.layoutChanged workspaceId tab] }

/-! ### Resynchronization -/

/-- A pane as a listing shows it. -/
structure ResyncPane where
  herdrPaneId : String
  terminalId : String
  workspaceId : String
  workspaceLabel : String
  tabId : String
  title : Option String
  agent : Option String
  displayAgent : Option String
  status : HerdrAgentStatus
  deriving DecidableEq, Repr

/-- What a resync observed: the panes that vanished, ascending, and the statuses that changed, in
the order of the listing. -/
structure ResyncEvents where
  closed : List ℕ
  changed : List AgentStatusChanged
  deriving DecidableEq, Repr

/-- The bus events, closures first. -/
def ResyncEvents.intoBusEvents (r : ResyncEvents) : List MuxEvent :=
  r.closed.map .paneClosed ++ r.changed.map .agentStatusChanged

/-- The registries and tables during a resync, the panes listed so far, and the changes. -/
structure Observed where
  panes : HerdrPaneRegistry
  tabs : HerdrTabRegistry
  lastStatus : AList fun _ : ℕ => AgentStatus
  paneTabs : AList fun _ : ℕ => ℕ
  live : List ℕ
  changed : List AgentStatusChanged

/-- One listed pane: it is registered with its tab, and its status is recorded; a status that
differs from the recorded one is a change. -/
def observe (acc : Observed) (p : ResyncPane) : Observed :=
  let (panes, id) := acc.panes.assignOrGet p.herdrPaneId p.terminalId
  let (tabs, tab) :=
    if p.tabId = "" then (acc.tabs, none)
    else
      let (tabs, tab) := acc.tabs.assignOrGet p.tabId
      (tabs, some tab)
  let paneTabs := match tab with
    | some tab => acc.paneTabs.insert id tab
    | none => acc.paneTabs.erase id
  let status := mapStatus p.status
  let changed :=
    if acc.lastStatus.lookup id = some status then acc.changed
    else acc.changed ++
      [{ pane := id
         workspaceId := p.workspaceId
         workspaceName := some p.workspaceLabel
         status := status
         title := p.title
         kind := agentKind p.agent p.displayAgent
         name := none
         tab := tab
         synthetic := true }]
  ⟨panes, tabs, acc.lastStatus.insert id status, paneTabs, id :: acc.live, changed⟩

/-- Register the listed panes, bring the tables up to date, and collect what changed. The panes of
the tables that are not listed are closed. -/
def buildResyncEvents (input : List ResyncPane) (k : Kernel) : Kernel × ResyncEvents :=
  let acc := input.foldl observe ⟨k.panes, k.tabs, k.lastStatus, k.paneTabs, [], []⟩
  let closed := (acc.lastStatus.keys ++ acc.paneTabs.keys).filter (· ∉ acc.live)
  (⟨acc.panes, acc.tabs, retain acc.lastStatus acc.live, retain acc.paneTabs acc.live, k.bus⟩,
    ⟨(closed.insertionSort (· ≤ ·)).dedup, acc.changed⟩)

/-- Publish what a listing shows to have changed, if it could be taken; the end of the resync is
published in any case. -/
def resync (k : Kernel) (collected : Option (List ResyncPane)) : Kernel :=
  let (k, events) := match collected with
    | some input =>
      let (k, events) := buildResyncEvents input k
      (k, events.intoBusEvents)
    | none => (k, [])
  { k with bus := k.bus ++ events ++ [MuxEvent.resynced] }

/-! ### Pushed lines -/

section Parser
variable (fromStr : String → Option Value)

/-- The pump handles a line of the lifecycle connection; `none` says that a pane was created which
the subscription does not cover. -/
def pumpLifecycle (k : Kernel) (subscribed : List String) (line : String) :
    Option (Kernel × List String) :=
  let (panes, pushed) := classifyPushed fromStr (trimEnd line) k.panes
  let k := { k with panes := panes }
  match pushed with
  | .paneCreated pane =>
    if paneNeedsWidening pane subscribed then none else some (k, subscribed)
  | .paneGone herdrPaneId pane => some (forgetPane k subscribed herdrPaneId pane)
  | .layoutUpdated workspaceId herdrTabId =>
    some (publishLayout k workspaceId herdrTabId, subscribed)
  | .agentStatus ev => some (publish k ev, subscribed)
  | .ignored => some (k, subscribed)

/-- The pump handles a line of the agent-status connection. -/
def pumpStatus (k : Kernel) (line : String) : Kernel :=
  let (panes, pushed) := classifyPushed fromStr (trimEnd line) k.panes
  let k := { k with panes := panes }
  match pushed with
  | .agentStatus ev => publish k ev
  | _ => k

end Parser

/-! ### What was published -/

/-- The status an event reports for a pane. -/
def reported (pane : ℕ) : MuxEvent → Option AgentStatus
  | .agentStatusChanged ev => if ev.pane = pane then some ev.status else none
  | _ => none

/-- The status last published for a pane. -/
def lastPublished (bus : List MuxEvent) (pane : ℕ) : Option AgentStatus :=
  bus.reverse.findSome? (reported pane)

/-- Every recorded status is the one last published for its pane. -/
def Coherent (k : Kernel) : Prop :=
  ∀ pane status, k.lastStatus.lookup pane = some status →
    lastPublished k.bus pane = some status

/-- A later event may follow an earlier one: it reports no status of a pane closed by it. -/
def MayFollow : MuxEvent → MuxEvent → Prop
  | .paneClosed pane, .agentStatusChanged ev => ev.pane ≠ pane
  | _, _ => True

/-- A pane has a row in one of the tables. -/
def Kernel.HasRow (k : Kernel) (pane : ℕ) : Prop := pane ∈ k.lastStatus ∨ pane ∈ k.paneTabs

variable {k : Kernel} {bus bus' : List MuxEvent} {pane : ℕ}

theorem lastPublished_append :
    lastPublished (bus ++ bus') pane =
      (lastPublished bus' pane).or (lastPublished bus pane) := by
  simp [lastPublished]

theorem lastPublished_eq_none (h : ∀ e ∈ bus, reported pane e = none) :
    lastPublished bus pane = none := by
  unfold lastPublished
  rw [List.findSome?_eq_none_iff]
  intro e he
  exact h e (List.mem_reverse.mp he)

theorem coherent_init : Coherent .init := by
  intro pane status h
  exact absurd h (by simp [Kernel.init])

/-- The recorded statuses stay the ones last published if each is published anew, or was recorded
before and nothing more is published for its pane. -/
theorem Coherent.of_append {t : Kernel} (evs : List MuxEvent) (h : Coherent k)
    (hbus : t.bus = k.bus ++ evs)
    (hrow : ∀ pane status, t.lastStatus.lookup pane = some status →
      (lastPublished evs pane).or (k.lastStatus.lookup pane) = some status) : Coherent t := by
  intro pane status hs
  rw [hbus, lastPublished_append]
  rcases Option.or_eq_some_iff.mp (hrow pane status hs) with he | ⟨he, hk⟩
  · rw [he]
    rfl
  · rw [he, h pane status hk]
    rfl

/-! ### Single events -/

theorem publish_lookup (ev : AgentStatusChanged) (pane : ℕ) :
    (publish k ev).lastStatus.lookup pane =
      if pane = ev.pane then some ev.status else k.lastStatus.lookup pane :=
  lookup_insert_eq k.lastStatus ev.pane ev.status pane

theorem hasRow_publish (ev : AgentStatusChanged) (pane : ℕ) :
    (publish k ev).HasRow pane ↔ pane = ev.pane ∨ k.HasRow pane := by
  show pane ∈ k.lastStatus.insert ev.pane ev.status ∨ pane ∈ k.paneTabs ↔ _
  rw [AList.mem_insert, or_assoc]
  rfl

/-- The event that is published may have got a tab. -/
theorem publish_bus (k : Kernel) (ev : AgentStatusChanged) :
    ∃ ev' : AgentStatusChanged, ev'.pane = ev.pane ∧ ev'.status = ev.status ∧
      (publish k ev).bus = k.bus ++ [MuxEvent.agentStatusChanged ev'] := by
  have hbus : (publish k ev).bus =
      k.bus ++ [MuxEvent.agentStatusChanged { ev with tab := _ }] := rfl
  refine ⟨_, ?_, ?_, hbus⟩ <;> rfl

theorem coherent_publish (h : Coherent k) (ev : AgentStatusChanged) : Coherent (publish k ev) := by
  refine h.of_append _ rfl fun pane status hs => ?_
  rw [publish_lookup] at hs
  by_cases hp : pane = ev.pane
  · rw [if_pos hp] at hs
    simpa [lastPublished, reported, hp] using hs
  · rw [if_neg hp] at hs
    simpa [lastPublished, reported, Ne.symm hp] using hs

theorem coherent_publishLayout (h : Coherent k) (workspaceId herdrTabId : String) :
    Coherent (publishLayout k workspaceId herdrTabId) :=
  h.of_append _ rfl fun _ _ hs => hs

theorem forgetPane_panes (subscribed : List String) (hid : String) (id : Option ℕ) :
    (forgetPane k subscribed (some hid) id).1.panes = k.panes := by
  rcases id with _ | id <;> rfl

theorem closes_forgetPane (subscribed : List String) (hid : String) {id : Option ℕ} {n : ℕ}
    (h : id = some n) :
    MuxEvent.paneClosed n ∈ (forgetPane k subscribed (some hid) id).1.bus := by
  subst h
  exact List.mem_append_right _ List.mem_cons_self

theorem forgetPane_lookup (subscribed : List String) (hid : String) (id pane : ℕ) :
    (forgetPane k subscribed (some hid) (some id)).1.lastStatus.lookup pane =
        (if pane = id then none else k.lastStatus.lookup pane) ∧
      (forgetPane k subscribed (some hid) (some id)).1.paneTabs.lookup pane =
        if pane = id then none else k.paneTabs.lookup pane :=
  ⟨lookup_erase_eq k.lastStatus id pane, lookup_erase_eq k.paneTabs id pane⟩

theorem hasRow_forgetPane (subscribed : List String) (hid : String) (id pane : ℕ) :
    (forgetPane k subscribed (some hid) (some id)).1.HasRow pane ↔
      pane ≠ id ∧ k.HasRow pane := by
  show pane ∈ k.lastStatus.erase id ∨ pane ∈ k.paneTabs.erase id ↔ _
  rw [AList.mem_erase, AList.mem_erase, ← and_or_left]
  rfl

theorem coherent_forgetPane (h : Coherent k) (subscribed : List String) (hid : String)
    (id : Option ℕ) : Coherent (forgetPane k subscribed (some hid) id).1 := by
  rcases id with _ | id
  · exact h
  · refine h.of_append [.paneClosed id] rfl fun pane status hs => ?_
    rw [(forgetPane_lookup subscribed hid id pane).1] at hs
    by_cases hp : pane = id
    · rw [if_pos hp] at hs
      exact absurd hs (by simp)
    · rw [if_neg hp] at hs
      exact hs

/-! ### Lines read by the pump -/

section Parser
variable {fromStr : String → Option Value} {subscribed : List String} {line : String}

/-- A line of the lifecycle connection is about a pane that was created, covered or not; about one
that is gone; or about no pane. -/
theorem pumpLifecycle_cases (k : Kernel) (subscribed : List String)
    (h : statusReport fromStr (trimEnd line) = none) :
    (pumpLifecycle fromStr k subscribed line = none) ∨
    (∃ p ∈ subscribed, Creates fromStr (trimEnd line) p ∧
      pumpLifecycle fromStr k subscribed line = some (k, subscribed)) ∨
    (∃ p, Closes fromStr (trimEnd line) p ∧ pumpLifecycle fromStr k subscribed line =
      some (forgetPane k subscribed (some p) (k.panes.idForHerdrPane p))) ∨
    ((∀ p, ¬ Creates fromStr (trimEnd line) p) ∧
      (pumpLifecycle fromStr k subscribed line = some (k, subscribed) ∨
        ∃ workspace tab, pumpLifecycle fromStr k subscribed line =
          some (publishLayout k workspace tab, subscribed))) := by
  unfold pumpLifecycle
  rcases classifyPushed_cases h k.panes with ⟨p, hp, hc⟩ | ⟨p, hp, hc⟩ | ⟨hnone, hc⟩
  · rw [hc]
    by_cases hw : paneNeedsWidening p subscribed = true
    · exact Or.inl (if_pos hw)
    · rcases p with _ | p
      · exact absurd rfl hw
      · have hmem : p ∈ subscribed := by simpa [paneNeedsWidening] using hw
        exact Or.inr (Or.inl ⟨p, hmem, hp, if_neg hw⟩)
  · rw [hc]
    exact Or.inr (Or.inr (Or.inl ⟨p, hp, rfl⟩))
  · refine Or.inr (Or.inr (Or.inr ⟨fun p hp => ?_, ?_⟩))
    · rw [Creates] at hp
      rw [hp] at hnone
      exact absurd hnone (by simp [PaneChange.pane])
    · rcases hc with hc | ⟨workspace, tab, hc⟩
      · rw [hc]
        exact Or.inl rfl
      · rw [hc]
        exact Or.inr ⟨workspace, tab, rfl⟩

/-- A pane that is reported gone is forgotten. -/
theorem pumpLifecycle_of_closes {p : String} (h : Closes fromStr (trimEnd line) p) :
    pumpLifecycle fromStr k subscribed line =
      some ((forgetPane k subscribed (some p) (k.panes.idForHerdrPane p)).1,
        subscribed.filter (· ≠ p)) := by
  have hquiet : statusReport fromStr (trimEnd line) = none := statusReport_of_change h
  rw [Closes] at h
  unfold pumpLifecycle
  rcases classifyPushed_cases hquiet k.panes with ⟨q, hq, -⟩ | ⟨q, hq, hc⟩ | ⟨hnone, -⟩
  · exact absurd (h.symm.trans hq) (by simp)
  · obtain rfl : p = q := by simpa using h.symm.trans hq
    rw [hc]
    rfl
  · rw [h] at hnone
    exact absurd hnone (by simp [PaneChange.pane])

/-- The pump covers no new pane. -/
theorem subscribed_pumpLifecycle (h : statusReport fromStr (trimEnd line) = none) {t : Kernel}
    {subscribed' : List String}
    (hk : pumpLifecycle fromStr k subscribed line = some (t, subscribed')) :
    ∀ p ∈ subscribed', p ∈ subscribed := by
  intro p hp
  rcases pumpLifecycle_cases k subscribed h with
    hnone | ⟨q, -, -, hsome⟩ | ⟨q, -, hsome⟩ | ⟨-, hsome | ⟨workspace, tab, hsome⟩⟩
  · exact absurd (hnone.symm.trans hk) (by simp)
  · obtain ⟨-, rfl⟩ := Prod.mk.inj (Option.some.inj (hk.symm.trans hsome))
    exact hp
  · have hpair := Option.some.inj (hk.symm.trans hsome)
    obtain rfl : subscribed' = subscribed.filter (· ≠ q) := congrArg Prod.snd hpair
    exact (List.mem_filter.mp hp).1
  · obtain ⟨-, rfl⟩ := Prod.mk.inj (Option.some.inj (hk.symm.trans hsome))
    exact hp
  · obtain ⟨-, rfl⟩ := Prod.mk.inj (Option.some.inj (hk.symm.trans hsome))
    exact hp

/-- A reported status is published for its pane, which is registered. -/
theorem pumpStatus_of_status {p : String} {status : HerdrAgentStatus}
    (h : statusReport fromStr (trimEnd line) = some (p, status)) :
    ∃ ev : AgentStatusChanged, ev.pane = (translatePane k.panes p none).2 ∧
      ev.status = mapStatus status ∧ pumpStatus fromStr k line =
        publish { k with panes := (translatePane k.panes p none).1 } ev := by
  obtain ⟨ev, hpane, hstatus, hc⟩ := classifyPushed_of_status k.panes h
  exact ⟨ev, hpane, hstatus, by simp only [pumpStatus, hc]⟩

/-- A line that reports no status changes nothing. -/
theorem pumpStatus_of_none (h : statusReport fromStr (trimEnd line) = none) :
    pumpStatus fromStr k line = k := by
  unfold pumpStatus
  rcases classifyPushed_cases h k.panes with ⟨p, -, hc⟩ | ⟨p, -, hc⟩ | ⟨-, hc | ⟨_, _, hc⟩⟩ <;>
    rw [hc]

end Parser

/-! ### The listing -/

/-- What has been observed once some panes of a listing are processed. -/
structure Follows (k : Kernel) (done : List ResyncPane) (acc : Observed) : Prop where
  /-- The registry has grown. -/
  grows : Extends k.panes acc.panes
  /-- The panes have numbers. -/
  listed : ∀ p ∈ done, ∃ id ∈ acc.live, acc.panes.byHerdr p.herdrPaneId = some id
  /-- The numbers are those of the panes, and the statuses those listed. -/
  live : ∀ id ∈ acc.live, ∃ p ∈ done, acc.panes.byHerdr p.herdrPaneId = some id ∧
    acc.lastStatus.lookup id = some (mapStatus p.status)
  /-- A status is one that changed, or an old one. -/
  status : ∀ id, acc.lastStatus.lookup id =
    (lastPublished (acc.changed.map .agentStatusChanged) id).or (k.lastStatus.lookup id)
  /-- A changed status belongs to one of the panes. -/
  changed : ∀ ev ∈ acc.changed, ev.pane ∈ acc.live
  /-- The tabs of the other panes are the old ones. -/
  tabs : ∀ id, id ∉ acc.live → acc.paneTabs.lookup id = k.paneTabs.lookup id

theorem follows_start (k : Kernel) :
    Follows k [] ⟨k.panes, k.tabs, k.lastStatus, k.paneTabs, [], []⟩ := by
  refine ⟨Extends.refl _, ?_, ?_, ?_, ?_, ?_⟩ <;> simp [lastPublished]

/-- What one listed pane changes: its number, its status, and the changed statuses. -/
theorem observe_spec (acc : Observed) (p : ResyncPane) :
    ∃ id, (acc.panes.assignOrGet p.herdrPaneId p.terminalId).2 = id ∧
      (observe acc p).panes = (acc.panes.assignOrGet p.herdrPaneId p.terminalId).1 ∧
      (observe acc p).live = id :: acc.live ∧
      (∀ pane, (observe acc p).lastStatus.lookup pane =
        if pane = id then some (mapStatus p.status) else acc.lastStatus.lookup pane) ∧
      (∀ pane, pane ≠ id → (observe acc p).paneTabs.lookup pane = acc.paneTabs.lookup pane) ∧
      ((acc.lastStatus.lookup id = some (mapStatus p.status) ∧
          (observe acc p).changed = acc.changed) ∨
        ∃ ev : AgentStatusChanged, ev.pane = id ∧ ev.status = mapStatus p.status ∧
          (observe acc p).changed = acc.changed ++ [ev]) := by
  refine ⟨_, rfl, rfl, rfl, fun pane => lookup_insert_eq _ _ _ pane, fun pane hne => ?_, ?_⟩
  · unfold observe
    by_cases ht : p.tabId = ""
    · simp only [ht, if_true]
      exact AList.lookup_erase_ne hne
    · simp only [ht, if_false]
      exact AList.lookup_insert_ne hne
  · by_cases hs : acc.lastStatus.lookup
        (acc.panes.assignOrGet p.herdrPaneId p.terminalId).2 = some (mapStatus p.status)
    · exact Or.inl ⟨hs, by simp [observe, hs]⟩
    · have hc : (observe acc p).changed = acc.changed ++ [_] := if_neg hs
      exact Or.inr ⟨_, rfl, rfl, hc⟩

/-- One more pane of the listing. -/
theorem Follows.observe {done : List ResyncPane} {acc : Observed} (h : Follows k done acc)
    (p : ResyncPane) : Follows k (done ++ [p]) (observe acc p) := by
  obtain ⟨id, hid, hpanes, hlive, hstatus, htabs, hchanged⟩ := observe_spec acc p
  have hgrows : Extends acc.panes (Tables.observe acc p).panes := by
    rw [hpanes]
    exact extends_assign acc.panes _ _ _
  have hnumber : (Tables.observe acc p).panes.byHerdr p.herdrPaneId = some id := by
    rw [hpanes, ← hid]
    exact byHerdr_assign_self _ _ _ _
  refine ⟨h.grows.trans hgrows, fun q hq => ?_, fun pane hpane => ?_, fun pane => ?_,
    fun ev hev => ?_, fun pane hpane => ?_⟩
  · rcases List.mem_append.mp hq with hq | hq
    · obtain ⟨id', hlive', hq'⟩ := h.listed q hq
      exact ⟨id', by rw [hlive]; exact List.mem_cons_of_mem _ hlive', hgrows _ _ hq'⟩
    · obtain rfl := List.mem_singleton.mp hq
      exact ⟨id, by rw [hlive]; exact List.mem_cons_self, hnumber⟩
  · rw [hlive] at hpane
    by_cases hne : pane = id
    · subst hne
      exact ⟨p, by simp, hnumber, by rw [hstatus, if_pos rfl]⟩
    · obtain ⟨q, hq, hq', hs⟩ := h.live pane ((List.mem_cons.mp hpane).resolve_left hne)
      exact ⟨q, List.mem_append_left _ hq, hgrows _ _ hq', by rw [hstatus, if_neg hne, hs]⟩
  · rw [hstatus]
    rcases hchanged with ⟨hsame, hchanged⟩ | ⟨ev, hev, hes, hchanged⟩
    · rw [hchanged, ← h.status pane]
      by_cases hne : pane = id
      · rw [if_pos hne, hne, hsame]
      · rw [if_neg hne]
    · rw [hchanged, List.map_append, lastPublished_append]
      by_cases hne : pane = id
      · rw [if_pos hne]
        simp [lastPublished, reported, hne, hev, hes]
      · rw [if_neg hne, h.status pane]
        simp [lastPublished, reported, hev, Ne.symm hne]
  · rw [hlive]
    rcases hchanged with ⟨-, hchanged⟩ | ⟨ev', hev', -, hchanged⟩
    · rw [hchanged] at hev
      exact List.mem_cons_of_mem _ (h.changed ev hev)
    · rw [hchanged] at hev
      rcases List.mem_append.mp hev with hev | hev
      · exact List.mem_cons_of_mem _ (h.changed ev hev)
      · obtain rfl := List.mem_singleton.mp hev
        rw [hev']
        exact List.mem_cons_self
  · rw [hlive] at hpane
    have hne : pane ≠ id := fun he => hpane (he ▸ List.mem_cons_self)
    rw [htabs pane hne, h.tabs pane fun hl => hpane (List.mem_cons_of_mem _ hl)]

/-- The whole listing. -/
theorem follows_foldl (k : Kernel) (input : List ResyncPane) :
    Follows k input
      (input.foldl observe ⟨k.panes, k.tabs, k.lastStatus, k.paneTabs, [], []⟩) := by
  induction input using List.reverseRecOn with
  | nil => exact follows_start k
  | append_singleton input p ih =>
    rw [List.foldl_append]
    exact ih.observe p

/-! ### The resync -/

/-- What a resync makes of a listing. -/
structure Resyncs (k : Kernel) (input : List ResyncPane) (t : Kernel) : Prop where
  /-- The registry has grown. -/
  grows : Extends k.panes t.panes
  /-- Each listed pane is recorded with a status that was listed under its number. -/
  listed : ∀ p ∈ input, ∃ r ∈ input, ∃ id, t.panes.byHerdr p.herdrPaneId = some id ∧
    t.panes.byHerdr r.herdrPaneId = some id ∧
    t.lastStatus.lookup id = some (mapStatus r.status)
  /-- Every row belongs to a listed pane. -/
  rows : ∀ id, t.HasRow id → ∃ p ∈ input, t.panes.byHerdr p.herdrPaneId = some id
  /-- A closed pane had a row, and is not listed. -/
  closes : ∃ evs, t.bus = k.bus ++ evs ∧ evs.Pairwise MayFollow ∧
    (∀ id, .paneClosed id ∈ evs → k.HasRow id ∧
      ∀ p ∈ input, t.panes.byHerdr p.herdrPaneId ≠ some id) ∧
    ∀ ev, .agentStatusChanged ev ∈ evs →
      ∃ p ∈ input, t.panes.byHerdr p.herdrPaneId = some ev.pane
  coherent : Coherent k → Coherent t

/-- The events of a resync: closures of panes that are not live, and statuses of those that are. -/
theorem pairwise_intoBusEvents {r : ResyncEvents} {live : List ℕ}
    (hclosed : ∀ id ∈ r.closed, id ∉ live) (hchanged : ∀ ev ∈ r.changed, ev.pane ∈ live) :
    (r.intoBusEvents ++ [MuxEvent.resynced]).Pairwise MayFollow := by
  have hchanges : (r.changed.map MuxEvent.agentStatusChanged).Pairwise MayFollow :=
    List.pairwise_map.mpr (List.pairwise_of_forall fun _ _ => trivial)
  have hcloses : (r.closed.map MuxEvent.paneClosed).Pairwise MayFollow :=
    List.pairwise_map.mpr (List.pairwise_of_forall fun _ _ => trivial)
  unfold ResyncEvents.intoBusEvents
  rw [List.pairwise_append, List.pairwise_append]
  refine ⟨⟨hcloses, hchanges, ?_⟩, List.pairwise_singleton _ _, ?_⟩
  · intro e he e' he'
    obtain ⟨id, hid, rfl⟩ := List.mem_map.mp he
    obtain ⟨ev, hev, rfl⟩ := List.mem_map.mp he'
    show ev.pane ≠ id
    rintro rfl
    exact hclosed _ hid (hchanged ev hev)
  · intro e _ e' he'
    obtain rfl := List.mem_singleton.mp he'
    rcases e with _ | _ | _ | _ <;> trivial

/-- The statuses among the events of a resync are the changed ones. -/
theorem lastPublished_intoBusEvents (r : ResyncEvents) (pane : ℕ) :
    lastPublished (r.intoBusEvents ++ [MuxEvent.resynced]) pane =
      lastPublished (r.changed.map .agentStatusChanged) pane := by
  have hclosed : lastPublished (r.closed.map .paneClosed) pane = none := by
    refine lastPublished_eq_none fun e he => ?_
    obtain ⟨id, -, rfl⟩ := List.mem_map.mp he
    rfl
  unfold ResyncEvents.intoBusEvents
  rw [lastPublished_append, lastPublished_append, hclosed, Option.or_none]
  rfl

/-- A pane that is not listed keeps the status recorded before. -/
theorem Follows.status_of_notMem {done : List ResyncPane} {acc : Observed} (h : Follows k done acc)
    (hp : pane ∉ acc.live) : acc.lastStatus.lookup pane = k.lastStatus.lookup pane := by
  have hnone : lastPublished (acc.changed.map .agentStatusChanged) pane = none := by
    refine lastPublished_eq_none fun e he => ?_
    obtain ⟨ev, hev, rfl⟩ := List.mem_map.mp he
    have hne : ev.pane ≠ pane := by
      rintro rfl
      exact hp (h.changed ev hev)
    exact if_neg hne
  rw [h.status, hnone]
  rfl

/-- **What a resync does.** -/
theorem resync_spec (k : Kernel) (input : List ResyncPane) :
    Resyncs k input (resync k (some input)) := by
  set acc := input.foldl observe ⟨k.panes, k.tabs, k.lastStatus, k.paneTabs, [], []⟩ with hacc
  have hf : Follows k input acc := follows_foldl k input
  set closed := (((acc.lastStatus.keys ++ acc.paneTabs.keys).filter
    (· ∉ acc.live)).insertionSort (· ≤ ·)).dedup with hclosed
  have hpanes : (resync k (some input)).panes = acc.panes := rfl
  have hlast : (resync k (some input)).lastStatus = retain acc.lastStatus acc.live := rfl
  have htabs : (resync k (some input)).paneTabs = retain acc.paneTabs acc.live := rfl
  have hbus : (resync k (some input)).bus =
      k.bus ++ (ResyncEvents.intoBusEvents ⟨closed, acc.changed⟩ ++ [MuxEvent.resynced]) :=
    List.append_assoc _ _ _
  have hmem : ∀ id, id ∈ closed ↔ (id ∈ acc.lastStatus ∨ id ∈ acc.paneTabs) ∧ id ∉ acc.live := by
    intro id
    rw [hclosed, List.mem_dedup, List.mem_insertionSort, List.mem_filter, List.mem_append,
      ← AList.mem_keys, ← AList.mem_keys, decide_eq_true_iff]
  refine ⟨hf.grows, fun p hp => ?_, fun id hid => ?_, ⟨_, hbus, ?_, fun id hid => ?_, ?_⟩,
    fun h => h.of_append _ hbus fun pane status hs => ?_⟩
  · obtain ⟨id, hlive, hid⟩ := hf.listed p hp
    obtain ⟨r, hr, hr', hs⟩ := hf.live id hlive
    refine ⟨r, hr, id, hid, hr', ?_⟩
    rw [hlast, lookup_retain, if_pos hlive, hs]
  · have hlive : id ∈ acc.live := by
      rcases hid with hid | hid
      · exact (mem_retain.mp (hlast ▸ hid)).1
      · exact (mem_retain.mp (htabs ▸ hid)).1
    obtain ⟨p, hp, hp', -⟩ := hf.live id hlive
    exact ⟨p, hp, hp'⟩
  · exact pairwise_intoBusEvents (fun id hid => ((hmem id).mp hid).2) hf.changed
  · have hid' : id ∈ closed := by
      simpa [ResyncEvents.intoBusEvents] using hid
    obtain ⟨hrow, hlive⟩ := (hmem id).mp hid'
    refine ⟨?_, fun p hp hp' => ?_⟩
    · rcases hrow with hrow | hrow
      · left
        rw [← AList.lookup_isSome, ← hf.status_of_notMem hlive, AList.lookup_isSome]
        exact hrow
      · right
        rw [← AList.lookup_isSome, ← hf.tabs id hlive, AList.lookup_isSome]
        exact hrow
    · obtain ⟨id', hlive', hid''⟩ := hf.listed p hp
      rw [hpanes] at hp'
      obtain rfl := Option.some.inj (hid''.symm.trans hp')
      exact hlive hlive'
  · intro ev hev
    have hev' : ev ∈ acc.changed := by
      simpa [ResyncEvents.intoBusEvents] using hev
    obtain ⟨p, hp, hp', -⟩ := hf.live ev.pane (hf.changed ev hev')
    exact ⟨p, hp, hp'⟩
  · rw [hlast, lookup_retain] at hs
    by_cases hlive : pane ∈ acc.live
    · rw [if_pos hlive, hf.status] at hs
      rw [lastPublished_intoBusEvents, hs]
    · rw [if_neg hlive] at hs
      exact absurd hs (by simp)

end MuxrCore.Herdr.Subscribe.Tables
