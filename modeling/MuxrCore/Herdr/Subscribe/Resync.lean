import MuxrCore.Herdr.Subscribe.Tables

/-! # What a resync leaves, and reports

`buildResyncEvents` goes once over a listing. It numbers the listed panes and their tabs, writes
their rows, and collects the statuses that changed; then it drops the rows of the panes that are
not listed, and reports these closed. `Exact` says what is left and what is reported; a second
resync of the same listing has nothing to report (`resync_exact`).

The numbers of panes are 32 bits wide. Once they are exhausted, new panes share the last one, and
so one row; the listed panes must have numbers of their own (`Apart`). -/

namespace MuxrCore.Herdr.Subscribe.Resync

open MuxrCore.Herdr.Registry MuxrCore.Herdr.Subscribe.Lines MuxrCore.Herdr.Subscribe.Tables
open MuxrCore.Lib.Tables MuxrCore.Multiplexer.Agents

/-- The registry once the panes of a listing are registered. -/
def registered (reg : HerdrPaneRegistry) (input : List ResyncPane) : HerdrPaneRegistry :=
  input.foldl (fun reg p => (reg.assignOrGet p.herdrPaneId p.terminalId).1) reg

/-- Listed panes with different ids get different numbers. -/
def Apart (reg : HerdrPaneRegistry) (input : List ResyncPane) : Prop :=
  ∀ p ∈ input, ∀ q ∈ input,
    (registered reg input).byHerdr p.herdrPaneId =
      (registered reg input).byHerdr q.herdrPaneId → p.herdrPaneId = q.herdrPaneId

section
variable (panes : HerdrPaneRegistry) (tabs : HerdrTabRegistry)

/-- The number of a listed pane. -/
def number (p : ResyncPane) : ℕ := panes.target p.herdrPaneId

/-- The number of the tab a pane is listed in, if one is named. -/
def tabNumber (p : ResyncPane) : Option ℕ := if p.tabId = "" then none else tabs.byHerdr p.tabId

variable {tabs} in
theorem tabNumber_eq_some {p : ResyncPane} {tab : ℕ} :
    tabNumber tabs p = some tab ↔ p.tabId ≠ "" ∧ tabs.byHerdr p.tabId = some tab := by
  unfold tabNumber
  by_cases h : p.tabId = "" <;> simp [h]

/-- The synthetic event of a listed pane. -/
def synthetic (p : ResyncPane) : AgentStatusChanged :=
  { pane := number panes p
    workspaceId := p.workspaceId
    workspaceName := some p.workspaceLabel
    status := mapStatus p.status
    title := p.title
    kind := agentKind p.agent p.displayAgent
    name := none
    tab := tabNumber tabs p
    synthetic := true }

end

/-- The listed pane's status is not the one in the table. -/
def Changes (k : Kernel) (panes : HerdrPaneRegistry) (p : ResyncPane) : Prop :=
  k.lastStatus.lookup (number panes p) ≠ some (mapStatus p.status)

instance (k : Kernel) (panes : HerdrPaneRegistry) (p : ResyncPane) :
    Decidable (Changes k panes p) :=
  inferInstanceAs (Decidable (_ ≠ _))

/-- What a resync of a listing leaves, `t`, and what it reports. -/
structure Exact (k : Kernel) (input : List ResyncPane) (t : Kernel) (events : ResyncEvents) :
    Prop where
  /-- Known panes keep their numbers. -/
  grows : Extends k.panes t.panes
  /-- Every listed pane has a number. -/
  numbered : ∀ p ∈ input, t.panes.byHerdr p.herdrPaneId = some (number t.panes p)
  /-- The statuses are those listed. -/
  statuses : ∀ id status, t.lastStatus.lookup id = some status ↔
    ∃ p ∈ input, number t.panes p = id ∧ mapStatus p.status = status
  /-- The tabs are those listed, for the panes with a tab. -/
  tabs : ∀ id tab, t.paneTabs.lookup id = some tab ↔
    ∃ p ∈ input, number t.panes p = id ∧ p.tabId ≠ "" ∧ t.tabs.byHerdr p.tabId = some tab
  /-- One event for each status that is not the recorded one, in the order of the listing. -/
  changed : events.changed =
    (input.filter fun p => Changes k t.panes p).map (synthetic t.panes t.tabs)
  /-- The closed panes are those with a row that are not listed. -/
  closed : ∀ id, id ∈ events.closed ↔ k.HasRow id ∧ ∀ p ∈ input, number t.panes p ≠ id
  ascending : events.closed.Pairwise (· < ·)

/-! ### The registries -/

theorem extends_foldl_observe (input : List ResyncPane) (acc : Observed) :
    Extends acc.panes (input.foldl observe acc).panes ∧
      HerdrTabRegistry.Extends acc.tabs (input.foldl observe acc).tabs := by
  induction input generalizing acc with
  | nil => exact ⟨Extends.refl _, HerdrTabRegistry.Extends.refl _⟩
  | cons p input ih =>
    rw [List.foldl_cons]
    obtain ⟨hpanes, htabs⟩ := ih (observe acc p)
    refine ⟨(extends_assign acc.panes p.herdrPaneId p.terminalId true).trans hpanes, ?_⟩
    have hstep : HerdrTabRegistry.Extends acc.tabs (observe acc p).tabs := by
      unfold observe
      by_cases ht : p.tabId = ""
      · simp only [ht, if_true]
        exact HerdrTabRegistry.Extends.refl _
      · simp only [ht, if_false]
        exact HerdrTabRegistry.extends_assign acc.tabs p.tabId
    exact hstep.trans htabs

theorem foldl_observe_panes (input : List ResyncPane) (acc : Observed) :
    (input.foldl observe acc).panes = registered acc.panes input := by
  induction input generalizing acc with
  | nil => rfl
  | cons p input ih => exact ih (observe acc p)

theorem extends_registered (reg : HerdrPaneRegistry) (input : List ResyncPane) :
    Extends reg (registered reg input) :=
  extends_foldl ResyncPane.herdrPaneId ResyncPane.terminalId input reg

/-- The number handed out is the one the pane keeps. -/
theorem number_of_extends {reg panes : HerdrPaneRegistry} {p : ResyncPane}
    (h : Extends (reg.assignOrGet p.herdrPaneId p.terminalId).1 panes) :
    (reg.assignOrGet p.herdrPaneId p.terminalId).2 = number panes p := by
  unfold number HerdrPaneRegistry.target
  rw [h _ _ (byHerdr_assignOrGet_self reg p.herdrPaneId p.terminalId)]
  rfl

/-! ### One pass over the listing -/

section Pass
variable {k : Kernel} {panes : HerdrPaneRegistry} {tabs : HerdrTabRegistry}
  {done input : List ResyncPane} {acc : Observed} {p : ResyncPane}

/-- What one listed pane changes, in terms of registries that have grown since. -/
theorem observe_of_extends (hpanes : Extends (observe acc p).panes panes)
    (htabs : HerdrTabRegistry.Extends (observe acc p).tabs tabs) :
    (observe acc p).live = number panes p :: acc.live ∧
      (∀ id, (observe acc p).lastStatus.lookup id =
        if id = number panes p then some (mapStatus p.status) else acc.lastStatus.lookup id) ∧
      (∀ id, (observe acc p).paneTabs.lookup id =
        if id = number panes p then tabNumber tabs p else acc.paneTabs.lookup id) ∧
      (observe acc p).changed =
        if acc.lastStatus.lookup (number panes p) = some (mapStatus p.status) then acc.changed
        else acc.changed ++ [synthetic panes tabs p] := by
  have hnumber : (acc.panes.assignOrGet p.herdrPaneId p.terminalId).2 = number panes p :=
    number_of_extends hpanes
  by_cases ht : p.tabId = ""
  · have htab : tabNumber tabs p = none := if_pos ht
    refine ⟨?_, fun id => ?_, fun id => ?_, ?_⟩
    · simp only [observe, hnumber]
    · simp only [observe, hnumber]
      exact lookup_insert_eq _ _ _ id
    · simp only [observe, hnumber, if_pos ht, htab]
      exact lookup_erase_eq _ _ id
    · simp only [observe, if_pos ht, synthetic, htab]
      rw [hnumber]
  · have hsome : tabs.byHerdr p.tabId = some (acc.tabs.assignOrGet p.tabId).2 := by
      refine htabs _ _ ?_
      simp only [observe, if_neg ht]
      exact HerdrTabRegistry.byHerdr_assign_self acc.tabs p.tabId
    have htab : tabNumber tabs p = some (acc.tabs.assignOrGet p.tabId).2 :=
      (if_neg ht).trans hsome
    refine ⟨?_, fun id => ?_, fun id => ?_, ?_⟩
    · simp only [observe, hnumber]
    · simp only [observe, hnumber]
      exact lookup_insert_eq _ _ _ id
    · simp only [observe, hnumber, if_neg ht, htab]
      exact lookup_insert_eq _ _ _ id
    · simp only [observe, if_neg ht, synthetic, htab]
      rw [hnumber]

/-- What has been observed once some panes of a listing are processed, in terms of the registries
at its end. -/
structure Tracks (k : Kernel) (panes : HerdrPaneRegistry) (tabs : HerdrTabRegistry)
    (done : List ResyncPane) (acc : Observed) : Prop where
  live : ∀ id, id ∈ acc.live ↔ ∃ p ∈ done, number panes p = id
  status : ∀ p ∈ done, acc.lastStatus.lookup (number panes p) = some (mapStatus p.status)
  tab : ∀ p ∈ done, acc.paneTabs.lookup (number panes p) = tabNumber tabs p
  other : ∀ id, id ∉ acc.live → acc.lastStatus.lookup id = k.lastStatus.lookup id ∧
    acc.paneTabs.lookup id = k.paneTabs.lookup id
  changed : acc.changed = (done.filter fun p => Changes k panes p).map (synthetic panes tabs)

theorem tracks_start (k : Kernel) :
    Tracks k panes tabs [] ⟨k.panes, k.tabs, k.lastStatus, k.paneTabs, [], []⟩ := by
  refine ⟨?_, ?_, ?_, ?_, rfl⟩ <;> simp

/-- One more pane, with a number of its own. -/
theorem Tracks.observe (h : Tracks k panes tabs done acc)
    (hpanes : Extends (observe acc p).panes panes)
    (htabs : HerdrTabRegistry.Extends (Tables.observe acc p).tabs tabs)
    (hnew : ∀ q ∈ done, number panes q ≠ number panes p) :
    Tracks k panes tabs (done ++ [p]) (Tables.observe acc p) := by
  obtain ⟨hlive, hstatus, htab, hchanged⟩ := observe_of_extends hpanes htabs
  have hfresh : number panes p ∉ acc.live := by
    intro hmem
    obtain ⟨q, hq, he⟩ := (h.live _).mp hmem
    exact hnew q hq he
  refine ⟨fun id => ?_, fun q hq => ?_, fun q hq => ?_, fun id hid => ?_, ?_⟩
  · rw [hlive, List.mem_cons, h.live]
    constructor
    · rintro (rfl | ⟨q, hq, he⟩)
      · exact ⟨p, List.mem_append_right _ List.mem_cons_self, rfl⟩
      · exact ⟨q, List.mem_append_left _ hq, he⟩
    · rintro ⟨q, hq, he⟩
      rcases List.mem_append.mp hq with hq | hq
      · exact Or.inr ⟨q, hq, he⟩
      · obtain rfl := List.mem_singleton.mp hq
        exact Or.inl he.symm
  · rw [hstatus]
    rcases List.mem_append.mp hq with hq | hq
    · rw [if_neg (hnew q hq), h.status q hq]
    · obtain rfl := List.mem_singleton.mp hq
      rw [if_pos rfl]
  · rw [htab]
    rcases List.mem_append.mp hq with hq | hq
    · rw [if_neg (hnew q hq), h.tab q hq]
    · obtain rfl := List.mem_singleton.mp hq
      rw [if_pos rfl]
  · rw [hlive, List.mem_cons, not_or] at hid
    rw [hstatus, htab, if_neg hid.1, if_neg hid.1]
    exact h.other id hid.2
  · -- the row is still the old one
    have hold : acc.lastStatus.lookup (number panes p) =
        k.lastStatus.lookup (number panes p) := (h.other _ hfresh).1
    rw [hchanged, hold, h.changed, List.filter_append, List.map_append]
    by_cases hs : k.lastStatus.lookup (number panes p) = some (mapStatus p.status)
    · rw [if_pos hs, List.filter_cons_of_neg (by simp [Changes, hs])]
      simp
    · rw [if_neg hs, List.filter_cons_of_pos (by simp [Changes, hs])]
      rfl

/-- The rest of the listing. -/
theorem Tracks.foldl (rest : List ResyncPane) (h : Tracks k panes tabs done acc)
    (hpanes : Extends (rest.foldl Tables.observe acc).panes panes)
    (htabs : HerdrTabRegistry.Extends (rest.foldl Tables.observe acc).tabs tabs)
    (hnodup : ((done ++ rest).map (number panes)).Nodup) :
    Tracks k panes tabs (done ++ rest) (rest.foldl Tables.observe acc) := by
  induction rest generalizing done acc with
  | nil => rwa [List.append_nil]
  | cons p rest ih =>
    rw [List.foldl_cons] at hpanes htabs ⊢
    obtain ⟨hgrow, hgrowTabs⟩ := extends_foldl_observe rest (Tables.observe acc p)
    have hnew : ∀ q ∈ done, number panes q ≠ number panes p := by
      rw [List.map_append, List.nodup_append] at hnodup
      exact fun q hq => hnodup.2.2 _ (List.mem_map_of_mem hq) _ (by simp)
    have hstep := h.observe (hgrow.trans hpanes) (hgrowTabs.trans htabs) hnew
    rw [List.append_cons] at hnodup ⊢
    exact ih hstep hpanes htabs hnodup

end Pass

/-! ### The whole resync -/

variable {k : Kernel} {input : List ResyncPane}

theorem nodup_numbers (hids : (input.map (·.herdrPaneId)).Nodup) (ha : Apart k.panes input)
    (hn : ∀ p ∈ input, (registered k.panes input).byHerdr p.herdrPaneId =
      some (number (registered k.panes input) p)) :
    (input.map (number (registered k.panes input))).Nodup := by
  rw [List.Nodup, List.pairwise_map] at hids ⊢
  refine hids.imp_of_mem fun {p q} hp hq hne he => ?_
  refine hne (ha p hp q hq ?_)
  rw [hn p hp, hn q hq, he]

/-- Every listed pane is registered. -/
theorem byHerdr_registered (reg : HerdrPaneRegistry) {p : ResyncPane} (hp : p ∈ input) :
    (registered reg input).byHerdr p.herdrPaneId = some (number (registered reg input) p) := by
  obtain ⟨pre, post, rfl⟩ := List.append_of_mem hp
  have hlater : Extends ((registered reg pre).assignOrGet p.herdrPaneId p.terminalId).1
      (registered reg (pre ++ p :: post)) := by
    have hfold : registered reg (pre ++ p :: post) =
        registered ((registered reg pre).assignOrGet p.herdrPaneId p.terminalId).1 post := by
      unfold registered
      rw [List.foldl_append, List.foldl_cons]
    rw [hfold]
    exact extends_registered _ post
  rw [← number_of_extends hlater]
  exact hlater _ _ (byHerdr_assignOrGet_self _ _ _)

/-- Ascending without repeats. -/
theorem pairwise_sorted_dedup (ids : List ℕ) :
    ((ids.insertionSort (· ≤ ·)).dedup).Pairwise (· < ·) := by
  have hle : ((ids.insertionSort (· ≤ ·)).dedup).Pairwise (· ≤ ·) :=
    (List.pairwise_insertionSort (· ≤ ·) ids).sublist (List.dedup_sublist _)
  have hne : ((ids.insertionSort (· ≤ ·)).dedup).Pairwise (· ≠ ·) := List.nodup_dedup _
  exact hle.imp₂ (fun _ _ h h' => lt_of_le_of_ne h h') hne

/-- **What a resync of a listing leaves and reports.** -/
theorem exact_buildResyncEvents (hids : (input.map (·.herdrPaneId)).Nodup)
    (ha : Apart k.panes input) :
    Exact k input (buildResyncEvents input k).1 (buildResyncEvents input k).2 := by
  set acc := input.foldl observe ⟨k.panes, k.tabs, k.lastStatus, k.paneTabs, [], []⟩ with hacc
  have hpanes : acc.panes = registered k.panes input := foldl_observe_panes input _
  have hnumbered : ∀ p ∈ input, acc.panes.byHerdr p.herdrPaneId = some (number acc.panes p) := by
    rw [hpanes]
    exact fun p hp => byHerdr_registered k.panes hp
  have htracks : Tracks k acc.panes acc.tabs input acc := by
    have hnodup := nodup_numbers hids ha fun p hp => byHerdr_registered k.panes hp
    rw [← hpanes] at hnodup
    exact (tracks_start k).foldl input (Extends.refl _) (HerdrTabRegistry.Extends.refl _) hnodup
  have hfirst : (buildResyncEvents input k).1 =
      ⟨acc.panes, acc.tabs, retain acc.lastStatus acc.live, retain acc.paneTabs acc.live,
        k.bus⟩ := rfl
  have hsecond : (buildResyncEvents input k).2 =
      ⟨((((acc.lastStatus.keys ++ acc.paneTabs.keys).filter
        (· ∉ acc.live)).insertionSort (· ≤ ·)).dedup), acc.changed⟩ := rfl
  rw [hfirst, hsecond]
  refine ⟨hpanes ▸ extends_registered k.panes input, hnumbered, fun id status => ?_, fun id tab => ?_,
    htracks.changed, fun id => ?_, pairwise_sorted_dedup _⟩
  · show (retain acc.lastStatus acc.live).lookup id = some status ↔ _
    rw [lookup_retain]
    constructor
    · intro h
      obtain ⟨hlive, hrow⟩ : id ∈ acc.live ∧ acc.lastStatus.lookup id = some status := by
        simpa using h
      obtain ⟨p, hp, rfl⟩ := (htracks.live id).mp hlive
      rw [htracks.status p hp] at hrow
      exact ⟨p, hp, rfl, Option.some.inj hrow⟩
    · rintro ⟨p, hp, rfl, rfl⟩
      rw [if_pos ((htracks.live _).mpr ⟨p, hp, rfl⟩), htracks.status p hp]
  · show (retain acc.paneTabs acc.live).lookup id = some tab ↔ _
    rw [lookup_retain]
    constructor
    · intro h
      obtain ⟨hlive, hrow⟩ : id ∈ acc.live ∧ acc.paneTabs.lookup id = some tab := by
        simpa using h
      obtain ⟨p, hp, rfl⟩ := (htracks.live id).mp hlive
      rw [htracks.tab p hp, tabNumber_eq_some] at hrow
      exact ⟨p, hp, rfl, hrow⟩
    · rintro ⟨p, hp, rfl, htab⟩
      rw [if_pos ((htracks.live _).mpr ⟨p, hp, rfl⟩), htracks.tab p hp, tabNumber_eq_some]
      exact htab
  · show id ∈ List.dedup _ ↔ _
    rw [List.mem_dedup, List.mem_insertionSort, List.mem_filter, List.mem_append,
      ← AList.mem_keys, ← AList.mem_keys, decide_eq_true_iff]
    have hlive : id ∉ acc.live ↔ ∀ p ∈ input, number acc.panes p ≠ id := by
      rw [htracks.live]
      push Not
      rfl
    rw [hlive]
    refine and_congr_left fun hnone => ?_
    obtain ⟨hstatus, htab⟩ := htracks.other id (hlive.mpr hnone)
    unfold Kernel.HasRow
    rw [← AList.lookup_isSome, ← AList.lookup_isSome, hstatus, htab, AList.lookup_isSome,
      AList.lookup_isSome]

/-! ### A second resync -/

theorem buildResyncEvents_panes (k : Kernel) (input : List ResyncPane) :
    (buildResyncEvents input k).1.panes = registered k.panes input :=
  foldl_observe_panes input _

/-- Registered once more, the listed panes keep their numbers. -/
theorem byHerdr_registered_twice (reg : HerdrPaneRegistry) {p : ResyncPane} (hp : p ∈ input) :
    (registered (registered reg input) input).byHerdr p.herdrPaneId =
      (registered reg input).byHerdr p.herdrPaneId := by
  rw [byHerdr_registered reg hp]
  exact extends_registered _ input _ _ (byHerdr_registered reg hp)

theorem Apart.again {reg : HerdrPaneRegistry} (h : Apart reg input) :
    Apart (registered reg input) input := by
  intro p hp q hq he
  rw [byHerdr_registered_twice reg hp, byHerdr_registered_twice reg hq] at he
  exact h p hp q hq he

/-- The tables a listing left match the listing. -/
theorem Exact.quiet {t u : Kernel} {events again : ResyncEvents} (h : Exact k input t events)
    (h' : Exact t input u again) : again = ⟨[], []⟩ := by
  have hsame : ∀ p ∈ input, number u.panes p = number t.panes p := by
    intro p hp
    exact Option.some.inj ((h'.numbered p hp).symm.trans (h'.grows _ _ (h.numbered p hp)))
  have hchanged : again.changed = [] := by
    rw [h'.changed, List.filter_eq_nil_iff.mpr fun p hp => ?_]
    · rfl
    · have hrow : t.lastStatus.lookup (number t.panes p) = some (mapStatus p.status) :=
        (h.statuses _ _).mpr ⟨p, hp, rfl, rfl⟩
      rw [decide_eq_true_iff, Changes, hsame p hp, hrow]
      simp
  have hclosed : again.closed = [] := by
    refine List.eq_nil_iff_forall_not_mem.mpr fun id hid => ?_
    obtain ⟨hrow, hnone⟩ := (h'.closed id).mp hid
    have hlisted : ∃ p ∈ input, number t.panes p = id := by
      rcases hrow with hrow | hrow
      · obtain ⟨status, hs⟩ := Option.isSome_iff_exists.mp (AList.lookup_isSome.mpr hrow)
        obtain ⟨p, hp, he, -⟩ := (h.statuses id status).mp hs
        exact ⟨p, hp, he⟩
      · obtain ⟨tab, hs⟩ := Option.isSome_iff_exists.mp (AList.lookup_isSome.mpr hrow)
        obtain ⟨p, hp, he, -⟩ := (h.tabs id tab).mp hs
        exact ⟨p, hp, he⟩
    obtain ⟨p, hp, he⟩ := hlisted
    exact hnone p hp ((hsame p hp).trans he)
  rcases again with ⟨closed, changed⟩
  exact congrArg₂ ResyncEvents.mk hclosed hchanged

/-- **A resync leaves and reports what the listing says, and a second one of the same listing
reports nothing.** -/
theorem resync_exact (hids : (input.map (·.herdrPaneId)).Nodup) (ha : Apart k.panes input) :
    Exact k input (buildResyncEvents input k).1 (buildResyncEvents input k).2 ∧
      (buildResyncEvents input (buildResyncEvents input k).1).2 = ⟨[], []⟩ := by
  have hfirst := exact_buildResyncEvents hids ha
  have ha' : Apart (buildResyncEvents input k).1.panes input := by
    rw [buildResyncEvents_panes]
    exact ha.again
  exact ⟨hfirst, hfirst.quiet (exact_buildResyncEvents hids ha')⟩

/-! ### Numbers that are not exhausted -/

theorem numbered_registered {reg : HerdrPaneRegistry} (h : reg.Numbered)
    (hlt : reg.nextId + input.length < 2 ^ 32) : (registered reg input).Numbered := by
  induction input generalizing reg with
  | nil => exact h
  | cons p input ih =>
    rw [List.length_cons] at hlt
    have hle : (reg.assignOrGet p.herdrPaneId p.terminalId).1.nextId ≤ reg.nextId + 1 :=
      reg.nextId_assign_le p.herdrPaneId p.terminalId true
    have hnext : (reg.assignOrGet p.herdrPaneId p.terminalId).1.Numbered :=
      HerdrPaneRegistry.numbered_assign h (by omega) _ _ _
    have hroom : (reg.assignOrGet p.herdrPaneId p.terminalId).1.nextId + input.length < 2 ^ 32 := by
      omega
    exact ih hnext hroom

/-- Panes have numbers of their own while there are numbers left. -/
theorem apart_of_room {reg : HerdrPaneRegistry} (h : reg.Numbered)
    (hlt : reg.nextId + input.length < 2 ^ 32) : Apart reg input := by
  intro p hp q hq he
  have hp' := byHerdr_registered reg hp
  exact (numbered_registered h hlt).distinct _ _ _ hp' (he ▸ hp')

/-- Two panes of one tab. -/
def twoListed : List ResyncPane :=
  [⟨"w1:p1", "term-1", "w1", "main", "w1:t1", none, some "claude", none, .idle⟩,
    ⟨"w1:p2", "term-2", "w1", "main", "w1:t1", none, none, none, .blocked⟩]

theorem resync_exact_twoListed :
    Exact .init twoListed (buildResyncEvents twoListed .init).1
        (buildResyncEvents twoListed .init).2 ∧
      (buildResyncEvents twoListed (buildResyncEvents twoListed .init).1).2 = ⟨[], []⟩ :=
  resync_exact (by decide) (apart_of_room HerdrPaneRegistry.numbered_empty (by decide))

/-- All numbers have been handed out, the last one to `w1:p0`. -/
def exhausted : Kernel :=
  { Kernel.init with
    panes := ⟨2 ^ 32 - 1, Function.update (fun _ => none) "w1:p0" (some (2 ^ 32 - 1)),
      Function.update (fun _ => none) (2 ^ 32 - 1) (some ⟨"w1:p0", "term-0"⟩)⟩ }

/-- Then two new panes share a row, and a second resync reports both once more. -/
theorem exhausted_reports_again :
    (twoListed.map (·.herdrPaneId)).Nodup ∧
      (buildResyncEvents twoListed (buildResyncEvents twoListed exhausted).1).2 ≠ ⟨[], []⟩ := by
  refine ⟨by decide, ?_⟩
  decide +kernel

end MuxrCore.Herdr.Subscribe.Resync
