import MuxrCore.Herdr.Control

/-! # What a layout read does to the terminal ids

`transcodeLayout` registers the listed panes, and then the panes of the layouts, each with the
terminal id that the list has for it, or with an empty one. `writes` are these registrations in
order. They leave a number with the last terminal id that is written to it (`terminalId_assignAll`),
so a pane of a layout that is not listed loses the one it had. -/

namespace MuxrCore.Herdr.Overwrite

open MuxrCore.Lib.Tables MuxrCore.Herdr.Api MuxrCore.Herdr.Registry MuxrCore.Herdr.Control
open MuxrCore.Herdr.Sender (Registries)

/-! ### Registrations in order -/

/-- The registry after panes have been registered, each with a terminal id. -/
def assignAll (reg : HerdrPaneRegistry) (ws : List (String × String)) : HerdrPaneRegistry :=
  ws.foldl (fun reg w => (reg.assignOrGet w.1 w.2).1) reg

/-- The last terminal id that is written to a number; the numbers are those of the panes. -/
def lastWrite (number : String → Option ℕ) (id : ℕ) (ws : List (String × String)) :
    Option String :=
  (ws.filter fun w => number w.1 = some id).getLast?.map Prod.snd

variable {reg : HerdrPaneRegistry} {ws : List (String × String)} {pane terminal : String}

theorem assignAll_cons (reg : HerdrPaneRegistry) (w : String × String)
    (ws : List (String × String)) :
    assignAll reg (w :: ws) = assignAll (reg.assignOrGet w.1 w.2).1 ws := rfl

theorem assignAll_append (reg : HerdrPaneRegistry) (ws ws' : List (String × String)) :
    assignAll reg (ws ++ ws') = assignAll (assignAll reg ws) ws' := List.foldl_append

theorem lastWrite_cons (number : String → Option ℕ) (id : ℕ) (w : String × String)
    (ws : List (String × String)) :
    lastWrite number id (w :: ws) =
      (lastWrite number id ws).or (if number w.1 = some id then some w.2 else none) := by
  unfold lastWrite
  by_cases h : number w.1 = some id
  · rw [List.filter_cons_of_pos (by simpa using h), List.getLast?_cons, if_pos h]
    rcases hl : (ws.filter fun w => number w.1 = some id).getLast? with _ | w' <;> simp [hl]
  · rw [List.filter_cons_of_neg (by simpa using h), if_neg h, Option.or_none]

theorem extends_assignAll (reg : HerdrPaneRegistry) (ws : List (String × String)) :
    Extends reg (assignAll reg ws) :=
  extends_foldl Prod.fst Prod.snd ws reg

/-- A registration writes the terminal id to the number of the pane, and to no other. -/
theorem terminalId_assign (h : WellFormed reg) (pane terminal : String) (id : ℕ) :
    (reg.assignOrGet pane terminal).1.terminalId id =
      if (reg.assignOrGet pane terminal).2 = id then some terminal else reg.terminalId id := by
  unfold HerdrPaneRegistry.terminalId
  rcases hp : reg.byHerdr pane with _ | id'
  · have hsnd : (reg.assignOrGet pane terminal).2 = reg.nextId := by
      simp [HerdrPaneRegistry.assignOrGet, HerdrPaneRegistry.assignOrGetInner, hp]
    rw [hsnd, HerdrPaneRegistry.assignOrGet, assign_fresh hp]
    by_cases hid : reg.nextId = id
    · subst hid
      simp
    · rw [if_neg hid]
      show (Function.update reg.byId reg.nextId _ id).map _ = _
      rw [Function.update_of_ne (Ne.symm hid)]
  · obtain ⟨entry, he⟩ := h.kept pane id' hp
    have hsnd : (reg.assignOrGet pane terminal).2 = id' := assign_snd hp
    rw [hsnd, HerdrPaneRegistry.assignOrGet, assign_refresh hp he]
    by_cases hid : id' = id
    · subst hid
      simp
    · rw [if_neg hid]
      show (Function.update reg.byId id' _ id).map _ = _
      rw [Function.update_of_ne (Ne.symm hid)]

/-- **A number has the last terminal id that is written to it.** -/
theorem terminalId_assignAll (h : WellFormed reg) (ws : List (String × String)) (id : ℕ) :
    (assignAll reg ws).terminalId id =
      (lastWrite (assignAll reg ws).byHerdr id ws).or (reg.terminalId id) := by
  induction ws generalizing reg with
  | nil => rfl
  | cons w ws ih =>
    have hnumber : (assignAll reg (w :: ws)).byHerdr w.1 = some (reg.assignOrGet w.1 w.2).2 :=
      extends_assignAll _ ws _ _ (byHerdr_assignOrGet_self reg w.1 w.2)
    have hfirst : WellFormed (reg.assignOrGet w.1 w.2).1 := wellFormed_assign h w.1 w.2 true
    rw [lastWrite_cons, hnumber, assignAll_cons, ih hfirst, Option.or_assoc, terminalId_assign h]
    congr 1
    simp only [Option.some_inj]
    split_ifs <;> rfl

/-! ### The registrations of a layout read -/

/-- The panes of the layout of a tab, with the terminal ids of the list. -/
def layoutWrites (panes : List PaneInfo) (tabLayouts : String → Option PaneLayoutSnapshot)
    (tab : TabInfo) : List (String × String) :=
  (((tabLayouts tab.tabId).map (·.panes)).getD []).map fun lp =>
    (lp.paneId, ((lastOf (·.paneId) panes lp.paneId).map (·.terminalId)).getD "")

/-- The panes that are registered, with the terminal ids they are registered with. -/
def writes (tabs : List TabInfo) (panes : List PaneInfo)
    (tabLayouts : String → Option PaneLayoutSnapshot) : List (String × String) :=
  panes.map (fun pane => (pane.paneId, pane.terminalId)) ++
    tabs.flatMap (layoutWrites panes tabLayouts)

theorem mapState_fst {σ α β : Type} (f : σ → α → σ × β) (s : σ) (as : List α) :
    (mapState f s as).1 = as.foldl (fun s a => (f s a).1) s := by
  induction as generalizing s with
  | nil => rfl
  | cons a as ih => exact ih (f s a).1

variable {tabs : List TabInfo} {panes : List PaneInfo}
  {tabLayouts : String → Option PaneLayoutSnapshot}

theorem registerPanes_eq (panes : List PaneInfo) (reg : HerdrPaneRegistry) :
    registerPanes panes reg =
      assignAll reg (panes.map fun pane => (pane.paneId, pane.terminalId)) := by
  rw [registerPanes, assignAll, List.foldl_map]

theorem tabSnapshot_panes (activeTabId : String) (marks : AgentMarks) (reg : Registries)
    (tab : TabInfo) :
    (tabSnapshot (lastOf (·.paneId) panes) tabLayouts activeTabId marks reg tab).1.panes =
      assignAll reg.panes (layoutWrites panes tabLayouts tab) := by
  rw [assignAll, layoutWrites, List.foldl_map]
  exact mapState_fst _ _ _

theorem mapState_panes (activeTabId : String) (marks : AgentMarks) (tabs : List TabInfo)
    (reg : Registries) :
    (mapState (tabSnapshot (lastOf (·.paneId) panes) tabLayouts activeTabId marks) reg
        tabs).1.panes =
      assignAll reg.panes (tabs.flatMap (layoutWrites panes tabLayouts)) := by
  induction tabs generalizing reg with
  | nil => rfl
  | cons tab tabs ih =>
    rw [List.flatMap_cons, assignAll_append, ← tabSnapshot_panes activeTabId marks reg tab]
    exact ih _

/-- **The pane registry after a layout read.** -/
theorem transcodeLayout_panes (activeTabId : String) (marks : AgentMarks) (reg : Registries) :
    (transcodeLayout tabs panes tabLayouts activeTabId marks reg).1.panes =
      assignAll reg.panes (writes tabs panes tabLayouts) := by
  rw [writes, assignAll_append, ← registerPanes_eq]
  exact mapState_panes activeTabId marks tabs _

/-! ### What is lost -/

/-- No entry of the list names the pane. -/
def Unlisted (panes : List PaneInfo) (pane : String) : Prop := ∀ info ∈ panes, info.paneId ≠ pane

/-- After the read, the panes that are not listed have the terminal ids that they had, if these were
not empty, and the listed ones those that are listed. Of several entries for a pane, the last
counts. -/
def KeepsTerminals (tabs : List TabInfo) (panes : List PaneInfo)
    (tabLayouts : String → Option PaneLayoutSnapshot) (activeTabId : String) (marks : AgentMarks)
    (reg : Registries) : Prop :=
  let after := (transcodeLayout tabs panes tabLayouts activeTabId marks reg).1.panes
  (∀ pane terminal, Unlisted panes pane → reg.panes.recorded pane = some terminal →
    terminal ≠ "" → after.recorded pane = some terminal) ∧
  ∀ pane info, lastOf (·.paneId) panes pane = some info →
    after.recorded pane = some info.terminalId

/-- The numbers that the panes have once these have been registered. -/
def numbers (reg : HerdrPaneRegistry) (names : List String) : String → Option ℕ :=
  (assignAll reg (names.map fun name => (name, ""))).byHerdr

/-- What is written last to the number of a pane is the terminal id that it is to have. -/
def LastWritesRight (tabs : List TabInfo) (panes : List PaneInfo)
    (tabLayouts : String → Option PaneLayoutSnapshot) (reg : HerdrPaneRegistry) : Prop :=
  let ws := writes tabs panes tabLayouts
  let number := numbers reg (ws.map Prod.fst)
  (∀ pane terminal id, Unlisted panes pane → reg.recorded pane = some terminal → terminal ≠ "" →
    reg.byHerdr pane = some id → ∀ written, lastWrite number id ws = some written →
      written = terminal) ∧
  ∀ pane info id, lastOf (·.paneId) panes pane = some info → number pane = some id →
    lastWrite number id ws = some info.terminalId

/-- No layout of a listed tab has a pane that is not listed and has a terminal id. -/
def LayoutsListed (tabs : List TabInfo) (panes : List PaneInfo)
    (tabLayouts : String → Option PaneLayoutSnapshot) (reg : HerdrPaneRegistry) : Prop :=
  ∀ tab ∈ tabs, ∀ layout, tabLayouts tab.tabId = some layout → ∀ lp ∈ layout.panes,
    Unlisted panes lp.paneId → ∀ terminal, reg.recorded lp.paneId = some terminal → terminal = ""

/-- The numbers do not depend on the terminal ids. -/
theorem byHerdr_assignAll {reg reg' : HerdrPaneRegistry} (hnext : reg.nextId = reg'.nextId)
    (hnumber : reg.byHerdr = reg'.byHerdr) (ws : List (String × String)) :
    (assignAll reg ws).byHerdr =
      (assignAll reg' (ws.map fun w => (w.1, ""))).byHerdr := by
  induction ws generalizing reg reg' with
  | nil => exact hnumber
  | cons w ws ih =>
    rw [assignAll_cons, List.map_cons, assignAll_cons]
    rcases hp : reg.byHerdr w.1 with _ | id
    · have hp' : reg'.byHerdr w.1 = none := hnumber ▸ hp
      refine ih ?_ ?_
      · rw [HerdrPaneRegistry.assignOrGet, HerdrPaneRegistry.assignOrGet, assign_fresh hp,
          assign_fresh hp']
        show reg.bump = reg'.bump
        rw [HerdrPaneRegistry.bump, HerdrPaneRegistry.bump, hnext]
      · rw [HerdrPaneRegistry.assignOrGet, HerdrPaneRegistry.assignOrGet, assign_fresh hp,
          assign_fresh hp']
        show Function.update reg.byHerdr _ _ = Function.update reg'.byHerdr _ _
        rw [hnumber, hnext]
    · have hp' : reg'.byHerdr w.1 = some id := hnumber ▸ hp
      refine ih ?_ ?_
      · rw [HerdrPaneRegistry.assignOrGet, HerdrPaneRegistry.assignOrGet, (assign_known hp).2,
          (assign_known hp').2, hnext]
      · rw [HerdrPaneRegistry.assignOrGet, HerdrPaneRegistry.assignOrGet, (assign_known hp).1,
          (assign_known hp').1, hnumber]

theorem numbers_eq (reg : HerdrPaneRegistry) (ws : List (String × String)) :
    numbers reg (ws.map Prod.fst) = (assignAll reg ws).byHerdr := by
  rw [numbers, List.map_map]
  exact (byHerdr_assignAll rfl rfl ws).symm

/-- Registered panes have a number. -/
theorem numbered_of_mem {w : String × String} (h : w ∈ ws) :
    ∃ id, (assignAll reg ws).byHerdr w.1 = some id :=
  numbered_foldl Prod.fst Prod.snd h reg

theorem lastOf_eq {α : Type} (key : α → String) (values : List α) (name : String) :
    lastOf key values name = (values.filter fun v => key v = name).getLast? := by
  induction values using List.reverseRecOn with
  | nil => rfl
  | append_singleton values v ih =>
    have hfold : lastOf key (values ++ [v]) =
        Function.update (lastOf key values) (key v) (some v) := by
      rw [lastOf, List.foldl_append]
      rfl
    rw [hfold, List.filter_append, List.getLast?_append, Function.update_apply]
    by_cases h : name = key v
    · simp [h]
    · simp [h, Ne.symm h, ih]

theorem lastOf_eq_none_iff {pane : String} :
    lastOf (·.paneId) panes pane = none ↔ Unlisted panes pane := by
  rw [lastOf_eq, List.getLast?_eq_none_iff, List.filter_eq_nil_iff]
  simp [Unlisted]

/-- What is recorded of a pane after the registrations. -/
theorem recorded_assignAll (h : WellFormed reg) (ws : List (String × String)) {id : ℕ}
    (hid : (assignAll reg ws).byHerdr pane = some id) :
    (assignAll reg ws).recorded pane =
      (lastWrite (assignAll reg ws).byHerdr id ws).or (reg.terminalId id) := by
  rw [HerdrPaneRegistry.recorded, HerdrPaneRegistry.idForHerdrPane, hid, Option.bind_some,
    terminalId_assignAll h]

/-- Something is written to the number of a registered pane. -/
theorem lastWrite_isSome {number : String → Option ℕ} {w : String × String} {id : ℕ} (h : w ∈ ws)
    (hid : number w.1 = some id) : (lastWrite number id ws).isSome := by
  rw [lastWrite, Option.isSome_map, Option.isSome_iff_ne_none, Ne, List.getLast?_eq_none_iff]
  exact List.ne_nil_of_mem (List.mem_filter.mpr ⟨h, by simpa using hid⟩)

/-- A listed pane is one that the read registers. -/
theorem listed_mem_writes {info : PaneInfo} (hinfo : lastOf (·.paneId) panes pane = some info) :
    (pane, info.terminalId) ∈ writes tabs panes tabLayouts := by
  rw [lastOf_eq] at hinfo
  obtain ⟨hmem, hname⟩ := List.mem_filter.mp (List.mem_of_getLast? hinfo)
  refine List.mem_append_left _ (List.mem_map.mpr ⟨info, hmem, ?_⟩)
  rw [← of_decide_eq_true hname]

/-- Registrations keep a terminal id exactly if nothing else is the last one that is written to its
number. -/
theorem recorded_kept_iff (h : WellFormed reg) (ws : List (String × String))
    (hrec : reg.recorded pane = some terminal) :
    (assignAll reg ws).recorded pane = some terminal ↔
      ∀ id, reg.byHerdr pane = some id → ∀ written,
        lastWrite (assignAll reg ws).byHerdr id ws = some written → written = terminal := by
  constructor
  · intro hafter id hid written hw
    rw [recorded_assignAll h _ (extends_assignAll _ _ _ _ hid), hw] at hafter
    exact Option.some.inj hafter
  · intro hlast
    obtain ⟨id, entry, hid, he, rfl⟩ := recorded_eq_some.mp hrec
    have hterm : reg.terminalId id = some entry.terminalId := by
      rw [HerdrPaneRegistry.terminalId, he]
      rfl
    rw [recorded_assignAll h _ (extends_assignAll _ _ _ _ hid), hterm]
    rcases hw : lastWrite (assignAll reg ws).byHerdr id ws with _ | written
    · rfl
    · rw [hlast id hid written hw]
      rfl

/-- A registered pane has the terminal id that is written last to its number. -/
theorem recorded_written_iff (h : WellFormed reg) {w : String × String} (hw : w ∈ ws) :
    (assignAll reg ws).recorded w.1 = some terminal ↔
      ∀ id, (assignAll reg ws).byHerdr w.1 = some id →
        lastWrite (assignAll reg ws).byHerdr id ws = some terminal := by
  constructor
  · intro hafter id hid
    obtain ⟨written, hlast⟩ := Option.isSome_iff_exists.mp (lastWrite_isSome hw hid)
    rw [recorded_assignAll h _ hid, hlast] at hafter
    rw [hlast]
    exact hafter
  · intro hlast
    obtain ⟨id, hid⟩ := @numbered_of_mem reg _ _ hw
    rw [recorded_assignAll h _ hid, hlast id hid]
    rfl

/-- **When a layout read keeps the terminal ids:** exactly if the last ones that are written are
right. -/
theorem keepsTerminals_iff (activeTabId : String) (marks : AgentMarks) {reg : Registries}
    (h : WellFormed reg.panes) :
    KeepsTerminals tabs panes tabLayouts activeTabId marks reg ↔
      LastWritesRight tabs panes tabLayouts reg.panes := by
  unfold KeepsTerminals LastWritesRight
  rw [transcodeLayout_panes]
  dsimp only
  rw [numbers_eq]
  refine and_congr ?_ ?_
  · refine forall_congr' fun pane => forall_congr' fun terminal => ?_
    constructor
    · intro hk id hun hrec hne
      exact (recorded_kept_iff h _ hrec).mp (hk hun hrec hne) id
    · intro hl hun hrec hne
      exact (recorded_kept_iff h _ hrec).mpr fun id => hl id hun hrec hne
  · refine forall_congr' fun pane => forall_congr' fun info => ?_
    constructor
    · intro hk id hinfo
      exact (recorded_written_iff h (listed_mem_writes hinfo)).mp (hk hinfo) id
    · intro hl hinfo
      exact (recorded_written_iff h (listed_mem_writes hinfo)).mpr fun id => hl id hinfo

/-! ### Distinct numbers -/

/-- No two panes have the same number. -/
def NumbersDistinct (number : String → Option ℕ) : Prop :=
  ∀ pane pane' id, number pane = some id → number pane' = some id → pane = pane'

theorem lastWrite_of_distinct {number : String → Option ℕ} (h : NumbersDistinct number) {id : ℕ}
    (hid : number pane = some id) (ws : List (String × String)) :
    lastWrite number id ws = (ws.filter fun w => w.1 = pane).getLast?.map Prod.snd := by
  have hsame : ∀ w ∈ ws, decide (number w.1 = some id) = decide (w.1 = pane) := by
    intro w _
    refine decide_eq_decide.mpr ⟨fun hw => h _ _ id hw hid, ?_⟩
    rintro rfl
    exact hid
  rw [lastWrite, List.filter_congr hsame]

/-- The terminal id with which the layouts register a pane is the one that is listed for it, or
empty. -/
theorem snd_of_mem_layoutWrites {tab : TabInfo} {w : String × String}
    (h : w ∈ layoutWrites panes tabLayouts tab) :
    w.2 = ((lastOf (·.paneId) panes w.1).map (·.terminalId)).getD "" := by
  obtain ⟨lp, -, rfl⟩ := List.mem_map.mp h
  rfl

theorem mem_layoutWrites_iff {tab : TabInfo} :
    (∃ w ∈ layoutWrites panes tabLayouts tab, w.1 = pane) ↔
      ∃ layout, tabLayouts tab.tabId = some layout ∧ ∃ lp ∈ layout.panes, lp.paneId = pane := by
  unfold layoutWrites
  rcases hl : tabLayouts tab.tabId with _ | layout <;> simp

/-- The terminal id that is written last to a pane, if no two panes have the same number. -/
theorem last_written (pane : String) :
    ((writes tabs panes tabLayouts).filter fun w => w.1 = pane).getLast?.map Prod.snd =
      ((lastOf (·.paneId) panes pane).map (·.terminalId)).or
        (if ∃ tab ∈ tabs, ∃ w ∈ layoutWrites panes tabLayouts tab, w.1 = pane then some ""
          else none) := by
  have hlisted :
      ((panes.map fun p => (p.paneId, p.terminalId)).filter fun w => w.1 = pane).getLast? =
      (lastOf (·.paneId) panes pane).map fun p => (p.paneId, p.terminalId) := by
    rw [lastOf_eq, List.filter_map, List.getLast?_map]
    rfl
  rw [writes, List.filter_append, List.getLast?_append, hlisted]
  rcases hl : ((tabs.flatMap (layoutWrites panes tabLayouts)).filter fun w => w.1 = pane).getLast?
    with _ | w
  · -- no layout has the pane
    have hnone : ¬ ∃ tab ∈ tabs, ∃ w ∈ layoutWrites panes tabLayouts tab, w.1 = pane := by
      rintro ⟨tab, htab, w, hw, hname⟩
      rw [List.getLast?_eq_none_iff, List.filter_eq_nil_iff] at hl
      exact hl w (List.mem_flatMap.mpr ⟨tab, htab, hw⟩) (decide_eq_true hname)
    rw [hl, if_neg hnone]
    cases lastOf (·.paneId) panes pane <;> rfl
  · obtain ⟨hmem, hname⟩ := List.mem_filter.mp (List.mem_of_getLast? hl)
    obtain ⟨tab, htab, hw⟩ := List.mem_flatMap.mp hmem
    have hname := of_decide_eq_true hname
    rw [hl, if_pos ⟨tab, htab, w, hw, hname⟩, Option.some_or, Option.map_some,
      snd_of_mem_layoutWrites hw, hname]
    cases lastOf (·.paneId) panes pane <;> rfl

/-- **As long as the numbers are distinct,** the right terminal ids are written exactly if no layout
has a pane that is not listed and has one. -/
theorem lastWritesRight_iff
    (h : NumbersDistinct (numbers reg ((writes tabs panes tabLayouts).map Prod.fst))) :
    LastWritesRight tabs panes tabLayouts reg ↔ LayoutsListed tabs panes tabLayouts reg := by
  unfold LastWritesRight LayoutsListed
  dsimp only
  constructor
  · intro hright tab htab layout hlayout lp hlp hun terminal hrec
    by_contra hne
    obtain ⟨id, entry, hid, -, -⟩ := recorded_eq_some.mp hrec
    have hnumber :
        numbers reg ((writes tabs panes tabLayouts).map Prod.fst) lp.paneId = some id := by
      rw [numbers_eq]
      exact extends_assignAll _ _ _ _ hid
    have hlast := lastWrite_of_distinct h hnumber (writes tabs panes tabLayouts)
    rw [last_written, lastOf_eq_none_iff.mpr hun,
      if_pos ⟨tab, htab, mem_layoutWrites_iff.mpr ⟨layout, hlayout, lp, hlp, rfl⟩⟩] at hlast
    exact hne (hright.1 _ terminal id hun hrec hne hid "" hlast).symm
  · intro hlisted
    refine ⟨fun pane terminal id hun hrec hne hid written hw => ?_,
      fun pane info id hinfo hid => ?_⟩
    · have hnumber : numbers reg ((writes tabs panes tabLayouts).map Prod.fst) pane = some id := by
        rw [numbers_eq]
        exact extends_assignAll _ _ _ _ hid
      rw [lastWrite_of_distinct h hnumber, last_written, lastOf_eq_none_iff.mpr hun] at hw
      split_ifs at hw with hin
      · obtain ⟨tab, htab, hin⟩ := hin
        obtain ⟨layout, hlayout, lp, hlp, rfl⟩ := mem_layoutWrites_iff.mp hin
        exact absurd (hlisted tab htab layout hlayout lp hlp hun terminal hrec) hne
      · cases hw
    · rw [lastWrite_of_distinct h hid, last_written, hinfo]
      rfl

/-- **When a layout read erases no terminal id:** exactly if what is written last to the number of a
pane is the terminal id that it is to have. Unless panes share a number, that is so exactly if no
layout of a listed tab has a pane that is not listed and has a terminal id. -/
theorem layout_read_keeps_iff (activeTabId : String) (marks : AgentMarks) {reg : Registries}
    (h : WellFormed reg.panes) :
    (KeepsTerminals tabs panes tabLayouts activeTabId marks reg ↔
      LastWritesRight tabs panes tabLayouts reg.panes) ∧
    (NumbersDistinct (numbers reg.panes ((writes tabs panes tabLayouts).map Prod.fst)) →
      (LastWritesRight tabs panes tabLayouts reg.panes ↔
        LayoutsListed tabs panes tabLayouts reg.panes)) :=
  ⟨keepsTerminals_iff activeTabId marks h, lastWritesRight_iff⟩

/-- Two panes that have been seen. -/
def twoSeen : Registries :=
  ⟨((HerdrPaneRegistry.empty.assignOrGet "w1:p1" "term-1").1.assignOrGet "w1:p2" "term-2").1,
    .empty⟩

theorem wellFormed_twoSeen : WellFormed twoSeen.panes :=
  wellFormed_assign (wellFormed_assign wellFormed_empty "w1:p1" "term-1" true) "w1:p2" "term-2" true

/-- A tab whose layout has two panes. -/
def edit : TabInfo := ⟨"w1:t1", "w1", 1, "edit"⟩

def editLayout : String → Option PaneLayoutSnapshot
  | "w1:t1" => some ⟨"w1", "w1:t1", false,
    [⟨"w1:p1", true, wholeScreen⟩, ⟨"w1:p2", false, wholeScreen⟩]⟩
  | _ => none

def listedPane (pane terminal : String) : PaneInfo :=
  ⟨pane, terminal, "w1", "w1:t1", none, none, none, none, none, .idle⟩

theorem layout_read_keeps_iff_listed :
    WellFormed twoSeen.panes ∧
      (KeepsTerminals [edit] [listedPane "w1:p1" "term-1", listedPane "w1:p2" "term-3"] editLayout
          "w1:t1" .omit twoSeen ↔
        LastWritesRight [edit] [listedPane "w1:p1" "term-1", listedPane "w1:p2" "term-3"] editLayout
          twoSeen.panes) :=
  ⟨wellFormed_twoSeen, (layout_read_keeps_iff "w1:t1" .omit wellFormed_twoSeen).1⟩

/-- The second pane came after the list was read, and before its layout was: its terminal id is
erased. -/
theorem layout_read_erases :
    ¬ KeepsTerminals [edit] [listedPane "w1:p1" "term-1"] editLayout "w1:t1" .omit twoSeen := by
  intro h
  have hun : Unlisted [listedPane "w1:p1" "term-1"] "w1:p2" := by
    simp [Unlisted, listedPane]
  have hkept := h.1 "w1:p2" "term-2" hun (by decide) (by decide)
  have herased : (transcodeLayout [edit] [listedPane "w1:p1" "term-1"] editLayout "w1:t1" .omit
      twoSeen).1.panes.recorded "w1:p2" = some "" := by decide
  rw [herased] at hkept
  exact absurd (Option.some.inj hkept) (by decide)

end MuxrCore.Herdr.Overwrite
