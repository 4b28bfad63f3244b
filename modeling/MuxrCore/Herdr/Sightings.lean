import Mathlib.Data.List.Induction
import MuxrCore.Herdr.Registry

/-! # What the registries know after any operations

The panes and tabs are numbered in the order in which they are first seen, from one on. `seen` is
that order, and `lastTerminal` is the terminal id that the operations have left a pane with. Until
the numbers are exhausted, the registries say just this (`paneRun`, `tabRun`). -/

namespace MuxrCore.Herdr.Sightings

open MuxrCore.Lib.Tables MuxrCore.Herdr.Registry

/-! ### First sight -/

/-- The names seen so far, after one more. -/
def see (names : List String) (name : String) : List String :=
  if name ∈ names then names else names ++ [name]

/-- The names in the order in which they are first seen. -/
def seen (sightings : List String) : List String := sightings.foldl see []

/-- The names are numbered in their order, from one on. -/
def Counts (names : List String) (number : String → Option ℕ) : Prop :=
  ∀ name id, number name = some id ↔ ∃ i, names[i]? = some name ∧ id = i + 1

variable {names sightings : List String} {name : String} {number : String → Option ℕ}

theorem seen_concat (sightings : List String) (name : String) :
    seen (sightings ++ [name]) = see (seen sightings) name := by
  rw [seen, List.foldl_append]
  rfl

/-- The names seen first come first. -/
theorem seen_append (sightings more : List String) :
    seen sightings <+: seen (sightings ++ more) := by
  induction more using List.reverseRecOn with
  | nil => simp
  | append_singleton more name ih =>
    rw [← List.append_assoc, seen_concat, see]
    split_ifs
    · exact ih
    · exact ih.trans (List.prefix_append _ _)

theorem Counts.isSome_iff (h : Counts names number) : (number name).isSome ↔ name ∈ names := by
  rw [Option.isSome_iff_exists, List.mem_iff_getElem?]
  constructor
  · rintro ⟨id, hid⟩
    obtain ⟨i, hi, -⟩ := (h name id).mp hid
    exact ⟨i, hi⟩
  · rintro ⟨i, hi⟩
    exact ⟨i + 1, (h name _).mpr ⟨i, hi, rfl⟩⟩

theorem Counts.eq_none_iff (h : Counts names number) : number name = none ↔ name ∉ names := by
  rw [← h.isSome_iff, Option.not_isSome_iff_eq_none]

theorem Counts.le (h : Counts names number) {id : ℕ} (hid : number name = some id) :
    1 ≤ id ∧ id ≤ names.length := by
  obtain ⟨i, hi, rfl⟩ := (h name id).mp hid
  have := (List.getElem?_eq_some_iff.mp hi).1
  omega

theorem Counts.distinct (h : Counts names number) {name' : String} {id : ℕ}
    (hid : number name = some id) (hid' : number name' = some id) : name = name' := by
  obtain ⟨i, hi, rfl⟩ := (h name id).mp hid
  obtain ⟨j, hj, hij⟩ := (h name' _).mp hid'
  obtain rfl : i = j := by omega
  rw [hi] at hj
  exact Option.some.inj hj

theorem Counts.iff_getElem? (h : Counts names number) (name : String) (id : ℕ) :
    number name = some id ↔ 1 ≤ id ∧ names[id - 1]? = some name := by
  rw [h name id]
  constructor
  · rintro ⟨i, hi, rfl⟩
    exact ⟨Nat.succ_pos i, hi⟩
  · rintro ⟨hpos, hi⟩
    exact ⟨id - 1, hi, by omega⟩

/-- Names that come later leave the numbers as they are. -/
theorem Counts.of_prefix (h : Counts names number) {names' : List String}
    {number' : String → Option ℕ} (h' : Counts names' number') (hpre : names <+: names') {id : ℕ}
    (hid : number name = some id) : number' name = some id := by
  obtain ⟨i, hi, rfl⟩ := (h name id).mp hid
  obtain ⟨rest, rfl⟩ := hpre
  refine (h' name _).mpr ⟨i, ?_, rfl⟩
  rw [List.getElem?_append_left (List.getElem?_eq_some_iff.mp hi).1, hi]

/-- A new name gets the next number. -/
theorem Counts.update (h : Counts names number) (hnew : number name = none) :
    Counts (see names name) (Function.update number name (some (names.length + 1))) := by
  have hnot : name ∉ names := h.eq_none_iff.mp hnew
  intro q id
  rw [see, if_neg hnot, update_eq_some_iff, h q id]
  constructor
  · rintro (⟨rfl, rfl⟩ | ⟨-, i, hi, rfl⟩)
    · exact ⟨names.length, by simp, rfl⟩
    · exact ⟨i, List.getElem?_append_left (List.getElem?_eq_some_iff.mp hi).1 ▸ hi, rfl⟩
  · rintro ⟨i, hi, rfl⟩
    rw [List.getElem?_append] at hi
    split_ifs at hi with hlt
    · right
      refine ⟨?_, i, hi, rfl⟩
      rintro rfl
      exact hnot (List.mem_of_getElem? hi)
    · left
      rw [List.getElem?_singleton] at hi
      split_ifs at hi with hzero
      exact ⟨(Option.some.inj hi).symm, by omega⟩

/-- A known name changes nothing. -/
theorem Counts.see_known (h : Counts names number) {id : ℕ} (hid : number name = some id) :
    see names name = names := by
  rw [see, if_pos (h.isSome_iff.mp (by rw [hid]; rfl))]

/-! ### The pane registry -/

/-- The operations of the pane registry. -/
inductive PaneOp
  | assignOrGet (pane terminal : String)
  | assignOrGetKeepTerminal (pane terminal : String)
  | idForHerdrPane (pane : String)
  | herdrPaneId (id : ℕ)
  | terminalId (id : ℕ)
  deriving DecidableEq, Repr

namespace PaneOp

/-- The registry after an operation, and the number that it returns for a pane. -/
def apply (reg : HerdrPaneRegistry) : PaneOp → HerdrPaneRegistry × Option ℕ
  | assignOrGet pane terminal =>
    ((reg.assignOrGet pane terminal).1, some (reg.assignOrGet pane terminal).2)
  | assignOrGetKeepTerminal pane terminal =>
    ((reg.assignOrGetKeepTerminal pane terminal).1,
      some (reg.assignOrGetKeepTerminal pane terminal).2)
  | idForHerdrPane pane => (reg, reg.idForHerdrPane pane)
  | herdrPaneId _ => (reg, none)
  | terminalId _ => (reg, none)

/-- The pane that an operation assigns a number, and the terminal id it gives. -/
def gives : PaneOp → Option (String × String)
  | assignOrGet pane terminal => some (pane, terminal)
  | assignOrGetKeepTerminal pane terminal => some (pane, terminal)
  | _ => none

/-- The pane whose terminal id an operation may refresh, and the terminal id it gives. -/
def refreshes : PaneOp → Option (String × String)
  | assignOrGet pane terminal => some (pane, terminal)
  | assignOrGetKeepTerminal pane terminal => if terminal ≠ "" then some (pane, terminal) else none
  | _ => none

end PaneOp

/-- The registry after the operations. -/
def panesAfter (ops : List PaneOp) : HerdrPaneRegistry :=
  ops.foldl (fun reg op => (op.apply reg).1) .empty

/-- The panes in the order in which they are first assigned a number. -/
def panesSeen (ops : List PaneOp) : List String :=
  seen (ops.filterMap fun op => op.gives.map Prod.fst)

/-- The terminal ids that are given to a pane. -/
def givenTo (pane : String) (given : List (String × String)) : List String :=
  (given.filter fun g => g.1 = pane).map Prod.snd

/-- The last terminal id that a pane was given by an operation that may refresh it, or else the
first it was given. -/
def lastTerminal (pane : String) (ops : List PaneOp) : Option String :=
  (givenTo pane (ops.filterMap PaneOp.refreshes)).getLast?.or
    (givenTo pane (ops.filterMap PaneOp.gives)).head?

/-- What the registry knows: the panes by number, the numbers in the order of first sight, and the
terminal ids. -/
structure PaneRun (ops : List PaneOp) (reg : HerdrPaneRegistry) : Prop where
  wellFormed : WellFormed reg
  next : reg.nextId = (panesSeen ops).length + 1
  counts : Counts (panesSeen ops) reg.byHerdr
  terminals : ∀ pane, reg.recorded pane = lastTerminal pane ops

theorem PaneRun.numbered {ops : List PaneOp} {reg : HerdrPaneRegistry} (h : PaneRun ops reg) :
    reg.Numbered := by
  refine ⟨fun pane id hid => ?_, fun pane pane' id hid hid' => h.counts.distinct hid hid'⟩
  have := h.counts.le hid
  have := h.next
  omega

theorem PaneRun.recorded_eq_none_iff {ops : List PaneOp} {reg : HerdrPaneRegistry}
    (h : PaneRun ops reg) {pane : String} :
    lastTerminal pane ops = none ↔ reg.byHerdr pane = none := by
  rw [← h.terminals]
  rcases hp : reg.byHerdr pane with _ | id
  · simp [HerdrPaneRegistry.recorded, HerdrPaneRegistry.idForHerdrPane, hp]
  · obtain ⟨entry, he⟩ := h.wellFormed.kept pane id hp
    simp [HerdrPaneRegistry.recorded, HerdrPaneRegistry.idForHerdrPane,
      HerdrPaneRegistry.terminalId, hp, he]

/-! ### One operation -/

variable {ops : List PaneOp} {op : PaneOp} {reg : HerdrPaneRegistry} {pane terminal : String}

theorem panesSeen_concat_of_gives (h : op.gives = some (pane, terminal)) :
    panesSeen (ops ++ [op]) = see (panesSeen ops) pane := by
  rw [panesSeen, List.filterMap_append, panesSeen]
  simp [h, seen_concat]

theorem panesSeen_concat_of_none (h : op.gives = none) :
    panesSeen (ops ++ [op]) = panesSeen ops := by
  simp [panesSeen, h]

theorem lastTerminal_concat_of_none (h : op.gives = none) (h' : op.refreshes = none) (q : String) :
    lastTerminal q (ops ++ [op]) = lastTerminal q ops := by
  simp [lastTerminal, h, h']

/-- The terminal ids of the panes after one more assignment. -/
theorem lastTerminal_concat {refresh : Bool} (h : op.gives = some (pane, terminal))
    (h' : op.refreshes = if refresh then some (pane, terminal) else none) (q : String) :
    lastTerminal q (ops ++ [op]) =
      if q = pane ∧ (refresh = true ∨ lastTerminal pane ops = none) then some terminal
      else lastTerminal q ops := by
  have hgives : givenTo q ((ops ++ [op]).filterMap PaneOp.gives) =
      givenTo q (ops.filterMap PaneOp.gives) ++ if pane = q then [terminal] else [] := by
    by_cases hq : pane = q <;> simp [givenTo, h, hq]
  have hrefreshes : givenTo q ((ops ++ [op]).filterMap PaneOp.refreshes) =
      givenTo q (ops.filterMap PaneOp.refreshes) ++
        if refresh = true ∧ pane = q then [terminal] else [] := by
    cases refresh <;> by_cases hq : pane = q <;> simp [givenTo, h', hq]
  unfold lastTerminal
  rw [hgives, hrefreshes, List.getLast?_append, List.head?_append]
  by_cases hq : pane = q
  · subst hq
    cases refresh with
    | true => simp
    | false =>
      rcases (givenTo pane (ops.filterMap PaneOp.refreshes)).getLast? with _ | t
      · rcases (givenTo pane (ops.filterMap PaneOp.gives)).head? with _ | t <;> simp
      · simp
  · simp [hq, Ne.symm hq]

/-- An operation that assigns a number, as long as there are numbers left. -/
theorem PaneRun.assign (h : PaneRun ops reg) {refresh : Bool}
    (hgives : op.gives = some (pane, terminal))
    (hrefresh : op.refreshes = if refresh then some (pane, terminal) else none)
    (hroom : (panesSeen (ops ++ [op])).length < 2 ^ 32 - 1) :
    PaneRun (ops ++ [op]) (reg.assignOrGetInner pane terminal refresh).1 := by
  have hseen := @panesSeen_concat_of_gives ops _ _ _ hgives
  refine ⟨wellFormed_assign h.wellFormed pane terminal refresh, ?_, ?_, fun q => ?_⟩
  · rcases hp : reg.byHerdr pane with _ | id
    · have hnot : pane ∉ panesSeen ops := h.counts.eq_none_iff.mp hp
      rw [hseen, see, if_neg hnot, List.length_append, List.length_singleton] at hroom ⊢
      rw [assign_fresh hp]
      show reg.bump = _
      rw [HerdrPaneRegistry.bump, if_pos (by rw [h.next]; omega), h.next]
    · rw [(assign_known hp).2, hseen, h.counts.see_known hp, h.next]
  · rcases hp : reg.byHerdr pane with _ | id
    · rw [assign_fresh hp, hseen]
      show Counts _ (Function.update reg.byHerdr pane (some reg.nextId))
      rw [h.next]
      exact h.counts.update hp
    · rw [(assign_known hp).1, hseen, h.counts.see_known hp]
      exact h.counts
  · rw [recorded_assign h.wellFormed h.numbered, lastTerminal_concat hgives hrefresh, h.terminals]
    simp only [h.recorded_eq_none_iff]

theorem PaneRun.lookup (h : PaneRun ops reg) (hgives : op.gives = none)
    (hrefresh : op.refreshes = none) : PaneRun (ops ++ [op]) reg := by
  have hseen := @panesSeen_concat_of_none ops _ hgives
  refine ⟨h.wellFormed, hseen ▸ h.next, hseen ▸ h.counts, fun q => ?_⟩
  rw [lastTerminal_concat_of_none hgives hrefresh, h.terminals]

theorem PaneRun.step (h : PaneRun ops reg) (op : PaneOp)
    (hroom : (panesSeen (ops ++ [op])).length < 2 ^ 32 - 1) :
    PaneRun (ops ++ [op]) (op.apply reg).1 := by
  cases op with
  | assignOrGet pane terminal => exact h.assign rfl rfl hroom
  | assignOrGetKeepTerminal pane terminal =>
    refine h.assign rfl ?_ hroom
    by_cases ht : terminal = "" <;> simp [PaneOp.refreshes, ht]
  | idForHerdrPane pane => exact h.lookup rfl rfl
  | herdrPaneId id => exact h.lookup rfl rfl
  | terminalId id => exact h.lookup rfl rfl

theorem paneRun_nil : PaneRun [] .empty := by
  refine ⟨wellFormed_empty, rfl, fun name id => ?_, fun pane => rfl⟩
  simp [HerdrPaneRegistry.empty, panesSeen, seen]

theorem panesSeen_append (ops more : List PaneOp) : panesSeen ops <+: panesSeen (ops ++ more) := by
  rw [panesSeen, panesSeen, List.filterMap_append]
  exact seen_append _ _

/-- **What the registry knows after any operations,** until the numbers are exhausted. -/
theorem paneRun (ops : List PaneOp) (hroom : (panesSeen ops).length < 2 ^ 32 - 1) :
    PaneRun ops (panesAfter ops) := by
  induction ops using List.reverseRecOn with
  | nil => exact paneRun_nil
  | append_singleton ops op ih =>
    have hle := (panesSeen_append ops [op]).length_le
    rw [panesAfter, List.foldl_append]
    exact (ih (by omega)).step op hroom

/-- The panes and the numbers that the registry keeps are each other's. -/
theorem PaneRun.inverse (h : PaneRun ops reg) (pane : String) (id : ℕ) :
    reg.idForHerdrPane pane = some id ↔ reg.herdrPaneId id = some pane := by
  rw [HerdrPaneRegistry.herdrPaneId, Option.map_eq_some_iff]
  constructor
  · intro hid
    obtain ⟨entry, he⟩ := h.wellFormed.kept pane id hid
    exact ⟨entry, he, h.counts.distinct (h.wellFormed.back id entry he) hid⟩
  · rintro ⟨entry, he, rfl⟩
    exact h.wellFormed.back id entry he

/-- A number that an operation returns for a pane is the one that the pane has afterwards. -/
theorem apply_snd {id : ℕ} (hid : (op.apply reg).2 = some id) :
    ∃ pane, (op.gives.map Prod.fst = some pane ∨ op = PaneOp.idForHerdrPane pane) ∧
      (op.apply reg).1.byHerdr pane = some id := by
  cases op with
  | assignOrGet pane terminal =>
    refine ⟨pane, Or.inl rfl, ?_⟩
    rw [← Option.some.inj hid]
    exact byHerdr_assign_self reg pane terminal true
  | assignOrGetKeepTerminal pane terminal =>
    refine ⟨pane, Or.inl rfl, ?_⟩
    rw [← Option.some.inj hid]
    exact byHerdr_assign_self reg pane terminal (terminal ≠ "")
  | idForHerdrPane pane => exact ⟨pane, Or.inr rfl, hid⟩
  | herdrPaneId id => cases hid
  | terminalId id => cases hid

/-! ### The tab registry -/

/-- The operations of the tab registry. -/
inductive TabOp
  | assignOrGet (tab : String)
  | herdrTabId (id : ℕ)
  deriving DecidableEq, Repr

namespace TabOp

/-- The registry after an operation, and the number that it returns for a tab. -/
def apply (reg : HerdrTabRegistry) : TabOp → HerdrTabRegistry × Option ℕ
  | assignOrGet tab => ((reg.assignOrGet tab).1, some (reg.assignOrGet tab).2)
  | herdrTabId _ => (reg, none)

/-- The tab that an operation assigns a number. -/
def gives : TabOp → Option String
  | assignOrGet tab => some tab
  | herdrTabId _ => none

end TabOp

def tabsAfter (ops : List TabOp) : HerdrTabRegistry :=
  ops.foldl (fun reg op => (op.apply reg).1) .empty

/-- The tabs in the order in which they are first assigned a number. -/
def tabsSeen (ops : List TabOp) : List String := seen (ops.filterMap TabOp.gives)

/-- What the registry knows: the numbers in the order of first sight, and the tabs by number. -/
structure TabRun (ops : List TabOp) (reg : HerdrTabRegistry) : Prop where
  next : reg.nextId = (tabsSeen ops).length + 1
  counts : Counts (tabsSeen ops) reg.byHerdr
  inverse : ∀ tab id, reg.byHerdr tab = some id ↔ reg.herdrTabId id = some tab

theorem TabRun.assign {ops : List TabOp} {reg : HerdrTabRegistry} (h : TabRun ops reg)
    {tab : String}
    (hroom : (tabsSeen (ops ++ [TabOp.assignOrGet tab])).length < 2 ^ 64 - 1) :
    TabRun (ops ++ [TabOp.assignOrGet tab]) (reg.assignOrGet tab).1 := by
  have hseen : tabsSeen (ops ++ [TabOp.assignOrGet tab]) = see (tabsSeen ops) tab := by
    rw [tabsSeen, List.filterMap_append, tabsSeen]
    exact seen_concat _ _
  rcases ht : reg.byHerdr tab with _ | id
  · have hnot : tab ∉ tabsSeen ops := h.counts.eq_none_iff.mp ht
    rw [hseen, see, if_neg hnot, List.length_append, List.length_singleton] at hroom
    have hnext : (reg.assignOrGet tab).1 = ⟨reg.nextId + 1,
        Function.update reg.byHerdr tab (some reg.nextId),
        Function.update reg.byId reg.nextId (some tab)⟩ := by
      simp only [HerdrTabRegistry.assignOrGet, ht, HerdrTabRegistry.bump]
      rw [if_pos (by rw [h.next]; omega)]
    have hfree : ∀ q id, reg.byHerdr q = some id → id ≠ reg.nextId := by
      intro q id hid
      have := h.counts.le hid
      have := h.next
      omega
    rw [hnext]
    refine ⟨?_, ?_, fun q id => ?_⟩
    · rw [hseen, see, if_neg hnot, List.length_append, List.length_singleton]
      show reg.nextId + 1 = _
      rw [h.next]
    · rw [hseen]
      show Counts _ (Function.update reg.byHerdr tab (some reg.nextId))
      rw [h.next]
      exact h.counts.update ht
    · show Function.update reg.byHerdr tab (some reg.nextId) q = some id ↔
        Function.update reg.byId reg.nextId (some tab) id = some q
      rw [update_eq_some_iff, update_eq_some_iff, h.inverse]
      constructor
      · rintro (⟨rfl, rfl⟩ | ⟨-, hq⟩)
        · exact Or.inl ⟨rfl, rfl⟩
        · exact Or.inr ⟨hfree q id ((h.inverse q id).mpr hq), hq⟩
      · rintro (⟨rfl, rfl⟩ | ⟨-, hq⟩)
        · exact Or.inl ⟨rfl, rfl⟩
        · refine Or.inr ⟨?_, hq⟩
          rintro rfl
          rw [(h.inverse q id).mpr hq] at ht
          cases ht
  · have hsame : (reg.assignOrGet tab).1 = reg := by simp [HerdrTabRegistry.assignOrGet, ht]
    rw [hsame]
    rw [h.counts.see_known ht] at hseen
    exact ⟨hseen ▸ h.next, hseen ▸ h.counts, h.inverse⟩

theorem tabsSeen_append (ops more : List TabOp) : tabsSeen ops <+: tabsSeen (ops ++ more) := by
  rw [tabsSeen, tabsSeen, List.filterMap_append]
  exact seen_append _ _

theorem tabsSeen_lookup (ops : List TabOp) (id : ℕ) :
    tabsSeen (ops ++ [TabOp.herdrTabId id]) = tabsSeen ops := by
  rw [tabsSeen, List.filterMap_append, tabsSeen]
  exact congrArg seen (List.append_nil _)

/-- What the tab registry knows after any operations, until the numbers are exhausted. -/
theorem tabRun (ops : List TabOp) (hroom : (tabsSeen ops).length < 2 ^ 64 - 1) :
    TabRun ops (tabsAfter ops) := by
  induction ops using List.reverseRecOn with
  | nil => exact ⟨rfl, fun name id => by simp [tabsAfter, HerdrTabRegistry.empty, tabsSeen, seen],
      fun tab id => by simp [tabsAfter, HerdrTabRegistry.empty, HerdrTabRegistry.herdrTabId]⟩
  | append_singleton ops op ih =>
    have hle := (tabsSeen_append ops [op]).length_le
    have ih := ih (by omega)
    rw [tabsAfter, List.foldl_append]
    cases op with
    | assignOrGet tab => exact ih.assign hroom
    | herdrTabId id =>
      have hseen := tabsSeen_lookup ops id
      exact ⟨hseen ▸ ih.next, hseen ▸ ih.counts, ih.inverse⟩

/-- **The registries number what they see,** from one on and in the order of first sight: the two
maps are each other's inverse, each number stays with its pane or tab, an operation returns the
number that its pane or tab has, and a pane has the terminal id that it was given last. -/
theorem registries_count_sightings {paneOps : List PaneOp} {tabOps : List TabOp}
    (hpanes : (panesSeen paneOps).length < 2 ^ 32 - 1)
    (htabs : (tabsSeen tabOps).length < 2 ^ 64 - 1) :
    ((∀ pane id, (panesAfter paneOps).idForHerdrPane pane = some id ↔
        (panesAfter paneOps).herdrPaneId id = some pane) ∧
      (∀ pane id, (panesAfter paneOps).idForHerdrPane pane = some id ↔
        1 ≤ id ∧ (panesSeen paneOps)[id - 1]? = some pane) ∧
      (∀ pre (op : PaneOp) post id, paneOps = pre ++ op :: post →
        (op.apply (panesAfter pre)).2 = some id →
        ∃ pane, (op.gives.map Prod.fst = some pane ∨ op = PaneOp.idForHerdrPane pane) ∧
          (panesAfter paneOps).idForHerdrPane pane = some id) ∧
      ∀ pane, (panesAfter paneOps).recorded pane = lastTerminal pane paneOps) ∧
    (∀ tab id, (tabsAfter tabOps).byHerdr tab = some id ↔
        (tabsAfter tabOps).herdrTabId id = some tab) ∧
      (∀ tab id, (tabsAfter tabOps).byHerdr tab = some id ↔
        1 ≤ id ∧ (tabsSeen tabOps)[id - 1]? = some tab) ∧
      ∀ pre (op : TabOp) post id, tabOps = pre ++ op :: post →
        (op.apply (tabsAfter pre)).2 = some id →
        ∃ tab, op.gives = some tab ∧ (tabsAfter tabOps).byHerdr tab = some id := by
  have hp := paneRun paneOps hpanes
  have ht := tabRun tabOps htabs
  refine ⟨⟨hp.inverse, hp.counts.iff_getElem?, ?_, hp.terminals⟩, ht.inverse,
    ht.counts.iff_getElem?, ?_⟩
  · rintro pre op post id rfl hid
    obtain ⟨pane, hnames, hafter⟩ := apply_snd hid
    have hpre := panesSeen_append (pre ++ [op]) post
    rw [List.append_assoc, List.singleton_append] at hpre
    have hle := hpre.length_le
    have hfirst := paneRun (pre ++ [op]) (by omega)
    rw [panesAfter, List.foldl_append] at hfirst
    exact ⟨pane, hnames, hfirst.counts.of_prefix hp.counts hpre hafter⟩
  · rintro pre op post id rfl hid
    have hpre := tabsSeen_append (pre ++ [op]) post
    rw [List.append_assoc, List.singleton_append] at hpre
    have hle := hpre.length_le
    have hfirst := tabRun (pre ++ [op]) (by omega)
    rw [tabsAfter, List.foldl_append] at hfirst
    cases op with
    | herdrTabId id => cases hid
    | assignOrGet tab =>
      refine ⟨tab, rfl, hfirst.counts.of_prefix ht.counts hpre ?_⟩
      rw [← Option.some.inj hid]
      exact HerdrTabRegistry.byHerdr_assign_self (tabsAfter pre) tab

/-- Two panes are seen, one of them again without a terminal id. -/
def twoPanes : List PaneOp :=
  [.assignOrGet "w1:p1" "t1", .idForHerdrPane "w1:p2", .assignOrGetKeepTerminal "w1:p2" "t2",
    .assignOrGetKeepTerminal "w1:p1" "", .assignOrGet "w1:p2" "t3"]

theorem registries_count_sightings_two :
    ((panesSeen twoPanes).length < 2 ^ 32 - 1 ∧
      (tabsSeen [.assignOrGet "w1:t1"]).length < 2 ^ 64 - 1) ∧
      (panesAfter twoPanes).idForHerdrPane "w1:p2" = some 2 ∧
      (panesAfter twoPanes).recorded "w1:p1" = some "t1" ∧
      (tabsAfter [.assignOrGet "w1:t1"]).byHerdr "w1:t1" = some 1 := by
  have hpanes : (panesSeen twoPanes).length < 2 ^ 32 - 1 := by decide
  have htabs : (tabsSeen [.assignOrGet "w1:t1"]).length < 2 ^ 64 - 1 := by decide
  obtain ⟨⟨-, hcount, -, hterminal⟩, -, htab, -⟩ := registries_count_sightings hpanes htabs
  refine ⟨⟨hpanes, htabs⟩, (hcount _ _).mpr (by decide), ?_, (htab _ _).mpr (by decide)⟩
  rw [hterminal]
  decide

end MuxrCore.Herdr.Sightings
