import Mathlib.Algebra.Group.Nat.Defs
import Mathlib.Logic.Function.Basic
import Mathlib.Data.Nat.Init
import MuxrCore.Lib.Tables

/-! # The pane registry

herdr names panes by strings, the rest of the server by numbers. The registry gives each herdr pane
a number the first time it is seen, and keeps with it the pane's terminal id, the key a relay
attaches with. Entries are never removed.

Tabs are numbered in the same way by a registry of their own.

`WellFormed` says that the two maps agree, and every operation keeps it. `target` is the number an
operation on a pane reads or writes: the one the pane has, or else the next one. -/

namespace MuxrCore.Herdr.Registry

open MuxrCore.Lib.Tables

/-- A pane's herdr identity. -/
structure PaneEntry where
  herdrPaneId : String
  terminalId : String
  deriving DecidableEq, Repr

/-- The numbers of the panes, and the panes by number. -/
structure HerdrPaneRegistry where
  nextId : ℕ
  byHerdr : String → Option ℕ
  byId : ℕ → Option PaneEntry

namespace HerdrPaneRegistry

def firstId : ℕ := 1

/-- The empty registry. -/
def empty : HerdrPaneRegistry := ⟨firstId, fun _ => none, fun _ => none⟩

variable (reg : HerdrPaneRegistry)

/-- The number after the next one; numbers are 32 bits wide, and the last one is handed out again
once they are exhausted. -/
def bump : ℕ := if reg.nextId + 1 < 2 ^ 32 then reg.nextId + 1 else reg.nextId

/-- The number of a pane, a new one if it has none. The terminal id of a known pane is set if
`refreshTerminal`. -/
def assignOrGetInner (herdrPaneId terminalId : String) (refreshTerminal : Bool) :
    HerdrPaneRegistry × ℕ :=
  match reg.byHerdr herdrPaneId with
  | some id =>
    match reg.byId id with
    | some entry =>
      if refreshTerminal && entry.terminalId ≠ terminalId then
        ({ reg with
          byId := Function.update reg.byId id (some { entry with terminalId := terminalId }) }, id)
      else (reg, id)
    | none => (reg, id)
  | none =>
    let id := reg.nextId
    (⟨reg.bump, Function.update reg.byHerdr herdrPaneId (some id),
      Function.update reg.byId id (some ⟨herdrPaneId, terminalId⟩)⟩, id)

/-- The number of a pane; its terminal id is recorded, or refreshed. -/
def assignOrGet (herdrPaneId terminalId : String) : HerdrPaneRegistry × ℕ :=
  reg.assignOrGetInner herdrPaneId terminalId true

/-- The number of a pane, for a source that may lack the terminal id: an empty one is not recorded
for a known pane. -/
def assignOrGetKeepTerminal (herdrPaneId terminalId : String) : HerdrPaneRegistry × ℕ :=
  reg.assignOrGetInner herdrPaneId terminalId (terminalId ≠ "")

/-- The number a pane has. -/
def idForHerdrPane (herdrPaneId : String) : Option ℕ := reg.byHerdr herdrPaneId

/-- The herdr pane kept with a number. -/
def herdrPaneId (id : ℕ) : Option String := (reg.byId id).map (·.herdrPaneId)

/-- The terminal id kept with a number. -/
def terminalId (id : ℕ) : Option String := (reg.byId id).map (·.terminalId)

/-- The terminal id recorded for a pane. -/
def recorded (herdrPaneId : String) : Option String :=
  (reg.idForHerdrPane herdrPaneId).bind reg.terminalId

/-- The number the pane has, or else the next one. -/
def target (herdrPaneId : String) : ℕ := (reg.byHerdr herdrPaneId).getD reg.nextId

end HerdrPaneRegistry

/-- The numbers of the tabs, and the tabs by number. -/
structure HerdrTabRegistry where
  nextId : ℕ
  byHerdr : String → Option ℕ
  byId : ℕ → Option String

namespace HerdrTabRegistry

/-- The empty registry. -/
def empty : HerdrTabRegistry := ⟨HerdrPaneRegistry.firstId, fun _ => none, fun _ => none⟩

variable (reg : HerdrTabRegistry)

/-- The number after the next one; numbers are 64 bits wide, and the last one is handed out again
once they are exhausted. -/
def bump : ℕ := if reg.nextId + 1 < 2 ^ 64 then reg.nextId + 1 else reg.nextId

/-- The number of a tab, a new one if it has none. -/
def assignOrGet (herdrTabId : String) : HerdrTabRegistry × ℕ :=
  match reg.byHerdr herdrTabId with
  | some id => (reg, id)
  | none =>
    let id := reg.nextId
    (⟨reg.bump, Function.update reg.byHerdr herdrTabId (some id),
      Function.update reg.byId id (some herdrTabId)⟩, id)

/-- The herdr tab kept with a number. -/
def herdrTabId (id : ℕ) : Option String := reg.byId id

end HerdrTabRegistry

/-- Every number given is kept, and the pane kept with a number has that number. -/
structure WellFormed (reg : HerdrPaneRegistry) : Prop where
  kept : ∀ pane id, reg.byHerdr pane = some id → ∃ entry, reg.byId id = some entry
  back : ∀ id entry, reg.byId id = some entry → reg.byHerdr entry.herdrPaneId = some id

theorem wellFormed_empty : WellFormed .empty := by
  refine ⟨?_, ?_⟩ <;> simp [HerdrPaneRegistry.empty]

/-! ### What an operation does -/

variable {reg : HerdrPaneRegistry} {pane terminal : String} {refresh : Bool}

theorem recorded_eq_some {t : String} :
    reg.recorded pane = some t ↔
      ∃ id entry, reg.byHerdr pane = some id ∧ reg.byId id = some entry ∧
        entry.terminalId = t := by
  simp only [HerdrPaneRegistry.recorded, HerdrPaneRegistry.idForHerdrPane,
    HerdrPaneRegistry.terminalId, Option.bind_eq_some_iff, Option.map_eq_some_iff]
  constructor
  · rintro ⟨id, hid, entry, he, ht⟩; exact ⟨id, entry, hid, he, ht⟩
  · rintro ⟨id, entry, hid, he, ht⟩; exact ⟨id, hid, entry, he, ht⟩

theorem assign_fresh (h : reg.byHerdr pane = none) :
    (reg.assignOrGetInner pane terminal refresh).1 =
      ⟨reg.bump, Function.update reg.byHerdr pane (some reg.nextId),
        Function.update reg.byId reg.nextId (some ⟨pane, terminal⟩)⟩ := by
  simp [HerdrPaneRegistry.assignOrGetInner, h]

theorem assign_keep {id : ℕ} (h : reg.byHerdr pane = some id) :
    (reg.assignOrGetInner pane terminal false).1 = reg := by
  unfold HerdrPaneRegistry.assignOrGetInner
  rw [h]
  rcases he : reg.byId id with - | entry <;> simp [he]

theorem assign_refresh {id : ℕ} {entry : PaneEntry} (h : reg.byHerdr pane = some id)
    (he : reg.byId id = some entry) :
    (reg.assignOrGetInner pane terminal true).1 =
      { reg with byId := Function.update reg.byId id (some ⟨entry.herdrPaneId, terminal⟩) } := by
  unfold HerdrPaneRegistry.assignOrGetInner
  simp only [h, he]
  by_cases ht : entry.terminalId = terminal
  · have hsame : Function.update reg.byId id (some ⟨entry.herdrPaneId, terminal⟩) = reg.byId := by
      rw [← ht, Function.update_eq_self_iff]
      exact he.symm
    simp [ht, hsame]
  · simp [ht]

/-- Every operation keeps the maps in agreement. -/
theorem wellFormed_assign (h : WellFormed reg) (pane terminal : String) (refresh : Bool) :
    WellFormed (reg.assignOrGetInner pane terminal refresh).1 := by
  rcases hp : reg.byHerdr pane with - | id
  · rw [assign_fresh hp]
    refine ⟨fun q id hq => exists_update ?_, fun id entry he => ?_⟩
    · rcases update_eq_some_iff.mp hq with ⟨-, rfl⟩ | ⟨-, hq⟩
      · exact Or.inl rfl
      · exact Or.inr (h.kept q id hq)
    · rcases update_eq_some_iff.mp he with ⟨rfl, rfl⟩ | ⟨-, he⟩
      · exact Function.update_self _ _ _
      · -- the pane kept there has a number, so it is not the new one
        have hb := h.back id entry he
        have hne : entry.herdrPaneId ≠ pane := by
          rintro rfl
          rw [hp] at hb
          exact absurd hb (by simp)
        exact update_eq_some_iff.mpr (Or.inr ⟨hne, hb⟩)
  · rcases refresh
    · rw [assign_keep hp]
      exact h
    · obtain ⟨entry, he⟩ := h.kept pane id hp
      rw [assign_refresh hp he]
      refine ⟨fun q id' hq => exists_update (Or.inr (h.kept q id' hq)), fun id' entry' he' => ?_⟩
      rcases update_eq_some_iff.mp he' with ⟨rfl, rfl⟩ | ⟨-, he'⟩
      · exact h.back id' entry he
      · exact h.back id' entry' he'

/-! ### Numbers -/

/-- The numbers of the panes after an operation. -/
theorem byHerdr_assign (reg : HerdrPaneRegistry) (pane terminal : String) (refresh : Bool)
    (q : String) :
    (reg.assignOrGetInner pane terminal refresh).1.byHerdr q =
      if q = pane then some (reg.assignOrGetInner pane terminal refresh).2
      else reg.byHerdr q := by
  unfold HerdrPaneRegistry.assignOrGetInner
  rcases hp : reg.byHerdr pane with _ | id
  · simp [Function.update_apply]
  · have hq : reg.byHerdr q = if q = pane then some id else reg.byHerdr q := by
      by_cases h : q = pane
      · rw [if_pos h, h, hp]
      · rw [if_neg h]
    rcases he : reg.byId id with _ | entry
    · simpa [he] using hq
    · simp only [he]
      split <;> exact hq

/-- The number handed out is the one that the pane has then. -/
theorem byHerdr_assign_self (reg : HerdrPaneRegistry) (pane terminal : String) (refresh : Bool) :
    (reg.assignOrGetInner pane terminal refresh).1.byHerdr pane =
      some (reg.assignOrGetInner pane terminal refresh).2 := by
  rw [byHerdr_assign, if_pos rfl]

theorem byHerdr_assignOrGet_self (reg : HerdrPaneRegistry) (pane terminal : String) :
    (reg.assignOrGet pane terminal).1.byHerdr pane = some (reg.assignOrGet pane terminal).2 :=
  byHerdr_assign_self reg pane terminal true

/-- A known pane keeps its number. -/
theorem assign_snd {id : ℕ} (h : reg.byHerdr pane = some id) :
    (reg.assignOrGetInner pane terminal refresh).2 = id := by
  unfold HerdrPaneRegistry.assignOrGetInner
  rw [h]
  rcases he : reg.byId id with _ | entry
  · simp [he]
  · simp only [he]
    split <;> rfl

/-- For a known pane no number is given. -/
theorem assign_known {id : ℕ} (h : reg.byHerdr pane = some id) :
    (reg.assignOrGetInner pane terminal refresh).1.byHerdr = reg.byHerdr ∧
      (reg.assignOrGetInner pane terminal refresh).1.nextId = reg.nextId := by
  unfold HerdrPaneRegistry.assignOrGetInner
  rw [h]
  rcases he : reg.byId id with _ | entry
  · simp [he]
  · simp only [he]
    split <;> simp

/-- A registry knows every pane that an earlier one knew, under the same number. -/
def Extends (reg reg' : HerdrPaneRegistry) : Prop :=
  ∀ pane id, reg.byHerdr pane = some id → reg'.byHerdr pane = some id

theorem Extends.refl (reg : HerdrPaneRegistry) : Extends reg reg := fun _ _ h => h

theorem Extends.trans {reg reg' reg'' : HerdrPaneRegistry} (h : Extends reg reg')
    (h' : Extends reg' reg'') : Extends reg reg'' :=
  fun pane id hid => h' pane id (h pane id hid)

theorem extends_assign (reg : HerdrPaneRegistry) (pane terminal : String) (refresh : Bool) :
    Extends reg (reg.assignOrGetInner pane terminal refresh).1 := by
  intro q id hid
  rw [byHerdr_assign]
  by_cases hq : q = pane
  · subst hq
    rw [if_pos rfl, assign_snd hid]
  · rw [if_neg hq, hid]

/-- Registering panes in order extends the registry. -/
theorem extends_foldl {α : Type} (name terminal : α → String) (as : List α)
    (reg : HerdrPaneRegistry) :
    Extends reg (as.foldl (fun r a => (r.assignOrGet (name a) (terminal a)).1) reg) := by
  induction as generalizing reg with
  | nil => exact .refl reg
  | cons a as ih => exact (extends_assign reg (name a) (terminal a) true).trans (ih _)

/-- Every pane that is registered has a number. -/
theorem numbered_foldl {α : Type} (name terminal : α → String) {as : List α} {a : α} (ha : a ∈ as)
    (reg : HerdrPaneRegistry) :
    ∃ id, (as.foldl (fun r a => (r.assignOrGet (name a) (terminal a)).1) reg).byHerdr (name a) =
      some id := by
  obtain ⟨pre, post, rfl⟩ := List.append_of_mem ha
  rw [List.foldl_append, List.foldl_cons]
  exact ⟨_, extends_foldl name terminal post _ _ _ (byHerdr_assignOrGet_self _ _ _)⟩

/-- No number was given to two panes. -/
def Distinct (reg : HerdrPaneRegistry) : Prop :=
  ∀ pane pane' id, reg.byHerdr pane = some id → reg.byHerdr pane' = some id → pane = pane'

theorem Distinct.of_extends {reg reg' : HerdrPaneRegistry} (h : Distinct reg')
    (he : Extends reg reg') : Distinct reg :=
  fun pane pane' id hid hid' => h pane pane' id (he pane id hid) (he pane' id hid')

namespace HerdrPaneRegistry

/-- No number was given to two panes, and the next one to none. -/
structure Numbered (reg : HerdrPaneRegistry) : Prop where
  below : ∀ pane n, reg.byHerdr pane = some n → n < reg.nextId
  distinct : Distinct reg

theorem numbered_empty : Numbered .empty := by
  refine ⟨?_, fun pane pane' id h => ?_⟩
  · simp [empty]
  · exact absurd h (by simp [empty])

theorem nextId_assign_le (reg : HerdrPaneRegistry) (pane terminal : String) (refresh : Bool) :
    (reg.assignOrGetInner pane terminal refresh).1.nextId ≤ reg.nextId + 1 := by
  rcases hp : reg.byHerdr pane with _ | id
  · rw [assign_fresh hp]
    simp only [bump]
    split <;> omega
  · rw [(assign_known hp).2]
    exact Nat.le_succ _

/-- An operation keeps the numbers distinct until they are exhausted. -/
theorem numbered_assign (h : Numbered reg) (hlt : reg.nextId + 1 < 2 ^ 32)
    (pane terminal : String) (refresh : Bool) :
    Numbered (reg.assignOrGetInner pane terminal refresh).1 := by
  rcases hp : reg.byHerdr pane with _ | id
  · obtain ⟨hbelow, hdistinct⟩ := numbers_update h.below h.distinct pane
    rw [assign_fresh hp]
    refine ⟨fun q n hn => ?_, hdistinct⟩
    show n < reg.bump
    rw [bump, if_pos hlt]
    exact hbelow q n hn
  · have hsame : (reg.assignOrGetInner pane terminal refresh).1.byHerdr = reg.byHerdr ∧
        (reg.assignOrGetInner pane terminal refresh).1.nextId = reg.nextId := by
      rcases he : reg.byId id with _ | entry
      · simp [assignOrGetInner, hp, he]
      · simp only [assignOrGetInner, hp, he]
        split <;> simp
    refine ⟨fun q n hn => ?_, fun q q' n hn hn' => ?_⟩
    · rw [hsame.2]
      exact h.below q n (hsame.1 ▸ hn)
    · exact h.distinct q q' n (hsame.1 ▸ hn) (hsame.1 ▸ hn')

end HerdrPaneRegistry

/-! ### Terminal ids that are lost -/

/-- An operation writes the entry of its target: a new one, or a refreshed one. -/
def Writes (reg : HerdrPaneRegistry) (pane : String) (refresh : Bool) : Prop :=
  refresh = true ∨ reg.byHerdr pane = none

/-- An operation that writes no entry with a terminal id keeps every recorded terminal id. -/
theorem recorded_kept (hw : WellFormed reg)
    (h : Writes reg pane refresh → ∀ entry, reg.byId (reg.target pane) = some entry →
      entry.terminalId = "") {q t : String} (hq : reg.recorded q = some t) (ht : t ≠ "") :
    (reg.assignOrGetInner pane terminal refresh).1.recorded q = some t := by
  obtain ⟨id, entry, hid, he, rfl⟩ := recorded_eq_some.mp hq
  rcases hp : reg.byHerdr pane with - | id'
  · have hne : q ≠ pane := by
      rintro rfl
      rw [hp] at hid
      exact absurd hid (by simp)
    have hidne : id ≠ reg.nextId := by
      rintro rfl
      have htarget : reg.target pane = reg.nextId := by simp [HerdrPaneRegistry.target, hp]
      exact ht (h (Or.inr hp) entry (htarget ▸ he))
    rw [assign_fresh hp, recorded_eq_some]
    exact ⟨id, entry, (Function.update_of_ne hne _ _).trans hid,
      (Function.update_of_ne hidne _ _).trans he, rfl⟩
  · rcases refresh
    · rw [assign_keep hp]
      exact hq
    · obtain ⟨entry', he'⟩ := hw.kept pane id' hp
      have hidne : id ≠ id' := by
        rintro rfl
        have htarget : reg.target pane = id := by simp [HerdrPaneRegistry.target, hp]
        exact ht (h (Or.inl rfl) entry (htarget ▸ he))
      rw [assign_refresh hp he', recorded_eq_some]
      exact ⟨id, entry, hid, (Function.update_of_ne hidne _ _).trans he, rfl⟩

/-- The terminal ids after an operation, as long as the numbers are distinct. -/
theorem recorded_assign (hw : WellFormed reg) (hn : HerdrPaneRegistry.Numbered reg)
    (pane terminal : String) (refresh : Bool) (q : String) :
    (reg.assignOrGetInner pane terminal refresh).1.recorded q =
      if q = pane ∧ (refresh = true ∨ reg.byHerdr pane = none) then some terminal
      else reg.recorded q := by
  rcases hp : reg.byHerdr pane with _ | id
  · rw [assign_fresh hp]
    by_cases hq : q = pane
    · rw [if_pos ⟨hq, Or.inr rfl⟩, recorded_eq_some]
      subst hq
      exact ⟨reg.nextId, _, Function.update_self _ _ _, Function.update_self _ _ _, rfl⟩
    · rw [if_neg fun h => hq h.1]
      refine Option.ext fun t => ?_
      rw [recorded_eq_some, recorded_eq_some]
      refine exists_congr fun id => exists_congr fun entry => ?_
      show Function.update reg.byHerdr pane _ q = some id ∧
        Function.update reg.byId _ _ id = _ ∧ _ ↔ _
      rw [Function.update_of_ne hq]
      refine and_congr_right fun hid => ?_
      rw [Function.update_of_ne (Nat.ne_of_lt (hn.below q id hid))]
  · cases refresh with
    | false => rw [assign_keep hp, if_neg (by simp)]
    | true =>
      obtain ⟨entry, he⟩ := hw.kept pane id hp
      rw [assign_refresh hp he]
      by_cases hq : q = pane
      · rw [if_pos ⟨hq, Or.inl rfl⟩, recorded_eq_some]
        subst hq
        exact ⟨id, _, hp, Function.update_self _ _ _, rfl⟩
      · rw [if_neg fun h => hq h.1]
        refine Option.ext fun t => ?_
        rw [recorded_eq_some, recorded_eq_some]
        refine exists_congr fun id' => exists_congr fun entry' => and_congr_right fun hid => ?_
        show Function.update reg.byId _ _ id' = _ ∧ _ ↔ _
        have hne : id' ≠ id := by
          rintro rfl
          exact hq (hn.distinct q pane id' hid hp)
        rw [Function.update_of_ne hne]

/-- An operation that writes an entry replaces the terminal id of the pane that was kept there. -/
theorem recorded_replaced (hw : WellFormed reg) (h : Writes reg pane refresh) {entry : PaneEntry}
    (he : reg.byId (reg.target pane) = some entry) :
    reg.recorded entry.herdrPaneId = some entry.terminalId ∧
      (reg.assignOrGetInner pane terminal refresh).1.recorded entry.herdrPaneId =
        some terminal := by
  have hb := hw.back _ entry he
  refine ⟨recorded_eq_some.mpr ⟨_, entry, hb, he, rfl⟩, ?_⟩
  rcases hp : reg.byHerdr pane with - | id
  · have htarget : reg.target pane = reg.nextId := by simp [HerdrPaneRegistry.target, hp]
    rw [htarget] at he hb
    have hne : entry.herdrPaneId ≠ pane := by
      intro hc
      rw [hc, hp] at hb
      exact absurd hb (by simp)
    rw [assign_fresh hp, recorded_eq_some]
    exact ⟨reg.nextId, _, (Function.update_of_ne hne _ _).trans hb, Function.update_self _ _ _, rfl⟩
  · have htarget : reg.target pane = id := by simp [HerdrPaneRegistry.target, hp]
    rw [htarget] at he hb
    obtain rfl : refresh = true := h.resolve_right (by simp [hp])
    rw [assign_refresh hp he, recorded_eq_some]
    exact ⟨id, _, hb, Function.update_self _ _ _, rfl⟩

/-! ### Tabs -/

namespace HerdrTabRegistry

/-- No number was given to two tabs, and the next one to none. -/
structure Numbered (reg : HerdrTabRegistry) : Prop where
  below : ∀ tab n, reg.byHerdr tab = some n → n < reg.nextId
  distinct : ∀ tab tab' n, reg.byHerdr tab = some n → reg.byHerdr tab' = some n → tab = tab'

/-- A registry knows every tab that an earlier one knew, under the same number. -/
def Extends (reg reg' : HerdrTabRegistry) : Prop :=
  ∀ tab n, reg.byHerdr tab = some n → reg'.byHerdr tab = some n

theorem Extends.refl (reg : HerdrTabRegistry) : Extends reg reg := fun _ _ h => h

theorem Extends.trans {reg reg' reg'' : HerdrTabRegistry} (h : Extends reg reg')
    (h' : Extends reg' reg'') : Extends reg reg'' :=
  fun tab n hn => h' tab n (h tab n hn)

theorem numbered_empty : Numbered .empty := by
  refine ⟨?_, ?_⟩ <;> simp [HerdrTabRegistry.empty]

variable {reg : HerdrTabRegistry} {tab : String}

/-- The numbers of the tabs after an operation. -/
theorem byHerdr_assign (reg : HerdrTabRegistry) (tab q : String) :
    (reg.assignOrGet tab).1.byHerdr q =
      if q = tab then some (reg.assignOrGet tab).2 else reg.byHerdr q := by
  unfold assignOrGet
  rcases ht : reg.byHerdr tab with _ | n
  · simp [Function.update_apply]
  · by_cases hq : q = tab
    · simp [hq, ht]
    · simp [hq]

theorem byHerdr_assign_self (reg : HerdrTabRegistry) (tab : String) :
    (reg.assignOrGet tab).1.byHerdr tab = some (reg.assignOrGet tab).2 := by
  rw [byHerdr_assign, if_pos rfl]

theorem extends_assign (reg : HerdrTabRegistry) (tab : String) :
    Extends reg (reg.assignOrGet tab).1 := by
  intro q n hn
  rw [byHerdr_assign]
  by_cases hq : q = tab
  · subst hq
    simp [assignOrGet, hn]
  · rw [if_neg hq, hn]

theorem nextId_assign_le (reg : HerdrTabRegistry) (tab : String) :
    (reg.assignOrGet tab).1.nextId ≤ reg.nextId + 1 := by
  unfold assignOrGet
  rcases ht : reg.byHerdr tab with _ | n
  · simp only [bump]
    split <;> omega
  · simp

/-- An operation keeps the numbers distinct until they are exhausted. -/
theorem numbered_assign (h : Numbered reg) (hlt : reg.nextId + 1 < 2 ^ 64) (tab : String) :
    Numbered (reg.assignOrGet tab).1 := by
  rcases ht : reg.byHerdr tab with _ | n
  · have heq : (reg.assignOrGet tab).1 = ⟨reg.nextId + 1,
        Function.update reg.byHerdr tab (some reg.nextId),
        Function.update reg.byId reg.nextId (some tab)⟩ := by
      simp only [assignOrGet, ht, bump, if_pos hlt]
    rw [heq]
    obtain ⟨hbelow, hdistinct⟩ := numbers_update h.below h.distinct tab
    exact ⟨hbelow, hdistinct⟩
  · have heq : (reg.assignOrGet tab).1 = reg := by simp [assignOrGet, ht]
    rwa [heq]

end HerdrTabRegistry

end MuxrCore.Herdr.Registry
