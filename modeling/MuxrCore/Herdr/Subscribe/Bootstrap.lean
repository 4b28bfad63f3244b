import MuxrCore.Herdr.Subscribe.Lines

/-! # The buffered lines, in order

Applied one after the other to the enumerated panes, the lines buffered during an enumeration leave
a pane there if the last line about it reports it created, or if none is about it and it was
enumerated (`InOrder`). `bootstrapPaneSet` keeps the panes reported gone in a set of their own, and
takes none out again: it agrees with that unless a pane is reported created after it was reported
gone (`replays_iff`). -/

namespace MuxrCore.Herdr.Subscribe.Bootstrap

open MuxrCore.Herdr.Subscribe.Lines

section Parser
variable (fromStr : String → Option Value)

/-- A line is about a pane: it reports it created, or gone. -/
def About (line pane : String) : Prop := Creates fromStr line pane ∨ Closes fromStr line pane

instance (line pane : String) : Decidable (About fromStr line pane) :=
  inferInstanceAs (Decidable (_ ∨ _))

/-- The last line about a pane. -/
def lastAbout (buffered : List String) (pane : String) : Option String :=
  (buffered.filter fun line => About fromStr line pane).getLast?

/-- The last line about a pane reports it created. -/
def EndsCreated (buffered : List String) (pane : String) : Prop :=
  ∃ line, lastAbout fromStr buffered pane = some line ∧ Creates fromStr line pane

/-- The pane is there once the lines are applied in order. -/
def InOrder (enumerated buffered : List String) (pane : String) : Prop :=
  EndsCreated fromStr buffered pane ∨
    lastAbout fromStr buffered pane = none ∧ pane ∈ enumerated

/-- What the set says of a pane is what the lines in order say; and the pane is in it as often as in
the enumeration at most, or once. -/
structure Replays (enumerated buffered : List String) (pane : String) : Prop where
  mem : pane ∈ bootstrapPaneSet fromStr enumerated buffered ↔
    InOrder fromStr enumerated buffered pane
  count : (bootstrapPaneSet fromStr enumerated buffered).count pane ≤
    max 1 (enumerated.count pane)

/-- A pane was reported gone, and the last line about it reports it created. -/
def Reopened (buffered : List String) (pane : String) : Prop :=
  (∃ line ∈ buffered, Closes fromStr line pane) ∧ EndsCreated fromStr buffered pane

variable {fromStr} {enumerated buffered : List String} {line pane : String}

/-! ### The last line about a pane -/

theorem lastAbout_mem (h : lastAbout fromStr buffered pane = some line) :
    line ∈ buffered ∧ About fromStr line pane := by
  have hmem := List.mem_of_getLast? h
  rw [List.mem_filter, decide_eq_true_iff] at hmem
  exact hmem

theorem lastAbout_eq_none :
    lastAbout fromStr buffered pane = none ↔ ∀ line ∈ buffered, ¬ About fromStr line pane := by
  unfold lastAbout
  rw [List.getLast?_eq_none_iff, List.filter_eq_nil_iff]
  simp

/-- A pane of the set is there in order. -/
theorem inOrder_of_mem (h : pane ∈ bootstrapPaneSet fromStr enumerated buffered) :
    InOrder fromStr enumerated buffered pane := by
  obtain ⟨hthere, hopen⟩ := mem_bootstrapPaneSet.mp h
  rcases hl : lastAbout fromStr buffered pane with _ | line
  · have hnone := lastAbout_eq_none.mp hl
    rcases hthere with hthere | ⟨line, hline, hc⟩
    · exact Or.inr ⟨hl, hthere⟩
    · exact absurd (Or.inl hc) (hnone line hline)
  · obtain ⟨hline, hc | hc⟩ := lastAbout_mem hl
    · exact Or.inl ⟨line, hl, hc⟩
    · exact absurd hc (hopen line hline)

/-- A pane that is there in order is missed only if it was reopened. -/
theorem mem_of_inOrder (h : InOrder fromStr enumerated buffered pane)
    (hr : ¬ Reopened fromStr buffered pane) :
    pane ∈ bootstrapPaneSet fromStr enumerated buffered := by
  rw [mem_bootstrapPaneSet]
  rcases h with hc | ⟨hnone, hmem⟩
  · have hopen : ∀ line ∈ buffered, ¬ Closes fromStr line pane :=
      fun line hline hclose => hr ⟨⟨line, hline, hclose⟩, hc⟩
    obtain ⟨line, hl, hc⟩ := hc
    exact ⟨Or.inr ⟨line, (lastAbout_mem hl).1, hc⟩, hopen⟩
  · have hopen := lastAbout_eq_none.mp hnone
    exact ⟨Or.inl hmem, fun line hline hc => hopen line hline (Or.inr hc)⟩

/-! ### How often a pane is in the set -/

/-- A line adds a pane only if it is new. -/
theorem count_replay_le {acc : List String × List String} {n : ℕ}
    (h : acc.1.count pane ≤ max 1 n) : (replay fromStr acc line).1.count pane ≤ max 1 n := by
  unfold replay
  split
  · rename_i p hline
    split
    · exact h
    · rename_i hp
      by_cases hpp : p = pane
      · subst hpp
        have hzero : acc.1.count p = 0 := List.count_eq_zero_of_not_mem hp
        rw [List.count_append, List.count_singleton_self, hzero]
        omega
      · have hone : List.count pane [p] = 0 := by simp [hpp]
        rw [List.count_append, hone]
        exact h
  · exact h
  · exact h

theorem count_foldl_replay_le {n : ℕ} (buffered : List String) (acc : List String × List String)
    (h : acc.1.count pane ≤ max 1 n) :
    (buffered.foldl (replay fromStr) acc).1.count pane ≤ max 1 n := by
  induction buffered generalizing acc with
  | nil => exact h
  | cons line buffered ih =>
    rw [List.foldl_cons]
    exact ih _ (count_replay_le h)

variable (fromStr) in
theorem count_bootstrapPaneSet_le (enumerated buffered : List String) (pane : String) :
    (bootstrapPaneSet fromStr enumerated buffered).count pane ≤
      max 1 (enumerated.count pane) := by
  have hids : (buffered.foldl (replay fromStr) (enumerated, [])).1.count pane ≤
      max 1 (enumerated.count pane) :=
    count_foldl_replay_le buffered (enumerated, []) (Nat.le_max_right _ _)
  unfold bootstrapPaneSet
  exact (List.Sublist.count_le pane List.filter_sublist).trans hids

/-- **The set is that of the lines in order exactly for the panes that were not reopened.** -/
theorem replays_iff :
    Replays fromStr enumerated buffered pane ↔ ¬ Reopened fromStr buffered pane := by
  constructor
  · rintro ⟨hmem, -⟩ ⟨⟨line, hline, hclose⟩, hc⟩
    have hin := mem_bootstrapPaneSet.mp (hmem.mpr (Or.inl hc))
    exact hin.2 line hline hclose
  · intro hr
    refine ⟨⟨inOrder_of_mem, fun h => mem_of_inOrder h hr⟩, ?_⟩
    exact count_bootstrapPaneSet_le fromStr enumerated buffered pane

end Parser

/-! ### A pane that is reopened -/

/-- herdr reports that `w1:p1` is gone, and that it was created again. -/
def goneLine : String :=
  "\x7b\"event\":\"pane_closed\",\"data\":\x7b\"pane_id\":\"w1:p1\"\x7d\x7d"

def createdAgainLine : String :=
  "\x7b\"event\":\"pane_created\",\"data\":\x7b\"pane\":\x7b\"pane_id\":\"w1:p1\"\x7d\x7d\x7d"

/-- What a JSON parser makes of these lines. -/
def parseReopening (line : String) : Option Value :=
  if line = goneLine then
    some (.object [("event", .string "pane_closed"),
      ("data", .object [("pane_id", .string "w1:p1")])])
  else if line = createdAgainLine then
    some (.object [("event", .string "pane_created"),
      ("data", .object [("pane", .object [("pane_id", .string "w1:p1")])])])
  else none

/-- The pane is not subscribed to. -/
theorem reopened_missed :
    bootstrapPaneSet parseReopening ["w1:p1"] [goneLine, createdAgainLine] = [] ∧
      ¬ Replays parseReopening ["w1:p1"] [goneLine, createdAgainLine] "w1:p1" := by
  have hset : bootstrapPaneSet parseReopening ["w1:p1"] [goneLine, createdAgainLine] = [] := by
    decide +kernel
  have hlast : lastAbout parseReopening [goneLine, createdAgainLine] "w1:p1" =
      some createdAgainLine := by
    decide +kernel
  have hcreates : Creates parseReopening createdAgainLine "w1:p1" := by decide +kernel
  refine ⟨hset, fun h => ?_⟩
  have hmem := h.mem.mpr (Or.inl ⟨createdAgainLine, hlast, hcreates⟩)
  rw [hset] at hmem
  exact absurd hmem List.not_mem_nil

end MuxrCore.Herdr.Subscribe.Bootstrap
