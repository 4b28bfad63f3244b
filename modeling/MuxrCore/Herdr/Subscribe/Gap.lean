import MuxrCore.Herdr.Subscribe.Reached

/-! # No pane is missed

While B is brought up, the lines of A are buffered in one phase, left in the socket in the next and
discarded after a widening, and a failed attempt throws its buffer away. In each phase there is a
list of panes that B covers or is going to cover (`cover`), and there are the lines of A which the
kernel has not used yet; every live pane is in the list, or one of the lines reports it created
(`covered_run`). -/

namespace MuxrCore.Herdr.Subscribe.Gap

open MuxrCore.Lib.Runs MuxrCore.Herdr.Subscribe.Lines MuxrCore.Herdr.Subscribe.Tables
open MuxrCore.Herdr.Subscribe.Session MuxrCore.Herdr.Subscribe.Reached

/-- The panes the kernel knows of for B, once it is past the head of the loop. -/
def cover (s : State) : Option (List String) :=
  match s.phase with
  | .enumerating start _ => some start
  | .subscribing paneIds => some paneIds
  | .acked paneIds => some paneIds
  | .resyncing _ _ => some s.subscribed
  | .pumping => some s.subscribed
  | _ => none

variable (fromStr : String → Option Value)

/-- A pane is in the list, or one of the lines reports it created. -/
def Known (panes lines : List String) (p : String) : Prop :=
  p ∈ panes ∨ ∃ line ∈ lines, Creates fromStr line p

/-- **Every live pane is known.** -/
def Covered (s : State) : Prop :=
  ∀ panes, cover s = some panes → ∀ p ∈ s.herdr.live, Known fromStr panes s.lines p

variable {fromStr} {s t : State} {a : Act}

theorem Known.append {panes lines : List String} {p : String} (h : Known fromStr panes lines p)
    (more : List String) : Known fromStr panes (lines ++ more) p :=
  h.imp_right fun ⟨line, hline, hc⟩ => ⟨line, List.mem_append_left _ hline, hc⟩

/-- A line that reports no creation may be left out. -/
theorem Known.tail {panes lines : List String} {line p : String}
    (h : Known fromStr panes (line :: lines) p) (hn : ¬ Creates fromStr line p) :
    Known fromStr panes lines p := by
  rcases h with h | ⟨l, hl, hc⟩
  · exact Or.inl h
  · rcases List.mem_cons.mp hl with rfl | hl
    · exact absurd hc hn
    · exact Or.inr ⟨l, hl, hc⟩

/-- A is up where the kernel knows panes for B. -/
theorem lifecycle_of_cover (hs : Sane fromStr s) {panes : List String}
    (h : cover s = some panes) : s.lifecycle ≠ none := by
  intro hl
  rcases hs.up hl with ht | ht <;> simp [cover, ht] at h

theorem lines_pushLifecycle {line : String} (h : s.lifecycle ≠ none) :
    (s.pushLifecycle line).lines = s.lines ++ [line] := by
  obtain ⟨unread, hu⟩ := Option.ne_none_iff_exists'.mp h
  simp [State.lines, State.pushLifecycle, hu]

/-- What the enumeration and the buffered lines give covers the live panes that are not reported in
a line still to be read. -/
theorem known_bootstrap (hs : Sane fromStr s) {start buffered unread ids : List String}
    (hph : s.phase = .enumerating start buffered) (hall : ∀ p ∈ start, p ∈ s.herdr.live → p ∈ ids)
    {p : String} (hp : p ∈ s.herdr.live) (hk : Known fromStr start (buffered ++ unread) p) :
    Known fromStr (bootstrapPaneSet fromStr ids buffered) unread p := by
  have hgone : ∀ line ∈ buffered, ¬ Closes fromStr line p := by
    intro line hline hclose
    have htrue := hs.lines line (by rw [State.lines, hph]; exact List.mem_append_left _ hline)
    exact (htrue.gone p hclose).2 hp
  rcases hk with hk | ⟨line, hline, hc⟩
  · exact Or.inl (mem_bootstrapPaneSet.mpr ⟨Or.inl (hall p hk hp), hgone⟩)
  · rcases List.mem_append.mp hline with hline | hline
    · exact Or.inl (mem_bootstrapPaneSet.mpr ⟨Or.inr ⟨line, hline, hc⟩, hgone⟩)
    · exact Or.inr ⟨line, hline, hc⟩

/-- The pump reads a line of A, and goes on. -/
theorem known_pumpLifecycle {line : String} {rest subscribed : List String} {kernel : Kernel}
    (hl : Truthful fromStr s.herdr line)
    (hk : pumpLifecycle fromStr s.kernel s.subscribed line = some (kernel, subscribed)) {p : String}
    (hp : p ∈ s.herdr.live) (hc : Known fromStr s.subscribed (line :: rest) p) :
    Known fromStr subscribed rest p := by
  have hchange := lifecycleChange_trimEnd hl.plain
  rcases pumpLifecycle_cases s.kernel s.subscribed hl.quiet_trimEnd with
    hnone | ⟨q, hq, hcreates, hsome⟩ | ⟨q, hcloses, hsome⟩ | ⟨hother, hsome⟩
  · exact absurd (hnone.symm.trans hk) (by simp)
  · -- a pane that the subscription covers
    obtain ⟨-, rfl⟩ := Prod.mk.inj (Option.some.inj (hsome.symm.trans hk))
    by_cases hpq : q = p
    · exact Or.inl (hpq ▸ hq)
    · refine hc.tail fun hp' => hpq ?_
      rw [Creates, hchange] at hcreates
      simpa using hcreates.symm.trans hp'
  · -- a pane that is gone, and is not `p`
    rw [Closes, hchange] at hcloses
    have hne : p ≠ q := by
      rintro rfl
      exact (hl.gone p hcloses).2 hp
    have hsub : subscribed = s.subscribed.filter (· ≠ q) := by
      have hpair := Option.some.inj (hk.symm.trans hsome)
      exact congrArg Prod.snd hpair
    rw [hsub]
    refine (hc.tail fun hp' => ?_).imp_left fun hmem => ?_
    · exact absurd (hcloses.symm.trans hp') (by simp)
    · exact List.mem_filter.mpr ⟨hmem, by simpa using hne⟩
  · have hno : ¬ Creates fromStr line p := by
      intro hp'
      exact hother p (by rw [Creates, hchange]; exact hp')
    have hsub : subscribed = s.subscribed := by
      rcases hsome with hsome | ⟨workspace, tab, hsome⟩ <;>
        exact congrArg Prod.snd (Option.some.inj (hk.symm.trans hsome))
    rw [hsub]
    exact hc.tail hno

/-- A line pushed on A joins those that will be looked at. -/
theorem Known.push (hs : Sane fromStr s) {panes : List String} {line p : String}
    (h : cover s = some panes) (hk : Known fromStr panes s.lines p) :
    Known fromStr panes (s.pushLifecycle line).lines p := by
  rw [lines_pushLifecycle (lifecycle_of_cover hs h)]
  exact hk.append [line]

theorem Covered.of_eq (hc : Covered fromStr s) (hcover : cover t = cover s)
    (hlines : t.lines = s.lines) (hlive : t.herdr.live = s.herdr.live) : Covered fromStr t := by
  intro panes hcov p hp
  rw [hlines]
  exact hc panes (hcover ▸ hcov) p (hlive ▸ hp)

/-- **No step loses a pane.** -/
theorem covered_step (hs : Sane fromStr s) (hc : Covered fromStr s) (h : Step fromStr s a t) :
    Covered fromStr t := by
  cases h
  case create pane line first hnew hl hw =>
    intro panes hcov p hp
    rcases List.mem_cons.mp hp with rfl | hp
    · have hmem : line ∈ (s.pushLifecycle line).lines := by
        rw [lines_pushLifecycle (lifecycle_of_cover hs hcov)]
        exact List.mem_append_right _ List.mem_cons_self
      exact Or.inr ⟨line, hmem, hl⟩
    · exact Known.push (s := s) hs hcov (hc panes hcov p hp)
  case close =>
    intro panes hcov p hp
    exact Known.push hs hcov (hc panes hcov p (List.mem_filter.mp hp).1)
  case closeAgain => exact fun panes hcov p hp => Known.push hs hcov (hc panes hcov p hp)
  case otherLifecycle => exact fun panes hcov p hp => Known.push hs hcov (hc panes hcov p hp)
  case enumerate ht hn hst =>
    -- every live pane exists at the start
    intro panes hcov p hp
    obtain rfl := Option.some.inj hcov
    exact Or.inl hp
  case enumerated start buffered ids ht hall hused =>
    intro panes hcov p hp
    obtain rfl := Option.some.inj hcov
    have hk := hc start (by simp only [cover, ht]) p hp
    rw [State.lines, ht] at hk
    exact known_bootstrap hs ht hall hp hk
  case pumpLifecycle rest subscribed line kernel ht hu hk =>
    intro panes hcov p hp
    simp only [cover, ht, Option.some.injEq] at hcov
    obtain rfl := hcov
    have hknown := hc s.subscribed (by simp only [cover, ht]) p hp
    have hlines : s.lines = line :: rest := by simp [State.lines, ht, hu, Phase.buffered]
    have htrue := hs.lines line (by simp [hlines])
    rw [hlines] at hknown
    rw [show State.lines _ = rest by simp [State.lines, ht, Phase.buffered]]
    exact known_pumpLifecycle htrue hk hp hknown
  -- the panes and the lines stay the same
  case change => exact hc.of_eq rfl rfl rfl
  case otherStatus => exact hc.of_eq rfl rfl rfl
  case register => exact hc.of_eq rfl rfl rfl
  case pumpStatus => exact hc.of_eq rfl rfl rfl
  case buffer ht hu =>
    exact hc.of_eq (by simp only [cover, ht]) (by simp [State.lines, ht, hu, Phase.buffered]) rfl
  case acked ht =>
    exact hc.of_eq (by simp only [cover, ht]) (by simp [State.lines, ht, Phase.buffered]) rfl
  case committed ht =>
    exact hc.of_eq (by simp only [cover, ht]) (by simp [State.lines, ht, Phase.buffered]) rfl
  case listed ht _ _ =>
    exact hc.of_eq (by simp only [cover, ht]) (by simp [State.lines, ht, Phase.buffered]) rfl
  case resynced ht _ =>
    exact hc.of_eq (by simp only [cover, ht]) (by simp [State.lines, ht, Phase.buffered]) rfl
  case resyncFailed ht =>
    exact hc.of_eq (by simp only [cover, ht]) (by simp [State.lines, ht, Phase.buffered]) rfl
  -- what is known is given up
  case resume ht hn hst => exact absurd (hs.down (Or.inl ⟨ht, hn⟩)) hst
  case discard ht _ => exact fun panes hcov => absurd hcov (by simp [cover, ht])
  case lifecycleAcked ht _ => exact fun panes hcov => absurd hcov (by simp [cover, ht])
  all_goals exact fun panes hcov => absurd hcov (by simp [cover])

/-- Every live pane is known in every state that is reached. -/
theorem covered_run {h : World} (hl : ∀ p ∈ h.live, p ∈ h.used) {as : List Act}
    (hr : Run (Step fromStr) (.init h) as s) : Covered fromStr s := by
  have hboth : Sane fromStr s ∧ Covered fromStr s := by
    refine hr.invariant (I := fun s => Sane fromStr s ∧ Covered fromStr s)
      (fun _ _ _ hI ht => ?_) ⟨sane_init h hl, ?_⟩
    · exact ⟨sane_step hI.1 ht, covered_step hI.1 hI.2 ht⟩
    · intro panes hcov
      simp [cover, State.init] at hcov
  exact hboth.2

/-- **No bootstrap gap: whenever the pump waits, every live pane is subscribed, or its creation is
reported in a line of A that is still unread.** -/
theorem no_bootstrap_gap {h : World} (hl : ∀ p ∈ h.live, p ∈ h.used) {as : List Act}
    (hr : Run (Step fromStr) (.init h) as s) (ht : s.phase = .pumping) :
    ∀ p ∈ s.herdr.live, p ∈ s.subscribed ∨
      ∃ line ∈ s.lifecycle.getD [], Creates fromStr line p := by
  have hk := covered_run hl hr s.subscribed (by simp only [cover, ht])
  rw [State.lines, ht] at hk
  exact hk

/-- While the pump waits, a second pane is created. -/
theorem no_bootstrap_gap_created :
    ∃ s, Run (Step parseSample) (.init oneIdle)
        (bringUp ++ [Act.create "w1:p2" createdLine .idle]) s ∧
      "w1:p2" ∈ s.herdr.live ∧ ∀ p ∈ s.herdr.live, p ∈ s.subscribed ∨
        ∃ line ∈ s.lifecycle.getD [], Creates parseSample line p := by
  have hplain : Plain parseSample createdLine := plain_of_trimmed trimEnd_createdLine
  have hcreate : Step parseSample upIdle (.create "w1:p2" createdLine .idle) _ :=
    .create (by decide) creates_createdLine hplain
  have hr := run_bringUp.concat hcreate
  exact ⟨_, hr, List.mem_cons_self, no_bootstrap_gap (fun _ hp => hp) hr rfl⟩

end MuxrCore.Herdr.Subscribe.Gap
