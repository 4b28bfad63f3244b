import MuxrCore.Herdr.Subscribe.Reached

/-! # Closed panes stay silent

The closure of a pane is published when A reports it, or when a resync misses the pane in its
listing. A status that herdr reported before may then still be unread on B, since the two
connections are read in no fixed order; the pump publishes it after the closure, and records it
(`late_status`).

`Late` says that the next line of B is such a status. Nothing else goes wrong: no later listing has
the pane, because it is gone (`Gone`), so closed panes stay silent in exactly the runs that read no
late status (`silent_iff`). -/

namespace MuxrCore.Herdr.Subscribe.Closure

open MuxrCore.Lib.Runs MuxrCore.Lib.Tables MuxrCore.Herdr.Registry
open MuxrCore.Herdr.Translate (translatePane byHerdr_translatePane translatePane_of_some)
open MuxrCore.Herdr.Subscribe.Lines MuxrCore.Herdr.Subscribe.Tables
open MuxrCore.Herdr.Subscribe.Session MuxrCore.Herdr.Subscribe.Reached
open MuxrCore.Multiplexer.Agents

/-- No status is published after the closure of its pane, and a closed pane has no row. -/
structure Silent (k : Kernel) : Prop where
  bus : k.bus.Pairwise MayFollow
  rows : ∀ n, .paneClosed n ∈ k.bus → ¬ k.HasRow n

variable (fromStr : String → Option Value)

/-- The next line of B reports the status of a pane whose closure was published. -/
def Late (s : State) : Prop :=
  ∃ w line rest pane status n, s.status = some w ∧ w.unread = line :: rest ∧
    statusReport fromStr (trimEnd line) = some (pane, status) ∧
    s.kernel.panes.byHerdr pane = some n ∧ .paneClosed n ∈ s.kernel.bus

/-- The pump reads no late status. -/
def Timely (s : State) (a : Act) : Prop := a = .pumpStatus → ¬ Late fromStr s

variable {fromStr} {s t : State} {a : Act} {k : Kernel} {p : String}

/-! ### The panes with rows, and the closed ones -/

/-- The pane existed; while a listing is taken it is gone, listed, or about to be. -/
def Tracked (s : State) (p : String) : Prop :=
  p ∈ s.herdr.used ∧ ∀ start input, s.phase = .resyncing start input → p ∈ s.herdr.live →
    p ∈ start ∨ p ∈ input.map (·.herdrPaneId)

/-- The pane existed and is gone, and the listing under way does not have it. -/
def Gone (s : State) (p : String) : Prop :=
  p ∈ s.herdr.used ∧ p ∉ s.herdr.live ∧
    ∀ start input, s.phase = .resyncing start input → p ∉ input.map (·.herdrPaneId)

theorem tracked_step (h : Step fromStr s a t) (hp : Tracked s p) : Tracked t p := by
  have he := evolves_step h
  refine ⟨he.used p hp.1, fun start input ht hlive => ?_⟩
  have hlive' := he.live p hp.1 hlive
  rcases resyncing_step h ht with ⟨rfl, rfl⟩ | ht' | ⟨input', q, ht', rfl, hq, -⟩
  · exact Or.inl hlive
  · exact hp.2 start input ht' hlive'
  · refine (hp.2 start input' ht' hlive').imp_right fun hmem => ?_
    rw [List.map_append]
    exact List.mem_append_left _ hmem

theorem gone_step (h : Step fromStr s a t) (hp : Gone s p) : Gone t p := by
  have he := evolves_step h
  have hdead : p ∉ t.herdr.live := fun hlive => hp.2.1 (he.live p hp.1 hlive)
  refine ⟨he.used p hp.1, hdead, fun start input ht => ?_⟩
  rcases resyncing_step h ht with ⟨-, rfl⟩ | ht' | ⟨input', q, ht', rfl, hq, -⟩
  · simp
  · exact hp.2.2 start input ht'
  · intro hmem
    rw [List.map_append, List.mem_append] at hmem
    rcases hmem with hmem | hmem
    · exact hp.2.2 start input' ht' hmem
    · obtain rfl := List.mem_singleton.mp hmem
      exact hdead hq

/-- Every row belongs to a pane that existed, and every closure to one that is gone. -/
structure Ledger (s : State) : Prop where
  tracked : ∀ n, s.kernel.HasRow n → ∃ p, Tracked s p ∧ s.kernel.panes.byHerdr p = some n
  gone : ∀ n, .paneClosed n ∈ s.kernel.bus → ∃ p, Gone s p ∧ s.kernel.panes.byHerdr p = some n

/-- A new row belongs to a pane that is tracked. -/
theorem rows_step (h : KernelStep fromStr s a k) {n : ℕ} (hn : k.HasRow n) :
    s.kernel.HasRow n ∨ ∃ p, Tracked s p ∧ k.panes.byHerdr p = some n := by
  cases h with
  | stays => exact Or.inl hn
  | registers => exact Or.inl hn
  | fails => exact Or.inl hn
  | lays => exact Or.inl hn
  | @resyncs start input ht hall hused =>
    obtain ⟨p, hp, hnum⟩ := (resync_spec s.kernel input).rows n hn
    refine Or.inr ⟨p.herdrPaneId, ⟨hused p hp, fun start' input' ht' _ => Or.inr ?_⟩, hnum⟩
    obtain ⟨-, rfl⟩ := Phase.resyncing.inj (ht.symm.trans ht')
    exact List.mem_map_of_mem hp
  | @forgets pane ht hused hdead =>
    rcases hid : s.kernel.panes.idForHerdrPane pane with _ | id
    · rw [hid] at hn
      exact Or.inl hn
    · rw [hid, hasRow_forgetPane] at hn
      exact Or.inl hn.2
  | @publishes w line pane rest status ev ht hw hu hl hpane hstatus hused =>
    rw [hasRow_publish] at hn
    rcases hn with rfl | hn
    · refine Or.inr ⟨pane, ⟨hused, fun start input ht' => absurd (ht.symm.trans ht') (by simp)⟩, ?_⟩
      rw [hpane]
      exact (byHerdr_translatePane _ pane none pane).trans (if_pos rfl)
    · exact Or.inl hn

/-- A new closure is that of a pane which is gone. -/
theorem closures_step (hl : Ledger s) (h : KernelStep fromStr s a k) {n : ℕ}
    (hn : .paneClosed n ∈ k.bus) :
    .paneClosed n ∈ s.kernel.bus ∨ ∃ p, Gone s p ∧ s.kernel.panes.byHerdr p = some n := by
  cases h with
  | stays => exact Or.inl hn
  | registers => exact Or.inl hn
  | fails =>
    left
    simpa [resync] using hn
  | lays =>
    left
    simpa [publishLayout] using hn
  | @resyncs start input ht hall hused =>
    have hspec := resync_spec s.kernel input
    obtain ⟨evs, hbus, -, hcloses, -⟩ := hspec.closes
    rw [hbus, List.mem_append] at hn
    rcases hn with hn | hn
    · exact Or.inl hn
    · -- the pane had a row, so it would be listed if it were live
      obtain ⟨hrow, hmiss⟩ := hcloses n hn
      obtain ⟨p, htracked, hnum⟩ := hl.tracked n hrow
      have hunlisted : p ∉ input.map (·.herdrPaneId) := by
        intro hmem
        obtain ⟨q, hq, rfl⟩ := List.mem_map.mp hmem
        exact hmiss q hq (hspec.grows _ n hnum)
      refine Or.inr ⟨p, ⟨htracked.1, fun hlive => ?_, fun start' input' ht' => ?_⟩, hnum⟩
      · rcases htracked.2 start input ht hlive with hstart | hlisted
        · exact hunlisted (hall p hstart hlive)
        · exact hunlisted hlisted
      · obtain ⟨-, rfl⟩ := Phase.resyncing.inj (ht.symm.trans ht')
        exact hunlisted
  | @forgets pane ht hused hdead =>
    rcases hid : s.kernel.panes.idForHerdrPane pane with _ | id
    · rw [hid] at hn
      exact Or.inl hn
    · rw [hid] at hn
      have hn' : MuxEvent.paneClosed n ∈ s.kernel.bus ++ [MuxEvent.paneClosed id] := hn
      rcases List.mem_append.mp hn' with hn' | hn'
      · exact Or.inl hn'
      · obtain rfl : n = id := by simpa using hn'
        have hgone : Gone s pane :=
          ⟨hused, hdead, fun start input ht' => absurd (ht.symm.trans ht') (by simp)⟩
        exact Or.inr ⟨pane, hgone, hid⟩
  | @publishes w line pane rest status ev =>
    obtain ⟨ev', -, -, hbus⟩ := publish_bus
      { s.kernel with panes := (translatePane s.kernel.panes pane none).1 } ev
    left
    rw [hbus] at hn
    simpa using hn

theorem ledger_step (hs : Sane fromStr s) (hl : Ledger s) (h : Step fromStr s a t) : Ledger t := by
  have hk := kernel_step hs h
  refine ⟨fun n hn => ?_, fun n hn => ?_⟩
  · rcases rows_step hk hn with hn | ⟨p, hp, hnum⟩
    · obtain ⟨p, hp, hnum⟩ := hl.tracked n hn
      exact ⟨p, tracked_step h hp, hk.grows p n hnum⟩
    · exact ⟨p, tracked_step h hp, hnum⟩
  · have hgone : ∃ p, Gone s p ∧ s.kernel.panes.byHerdr p = some n := by
      rcases closures_step hl hk hn with hn | hgone
      · exact hl.gone n hn
      · exact hgone
    obtain ⟨p, hp, hnum⟩ := hgone
    exact ⟨p, gone_step h hp, hk.grows p n hnum⟩

/-! ### Silence -/

/-- Closed panes stay silent if what is published next reports none of them, and they get no row. -/
theorem Silent.append {t : Kernel} (evs : List MuxEvent) (h : Silent k)
    (hbus : t.bus = k.bus ++ evs) (hevs : evs.Pairwise MayFollow)
    (hold : ∀ n ev, .paneClosed n ∈ k.bus → .agentStatusChanged ev ∈ evs → ev.pane ≠ n)
    (hrows : ∀ n, .paneClosed n ∈ t.bus → ¬ t.HasRow n) : Silent t := by
  refine ⟨?_, hrows⟩
  rw [hbus, List.pairwise_append]
  refine ⟨h.bus, hevs, fun e he e' he' => ?_⟩
  rcases e with _ | _ | n | _ <;> try trivial
  rcases e' with ev | _ | _ | _ <;> try trivial
  exact hold n ev he he'

/-- A number is that of a pane which is gone, so it is no other pane's. -/
theorem eq_of_gone (hd : Distinct k.panes) (hg : Extends s.kernel.panes k.panes) {q : String} {n : ℕ}
    (hp : s.kernel.panes.byHerdr p = some n) (hq : k.panes.byHerdr q = some n) : p = q :=
  hd p q n (hg p n hp) hq

/-- **A step keeps closed panes silent, unless it reads a late status.** -/
theorem silent_step (hl : Ledger s) (hs : Silent s.kernel)
    (h : KernelStep fromStr s a k) (hd : Distinct k.panes)
    (ht : Timely fromStr s a) : Silent k := by
  have hg := h.grows
  cases h with
  | stays => exact hs
  | registers => exact ⟨hs.bus, hs.rows⟩
  | fails =>
    refine hs.append [.resynced] (by simp [resync]) (List.pairwise_singleton _ _)
      (by simp) fun n hn => hs.rows n ?_
    simpa [resync] using hn
  | lays =>
    refine hs.append _ rfl (List.pairwise_singleton _ _) (by simp) fun n hn => hs.rows n ?_
    simpa [publishLayout] using hn
  | @resyncs start input hph hall hused =>
    have hspec := resync_spec s.kernel input
    obtain ⟨evs, hbus, hpair, hcloses, hreports⟩ := hspec.closes
    -- a pane that was closed before is not listed
    have hunlisted : ∀ n, .paneClosed n ∈ s.kernel.bus → ∀ q ∈ input,
        (resync s.kernel (some input)).panes.byHerdr q.herdrPaneId ≠ some n := by
      intro n hn q hq hnum
      obtain ⟨p, hgone, hp⟩ := hl.gone n hn
      have heq := eq_of_gone hd hg hp hnum
      exact hgone.2.2 start input hph (heq ▸ List.mem_map_of_mem hq)
    refine hs.append _ hbus hpair (fun n ev hn hev hpane => ?_) fun n hn hrow => ?_
    · obtain ⟨q, hq, hnum⟩ := hreports ev hev
      exact hunlisted n hn q hq (hpane ▸ hnum)
    · obtain ⟨q, hq, hnum⟩ := hspec.rows n hrow
      rw [hbus, List.mem_append] at hn
      rcases hn with hn | hn
      · exact hunlisted n hn q hq hnum
      · exact (hcloses n hn).2 q hq hnum
  | @forgets pane hph hused hdead =>
    rcases hid : s.kernel.panes.idForHerdrPane pane with _ | id
    · exact hs
    · refine hs.append [.paneClosed id] rfl (List.pairwise_singleton _ _) (by simp)
        fun n hn hrow => ?_
      rw [hasRow_forgetPane] at hrow
      have hn' : MuxEvent.paneClosed n ∈ s.kernel.bus ++ [MuxEvent.paneClosed id] := hn
      rcases List.mem_append.mp hn' with hn' | hn'
      · exact hs.rows n hn' hrow.2
      · exact hrow.1 (by simpa using hn')
  | @publishes w line pane rest status ev hph hw hu hreport hpane hstatus hused =>
    obtain ⟨ev', hpane', -, hbus⟩ := publish_bus
      { s.kernel with panes := (translatePane s.kernel.panes pane none).1 } ev
    have hnum : (publish { s.kernel with panes := (translatePane s.kernel.panes pane none).1 }
        ev).panes.byHerdr pane = some ev.pane := by
      rw [hpane]
      exact (byHerdr_translatePane _ pane none pane).trans (if_pos rfl)
    -- the status is not late
    have hopen : .paneClosed ev.pane ∉ s.kernel.bus := by
      intro hn
      obtain ⟨p, -, hp⟩ := hl.gone ev.pane hn
      obtain rfl := eq_of_gone hd hg hp hnum
      exact ht rfl ⟨w, line, rest, p, status, ev.pane, hw, hu, hreport, hp, hn⟩
    refine hs.append _ hbus (List.pairwise_singleton _ _) (fun n e hn he heq => ?_) fun n hn hrow => ?_
    · obtain rfl : e = ev' := by simpa using he
      exact hopen (hpane' ▸ heq ▸ hn)
    · have hn' : .paneClosed n ∈ s.kernel.bus := by
        rw [hbus] at hn
        simpa using hn
      rw [hasRow_publish] at hrow
      rcases hrow with rfl | hrow
      · exact hopen hn'
      · exact hs.rows n hn' hrow

/-- A late status that is read breaks the silence. -/
theorem not_silent_of_late (h : Step fromStr s .pumpStatus t) (hlate : Late fromStr s) :
    ¬ Silent t.kernel := by
  obtain ⟨w, line, rest, pane, status, n, hw, hu, hreport, hnum, hn⟩ := hlate
  cases h
  case pumpStatus w' rest' line' hph hw' hu' =>
    obtain rfl := Option.some.inj (hw.symm.trans hw')
    obtain ⟨rfl, rfl⟩ := List.cons.inj (hu.symm.trans hu')
    obtain ⟨ev, hpane, -, hk⟩ := pumpStatus_of_status (k := s.kernel) hreport
    obtain ⟨ev', hpane', -, hbus⟩ := publish_bus
      { s.kernel with panes := (translatePane s.kernel.panes pane none).1 } ev
    have hsame : ev'.pane = n := by
      rw [hpane', hpane, translatePane_of_some hnum]
    intro hsilent
    have hpair := hsilent.bus
    rw [show (Tables.pumpStatus fromStr s.kernel line).bus = _ from congrArg Kernel.bus hk, hbus,
      List.pairwise_append] at hpair
    exact hpair.2.2 _ hn _ List.mem_cons_self hsame

/-! ### Whole runs -/

theorem grows_run {as : List Act} (hs : Sane fromStr s) (hr : Run (Step fromStr) s as t) :
    Extends s.kernel.panes t.kernel.panes := by
  induction hr with
  | nil s => exact Extends.refl _
  | cons h hr ih => exact (kernel_step hs h).grows.trans (ih (sane_step hs h))

theorem ledger_init (h : World) : Ledger (.init h) := by
  refine ⟨fun n hn => ?_, fun n hn => absurd hn (by simp [State.init, Kernel.init])⟩
  exact absurd hn (by simp [State.init, Kernel.init, Kernel.HasRow])

theorem silent_init : Silent .init := by
  refine ⟨List.Pairwise.nil, fun n hn => absurd hn (by simp [Kernel.init])⟩

/-- **Closed panes stay silent in exactly the runs that read no late status**, if no two panes were
given one number. -/
theorem silent_iff {h : World} (hl : ∀ p ∈ h.live, p ∈ h.used) {as : List Act}
    (hr : Run (Step fromStr) (.init h) as s) (hd : Distinct s.kernel.panes) :
    (∀ pre post u, as = pre ++ post → Run (Step fromStr) (.init h) pre u → Silent u.kernel) ↔
      Along (Step fromStr) (fun _ => Timely fromStr) (.init h) as := by
  have hdet : ∀ s a t t', Step fromStr s a t → Step fromStr s a t' → t = t' :=
    fun _ _ _ _ => step_unique
  constructor
  · rintro hall pre a post u he hu rfl hlate
    obtain ⟨v, huv, -⟩ := run_cons_iff.mp (hr.split_of hdet he hu)
    exact not_silent_of_late huv hlate
      (hall (pre ++ [Act.pumpStatus]) post v (by simp [he]) (hu.concat huv))
  · rintro hC pre post u rfl hu
    have hrest := hr.split_of hdet rfl hu
    have hinv : Sane fromStr u ∧ Ledger u ∧ (Distinct u.kernel.panes → Silent u.kernel) := by
      refine hu.invariant_along
        (I := fun s => Sane fromStr s ∧ Ledger s ∧ (Distinct s.kernel.panes → Silent s.kernel))
        (fun pre s a t hI ht hst => ?_) ⟨sane_init h hl, ledger_init h, fun _ => silent_init⟩
        hC.left
      obtain ⟨hs, hled, hsil⟩ := hI
      have hk := kernel_step hs hst
      refine ⟨sane_step hs hst, ledger_step hs hled hst, fun hdt => ?_⟩
      exact silent_step hled (hsil (hdt.of_extends hk.grows)) hk hdt ht
    exact hinv.2.2 (hd.of_extends (grows_run hinv.1 hrest))

/-- A status is reported on B and a closure on A, and neither is read. -/
def reportedBoth : State :=
  ⟨⟨[], ["w1:p1"], Function.update oneIdle.current "w1:p1" .blocked⟩, some [closedLine],
    some ⟨["w1:p1"], [blockedLine], true⟩, ["w1:p1"], upIdle.kernel, .pumping⟩

theorem run_reportedBoth : Run (Step parseSample) (.init oneIdle)
    (bringUp ++ [Act.change "w1:p1" blockedLine .blocked, .close "w1:p1" closedLine])
    reportedBoth := by
  have hplain : Plain parseSample closedLine := plain_of_trimmed trimEnd_closedLine
  refine run_append_iff.mpr ⟨upIdle, run_bringUp, ?_⟩
  exact .cons (.change (by decide) report_blockedLine)
    (.cons (.close (by decide) closes_closedLine hplain) (.nil reportedBoth))

theorem pumpLifecycle_closedLine (k : Kernel) (subscribed : List String) :
    pumpLifecycle parseSample k subscribed closedLine =
      some ((forgetPane k subscribed (some "w1:p1") (k.panes.idForHerdrPane "w1:p1")).1,
        subscribed.filter (· ≠ "w1:p1")) :=
  pumpLifecycle_of_closes (by rw [trimEnd_closedLine]; exact closes_closedLine)

/-- A status is read before the closure of its pane. -/
theorem silent_iff_read_first :
    let as := bringUp ++ [Act.change "w1:p1" blockedLine .blocked, .close "w1:p1" closedLine] ++
      [Act.pumpStatus, .pumpLifecycle]
    ∃ s, Run (Step parseSample) (.init oneIdle) as s ∧ MuxEvent.paneClosed 1 ∈ s.kernel.bus ∧
      ((∀ pre post u, as = pre ++ post → Run (Step parseSample) (.init oneIdle) pre u →
        Silent u.kernel) ↔
        Along (Step parseSample) (fun _ => Timely parseSample) (.init oneIdle) as) := by
  intro as
  have hr := run_append_iff.mpr ⟨reportedBoth, run_reportedBoth,
    .cons (.pumpStatus rfl rfl rfl)
      (.cons (.pumpLifecycle rfl rfl (pumpLifecycle_closedLine _ _)) (.nil _))⟩
  refine ⟨_, hr, ?_, silent_iff (fun _ hp => hp) hr ?_⟩ <;> dsimp only
  · exact closes_forgetPane _ _ (by rw [panes_pumpStatus rfl]; rfl)
  · rw [forgetPane_panes, panes_pumpStatus rfl]
    exact distinct_upIdle

/-- The closure is read, and the status is not. -/
def closedRead : State := { reportedBoth with
  kernel := (forgetPane upIdle.kernel ["w1:p1"] (some "w1:p1") (some 1)).1
  subscribed := []
  lifecycle := some [] }

theorem run_closedRead : Run (Step parseSample) (.init oneIdle)
    (bringUp ++ [Act.change "w1:p1" blockedLine .blocked, .close "w1:p1" closedLine] ++
      [Act.pumpLifecycle]) closedRead := by
  have hclose := Step.pumpLifecycle (s := reportedBoth) rfl rfl (pumpLifecycle_closedLine _ _)
  exact run_append_iff.mpr ⟨reportedBoth, run_reportedBoth, .cons hclose (.nil closedRead)⟩

theorem late_closedRead : Late parseSample closedRead := by
  have hn := closes_forgetPane (k := upIdle.kernel) (n := 1) ["w1:p1"] "w1:p1" rfl
  exact ⟨_, _, _, "w1:p1", .blocked, 1, rfl, rfl, report_blockedLine, rfl, hn⟩

/-- The same status is read after the closure: it is published, and recorded for the closed pane. -/
theorem late_status :
    ∃ s, Run (Step parseSample) (.init oneIdle) (bringUp ++
      [Act.change "w1:p1" blockedLine .blocked, .close "w1:p1" closedLine] ++
      [Act.pumpLifecycle] ++ [Act.pumpStatus]) s ∧ Distinct s.kernel.panes ∧ ¬ Silent s.kernel := by
  have hread : Step parseSample closedRead .pumpStatus _ := .pumpStatus rfl rfl rfl
  refine ⟨_, run_append_iff.mpr ⟨closedRead, run_closedRead, .cons hread (.nil _)⟩, ?_,
    not_silent_of_late hread late_closedRead⟩
  dsimp only
  rw [panes_pumpStatus rfl]
  exact distinct_upIdle

end MuxrCore.Herdr.Subscribe.Closure
