import MuxrCore.Herdr.Subscribe.Reached

/-! # The status table mirrors herdr

A change of status after B's ack is queued on B; the listing that follows the ack reads each pane at
some moment, before or after such a change. What the kernel ends up with is the last report in the
queue, if there is one, and else what was listed.

* `lastReport`: the last report about a pane among the unread lines of B.
* `Queue`: the last report in the queue is the current status, and while the queue has none, the
  listing read the current status.
* `Recorded`: once the listing is taken, a pane that is not in the queue is recorded with its
  current status.
* `mirrors`: with the queue empty, the table and the last event of every live pane that is
  subscribed carry its current status. -/

namespace MuxrCore.Herdr.Subscribe.Mirror

open MuxrCore.Lib.Runs MuxrCore.Lib.Tables MuxrCore.Herdr.Registry
open MuxrCore.Herdr.Translate (translatePane byHerdr_translatePane)
open MuxrCore.Herdr.Subscribe.Lines MuxrCore.Herdr.Subscribe.Tables
open MuxrCore.Herdr.Subscribe.Session MuxrCore.Herdr.Subscribe.Reached
open MuxrCore.Multiplexer.Agents

variable (fromStr : String → Option Value)

/-- What a line of B reports about a pane. -/
def reportOf (p line : String) : Option HerdrAgentStatus :=
  match statusReport fromStr (trimEnd line) with
  | some (q, status) => if q = p then some status else none
  | none => none

/-- The last report about a pane in a queue. -/
def lastReport (p : String) (unread : List String) : Option HerdrAgentStatus :=
  unread.reverse.findSome? (reportOf fromStr p)

variable {fromStr} {s t : State} {a : Act} {k : Kernel} {p : String} {w : Watcher}

theorem lastReport_push (line : String) (unread : List String) :
    lastReport fromStr p (unread ++ [line]) =
      (reportOf fromStr p line).or (lastReport fromStr p unread) := by
  simp only [lastReport, List.reverse_append, List.reverse_singleton, List.singleton_append]
  rw [List.findSome?_cons]
  rcases reportOf fromStr p line with _ | status <;> rfl

theorem lastReport_cons (line : String) (rest : List String) :
    lastReport fromStr p (line :: rest) =
      (lastReport fromStr p rest).or (reportOf fromStr p line) := by
  simp only [lastReport, List.reverse_cons, List.findSome?_append]
  rcases hr : reportOf fromStr p line with _ | status <;> simp [hr]

/-! ### The queue -/

/-- What a step does to the queue of B and to the status of a pane that B covers: nothing, or a line
is pushed that reports the status if it changed, or the pump reads a line. -/
inductive QueueStep (fromStr : String → Option Value) (s t : State) (p : String) (a : Act)
    (unread unread' : List String) : Prop
  | stays (hu : unread' = unread) (hc : t.herdr.current p = s.herdr.current p)
  | reports (line : String) (hu : unread' = unread ++ [line])
      (hr : reportOf fromStr p line = some (t.herdr.current p))
  | pushes (line : String) (hu : unread' = unread ++ [line]) (hr : reportOf fromStr p line = none)
      (hc : t.herdr.current p = s.herdr.current p)
  | reads (line : String) (ha : a = .pumpStatus) (hu : unread = line :: unread')
      (hc : t.herdr.current p = s.herdr.current p)

/-- B is opened, or a step is made with it. -/
theorem queue_step (hs : Sane fromStr s) (h : Step fromStr s a t) (hw : t.status = some w) :
    (s.phase = .subscribing w.panes ∧ t.phase = .acked w.panes ∧ w = ⟨w.panes, [], false⟩) ∨
    ∃ w', s.status = some w' ∧ w'.panes = w.panes ∧
      (a = .resynced ∨ w'.resynced = w.resynced) ∧
      ∀ p ∈ w.panes, QueueStep fromStr s t p a w'.unread w.unread := by
  cases h
  case acked ids ht =>
    obtain rfl := Option.some.inj hw
    exact Or.inl ⟨ht, rfl, rfl⟩
  case create pane line first hnew hl hpl =>
    refine Or.inr ⟨w, hw, rfl, Or.inr rfl, fun p hp => .stays rfl ?_⟩
    have hne : p ≠ pane := fun he => hnew (he ▸ hs.watched w hw p hp)
    exact Function.update_of_ne hne _ _
  case change pane line status hlive hl =>
    simp only [State.pushStatusOf, Option.map_eq_some_iff] at hw
    obtain ⟨w', hw', rfl⟩ := hw
    by_cases hmem : pane ∈ w'.panes
    · rw [if_pos hmem]
      refine Or.inr ⟨w', hw', rfl, Or.inr rfl, fun p hp => ?_⟩
      by_cases hpane : pane = p
      · subst hpane
        refine .reports line rfl ?_
        simp [reportOf, hl, State.pushStatusOf]
      · refine .pushes line rfl ?_ ?_
        · simp [reportOf, hl, hpane]
        · exact Function.update_of_ne (Ne.symm hpane) _ _
    · rw [if_neg hmem]
      refine Or.inr ⟨w', hw', rfl, Or.inr rfl, fun p hp => .stays rfl ?_⟩
      have hne : p ≠ pane := fun he => hmem (he ▸ hp)
      exact Function.update_of_ne hne _ _
  case otherStatus line hl =>
    simp only [State.pushStatus, Option.map_eq_some_iff] at hw
    obtain ⟨w', hw', rfl⟩ := hw
    refine Or.inr ⟨w', hw', rfl, Or.inr rfl, fun p hp => .pushes line rfl ?_ rfl⟩
    simp [reportOf, hl]
  case resynced ht hall =>
    simp only [Option.map_eq_some_iff] at hw
    obtain ⟨w', hw', rfl⟩ := hw
    exact Or.inr ⟨w', hw', rfl, Or.inl rfl, fun p hp => .stays rfl rfl⟩
  case pumpStatus w' rest line ht hst hu =>
    obtain rfl := Option.some.inj hw
    exact Or.inr ⟨w', hst, rfl, Or.inr rfl, fun p hp => .reads line rfl hu rfl⟩
  case lifecycleAcked => exact absurd hw (by simp)
  case failed => exact absurd hw (by simp)
  case widen => exact absurd hw (by simp)
  case statusLost => exact absurd hw (by simp)
  all_goals exact Or.inr ⟨w, hw, rfl, Or.inr rfl, fun p hp => .stays rfl rfl⟩

/-- B is committed, or the kernel covers no more panes than before. -/
theorem subscribed_step (hs : Sane fromStr s) (h : Step fromStr s a t) :
    (∃ ids, s.phase = .acked ids ∧ t.subscribed = ids) ∨
      (∀ p ∈ t.subscribed, p ∈ s.subscribed) ∧
        ∀ start input, t.phase = .resyncing start input →
          ∃ start' input', s.phase = .resyncing start' input' := by
  cases h
  case committed ids ht => exact Or.inl ⟨ids, ht, rfl⟩
  case listed start input q ht hlive hst =>
    exact Or.inr ⟨fun p hp => hp, fun _ _ _ => ⟨start, input, ht⟩⟩
  case pumpLifecycle rest subscribed line kernel ht hu hk =>
    have htrue := hs.lines line (by simp [State.lines, hu])
    refine Or.inr ⟨subscribed_pumpLifecycle htrue.quiet_trimEnd hk, fun start input ht' => ?_⟩
    exact ⟨start, input, ht'⟩
  case lifecycleAcked ht hl => exact Or.inr ⟨by simp, fun start input ht' => ⟨start, input, ht'⟩⟩
  all_goals first
    | exact Or.inr ⟨fun p hp => hp, fun start input ht' => ⟨start, input, ht'⟩⟩
    | exact Or.inr ⟨fun p hp => hp, fun start input ht' => absurd ht' (by simp)⟩

/-- The queue of B and the listing tell the current statuses. -/
structure Queue (fromStr : String → Option Value) (s : State) : Prop where
  acked : ∀ w ids, s.status = some w → s.phase = .acked ids → w.panes = ids
  /-- The kernel covers no pane that B does not, once B is committed. -/
  subscribed : ∀ w, s.status = some w →
    (∃ start input, s.phase = .resyncing start input) ∨ w.resynced = true →
    ∀ p ∈ s.subscribed, p ∈ w.panes
  /-- The last report is the current status. -/
  last : ∀ w, s.status = some w → ∀ p ∈ w.panes, p ∈ s.herdr.live →
    ∀ status, lastReport fromStr p w.unread = some status → status = s.herdr.current p
  /-- A pane is going to be listed, and is listed with its current status if none is queued. -/
  listing : ∀ w start input, s.status = some w → s.phase = .resyncing start input →
    ∀ p ∈ w.panes, p ∈ s.herdr.live → p ∈ start ∧
      (lastReport fromStr p w.unread = none →
        ∀ r ∈ input, r.herdrPaneId = p → r.status = s.herdr.current p)

theorem queue_init (h : World) : Queue fromStr (.init h) := by
  refine ⟨?_, ?_, ?_, ?_⟩ <;> simp [State.init]

/-- A queue without a report about the pane had none before the step, unless the pump read it, and
the status is the same. -/
theorem QueueStep.none {unread unread' : List String} (h : QueueStep fromStr s t p a unread unread')
    (hn : lastReport fromStr p unread' = none) :
    t.herdr.current p = s.herdr.current p ∧
      (a = .pumpStatus ∨ lastReport fromStr p unread = none) := by
  rcases h with ⟨hu, hc⟩ | ⟨line, hu, hr⟩ | ⟨line, hu, hr, hc⟩ | ⟨line, ha, hu, hc⟩
  · exact ⟨hc, Or.inr (hu ▸ hn)⟩
  · rw [hu, lastReport_push, hr] at hn
    exact absurd hn (by simp)
  · rw [hu, lastReport_push, hr] at hn
    exact ⟨hc, Or.inr (by simpa using hn)⟩
  · exact ⟨hc, Or.inl ha⟩

/-- If the last report is the current status, it is so after the step. -/
theorem QueueStep.last {unread unread' : List String} (h : QueueStep fromStr s t p a unread unread')
    (hl : ∀ status, lastReport fromStr p unread = some status → status = s.herdr.current p)
    {status : HerdrAgentStatus} (hst : lastReport fromStr p unread' = some status) :
    status = t.herdr.current p := by
  rcases h with ⟨hu, hc⟩ | ⟨line, hu, hr⟩ | ⟨line, hu, hr, hc⟩ | ⟨line, -, hu, hc⟩
  · rw [hc]
    exact hl status (hu ▸ hst)
  · rw [hu, lastReport_push, hr] at hst
    simpa using hst.symm
  · rw [hu, lastReport_push, hr] at hst
    rw [hc]
    exact hl status (by simpa using hst)
  · rw [hc]
    refine hl status ?_
    rw [hu, lastReport_cons, hst]
    rfl

/-- A pane that B covers and that is live after the step was so before. -/
theorem live_of_watched (hs : Sane fromStr s) (h : Step fromStr s a t) {w' : Watcher}
    (hw' : s.status = some w') (hp : p ∈ w'.panes) (hlive : p ∈ t.herdr.live) :
    p ∈ s.herdr.live :=
  (evolves_step h).live p (hs.watched w' hw' p hp) hlive

theorem acked_step (h : Step fromStr s a t) {ids : List String} (ht : t.phase = .acked ids) :
    s.phase = .acked ids ∨ t.status = some ⟨ids, [], false⟩ := by
  cases h
  case acked ids' hph =>
    obtain rfl := Phase.acked.inj ht
    exact Or.inr rfl
  all_goals first
    | exact Or.inl ht
    | exact absurd ht (by simp)

theorem pumping_of_pumpStatus (h : Step fromStr s .pumpStatus t) : s.phase = .pumping := by
  cases h
  assumption

theorem resyncing_of_resynced (h : Step fromStr s .resynced t) :
    ∃ start input, s.phase = .resyncing start input := by
  cases h
  case resynced start input ht _ => exact ⟨start, input, ht⟩

theorem acked_panes (hs : Sane fromStr s) (hq : Queue fromStr s) (h : Step fromStr s a t)
    {ids : List String} (hw : t.status = some w) (ht : t.phase = .acked ids) : w.panes = ids := by
  rcases acked_step h ht with hph | hnew
  · rcases queue_step hs h hw with ⟨hph', -, -⟩ | ⟨w', hw', hpanes, -, -⟩
    · exact absurd (hph.symm.trans hph') (by simp)
    · exact hpanes ▸ hq.acked w' ids hw' hph
  · obtain rfl := Option.some.inj (hw.symm.trans hnew)
    rfl

theorem subscribed_panes (hs : Sane fromStr s) (hq : Queue fromStr s) (h : Step fromStr s a t)
    (hw : t.status = some w)
    (hc : (∃ start input, t.phase = .resyncing start input) ∨ w.resynced = true) :
    ∀ p ∈ t.subscribed, p ∈ w.panes := by
  intro p hp
  rcases queue_step hs h hw with ⟨-, ht, hnew⟩ | ⟨w', hw', hpanes, hre, -⟩
  · rcases hc with ⟨start, input, ht'⟩ | hre
    · exact absurd (ht.symm.trans ht') (by simp)
    · rw [hnew] at hre
      exact absurd hre (by simp)
  · rw [← hpanes]
    rcases subscribed_step hs h with ⟨ids, hph, rfl⟩ | ⟨hsub, hph⟩
    · rw [hq.acked w' _ hw' hph]
      exact hp
    · refine hq.subscribed w' hw' ?_ p (hsub p hp)
      rcases hc with ⟨start, input, ht⟩ | hw
      · exact Or.inl (hph start input ht)
      · rcases hre with rfl | hre
        · exact Or.inl (resyncing_of_resynced h)
        · exact Or.inr (hre ▸ hw)

/-- A pane that is listed, and of which no report is queued, was listed with its current status. -/
theorem listing_step (hs : Sane fromStr s) (hq : Queue fromStr s) (h : Step fromStr s a t)
    {start : List String} {input : List ResyncPane} (hw : t.status = some w)
    (ht : t.phase = .resyncing start input) (hp : p ∈ w.panes) (hlive : p ∈ t.herdr.live) :
    p ∈ start ∧ (lastReport fromStr p w.unread = none →
      ∀ r ∈ input, r.herdrPaneId = p → r.status = t.herdr.current p) := by
  rcases queue_step hs h hw with ⟨-, ht', -⟩ | ⟨w', hw', hpanes, -, hstep⟩
  · exact absurd (ht'.symm.trans ht) (by simp)
  · have hp' : p ∈ w'.panes := hpanes ▸ hp
    have hlive' := live_of_watched hs h hw' hp' hlive
    -- what was listed before
    have hold : ∀ input', s.phase = .resyncing start input' → p ∈ start ∧
        (lastReport fromStr p w.unread = none →
          ∀ r ∈ input', r.herdrPaneId = p → r.status = t.herdr.current p) := by
      intro input' hph
      obtain ⟨hstart, hlist⟩ := hq.listing w' start input' hw' hph p hp' hlive'
      refine ⟨hstart, fun hn => ?_⟩
      obtain ⟨hc, rfl | hn'⟩ := (hstep p hp).none hn
      · exact absurd ((pumping_of_pumpStatus h).symm.trans hph) (by simp)
      · rw [hc]
        exact hlist hn'
    rcases resyncing_step h ht with ⟨rfl, rfl⟩ | hph | ⟨input', q, hph, rfl, -, hq'⟩
    · exact ⟨hlive, by simp⟩
    · exact hold input hph
    · obtain ⟨hstart, hlist⟩ := hold input' hph
      refine ⟨hstart, fun hn r hr hrp => ?_⟩
      rcases List.mem_append.mp hr with hr | hr
      · exact hlist hn r hr hrp
      · obtain rfl := List.mem_singleton.mp hr
        exact hrp ▸ hq'

theorem queue_invariant (hs : Sane fromStr s) (hq : Queue fromStr s) (h : Step fromStr s a t) :
    Queue fromStr t := by
  refine ⟨fun w ids hw ht => acked_panes hs hq h hw ht,
    fun w hw hc => subscribed_panes hs hq h hw hc, fun w hw p hp hlive status hst => ?_,
    fun w start input hw ht p hp hlive => listing_step hs hq h hw ht hp hlive⟩
  rcases queue_step hs h hw with ⟨-, -, hnew⟩ | ⟨w', hw', hpanes, -, hstep⟩
  · rw [hnew] at hst
    simp [lastReport] at hst
  · have hp' : p ∈ w'.panes := hpanes ▸ hp
    have hlive' := live_of_watched hs h hw' hp' hlive
    exact (hstep p hp).last (hq.last w' hw' p hp' hlive') hst

/-! ### The table -/

/-- Once the listing is taken, a pane that B covers has a number, and its current status is recorded
if no report about it is queued. -/
def Recorded (fromStr : String → Option Value) (s : State) : Prop :=
  ∀ w, s.status = some w → w.resynced = true → ∀ p ∈ w.panes, p ∈ s.herdr.live →
    ∃ n, s.kernel.panes.byHerdr p = some n ∧ (lastReport fromStr p w.unread = none →
      s.kernel.lastStatus.lookup n = some (mapStatus (s.herdr.current p)))

/-- The pump records what the line reports about a pane, and nothing else. -/
theorem lookup_pumpStatus {line : String} {n : ℕ} (hnum : k.panes.byHerdr p = some n)
    (hd : Distinct (pumpStatus fromStr k line).panes) :
    (pumpStatus fromStr k line).lastStatus.lookup n =
      ((reportOf fromStr p line).map mapStatus).or (k.lastStatus.lookup n) := by
  rcases hl : statusReport fromStr (trimEnd line) with _ | ⟨q, status⟩
  · rw [pumpStatus_of_none hl, reportOf, hl]
    rfl
  · obtain ⟨ev, hpane, hstatus, hk⟩ := pumpStatus_of_status (k := k) hl
    rw [hk] at hd ⊢
    have hq := byHerdr_translatePane k.panes q none q
    rw [if_pos rfl, ← hpane] at hq
    rw [publish_lookup, reportOf, hl]
    by_cases hqp : q = p
    · subst hqp
      have hn : n = ev.pane := by
        rw [hpane, translatePane, HerdrPaneRegistry.idForHerdrPane, hnum]
      simp [hn, hstatus]
    · -- another pane has another number
      have hp := byHerdr_translatePane k.panes q none p
      rw [if_neg (Ne.symm hqp), hnum] at hp
      have hne : n ≠ ev.pane := by
        rintro rfl
        exact hqp (hd q p ev.pane hq hp)
      simp [hne, hqp]

/-- A step that neither reads B nor ends a listing leaves the statuses of live panes alone. -/
theorem lookup_kernelStep (h : KernelStep fromStr s a k) (hr : a ≠ .resynced)
    (hp : a ≠ .pumpStatus) (hd : Distinct s.kernel.panes) {n : ℕ}
    (hnum : s.kernel.panes.byHerdr p = some n) (hlive : p ∈ s.herdr.live) :
    k.lastStatus.lookup n = s.kernel.lastStatus.lookup n := by
  cases h with
  | stays => rfl
  | registers => rfl
  | fails => rfl
  | lays => rfl
  | resyncs => exact absurd rfl hr
  | publishes => exact absurd rfl hp
  | @forgets pane ht hused hdead =>
    rcases hid : s.kernel.panes.idForHerdrPane pane with _ | id
    · rfl
    · rw [(forgetPane_lookup s.subscribed pane id n).1]
      have hne : n ≠ id := by
        rintro rfl
        exact hdead (hd p pane n hnum hid ▸ hlive)
      rw [if_neg hne]

/-- A listing records the current status of every pane that B covers and that is not queued. -/
theorem recorded_resynced (hq : Queue fromStr s) (h : Step fromStr s .resynced t)
    (hd : Distinct t.kernel.panes) : Recorded fromStr t := by
  intro w hw _ p hp hlive
  cases h
  case resynced start input ht hall =>
    simp only [Option.map_eq_some_iff] at hw
    obtain ⟨w', hw', rfl⟩ := hw
    obtain ⟨hstart, hlist⟩ := hq.listing w' start input hw' ht p hp hlive
    obtain ⟨r, hr, hrp⟩ := List.mem_map.mp (hall p hstart hlive)
    obtain ⟨r', hr', n, hn, hn', hlookup⟩ := (resync_spec s.kernel input).listed r hr
    rw [hrp] at hn
    have hsame : r'.herdrPaneId = p := hd _ _ n hn' hn
    exact ⟨n, hn, fun hnone => by rw [← hlist hnone r' hr' hsame]; exact hlookup⟩

/-- A pane is recorded with the status that was read, or it is still queued. -/
theorem recorded_pumpStatus (hq : Queue fromStr s) (hrec : Recorded fromStr s)
    (h : Step fromStr s .pumpStatus t) (hd : Distinct t.kernel.panes)
    (hg : Extends s.kernel.panes t.kernel.panes) : Recorded fromStr t := by
  intro w hw hre p hp hlive
  cases h
  case pumpStatus w' rest line ht hw' hu =>
    obtain rfl := Option.some.inj hw
    obtain ⟨n, hn, hlookup⟩ := hrec w' hw' hre p hp hlive
    refine ⟨n, hg p n hn, fun hnone => ?_⟩
    have hlast : lastReport fromStr p w'.unread = reportOf fromStr p line := by
      rw [hu, lastReport_cons, hnone, Option.none_or]
    rw [lookup_pumpStatus hn hd]
    rcases hr : reportOf fromStr p line with _ | status
    · exact hlookup (hlast.trans hr)
    · have hcurrent := hq.last w' hw' p hp hlive status (hlast.trans hr)
      rw [hcurrent]
      rfl

theorem recorded_step (hs : Sane fromStr s) (hq : Queue fromStr s) (hrec : Recorded fromStr s)
    (h : Step fromStr s a t) (hd : Distinct t.kernel.panes) : Recorded fromStr t := by
  have hk := kernel_step hs h
  by_cases hresync : a = .resynced
  · subst hresync
    exact recorded_resynced hq h hd
  by_cases hpump : a = .pumpStatus
  · subst hpump
    exact recorded_pumpStatus hq hrec h hd hk.grows
  intro w hw hre p hp hlive
  rcases queue_step hs h hw with ⟨-, -, hnew⟩ | ⟨w', hw', hpanes, hre', hstep⟩
  · rw [hnew] at hre
    exact absurd hre (by simp)
  · have hp' : p ∈ w'.panes := hpanes ▸ hp
    have hlive' := live_of_watched hs h hw' hp' hlive
    have hre'' : w'.resynced = true := (hre'.resolve_left hresync).trans hre
    obtain ⟨n, hn, hlookup⟩ := hrec w' hw' hre'' p hp' hlive'
    refine ⟨n, hk.grows p n hn, fun hnone => ?_⟩
    obtain ⟨hc, hpump' | hnone'⟩ := (hstep p hp).none hnone
    · exact absurd hpump' hpump
    · rw [hc, ← hlookup hnone']
      exact lookup_kernelStep hk hresync hpump (hd.of_extends hk.grows) hn hlive'

theorem coherent_step (h : KernelStep fromStr s a k) (hc : Coherent s.kernel) :
    Coherent k := by
  cases h with
  | stays => exact hc
  | registers => exact fun pane status hst => hc pane status hst
  | resyncs => exact (resync_spec _ _).coherent hc
  | fails => exact hc.of_append [.resynced] (by simp [resync]) fun _ _ hst => hst
  | forgets => exact coherent_forgetPane hc _ _ _
  | lays => exact coherent_publishLayout hc _ _
  | publishes => exact coherent_publish (fun pane status hst => hc pane status hst) _

/-! ### Whole runs -/

/-- B is up and its listing is taken, and there is nothing to read on either connection. -/
structure Settled (s : State) (w : Watcher) : Prop where
  up : s.status = some w
  resynced : w.resynced = true
  read : w.unread = []
  lifecycle : s.lifecycle.getD [] = []

/-- **Whenever B is settled, the table and the last event of every live pane that is subscribed carry
its current status**, if no two panes were given one number. -/
theorem mirrors {h : World} (hl : ∀ p ∈ h.live, p ∈ h.used) {as : List Act}
    (hr : Run (Step fromStr) (.init h) as s) (hd : Distinct s.kernel.panes) (hw : Settled s w) :
    ∀ p ∈ s.herdr.live, p ∈ s.subscribed → ∃ n, s.kernel.panes.byHerdr p = some n ∧
      s.kernel.lastStatus.lookup n = some (mapStatus (s.herdr.current p)) ∧
      lastPublished s.kernel.bus n = some (mapStatus (s.herdr.current p)) := by
  have hinv : Sane fromStr s ∧ Queue fromStr s ∧ Coherent s.kernel ∧
      (Distinct s.kernel.panes → Recorded fromStr s) := by
    refine hr.invariant (I := fun s => Sane fromStr s ∧ Queue fromStr s ∧ Coherent s.kernel ∧
      (Distinct s.kernel.panes → Recorded fromStr s)) (fun s a t hI ht => ?_)
      ⟨sane_init h hl, queue_init h, coherent_init, fun _ => ?_⟩
    · obtain ⟨hs, hq, hc, hrec⟩ := hI
      have hk := kernel_step hs ht
      refine ⟨sane_step hs ht, queue_invariant hs hq ht, coherent_step hk hc, fun hdt => ?_⟩
      exact recorded_step hs hq (hrec (hdt.of_extends hk.grows)) ht hdt
    · intro w hw
      exact absurd hw (by simp [State.init])
  obtain ⟨-, hq, hc, hrec⟩ := hinv
  intro p hlive hp
  have hp' := hq.subscribed w hw.up (Or.inr hw.resynced) p hp
  obtain ⟨n, hn, hlookup⟩ := hrec hd w hw.up hw.resynced p hp' hlive
  have hst := hlookup (by rw [hw.read]; rfl)
  exact ⟨n, hn, hst, hc n _ hst⟩

/-- The pump has read the report that the one pane is blocked. -/
theorem mirrors_blocked :
    ∃ s w, Run (Step parseSample) (.init oneIdle)
        (bringUp ++ [Act.change "w1:p1" blockedLine .blocked, .pumpStatus]) s ∧ Settled s w ∧
      "w1:p1" ∈ s.herdr.live ∧ "w1:p1" ∈ s.subscribed ∧
      ∀ p ∈ s.herdr.live, p ∈ s.subscribed → ∃ n, s.kernel.panes.byHerdr p = some n ∧
        s.kernel.lastStatus.lookup n = some (mapStatus (s.herdr.current p)) ∧
        lastPublished s.kernel.bus n = some (mapStatus (s.herdr.current p)) := by
  have hr := run_append_iff.mpr ⟨upIdle, run_bringUp,
    .cons (.change (by decide) report_blockedLine) (.cons (.pumpStatus rfl rfl rfl) (.nil _))⟩
  refine ⟨_, ⟨["w1:p1"], [], true⟩, hr, ?settled, List.mem_cons_self, List.mem_cons_self,
    mirrors (fun _ hp => hp) hr ?distinct ?settled⟩
  case settled => exact ⟨rfl, rfl, rfl, rfl⟩
  case distinct =>
    dsimp only
    rw [panes_pumpStatus rfl]
    exact distinct_upIdle

end MuxrCore.Herdr.Subscribe.Mirror
