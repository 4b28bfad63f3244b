import MuxrCore.Herdr.Subscribe.Session

/-! # The states that are reached

What every run of the session keeps, whatever the kernel makes of what it reads.

* `evolves_step`: a pane that is gone stays gone.
* `Sane`: the lines of A tell what is so, and the panes that B covers, reports or lists existed.
* `kernel_step`: what a step can do to the tables and the bus. -/

namespace MuxrCore.Herdr.Subscribe.Reached

open MuxrCore.Lib.Runs MuxrCore.Lib.Tables MuxrCore.Herdr.Registry
open MuxrCore.Herdr.Translate (translatePane extends_translatePane)
open MuxrCore.Herdr.Subscribe.Lines MuxrCore.Herdr.Subscribe.Tables
open MuxrCore.Herdr.Subscribe.Session MuxrCore.Multiplexer.Agents

variable {fromStr : String → Option Value}

/-! ### What herdr does to its panes -/

/-- Panes that existed still count as used, and those of them that are gone stay gone. -/
structure Evolves (h h' : World) : Prop where
  used : ∀ p ∈ h.used, p ∈ h'.used
  live : ∀ p ∈ h.used, p ∈ h'.live → p ∈ h.live

theorem Evolves.refl (h : World) : Evolves h h := ⟨fun _ hp => hp, fun _ _ hp => hp⟩

/-- No step revives a pane. -/
theorem evolves_step {s t : State} {a : Act} (h : Step fromStr s a t) : Evolves s.herdr t.herdr := by
  cases h
  case create hp hl hw =>
    refine ⟨fun q hq => List.mem_cons_of_mem _ hq, fun q hq hlive => ?_⟩
    rcases List.mem_cons.mp hlive with rfl | hlive
    · exact absurd hq hp
    · exact hlive
  case close hp hl hw => exact ⟨fun q hq => hq, fun q _ hlive => (List.mem_filter.mp hlive).1⟩
  case change hp hl => exact ⟨fun q hq => hq, fun q _ hlive => hlive⟩
  all_goals exact Evolves.refl _

/-- What a line of A tells is so: the panes it reports created existed, those it reports gone are
gone. -/
structure Truthful (fromStr : String → Option Value) (h : World) (line : String) : Prop where
  plain : Plain fromStr line
  quiet : statusReport fromStr line = none
  created : ∀ p, Creates fromStr line p → p ∈ h.used
  gone : ∀ p, Closes fromStr line p → p ∈ h.used ∧ p ∉ h.live

theorem lifecycleChange_trimEnd {line : String} (h : Plain fromStr line) :
    lifecycleChange fromStr (trimEnd line) = lifecycleChange fromStr line := by
  rw [lifecycleChange, h, lifecycleChange]

theorem Truthful.quiet_trimEnd {h : World} {line : String} (hl : Truthful fromStr h line) :
    statusReport fromStr (trimEnd line) = none := by
  have hplain : pushedEnvelope fromStr (trimEnd line) = pushedEnvelope fromStr line := hl.plain
  rw [statusReport, hplain, ← statusReport, hl.quiet]

theorem Truthful.mono {h h' : World} (he : Evolves h h') {line : String}
    (hl : Truthful fromStr h line) : Truthful fromStr h' line := by
  refine ⟨hl.plain, hl.quiet, fun p hp => he.used p (hl.created p hp), fun p hp => ?_⟩
  obtain ⟨hused, hdead⟩ := hl.gone p hp
  exact ⟨he.used p hused, fun hlive => hdead (he.live p hused hlive)⟩

/-- What holds in every state that is reached. -/
structure Sane (fromStr : String → Option Value) (s : State) : Prop where
  live : ∀ p ∈ s.herdr.live, p ∈ s.herdr.used
  lines : ∀ line ∈ s.lines, Truthful fromStr s.herdr line
  /-- B is subscribed to panes that existed. -/
  subscribing : ∀ ids, s.phase = .subscribing ids ∨ s.phase = .acked ids →
    ∀ p ∈ ids, p ∈ s.herdr.used
  watched : ∀ w, s.status = some w → ∀ p ∈ w.panes, p ∈ s.herdr.used
  reported : ∀ w, s.status = some w → ∀ line ∈ w.unread, ∀ p status,
    statusReport fromStr (trimEnd line) = some (p, status) → p ∈ s.herdr.used
  listed : ∀ start input, s.phase = .resyncing start input → ∀ p ∈ input,
    p.herdrPaneId ∈ s.herdr.used
  /-- A is up but at the head of the loop. -/
  up : s.lifecycle = none → s.phase = .top ∨ s.phase = .stopped
  /-- B is down at the head of the loop unless A is, and after a widening. -/
  down : s.phase = .top ∧ s.lifecycle ≠ none ∨ s.phase = .draining → s.status = none

theorem mem_lines_pushLifecycle {s : State} {line l : String}
    (hl : l ∈ (s.pushLifecycle line).lines) : l ∈ s.lines ∨ l = line := by
  unfold State.lines at hl ⊢
  rcases hu : s.lifecycle with _ | unread
  · rw [State.pushLifecycle, hu] at hl
    exact Or.inl hl
  · rw [State.pushLifecycle, hu] at hl
    simpa [or_assoc] using hl

theorem sane_init (h : World) (hl : ∀ p ∈ h.live, p ∈ h.used) : Sane fromStr (.init h) := by
  refine ⟨hl, ?_, ?_, ?_, ?_, ?_, fun _ => Or.inl rfl, fun _ => rfl⟩ <;>
    simp [State.init, State.lines, Phase.buffered]

theorem truthful_created {h : World} {pane line : String} (hc : Creates fromStr line pane)
    (hw : Plain fromStr line) (hp : pane ∈ h.used) : Truthful fromStr h line := by
  refine ⟨hw, statusReport_of_change hc, fun q hq => ?_, fun q hq => ?_⟩
  · have heq : pane = q := by simpa using hc.symm.trans hq
    exact heq ▸ hp
  · exact absurd (hc.symm.trans hq) (by simp)

theorem truthful_closed {h : World} {pane line : String} (hc : Closes fromStr line pane)
    (hw : Plain fromStr line) (hp : pane ∈ h.used) (hd : pane ∉ h.live) :
    Truthful fromStr h line := by
  refine ⟨hw, statusReport_of_change hc, fun q hq => ?_, fun q hq => ?_⟩
  · exact absurd (hc.symm.trans hq) (by simp)
  · have heq : pane = q := by simpa using hc.symm.trans hq
    exact heq ▸ ⟨hp, hd⟩

theorem truthful_other {h : World} {line : String}
    (hc : (lifecycleChange fromStr line).bind PaneChange.pane = none)
    (hs : statusReport fromStr line = none) (hw : Plain fromStr line) :
    Truthful fromStr h line := by
  refine ⟨hw, hs, fun q hq => ?_, fun q hq => ?_⟩
  · rw [Creates] at hq
    exact absurd hc (by simp [hq, PaneChange.pane])
  · rw [Closes] at hq
    exact absurd hc (by simp [hq, PaneChange.pane])

/-- A line of A is an old one, or one that herdr pushes now and that is so. -/
theorem lines_step {s t : State} {a : Act} (hs : Sane fromStr s) (h : Step fromStr s a t) :
    ∀ l ∈ t.lines, l ∈ s.lines ∨ Truthful fromStr t.herdr l := by
  intro l hl
  cases h
  case create pane line first hp hc hw =>
    refine (mem_lines_pushLifecycle hl).imp_right ?_
    rintro rfl
    exact truthful_created hc hw List.mem_cons_self
  case close pane line hp hc hw =>
    refine (mem_lines_pushLifecycle hl).imp_right ?_
    rintro rfl
    exact truthful_closed hc hw (hs.live pane hp) (by simp [State.pushLifecycle])
  case closeAgain pane line hp hd hc hw =>
    refine (mem_lines_pushLifecycle hl).imp_right ?_
    rintro rfl
    exact truthful_closed hc hw hp hd
  case otherLifecycle line hc hq hw =>
    refine (mem_lines_pushLifecycle hl).imp_right ?_
    rintro rfl
    exact truthful_other hc hq hw
  -- the kernel moves the lines it reads, or drops lines
  all_goals left; unfold State.lines at hl ⊢
  case lifecycleAcked ht hn => simp [ht, Phase.buffered] at hl
  case enumerate ht hn hst => simpa [ht, Phase.buffered] using hl
  case buffer ht hu => simpa [ht, hu, Phase.buffered] using hl
  case pumpLifecycle ht hu hk => simp_all [Phase.buffered]
  case widen ht hu hk => simp_all [Phase.buffered]
  case discard ht hu => simp_all [Phase.buffered]
  case change => exact hl
  case otherStatus => exact hl
  case register => exact hl
  case pumpStatus ht hst hu => exact hl
  case lifecycleLost ht => simp [Phase.buffered] at hl
  all_goals exact List.mem_append_right _ (by simpa [Phase.buffered] using hl)

/-- The panes that B covers are those of the subscription under way. -/
theorem panes_step {s t : State} {a : Act} (h : Step fromStr s a t) {w : Watcher}
    (hw : t.status = some w) :
    (∃ w', s.status = some w' ∧ w'.panes = w.panes) ∨ s.phase = .subscribing w.panes := by
  cases h
  case change pane line status hp hl =>
    left
    simp only [State.pushStatusOf, Option.map_eq_some_iff] at hw
    obtain ⟨w', hw', rfl⟩ := hw
    refine ⟨w', hw', ?_⟩
    split <;> rfl
  case otherStatus line hl =>
    left
    simp only [State.pushStatus, Option.map_eq_some_iff] at hw
    obtain ⟨w', hw', rfl⟩ := hw
    exact ⟨w', hw', rfl⟩
  case resynced ht hall =>
    left
    simp only [Option.map_eq_some_iff] at hw
    obtain ⟨w', hw', rfl⟩ := hw
    exact ⟨w', hw', rfl⟩
  case acked ids ht =>
    right
    obtain rfl := Option.some.inj hw
    exact ht
  case pumpStatus w' rest line ht hst hu =>
    obtain rfl := Option.some.inj hw
    exact Or.inl ⟨w', hst, rfl⟩
  case lifecycleAcked => exact absurd hw (by simp)
  case failed => exact absurd hw (by simp)
  case widen => exact absurd hw (by simp)
  case statusLost => exact absurd hw (by simp)
  all_goals exact Or.inl ⟨w, hw, rfl⟩

/-- An unread line of B is an old one, or it is pushed now. -/
theorem unread_step {s t : State} {a : Act} (h : Step fromStr s a t) {w : Watcher}
    (hw : t.status = some w) {line : String} (hline : line ∈ w.unread) :
    (∃ w', s.status = some w' ∧ line ∈ w'.unread) ∨
      ∀ p status, statusReport fromStr (trimEnd line) = some (p, status) → p ∈ s.herdr.live := by
  cases h
  case change pane line' status hp hl =>
    simp only [State.pushStatusOf, Option.map_eq_some_iff] at hw
    obtain ⟨w', hw', rfl⟩ := hw
    by_cases hmem : pane ∈ w'.panes
    · rw [if_pos hmem] at hline
      rcases List.mem_append.mp hline with hline | hline
      · exact Or.inl ⟨w', hw', hline⟩
      · obtain rfl := List.mem_singleton.mp hline
        refine Or.inr fun p status' hp' => ?_
        have heq : pane = p := by
          have hpair := Option.some.inj (hl.symm.trans hp')
          exact congrArg Prod.fst hpair
        exact heq ▸ hp
    · rw [if_neg hmem] at hline
      exact Or.inl ⟨w', hw', hline⟩
  case otherStatus line' hl =>
    simp only [State.pushStatus, Option.map_eq_some_iff] at hw
    obtain ⟨w', hw', rfl⟩ := hw
    rcases List.mem_append.mp hline with hline | hline
    · exact Or.inl ⟨w', hw', hline⟩
    · obtain rfl := List.mem_singleton.mp hline
      exact Or.inr fun p status hp => absurd (hl.symm.trans hp) (by simp)
  case resynced ht hall =>
    simp only [Option.map_eq_some_iff] at hw
    obtain ⟨w', hw', rfl⟩ := hw
    exact Or.inl ⟨w', hw', hline⟩
  case acked ids ht =>
    obtain rfl := Option.some.inj hw
    exact absurd hline (by simp)
  case pumpStatus w' rest line' ht hst hu =>
    obtain rfl := Option.some.inj hw
    exact Or.inl ⟨w', hst, by rw [hu]; exact List.mem_cons_of_mem _ hline⟩
  case lifecycleAcked => exact absurd hw (by simp)
  case failed => exact absurd hw (by simp)
  case widen => exact absurd hw (by simp)
  case statusLost => exact absurd hw (by simp)
  all_goals exact Or.inl ⟨w, hw, hline⟩

/-- A step starts a listing, or adds a live pane to it, or it was under way with what it has. -/
theorem resyncing_step {s t : State} {a : Act} (h : Step fromStr s a t) {start : List String}
    {input : List ResyncPane} (ht : t.phase = .resyncing start input) :
    (start = t.herdr.live ∧ input = []) ∨ s.phase = .resyncing start input ∨
      ∃ (input' : List ResyncPane) (q : ResyncPane), s.phase = .resyncing start input' ∧
        input = input' ++ [q] ∧
        q.herdrPaneId ∈ t.herdr.live ∧ q.status = t.herdr.current q.herdrPaneId := by
  cases h
  case committed hph =>
    obtain ⟨rfl, rfl⟩ := Phase.resyncing.inj ht
    exact Or.inl ⟨rfl, rfl⟩
  case listed start' input' q hph hlive hst =>
    obtain ⟨rfl, rfl⟩ := Phase.resyncing.inj ht
    exact Or.inr (Or.inr ⟨input', q, hph, rfl, hlive, hst⟩)
  all_goals first
    | exact Or.inr (Or.inl ht)
    | exact absurd ht (by simp)

/-- The panes of a subscription under way were enumerated, or reported created. -/
theorem subscribing_step {s t : State} {a : Act} (hs : Sane fromStr s) (h : Step fromStr s a t)
    {ids : List String} (ht : t.phase = .subscribing ids ∨ t.phase = .acked ids) :
    ∀ p ∈ ids, p ∈ t.herdr.used := by
  intro p hp
  cases h
  case enumerated start buffered ids' hph hall hused =>
    rcases ht with ht | ht
    · obtain rfl := Phase.subscribing.inj ht
      rcases (mem_bootstrapPaneSet.mp hp).1 with hp | ⟨line, hline, hc⟩
      · exact hused p hp
      · refine (hs.lines line ?_).created p hc
        rw [State.lines, hph]
        exact List.mem_append_left _ hline
    · exact absurd ht (by simp)
  case acked ids' hph =>
    rcases ht with ht | ht
    · exact absurd ht (by simp)
    · obtain rfl := Phase.acked.inj ht
      exact hs.subscribing _ (Or.inl hph) p hp
  case create hnew hl hw => exact List.mem_cons_of_mem _ (hs.subscribing ids ht p hp)
  all_goals first | exact hs.subscribing ids ht p hp | exact absurd ht (by simp [*])

theorem live_step {s t : State} {a : Act} (hs : Sane fromStr s) (h : Step fromStr s a t) :
    ∀ p ∈ t.herdr.live, p ∈ t.herdr.used := by
  intro p hp
  cases h
  case create hnew hl hw =>
    rcases List.mem_cons.mp hp with rfl | hp
    · exact List.mem_cons_self
    · exact List.mem_cons_of_mem _ (hs.live p hp)
  case close hlive hl hw => exact hs.live p (List.mem_filter.mp hp).1
  all_goals exact hs.live p hp

/-- A pane is listed while it is live. -/
theorem listed_step {s t : State} {a : Act} (hs : Sane fromStr s) (h : Step fromStr s a t)
    {start : List String} {input : List ResyncPane} (ht : t.phase = .resyncing start input) :
    ∀ p ∈ input, p.herdrPaneId ∈ t.herdr.used := by
  intro p hp
  have he := evolves_step h
  rcases resyncing_step h ht with ⟨-, rfl⟩ | hph | ⟨input', q, hph, rfl, hlive, -⟩
  · exact absurd hp (by simp)
  · exact he.used _ (hs.listed start input hph p hp)
  · rcases List.mem_append.mp hp with hp | hp
    · exact he.used _ (hs.listed _ _ hph p hp)
    · obtain rfl := List.mem_singleton.mp hp
      exact live_step hs h _ hlive

/-- A goes down only when the kernel gives it up. -/
theorem up_step {s t : State} {a : Act} (hs : Sane fromStr s) (h : Step fromStr s a t)
    (hl : t.lifecycle = none) : t.phase = .top ∨ t.phase = .stopped := by
  have hpush : ∀ s' : State, ∀ line, (s'.pushLifecycle line).lifecycle = none →
      s'.lifecycle = none := by
    intro s' line hn
    simpa [State.pushLifecycle] using hn
  cases h
  case create => exact hs.up (hpush _ _ hl)
  case close => exact hs.up (hpush _ _ hl)
  case closeAgain => exact hs.up (hpush _ _ hl)
  case otherLifecycle => exact hs.up (hpush _ _ hl)
  case failed => exact Or.inl rfl
  case lifecycleLost => exact Or.inl rfl
  case statusLost => exact Or.inl rfl
  case drained => exact Or.inl rfl
  case shutdown => exact Or.inr rfl
  case lifecycleAcked => exact absurd hl (by simp)
  case enumerate ht hn hst => exact absurd hl hn
  case resume ht hn hst => exact absurd hl hn
  case buffer => exact absurd hl (by simp)
  case pumpLifecycle => exact absurd hl (by simp)
  case widen => exact absurd hl (by simp)
  case discard => exact absurd hl (by simp)
  case change => exact hs.up hl
  case otherStatus => exact hs.up hl
  case register => exact hs.up hl
  case pumpStatus => exact hs.up hl
  case enumerated ht _ _ => exact absurd (hs.up hl) (by simp [ht])
  case acked ht => exact absurd (hs.up hl) (by simp [ht])
  case committed ht => exact absurd (hs.up hl) (by simp [ht])
  case listed ht _ _ => exact absurd (hs.up hl) (by simp [ht])
  case resynced ht _ => exact absurd (hs.up hl) (by simp [ht])
  case resyncFailed ht => exact absurd (hs.up hl) (by simp [ht])

/-- B goes down with a widening, and before the loop brings it up again. -/
theorem down_step {s t : State} {a : Act} (hs : Sane fromStr s) (h : Step fromStr s a t)
    (hd : t.phase = .top ∧ t.lifecycle ≠ none ∨ t.phase = .draining) : t.status = none := by
  have hpush : ∀ s' : State, ∀ line, (s'.pushLifecycle line).lifecycle ≠ none →
      s'.lifecycle ≠ none := by
    intro s' line hn he
    exact hn (by simp [State.pushLifecycle, he])
  cases h
  case create => exact hs.down (hd.imp_left fun h => ⟨h.1, hpush _ _ h.2⟩)
  case close => exact hs.down (hd.imp_left fun h => ⟨h.1, hpush _ _ h.2⟩)
  case closeAgain => exact hs.down (hd.imp_left fun h => ⟨h.1, hpush _ _ h.2⟩)
  case otherLifecycle => exact hs.down (hd.imp_left fun h => ⟨h.1, hpush _ _ h.2⟩)
  case change => exact Option.map_eq_none_iff.mpr (hs.down hd)
  case otherStatus => exact Option.map_eq_none_iff.mpr (hs.down hd)
  case register => exact hs.down hd
  case lifecycleAcked => rfl
  case failed => rfl
  case widen => rfl
  case statusLost => rfl
  case drained ht => exact hs.down (Or.inr ht)
  case discard ht _ => exact hs.down (Or.inr ht)
  case pumpLifecycle ht _ _ => exact absurd hd (by simp [ht])
  case pumpStatus ht _ _ => exact absurd hd (by simp [ht])
  all_goals exact absurd hd (by simp)

theorem sane_step {s t : State} {a : Act} (hs : Sane fromStr s) (h : Step fromStr s a t) :
    Sane fromStr t := by
  have he := evolves_step h
  refine ⟨live_step hs h, fun l hl => ?_, fun ids ht => subscribing_step hs h ht,
    fun w hw p hp => ?_, fun w hw line hline p status hp => ?_,
    fun start input ht => listed_step hs h ht, up_step hs h, down_step hs h⟩
  · rcases lines_step hs h l hl with hl | hl
    · exact (hs.lines l hl).mono he
    · exact hl
  · rcases panes_step h hw with ⟨w', hw', heq⟩ | hph
    · exact he.used p (hs.watched w' hw' p (heq ▸ hp))
    · exact he.used p (hs.subscribing w.panes (Or.inl hph) p hp)
  · rcases unread_step h hw hline with ⟨w', hw', hline'⟩ | hnew
    · exact he.used p (hs.reported w' hw' line hline' p status hp)
    · exact he.used p (hs.live p (hnew p status hp))

/-! ### What a step does to the kernel -/

variable (fromStr) in
/-- **What can become of the registry, the tables and the bus in a step.** -/
inductive KernelStep (s : State) : Act → Kernel → Prop
  | stays (a : Act) : KernelStep s a s.kernel
  | registers (pane terminal : String) (refresh : Bool) :
      KernelStep s (.register pane terminal refresh)
        { s.kernel with panes := (s.kernel.panes.assignOrGetInner pane terminal refresh).1 }
  | resyncs {start : List String} {input : List ResyncPane} (ht : s.phase = .resyncing start input)
      (hall : ∀ p ∈ start, p ∈ s.herdr.live → p ∈ input.map (·.herdrPaneId))
      (hused : ∀ p ∈ input, p.herdrPaneId ∈ s.herdr.used) :
      KernelStep s .resynced (resync s.kernel (some input))
  | fails : KernelStep s .resyncFailed (resync s.kernel none)
  /-- the pump reads that a pane is gone -/
  | forgets {pane : String} (ht : s.phase = .pumping) (hused : pane ∈ s.herdr.used)
      (hdead : pane ∉ s.herdr.live) :
      KernelStep s .pumpLifecycle
        (forgetPane s.kernel s.subscribed (some pane) (s.kernel.panes.idForHerdrPane pane)).1
  | lays (workspace tab : String) :
      KernelStep s .pumpLifecycle (publishLayout s.kernel workspace tab)
  /-- the pump reads the status of a pane -/
  | publishes {w : Watcher} {line pane : String} {rest : List String} {status : HerdrAgentStatus}
      {ev : AgentStatusChanged} (ht : s.phase = .pumping) (hw : s.status = some w)
      (hu : w.unread = line :: rest)
      (hl : statusReport fromStr (trimEnd line) = some (pane, status))
      (hpane : ev.pane = (translatePane s.kernel.panes pane none).2)
      (hstatus : ev.status = mapStatus status) (hused : pane ∈ s.herdr.used) :
      KernelStep s .pumpStatus
        (publish { s.kernel with panes := (translatePane s.kernel.panes pane none).1 } ev)

theorem kernel_step {s t : State} {a : Act} (hs : Sane fromStr s) (h : Step fromStr s a t) :
    KernelStep fromStr s a t.kernel := by
  cases h
  case register pane terminal refresh => exact .registers pane terminal refresh
  case resynced ht hall => exact .resyncs ht hall (hs.listed _ _ ht)
  case resyncFailed => exact .fails
  case pumpLifecycle rest subscribed line kernel ht hu hk =>
    have htrue := hs.lines line (by simp [State.lines, hu])
    rcases pumpLifecycle_cases s.kernel s.subscribed htrue.quiet_trimEnd
      with hnone | ⟨q, -, -, hsome⟩ | ⟨q, hcloses, hsome⟩ | ⟨-, hsome | ⟨workspace, tab, hsome⟩⟩
    · exact absurd (hnone.symm.trans hk) (by simp)
    · obtain ⟨rfl, -⟩ := Prod.mk.inj (Option.some.inj (hk.symm.trans hsome))
      exact .stays _
    · rw [Closes, lifecycleChange_trimEnd htrue.plain] at hcloses
      obtain ⟨hused, hdead⟩ := htrue.gone q hcloses
      have hpair := Option.some.inj (hk.symm.trans hsome)
      obtain rfl : kernel = (forgetPane s.kernel s.subscribed (some q)
        (s.kernel.panes.idForHerdrPane q)).1 := congrArg Prod.fst hpair
      exact .forgets ht hused hdead
    · obtain ⟨rfl, -⟩ := Prod.mk.inj (Option.some.inj (hk.symm.trans hsome))
      exact .stays _
    · obtain ⟨rfl, -⟩ := Prod.mk.inj (Option.some.inj (hk.symm.trans hsome))
      exact .lays workspace tab
  case pumpStatus w rest line ht hw hu =>
    show KernelStep fromStr s _ (Tables.pumpStatus fromStr s.kernel line)
    rcases hl : statusReport fromStr (trimEnd line) with _ | ⟨pane, status⟩
    · rw [pumpStatus_of_none hl]
      exact .stays _
    · obtain ⟨ev, hpane, hstatus, hk⟩ := pumpStatus_of_status (k := s.kernel) hl
      rw [hk]
      have hused := hs.reported w hw line (by rw [hu]; exact List.mem_cons_self) pane status hl
      exact .publishes ht hw hu hl hpane hstatus hused
  all_goals exact .stays _

/-- Panes keep their numbers. -/
theorem KernelStep.grows {s : State} {a : Act} {k : Kernel}
    (h : KernelStep fromStr s a k) : Extends s.kernel.panes k.panes := by
  cases h with
  | stays => exact Extends.refl _
  | registers pane terminal refresh => exact extends_assign _ pane terminal refresh
  | resyncs => exact (resync_spec _ _).grows
  | fails => exact Extends.refl _
  | forgets => exact fun pane id hid => (forgetPane_panes _ _ _).symm ▸ hid
  | lays => exact Extends.refl _
  | publishes => exact extends_translatePane _ _ _

end MuxrCore.Herdr.Subscribe.Reached
