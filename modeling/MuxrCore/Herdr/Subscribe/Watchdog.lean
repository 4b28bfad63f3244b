import MuxrCore.Herdr.Subscribe.Tables
import MuxrCore.Lib.Runs

/-! # The watchdog

While both connections are up the pump handles their lines, and from time to time it lists the panes
to see whether an event was missed. A pane outside the subscription speaks against A, the lifecycle
connection; a status other than the recorded one speaks against B, the agent-status connection. A
listing leads to one verdict, that against A if there is one, and it counts only if the connection
it is about has been idle. After `probeStrikes` verdicts in a row against one connection, that one
is given up.

So a B that has missed a status is given up if the verdicts are all against the same connection, and
otherwise it is not (`torn_down_iff`). -/

namespace MuxrCore.Herdr.Subscribe.Watchdog

open MuxrCore.Lib.Runs MuxrCore.Herdr.Subscribe.Lines MuxrCore.Herdr.Subscribe.Tables
open MuxrCore.Multiplexer.Agents

/-- The two connections, A and B. -/
inductive Connection
  | lifecycle
  | status
  deriving DecidableEq, Repr

/-- A pane as a probe sees it, with its number if it has one. -/
structure ProbePane where
  herdrPaneId : String
  pane : Option ℕ
  status : AgentStatus
  deriving DecidableEq, Repr

/-- What a probe concludes. -/
inductive Verdict
  | healthy
  | lifecycleWedged
  | statusWedged
  deriving DecidableEq, Repr

section
variable (subscribed : List String) (lastStatus : AList fun _ : ℕ => AgentStatus)

/-- The pane's recorded status is another one. -/
def ProbePane.moved (p : ProbePane) : Bool :=
  match p.pane.bind fun id => lastStatus.lookup id with
  | some known => known ≠ p.status
  | none => false

/-- The panes from one on; `statusWedged` says whether the status of an earlier one has moved. -/
def watchdogLoop (statusWedged : Bool) : List ProbePane → Verdict
  | [] => if statusWedged then .statusWedged else .healthy
  | p :: observed =>
    if !subscribed.contains p.herdrPaneId then .lifecycleWedged
    else watchdogLoop (statusWedged || p.moved lastStatus) observed

/-- The verdict; a pane outside the subscription settles it. -/
def watchdogVerdict (observed : List ProbePane) : Verdict :=
  watchdogLoop subscribed lastStatus false observed

end

/-- Verdicts in a row, for each connection. -/
structure Strikes where
  lifecycle : ℕ
  status : ℕ
  deriving DecidableEq, Repr

def Strikes.default : Strikes := ⟨0, 0⟩

def Strikes.count (strikes : Strikes) : Connection → ℕ
  | .lifecycle => strikes.lifecycle
  | .status => strikes.status

/-- One more verdict against a connection. -/
def Strikes.strike (strikes : Strikes) : Connection → Strikes
  | .lifecycle => ⟨strikes.lifecycle + 1, 0⟩
  | .status => ⟨0, strikes.status + 1⟩

/-- Why the pump ends. -/
inductive Pump
  | shutdown
  | lifecycleLost
  | statusLost
  | widen
  deriving DecidableEq, Repr

/-- The pump has given a connection up. -/
def Pump.lost : Connection → Pump
  | .lifecycle => .lifecycleLost
  | .status => .statusLost

/-- What the pump wakes up for: a line, or the end, of a connection; or a probe, with which of the
connections have been idle and, if they could be listed, the panes. -/
inductive Tick
  | shutdown
  | lifecycle (line : Option String)
  | status (line : Option String)
  | probe (lifecycleIdle statusIdle : Bool) (observed : Option (List ProbePane))
  deriving DecidableEq, Repr

/-- The pump: the kernel, the panes B is subscribed to, and the strikes. -/
structure Pumping where
  kernel : Kernel
  subscribed : List String
  strikes : Strikes

section
variable (fromStr : String → Option Value) (probeStrikes : ℕ)

/-- A verdict against a connection. -/
def Pumping.struck (s : Pumping) (c : Connection) : Except Pump Pumping :=
  if probeStrikes ≤ (s.strikes.strike c).count c then .error (Pump.lost c)
  else .ok { s with strikes := s.strikes.strike c }

/-- The verdicts start anew. -/
def Pumping.reset (s : Pumping) : Pumping := { s with strikes := .default }

/-- A listing of the panes. -/
def Pumping.probed (s : Pumping) (lifecycleIdle statusIdle : Bool) (observed : List ProbePane) :
    Except Pump Pumping :=
  match watchdogVerdict s.subscribed s.kernel.lastStatus observed with
  | .healthy => .ok s.reset
  | .lifecycleWedged => if lifecycleIdle then s.struck probeStrikes .lifecycle else .ok s.reset
  | .statusWedged => if statusIdle then s.struck probeStrikes .status else .ok s.reset

/-- One round of the pump. -/
def Pumping.tick (s : Pumping) : Tick → Except Pump Pumping
  | .shutdown => .error .shutdown
  | .lifecycle none => .error .lifecycleLost
  | .lifecycle (some line) =>
    match pumpLifecycle fromStr s.kernel s.subscribed line with
    | some (kernel, subscribed) => .ok { s with kernel, subscribed }
    | none => .error .widen
  | .status none => .error .statusLost
  | .status (some line) => .ok { s with kernel := pumpStatus fromStr s.kernel line }
  | .probe lifecycleIdle statusIdle observed =>
    if !lifecycleIdle && !statusIdle then .ok s.reset
    else match observed with
      | none => .ok s
      | some observed => s.probed probeStrikes lifecycleIdle statusIdle observed

/-- The pump, until it ends. -/
def pump (s : Pumping) : List Tick → Except Pump Pumping
  | [] => .ok s
  | tick :: ticks => s.tick fromStr probeStrikes tick >>= fun s => pump s ticks

end

/-! ### Verdicts -/

/-- The recorded status of a subscribed pane is another one than is observed. -/
def Pumping.Missed (s : Pumping) (observed : List ProbePane) : Prop :=
  ∃ p ∈ observed, p.herdrPaneId ∈ s.subscribed ∧ p.moved s.kernel.lastStatus = true

theorem watchdogLoop_unsubscribed {subscribed : List String}
    {lastStatus : AList fun _ : ℕ => AgentStatus} {observed : List ProbePane}
    (h : ∃ p ∈ observed, p.herdrPaneId ∉ subscribed) (statusWedged : Bool) :
    watchdogLoop subscribed lastStatus statusWedged observed = .lifecycleWedged := by
  induction observed generalizing statusWedged with
  | nil => exact absurd h (by simp)
  | cons p observed ih =>
    rw [watchdogLoop]
    by_cases hp : p.herdrPaneId ∈ subscribed
    · rw [if_neg (by simp [hp])]
      rw [List.exists_mem_cons_iff] at h
      exact ih (h.resolve_left fun hout => hout hp) _
    · rw [if_pos (by simp [hp])]

theorem watchdogLoop_subscribed {subscribed : List String}
    {lastStatus : AList fun _ : ℕ => AgentStatus} {observed : List ProbePane}
    (h : ∀ p ∈ observed, p.herdrPaneId ∈ subscribed) (statusWedged : Bool) :
    watchdogLoop subscribed lastStatus statusWedged observed =
      if statusWedged || observed.any (·.moved lastStatus) then .statusWedged else .healthy := by
  induction observed generalizing statusWedged with
  | nil => simp [watchdogLoop]
  | cons p observed ih =>
    obtain ⟨hp, hrest⟩ := List.forall_mem_cons.mp h
    rw [watchdogLoop, if_neg (by simp [hp]), ih hrest, List.any_cons, Bool.or_assoc]

/-! ### Probes -/

section
variable (fromStr : String → Option Value) (probeStrikes : ℕ)

/-- A probe is made, and the panes are listed. -/
def Tick.conclusive : Tick → Bool
  | .probe lifecycleIdle statusIdle (some _) => lifecycleIdle || statusIdle
  | _ => false

/-- Both connections have delivered since the last probe. -/
def Tick.skipped : Tick → Bool
  | .probe false false _ => true
  | _ => false

/-- In the state, a conclusive probe finds B idle and a status missed, and no other tick ends the
pump. -/
def Evident (s : Pumping) (tick : Tick) : Prop :=
  (∀ lifecycleIdle statusIdle observed, tick = .probe lifecycleIdle statusIdle (some observed) →
    tick.conclusive = true → statusIdle = true ∧ s.Missed observed) ∧
  (tick.conclusive = false → ∃ t, s.tick fromStr probeStrikes tick = .ok t)

/-- A probe speaks against a connection: against A if it is idle and a pane outside the subscription
is observed, against B if it is idle and all observed panes are subscribed. -/
def SpeaksAgainst (c : Connection) (s : Pumping) (tick : Tick) : Prop :=
  ∃ lifecycleIdle statusIdle observed, tick = .probe lifecycleIdle statusIdle (some observed) ∧
    match c with
    | .lifecycle => lifecycleIdle = true ∧ ∃ p ∈ observed, p.herdrPaneId ∉ s.subscribed
    | .status => statusIdle = true ∧ ∀ p ∈ observed, p.herdrPaneId ∈ s.subscribed

/-- A conclusive probe speaks against the connection, and no probe is skipped. -/
def Steady (c : Connection) (s : Pumping) (tick : Tick) : Prop :=
  tick.skipped = false ∧ (tick.conclusive = true → SpeaksAgainst c s tick)

/-- A round of the pump that does not end it. -/
def Goes (s : Pumping) (tick : Tick) (t : Pumping) : Prop := s.tick fromStr probeStrikes tick = .ok t

/-- From the first tick on all probes speak against one connection, until they and the verdicts that
came before are enough. -/
def Sustained (s : Pumping) (ticks : List Tick) : Prop :=
  ∃ c pre, pre <+: ticks ∧ Along (Goes fromStr probeStrikes) (fun _ => Steady c) s pre ∧
    0 < pre.countP Tick.conclusive ∧
    probeStrikes ≤ s.strikes.count c + pre.countP Tick.conclusive

/-- The pump has given a connection up. -/
def TornDown (s : Pumping) (ticks : List Tick) : Prop :=
  ∃ c, pump fromStr probeStrikes s ticks = .error (Pump.lost c)

variable {fromStr probeStrikes} {s t : Pumping} {tick : Tick} {ticks : List Tick} {c d : Connection}

theorem speaksAgainst_unique (h : SpeaksAgainst c s tick) (h' : SpeaksAgainst d s tick) :
    c = d := by
  obtain ⟨_, _, observed, rfl, hc⟩ := h
  obtain ⟨_, _, observed', he, hd⟩ := h'
  cases he
  rcases c with _ | _ <;> rcases d with _ | _
  · rfl
  · obtain ⟨p, hp, hout⟩ := hc.2
    exact absurd (hd.2 p hp) hout
  · obtain ⟨p, hp, hout⟩ := hd.2
    exact absurd (hc.2 p hp) hout
  · rfl

theorem conclusive_of_speaksAgainst (h : SpeaksAgainst c s tick) : tick.conclusive = true := by
  obtain ⟨lifecycleIdle, statusIdle, observed, rfl, hc⟩ := h
  rcases c with _ | _
  · simp [Tick.conclusive, hc.1]
  · simp [Tick.conclusive, hc.1]

theorem skipped_of_idle {lifecycleIdle statusIdle : Bool} {observed : Option (List ProbePane)}
    (h : (lifecycleIdle || statusIdle) = true) :
    Tick.skipped (.probe lifecycleIdle statusIdle observed) = false := by
  rcases lifecycleIdle with _ | _ <;> rcases statusIdle with _ | _
  · exact absurd h Bool.false_ne_true
  all_goals rfl

/-- A probe that is made. -/
theorem tick_probe {lifecycleIdle statusIdle : Bool} (h : (lifecycleIdle || statusIdle) = true) :
    s.tick fromStr probeStrikes (.probe lifecycleIdle statusIdle none) = .ok s ∧
      ∀ observed, s.tick fromStr probeStrikes (.probe lifecycleIdle statusIdle (some observed)) =
        s.probed probeStrikes lifecycleIdle statusIdle observed := by
  have hidle : (!lifecycleIdle && !statusIdle) = false := by
    rw [← Bool.not_or, h]
    rfl
  refine ⟨?_, fun observed => ?_⟩ <;> simp only [Pumping.tick, hidle, Bool.false_eq_true, if_false]

/-- A listing that shows a missed status, read while B is idle. -/
theorem probed_of_missed {lifecycleIdle : Bool} {observed : List ProbePane}
    (h : s.Missed observed) :
    (∃ c, SpeaksAgainst c s (.probe lifecycleIdle true (some observed)) ∧
      s.probed probeStrikes lifecycleIdle true observed = s.struck probeStrikes c) ∨
    ((∀ c, ¬ SpeaksAgainst c s (.probe lifecycleIdle true (some observed))) ∧
      s.probed probeStrikes lifecycleIdle true observed = .ok s.reset) := by
  unfold Pumping.probed watchdogVerdict
  by_cases hout : ∃ p ∈ observed, p.herdrPaneId ∉ s.subscribed
  · rw [watchdogLoop_unsubscribed hout]
    rcases hidle : lifecycleIdle with _ | _
    · refine Or.inr ⟨?_, rfl⟩
      rintro c ⟨_, _, _, he, hc⟩
      cases he
      rcases c with _ | _
      · exact absurd hc.1 Bool.false_ne_true
      · obtain ⟨p, hp, hnot⟩ := hout
        exact hnot (hc.2 p hp)
    · exact Or.inl ⟨.lifecycle, ⟨_, _, _, rfl, rfl, hout⟩, rfl⟩
  · have hin : ∀ p ∈ observed, p.herdrPaneId ∈ s.subscribed := by
      intro p hp
      by_contra hnot
      exact hout ⟨p, hp, hnot⟩
    have hmoved : observed.any (·.moved s.kernel.lastStatus) = true := by
      obtain ⟨p, hp, -, hmoved⟩ := h
      exact List.any_eq_true.mpr ⟨p, hp, hmoved⟩
    rw [watchdogLoop_subscribed hin, hmoved]
    exact Or.inl ⟨.status, ⟨_, _, _, rfl, rfl, hin⟩, rfl⟩

/-- **What an evident tick does**: a probe speaks against one connection; or the verdicts start anew;
or they are left alone. -/
theorem tick_cases (h : Evident fromStr probeStrikes s tick) :
    (∃ c, SpeaksAgainst c s tick ∧ s.tick fromStr probeStrikes tick = s.struck probeStrikes c) ∨
    ((∀ c, ¬ Steady c s tick) ∧ s.tick fromStr probeStrikes tick = .ok s.reset) ∨
    ((∀ c, Steady c s tick) ∧ tick.conclusive = false ∧
      ∃ t, s.tick fromStr probeStrikes tick = .ok t ∧ t.strikes = s.strikes) := by
  obtain ⟨hprobe, hgoes⟩ := h
  have hother : tick.conclusive = false → tick.skipped = false → ∀ c, Steady c s tick := by
    intro hc hs c
    exact ⟨hs, fun hc' => absurd (hc.symm.trans hc') Bool.false_ne_true⟩
  rcases tick with _ | line | line | ⟨lifecycleIdle, statusIdle, observed⟩
  · obtain ⟨t, ht⟩ := hgoes rfl
    cases ht
  · obtain ⟨t, ht⟩ := hgoes rfl
    refine Or.inr (Or.inr ⟨hother rfl rfl, rfl, t, ht, ?_⟩)
    rcases line with _ | line
    · cases ht
    · simp only [Pumping.tick] at ht
      split at ht
      · cases ht
        rfl
      · cases ht
  · obtain ⟨t, ht⟩ := hgoes rfl
    refine Or.inr (Or.inr ⟨hother rfl rfl, rfl, t, ht, ?_⟩)
    rcases line with _ | line
    · cases ht
    · cases ht
      rfl
  · by_cases hidle : (lifecycleIdle || statusIdle) = true
    · rcases observed with _ | observed
      · exact Or.inr (Or.inr ⟨hother rfl (skipped_of_idle hidle), rfl, s,
          (tick_probe hidle).1, rfl⟩)
      · obtain ⟨rfl, hmissed⟩ := hprobe _ _ _ rfl hidle
        rw [(tick_probe hidle).2]
        rcases probed_of_missed hmissed with ⟨c, hc, hstruck⟩ | ⟨hnone, hreset⟩
        · exact Or.inl ⟨c, hc, hstruck⟩
        · exact Or.inr (Or.inl ⟨fun c hc => hnone c (hc.2 hidle), hreset⟩)
    · rw [Bool.not_eq_true, Bool.or_eq_false_iff] at hidle
      obtain ⟨rfl, rfl⟩ := hidle
      exact Or.inr (Or.inl ⟨fun c hc => absurd hc.1.symm Bool.false_ne_true, rfl⟩)

theorem steady_of_speaksAgainst (h : SpeaksAgainst c s tick) : Steady c s tick := by
  refine ⟨?_, fun _ => h⟩
  obtain ⟨lifecycleIdle, statusIdle, observed, rfl, hc⟩ := h
  refine skipped_of_idle ?_
  rcases c with _ | _
  · rw [hc.1, Bool.true_or]
  · rw [hc.1, Bool.or_true]

/-! ### Verdicts in a row -/

theorem count_strike (strikes : Strikes) (c : Connection) :
    (strikes.strike c).count c = strikes.count c + 1 := by
  rcases c with _ | _ <;> rfl

theorem count_strike_ne (strikes : Strikes) (h : c ≠ d) : (strikes.strike d).count c = 0 := by
  rcases c with _ | _ <;> rcases d with _ | _
  · exact absurd rfl h
  · rfl
  · rfl
  · exact absurd rfl h

theorem count_default (c : Connection) : Strikes.default.count c = 0 := by
  rcases c with _ | _ <;> rfl

/-- Fewer probes than are needed do not sustain a verdict that has no strikes yet. -/
theorem count_pos_of_sustained {pre : List Tick} (hpre : pre <+: ticks)
    (hfew : ticks.countP Tick.conclusive < probeStrikes)
    (h : probeStrikes ≤ s.strikes.count c + pre.countP Tick.conclusive) :
    0 < s.strikes.count c := by
  have hle : pre.countP Tick.conclusive ≤ ticks.countP Tick.conclusive := hpre.sublist.countP_le
  omega

/-- What is sustained from a tick on is sustained by it, or from the next one on. -/
theorem sustained_cons :
    Sustained fromStr probeStrikes s (tick :: ticks) ↔
      ∃ c, Steady c s tick ∧ ∃ pre, pre <+: ticks ∧
        (∀ t, Goes fromStr probeStrikes s tick t →
          Along (Goes fromStr probeStrikes) (fun _ => Steady c) t pre) ∧
        0 < (tick :: pre).countP Tick.conclusive ∧
        probeStrikes ≤ s.strikes.count c + (tick :: pre).countP Tick.conclusive := by
  constructor
  · rintro ⟨c, pre, hpre, halong, hpos, hle⟩
    rcases pre with _ | ⟨a, pre⟩
    · exact absurd hpos (by simp)
    · obtain ⟨rfl, hrest⟩ := List.cons_prefix_cons.mp hpre
      obtain ⟨hsteady, halong⟩ := along_cons_iff.mp halong
      exact ⟨c, hsteady, pre, hrest, halong, hpos, hle⟩
  · rintro ⟨c, hsteady, pre, hpre, halong, hpos, hle⟩
    exact ⟨c, tick :: pre, List.cons_prefix_cons.mpr ⟨rfl, hpre⟩,
      along_cons_iff.mpr ⟨hsteady, halong⟩, hpos, hle⟩

theorem pump_ok (h : s.tick fromStr probeStrikes tick = .ok t) (ticks : List Tick) :
    pump fromStr probeStrikes s (tick :: ticks) = pump fromStr probeStrikes t ticks := by
  rw [pump, h]
  rfl

/-- One tick, if it is known what the rest does. -/
theorem torn_down_cons (h : Evident fromStr probeStrikes s tick)
    (hfew : ticks.countP Tick.conclusive < probeStrikes)
    (ih : ∀ t, Goes fromStr probeStrikes s tick t →
      (TornDown fromStr probeStrikes t ticks ↔ Sustained fromStr probeStrikes t ticks)) :
    TornDown fromStr probeStrikes s (tick :: ticks) ↔
      Sustained fromStr probeStrikes s (tick :: ticks) := by
  rw [sustained_cons]
  rcases tick_cases h with ⟨c, hspeaks, htick⟩ | ⟨hnot, htick⟩ | ⟨hsteady, hquiet, t, htick, hsame⟩
  · have hconclusive := conclusive_of_speaksAgainst hspeaks
    by_cases hlast : probeStrikes ≤ s.strikes.count c + 1
    · -- the last verdict that was needed
      have hlost : s.tick fromStr probeStrikes tick = .error (Pump.lost c) := by
        rw [htick, Pumping.struck, count_strike, if_pos hlast]
      refine iff_of_true ⟨c, ?_⟩ ⟨c, steady_of_speaksAgainst hspeaks, [], List.nil_prefix, ?_, ?_, ?_⟩
      · rw [pump, hlost]
        rfl
      · exact fun t _ => along_nil _ t
      · simp [hconclusive]
      · simpa [hconclusive] using hlast
    · have hgoes : s.tick fromStr probeStrikes tick =
          .ok { s with strikes := s.strikes.strike c } := by
        rw [htick, Pumping.struck, count_strike, if_neg hlast]
      have hnext := ih _ hgoes
      unfold TornDown at hnext ⊢
      rw [pump_ok hgoes, hnext]
      constructor
      · rintro ⟨d, pre, hpre, halong, hpos, hle⟩
        have hd : d = c := by
          by_contra hne
          have hsome := count_pos_of_sustained hpre hfew hle
          exact absurd (count_strike_ne s.strikes hne) hsome.ne'
        subst hd
        refine ⟨d, steady_of_speaksAgainst hspeaks, pre, hpre, fun t ht => ?_, ?_, ?_⟩
        · obtain rfl := Except.ok.inj (hgoes.symm.trans ht)
          exact halong
        · simp [hconclusive]
        · have hle : probeStrikes ≤ (s.strikes.strike d).count d + pre.countP Tick.conclusive := hle
          rw [count_strike] at hle
          rw [List.countP_cons_of_pos hconclusive]
          omega
      · rintro ⟨d, hsteady, pre, hpre, halong, hpos, hle⟩
        obtain rfl := speaksAgainst_unique hspeaks (hsteady.2 hconclusive)
        rw [List.countP_cons_of_pos hconclusive] at hle
        refine ⟨c, pre, hpre, halong _ hgoes, ?_, ?_⟩
        · omega
        · show probeStrikes ≤ (s.strikes.strike c).count c + _
          rw [count_strike]
          omega
  · have hnext := ih _ htick
    unfold TornDown at hnext ⊢
    rw [pump_ok htick, hnext]
    refine iff_of_false ?_ fun ⟨c, hsteady, _⟩ => hnot c hsteady
    rintro ⟨c, pre, hpre, -, -, hle⟩
    have hsome := count_pos_of_sustained hpre hfew hle
    exact absurd (count_default c) hsome.ne'
  · have hnext := ih _ htick
    unfold TornDown at hnext ⊢
    rw [pump_ok htick, hnext]
    have hcount : ∀ pre : List Tick,
        (tick :: pre).countP Tick.conclusive = pre.countP Tick.conclusive :=
      fun pre => List.countP_cons_of_neg (by simp [hquiet])
    constructor
    · rintro ⟨c, pre, hpre, halong, hpos, hle⟩
      refine ⟨c, hsteady c, pre, hpre, fun u hu => ?_, ?_, ?_⟩
      · obtain rfl := Except.ok.inj (htick.symm.trans hu)
        exact halong
      · rwa [hcount]
      · rwa [hcount, ← hsame]
    · rintro ⟨c, -, pre, hpre, halong, hpos, hle⟩
      rw [hcount] at hpos hle
      exact ⟨c, pre, hpre, halong t htick, hpos, by rwa [hsame]⟩

/-- While fewer probes are made than verdicts are needed. -/
theorem torn_down_of_few
    (h : Along (Goes fromStr probeStrikes) (fun _ => Evident fromStr probeStrikes) s ticks)
    (hfew : ticks.countP Tick.conclusive < probeStrikes) :
    TornDown fromStr probeStrikes s ticks ↔ Sustained fromStr probeStrikes s ticks := by
  induction ticks generalizing s with
  | nil =>
    refine iff_of_false ?_ ?_
    · rintro ⟨c, hc⟩
      cases hc
    · rintro ⟨c, pre, hpre, -, hpos, -⟩
      obtain rfl := List.prefix_nil.mp hpre
      exact absurd hpos (by simp)
  | cons tick ticks ih =>
    obtain ⟨hevident, halong⟩ := along_cons_iff.mp h
    have hle : ticks.countP Tick.conclusive ≤ (tick :: ticks).countP Tick.conclusive :=
      (List.sublist_cons_self tick ticks).countP_le
    have hfew : ticks.countP Tick.conclusive < probeStrikes := lt_of_le_of_lt hle hfew
    exact torn_down_cons hevident hfew fun t ht => ih (halong t ht) hfew

/-- **From the first of `probeStrikes` conclusive probes that find B idle and a status missed to the
last one, the pump gives a connection up exactly if enough verdicts in a row are against the same
connection.** -/
theorem torn_down_iff (hfirst : tick.conclusive = true)
    (hcount : (tick :: ticks).countP Tick.conclusive = probeStrikes)
    (h : Along (Goes fromStr probeStrikes) (fun _ => Evident fromStr probeStrikes) s
      (tick :: ticks)) :
    TornDown fromStr probeStrikes s (tick :: ticks) ↔
      Sustained fromStr probeStrikes s (tick :: ticks) := by
  have hfew : ticks.countP Tick.conclusive < probeStrikes := by
    rw [List.countP_cons_of_pos hfirst] at hcount
    omega
  obtain ⟨hevident, halong⟩ := along_cons_iff.mp h
  exact torn_down_cons hevident hfew fun t ht => torn_down_of_few (halong t ht) hfew

theorem evident_of_missed {lifecycleIdle : Bool} {observed : List ProbePane}
    (h : s.Missed observed) :
    Evident fromStr probeStrikes s (.probe lifecycleIdle true (some observed)) := by
  refine ⟨?_, fun hquiet => ?_⟩
  · rintro _ _ _ ⟨⟩ -
    exact ⟨rfl, h⟩
  · rcases lifecycleIdle with _ | _ <;> exact absurd hquiet.symm Bool.false_ne_true

end

/-! ### A status that was missed -/

/-- How often a verdict must repeat. -/
def livenessStrikes : ℕ := 2

/-- B is subscribed to one pane, last seen working. -/
def oneWorking : Pumping :=
  ⟨{ Kernel.init with lastStatus := AList.insert 1 .working ∅ }, ["w1:p1"], .default⟩

/-- The pane is blocked by now. -/
def blockedPane : ProbePane := ⟨"w1:p1", some 1, .blocked⟩

/-- A pane that B is not subscribed to. -/
def otherPane : ProbePane := ⟨"w1:p2", none, .idle⟩

theorem missed_oneWorking (observed : List ProbePane) :
    oneWorking.Missed (blockedPane :: observed) :=
  ⟨blockedPane, List.mem_cons_self, List.mem_cons_self, by decide⟩

/-- Both connections are idle, and nothing else is observed. -/
def idleProbe : Tick := .probe true true (some [blockedPane])

/-- A has just delivered, and a pane that B is not subscribed to is observed as well. -/
def maskedProbe : Tick := .probe false true (some [blockedPane, otherPane])

theorem torn_down_iff_idleProbe :
    (TornDown (fun _ => none) livenessStrikes oneWorking [idleProbe, idleProbe] ↔
        Sustained (fun _ => none) livenessStrikes oneWorking [idleProbe, idleProbe]) ∧
      TornDown (fun _ => none) livenessStrikes oneWorking [idleProbe, idleProbe] := by
  refine ⟨torn_down_iff rfl rfl ?_, .status, rfl⟩
  rw [along_cons_iff]
  refine ⟨evident_of_missed (missed_oneWorking []), fun t ht => ?_⟩
  obtain rfl := Except.ok.inj (Eq.trans (Eq.symm ht) rfl)
  rw [along_cons_iff]
  exact ⟨evident_of_missed (missed_oneWorking []), fun t _ => along_nil _ t⟩

/-- On both probes B is idle and the blocked pane was missed; B is kept all the same. -/
theorem masked_not_torn_down :
    Along (Goes (fun _ => none) livenessStrikes)
        (fun _ => Evident (fun _ => none) livenessStrikes) oneWorking [maskedProbe, maskedProbe] ∧
      [maskedProbe, maskedProbe].countP Tick.conclusive = livenessStrikes ∧
      ¬ TornDown (fun _ => none) livenessStrikes oneWorking [maskedProbe, maskedProbe] := by
  refine ⟨?_, rfl, ?_⟩
  · rw [along_cons_iff]
    refine ⟨evident_of_missed (missed_oneWorking [otherPane]), fun t ht => ?_⟩
    obtain rfl := Except.ok.inj (Eq.trans (Eq.symm ht) rfl)
    rw [along_cons_iff]
    exact ⟨evident_of_missed (missed_oneWorking [otherPane]), fun t _ => along_nil _ t⟩
  · rintro ⟨c, hc⟩
    cases hc

end MuxrCore.Herdr.Subscribe.Watchdog
