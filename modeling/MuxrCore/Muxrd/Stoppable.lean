import MuxrCore.Muxrd.Lifecycle

/-! # A live daemon can be stopped

A daemon is live until it begins to remove its own files. The pidfile is to name every live daemon;
a command that has looked at it knows by what it has read which daemons there are.

* `Apart`: no daemon is launched while another `start` or a `status` is between its look at the
  pidfile and its own removals; and when a `stop` removes the files, no daemon is live.
* `inv_step`: then the pidfile names every live daemon.
* `stoppable_of_apart`: so a daemon can be stopped while it serves or drains, and no command removes
  its files.
* `stop_orphans`: a `stop` removes the files of a daemon that was launched while it waited. -/

namespace MuxrCore.Muxrd.Stoppable

open MuxrCore.Lib.Runs MuxrCore.Lib.Tables MuxrCore.Muxrd.Lifecycle

/-- The daemon has not begun to remove its files. -/
def Live (d : Daemon) : Prop := d.phase ≠ .cleaning ∧ d.phase ≠ .exiting

/-- There is a live daemon with this pid. -/
def LiveAt (s : State) (p : ℕ) : Prop := ∃ d, s.daemons p = some d ∧ Live d

/-- A command has looked at the pidfile, and is yet to launch its daemon or to remove the files. -/
def Looking : Command → Prop
  | .startAlive _ _ _ | .startProbe _ | .startPidfile | .startSocket | .startLaunch _ => True
  | .statusAlive _ | .statusSocket | .statusPidfile => True
  | _ => False

/-- A stop that is about to remove a file. -/
def StopRemoves : Command → Prop
  | .stopSocket _ | .stopPidfile _ => True
  | _ => False

/-- The daemon that a stop has asked. -/
def asked : Command → Option ℕ
  | .stopSocket asked => asked
  | .stopPidfile asked => asked
  | _ => none

/-- No daemon is launched while another command is between its look at the pidfile and its launch or
its removals; and when a stop removes a file, no daemon is live. -/
def Apart (_ : List Act) (s : State) (a : Act) : Prop :=
  (∀ c p, a = .launch c p → ∀ j, j ≠ c → ¬ Looking (s.commands j)) ∧
  ∀ c, a = .removeSocket c ∨ a = .removePidfile c → StopRemoves (s.commands c) →
    ∀ p, ¬ LiveAt s p

/-- A daemon that serves or drains is reached by its socket or by the pidfile. -/
def Reached (s : State) : Prop :=
  ∀ p d, s.daemons p = some d → d.phase = .running →
    s.socket = some p ∧ d.listener = .accepting ∨ s.readPidfile = some p

/-- No file of a live daemon is removed by a command that has not asked that daemon to stop. -/
def Spares (_ : List Act) (s : State) (a : Act) : Prop :=
  (∀ c p, a = .removePidfile c → LiveAt s p → s.readPidfile = some p →
    asked (s.commands c) = some p) ∧
  (∀ c p, a = .removeSocket c → LiveAt s p → s.socket = some p →
    asked (s.commands c) = some p) ∧
  ∀ p q, a = .unlink q → p ≠ q → LiveAt s p → s.socket ≠ some p

/-- Nothing is running; a crashed daemon may have left files. -/
structure Initial (s : State) : Prop where
  daemons : ∀ p, s.daemons p = none
  commands : ∀ c, s.commands c = .idle

/-! ### The invariant -/

/-- What a command knows of the live daemons. -/
def Knows (s : State) : Command → Prop
  | .startAlive _ _ pid | .statusAlive pid => ∀ p, LiveAt s p → p = pid
  | .startProbe _ | .startPidfile | .startSocket | .startLaunch _ => ∀ p, ¬ LiveAt s p
  | .statusSocket | .statusPidfile => ∀ p, ¬ LiveAt s p
  | _ => True

/-- The pidfile names every live daemon, and the commands know of it. -/
structure Inv (s : State) : Prop where
  names : ∀ p, LiveAt s p → s.readPidfile = some p
  knows : ∀ c, Knows s (s.commands c)
  positive : ∀ p d, s.daemons p = some d → 0 < p

variable {s t : State} {c p : ℕ} {d : Daemon} {command : Command}

theorem Initial.inv (h : Initial s) : Inv s where
  names p hp := by
    obtain ⟨d, hd, -⟩ := hp
    rw [h.daemons p] at hd
    cases hd
  knows c := by
    rw [h.commands c]
    trivial
  positive p d hd := by
    rw [h.daemons p] at hd
    cases hd

theorem Inv.reached (h : Inv s) : Reached s := fun p d hd hrun =>
  Or.inr (h.names p ⟨d, hd, by simp [Live, hrun]⟩)

/-- There is one live daemon at most. -/
theorem Inv.unique (h : Inv s) {q : ℕ} (hp : LiveAt s p) (hq : LiveAt s q) : p = q :=
  Option.some.inj ((h.names p hp).symm.trans (h.names q hq))

/-- A command knows no less of fewer daemons. -/
theorem Knows.mono (h : Knows s command) (hlive : ∀ p, LiveAt t p → LiveAt s p) :
    Knows t command := by
  cases command with
  | startAlive foreground responsive pid => exact fun p hp => h p (hlive p hp)
  | statusAlive pid => exact fun p hp => h p (hlive p hp)
  | startProbe foreground => exact fun p hp => h p (hlive p hp)
  | startPidfile => exact fun p hp => h p (hlive p hp)
  | startSocket => exact fun p hp => h p (hlive p hp)
  | startLaunch foreground => exact fun p hp => h p (hlive p hp)
  | statusSocket => exact fun p hp => h p (hlive p hp)
  | statusPidfile => exact fun p hp => h p (hlive p hp)
  | _ => trivial

theorem knows_of_not_looking (h : ¬ Looking command) : Knows s command := by
  cases command <;> first | trivial | exact absurd trivial h

/-! ### What a step does to the invariant -/

theorem Inv.setCommand (h : Inv s) (hc : Knows s command) : Inv (s.setCommand c command) where
  names := h.names
  knows j := by
    show Knows s (Function.update s.commands c command j)
    rw [Function.update_apply]
    split_ifs
    · exact hc
    · exact h.knows j
  positive := h.positive

theorem Inv.setSocket (h : Inv s) (socket : Option ℕ) :
    Inv ⟨socket, s.pidfile, s.daemons, s.commands⟩ :=
  ⟨h.names, h.knows, h.positive⟩

/-- The pidfile goes when no daemon is live. -/
theorem Inv.removePidfile (h : Inv s) (hnone : ∀ p, ¬ LiveAt s p) :
    Inv { s with pidfile := none } :=
  ⟨fun p hp => absurd hp (hnone p), h.knows, h.positive⟩

/-- A daemon takes a step, or ends. -/
theorem Inv.setDaemon (h : Inv s) (hd : s.daemons p = some d) {new : Option Daemon}
    (hnew : ∀ d', new = some d' → Live d' → Live d) : Inv (s.setDaemon p new) := by
  have hlive : ∀ q, LiveAt (s.setDaemon p new) q → LiveAt s q := by
    rintro q ⟨d', hd', hl⟩
    rcases update_eq_some.mp hd' with ⟨rfl, hn⟩ | ⟨-, hd'⟩
    · exact ⟨d, hd, hnew d' hn hl⟩
    · exact ⟨d', hd', hl⟩
  refine ⟨fun q hq => h.names q (hlive q hq), fun j => (h.knows j).mono hlive, fun q d' hd' => ?_⟩
  rcases update_eq_some.mp hd' with ⟨rfl, -⟩ | ⟨-, hd'⟩
  · exact h.positive q d hd
  · exact h.positive q d' hd'

theorem Inv.die (h : Inv s) (p : ℕ) : Inv (s.setDaemon p none) := by
  rcases hd : s.daemons p with _ | d
  · have hsame : s.setDaemon p none = s := by
      rw [State.setDaemon, ← hd, Function.update_eq_self]
    rw [hsame]
    exact h
  · exact h.setDaemon hd fun d' hd' => by cases hd'

theorem Inv.shutdown (h : Inv s) : Inv s.shutdown := by
  unfold State.shutdown
  rcases s.answering with _ | p
  · exact h
  · dsimp only
    rcases hd : s.daemons p with _ | d
    · exact h.die p
    · refine h.setDaemon hd fun d' hd' hl => ?_
      cases hd'
      exact hl

/-- A daemon is launched when there is no live one, and no other command is looking. -/
theorem Inv.launch (h : Inv s) {foreground : Bool} (hc : s.commands c = .startLaunch foreground)
    (hp : 0 < p) (hothers : ∀ j, j ≠ c → ¬ Looking (s.commands j)) :
    Inv (((s.writePidfile foreground p).setDaemon p (some (.new foreground))).setCommand c
      .ended) := by
  have hnone : ∀ q, ¬ LiveAt s q := by
    have := h.knows c
    rwa [hc] at this
  refine ⟨?_, fun j => ?_, fun q d' hd' => ?_⟩
  · rintro q ⟨d', hd', hl⟩
    rcases update_eq_some.mp hd' with ⟨rfl, -⟩ | ⟨-, hd'⟩
    · rfl
    · exact absurd ⟨d', hd', hl⟩ (hnone q)
  · refine knows_of_not_looking ?_
    show ¬ Looking (Function.update s.commands c .ended j)
    rw [Function.update_apply]
    split_ifs with hj
    · exact id
    · exact hothers j hj
  · rcases update_eq_some.mp hd' with ⟨rfl, -⟩ | ⟨-, hd'⟩
    · exact hp
    · exact h.positive q d' hd'

/-- A daemon removes the pidfile: it was the live one, and no longer is. -/
theorem Inv.forget (h : Inv s) (hd : s.daemons p = some d) (hphase : d.phase = .leaving) :
    Inv ({ s with pidfile := none }.setDaemon p (some { d with phase := .cleaning })) := by
  have hlive : LiveAt s p := ⟨d, hd, by simp [Live, hphase]⟩
  have hset : Inv (s.setDaemon p (some { d with phase := .cleaning })) :=
    h.setDaemon hd fun d' _ _ => by simp [Live, hphase]
  refine hset.removePidfile ?_
  rintro q ⟨d', hd', hl⟩
  rcases update_eq_some.mp hd' with ⟨-, hd'⟩ | ⟨hq, hd'⟩
  · cases hd'
    exact hl.1 rfl
  · exact hq (h.unique ⟨d', hd', hl⟩ hlive)

theorem knows_decision (foreground : Bool) {decision : StartDecision}
    (h : decision = .stale → ∀ p, ¬ LiveAt s p) : Knows s (decision.next foreground) := by
  cases decision with
  | stale => exact h rfl
  | refuseSocketResponsive => trivial
  | refuseLiveDaemon pid => trivial

/-- A start whose pidfile names no pid, or a dead one, knows that no daemon is live. -/
theorem stale_iff {responsive pidAlive : Bool} {pid : Option ℕ} :
    startStalenessDecision responsive pid pidAlive = .stale ↔
      responsive = false ∧ (pid = none ∨ pidAlive = false) := by
  unfold startStalenessDecision
  cases responsive <;> cases pid <;> cases pidAlive <;> simp

/-- A pid that is not alive is that of no daemon. -/
theorem Inv.dead (h : Inv s) {pid : ℕ} {other : Bool} (hdead : s.pidIsAlive pid other = false)
    (hpid : ∀ p, LiveAt s p → p = pid) (p : ℕ) : ¬ LiveAt s p := by
  rintro hp
  obtain rfl := hpid p hp
  obtain ⟨d, hd, -⟩ := hp
  simp [State.pidIsAlive, hd, h.positive p d hd] at hdead

/-- A pidfile without a pid names no daemon. -/
theorem Inv.unnamed (h : Inv s) (hread : s.readPidfile = none) (p : ℕ) : ¬ LiveAt s p := by
  intro hp
  rw [h.names p hp] at hread
  cases hread

/-- A pidfile with a pid names the live daemon. -/
theorem Inv.named (h : Inv s) {pid : ℕ} (hread : s.readPidfile = some pid) (p : ℕ)
    (hp : LiveAt s p) : p = pid :=
  Option.some.inj ((h.names p hp).symm.trans hread)

/-- What a command that looks at the pidfile knows. -/
theorem Inv.read (h : Inv s) (ha : s.step (.read c) = some t) : Inv t := by
  unfold State.step at ha
  dsimp only at ha
  rcases hr : s.readPidfile with _ | pid <;> rcases hc : s.commands c <;>
    simp only [hc, hr, reduceCtorEq, Option.some.injEq] at ha <;> subst ha
  · exact h.setCommand (knows_decision _ fun _ => h.unnamed hr)
  · exact h.setCommand trivial
  · exact h.setCommand (h.unnamed hr)
  · exact h.setCommand (h.named hr)
  · exact h.setCommand trivial
  · exact h.setCommand (h.named hr)

/-- What a command that looks for the process knows. -/
theorem Inv.alive (h : Inv s) {other : Bool} (ha : s.step (.alive c other) = some t) : Inv t := by
  have hk := h.knows c
  unfold State.step at ha
  dsimp only at ha
  rcases hc : s.commands c <;> simp only [hc, reduceCtorEq, Option.some.injEq] at ha <;>
    subst ha <;> rw [hc] at hk
  · refine h.setCommand (knows_decision _ fun hs => ?_)
    obtain ⟨-, hnone | hdead⟩ := stale_iff.mp hs
    · cases hnone
    · exact h.dead hdead hk
  · refine h.setCommand ?_
    split_ifs with halive
    · trivial
    · exact h.dead (by simpa using halive) hk

/-- No daemon is live when a command removes a file. -/
theorem Inv.none_live {pre : List Act} {a : Act} (h : Inv s) (hapart : Apart pre s a)
    (ha : s.step a = some t) (hrem : a = .removeSocket c ∨ a = .removePidfile c) (p : ℕ) :
    ¬ LiveAt s p := by
  have hk := h.knows c
  have hstop := hapart.2 c hrem
  rcases hrem with rfl | rfl <;> unfold State.step at ha <;> dsimp only at ha <;>
    rcases hc : s.commands c <;> simp only [hc, reduceCtorEq] at ha <;> rw [hc] at hk hstop
  -- a stop is kept apart, and the other commands know
  case inl.stopSocket asked => exact hstop trivial p
  case inr.stopPidfile asked => exact hstop trivial p
  all_goals exact hk p

/-! ### One step -/

/-- **The pidfile names every live daemon**, and every command knows of it. -/
theorem inv_step {pre : List Act} {a : Act} (h : Inv s) (hapart : Apart pre s a)
    (ha : s.step a = some t) : Inv t := by
  cases a with
  | read c => exact h.read ha
  | alive c other => exact h.alive ha
  | start c foreground reply =>
    unfold State.step at ha
    dsimp only at ha
    split_ifs at ha
    cases ha
    exact h.setCommand trivial
  | stop c reply =>
    unfold State.step at ha
    dsimp only at ha
    split_ifs at ha
    cases reply <;> cases ha
    · exact h.shutdown.setCommand trivial
    · exact h.shutdown.setCommand trivial
    · exact h.setCommand trivial
  | status c reply =>
    unfold State.step at ha
    dsimp only at ha
    split_ifs at ha
    · cases ha
      exact h.setCommand trivial
    · cases ha
      exact h.setCommand trivial
  | kill c killed =>
    unfold State.step at ha
    dsimp only at ha
    rcases hc : s.commands c <;> cases killed <;> simp only [hc, reduceCtorEq] at ha
    · cases ha
      exact h.setCommand trivial
    · split_ifs at ha
      cases ha
      exact h.setCommand trivial
    · cases ha
      exact h.setCommand trivial
  | probe c free =>
    have hk := h.knows c
    unfold State.step at ha
    dsimp only at ha
    rcases hc : s.commands c <;> simp only [hc, reduceCtorEq] at ha
    cases ha
    rw [hc] at hk
    refine h.setCommand ?_
    split_ifs
    · trivial
    · exact hk
    · exact hk
  | removePidfile c =>
    have hnone := h.none_live hapart ha (Or.inr rfl)
    unfold State.step at ha
    dsimp only at ha
    rcases hc : s.commands c <;> simp only [hc, reduceCtorEq] at ha <;> cases ha
    · exact (h.removePidfile hnone).setCommand hnone
    · exact (h.removePidfile hnone).setCommand trivial
    · exact (h.removePidfile hnone).setCommand trivial
  | removeSocket c =>
    have hnone := h.none_live hapart ha (Or.inl rfl)
    unfold State.step at ha
    dsimp only at ha
    rcases hc : s.commands c <;> simp only [hc, reduceCtorEq] at ha <;> cases ha
    · exact (h.setSocket none).setCommand hnone
    · exact (h.setSocket none).setCommand trivial
    · exact (h.setSocket none).setCommand hnone
  | launch c p =>
    unfold State.step at ha
    dsimp only at ha
    rcases hc : s.commands c <;> simp only [hc, reduceCtorEq] at ha
    split_ifs at ha with hp hlocked
    · cases ha
      exact h.setCommand trivial
    · cases ha
      exact h.launch hc (by omega) (hapart.1 c p rfl)
  | abort c =>
    cases ha
    exact h.setCommand trivial
  | unlink p =>
    obtain ⟨d, hd, ha⟩ := Option.bind_eq_some_iff.mp ha
    split_ifs at ha with hphase
    cases ha
    exact (h.setSocket none).setDaemon hd fun d' _ _ => by simp [Live, hphase]
  | bind p =>
    obtain ⟨d, hd, ha⟩ := Option.bind_eq_some_iff.mp ha
    split_ifs at ha with hphase
    · cases ha
      exact (h.setSocket (some p)).setDaemon hd fun d' _ _ => by simp [Live, hphase]
    · cases ha
      exact h.setDaemon hd fun d' _ _ => by simp [Live, hphase]
  | fail p =>
    obtain ⟨d, hd, ha⟩ := Option.bind_eq_some_iff.mp ha
    split_ifs at ha with hphase
    cases ha
    refine h.setDaemon hd fun d' _ _ => ?_
    rcases hphase with hphase | hphase <;> simp [Live, hphase]
  | serveReturn p =>
    obtain ⟨d, hd, ha⟩ := Option.bind_eq_some_iff.mp ha
    split_ifs at ha with hphase
    cases ha
    exact h.setDaemon hd fun d' _ _ => by simp [Live, hphase]
  | forget p =>
    obtain ⟨d, hd, ha⟩ := Option.bind_eq_some_iff.mp ha
    split_ifs at ha with hphase
    cases ha
    exact h.forget hd hphase
  | cleanup p =>
    obtain ⟨d, hd, ha⟩ := Option.bind_eq_some_iff.mp ha
    split_ifs at ha with hphase
    cases ha
    refine (h.setSocket none).setDaemon hd fun d' hd' hl => ?_
    cases hd'
    exact absurd rfl hl.2
  | exit p =>
    obtain ⟨d, hd, ha⟩ := Option.bind_eq_some_iff.mp ha
    split_ifs at ha with hphase
    cases ha
    exact h.die p
  | die p =>
    cases ha
    exact h.die p
  | drop p unlinks =>
    obtain ⟨d, hd, ha⟩ := Option.bind_eq_some_iff.mp ha
    have hnew : ∀ d', some { d with listener := .none } = some d' → Live d' → Live d := by
      rintro d' ⟨⟩ hl
      exact hl
    split_ifs at ha
    · cases ha
      exact (h.setSocket none).setDaemon hd hnew
    · cases ha
      exact h.setDaemon hd hnew

/-- No file of a live daemon is removed by another command. -/
theorem Inv.spares {pre : List Act} {a : Act} (h : Inv s) (hapart : Apart pre s a)
    (ha : s.step a = some t) : Spares pre s a := by
  refine ⟨?_, ?_, ?_⟩
  · rintro c p hrem hp -
    exact absurd hp (h.none_live hapart ha (Or.inr hrem) p)
  · rintro c p hrem hp -
    exact absurd hp (h.none_live hapart ha (Or.inl hrem) p)
  · rintro p q rfl hpq hp -
    obtain ⟨d, hd, ha⟩ := Option.bind_eq_some_iff.mp ha
    split_ifs at ha with hphase
    exact hpq (h.unique hp ⟨d, hd, by simp [Live, hphase]⟩)

/-- **A live daemon can be stopped**, and no command that has not asked it to stop removes its
files, in a run in which the launches and the removals are kept apart. -/
theorem stoppable_of_apart {as : List Act} (hs : Initial s) (hr : Run (ofFn State.step) s as t)
    (hc : Along (ofFn State.step) Apart s as) :
    Reached t ∧ ∀ pre a post u v, as = pre ++ a :: post → Run (ofFn State.step) s pre u →
      u.step a = some v → Spares pre u a := by
  have hinv : ∀ bs v, Run (ofFn State.step) s bs v → Along (ofFn State.step) Apart s bs → Inv v :=
    fun bs v hv hC => hv.invariant_along (C := Apart)
      (fun pre s a t hi hC ha => inv_step hi hC ha) hs.inv hC
  refine ⟨(hinv as t hr hc).reached, ?_⟩
  rintro pre a post u v rfl hu ha
  exact (hinv pre u hu hc.left).spares (hc pre a post u rfl hu) ha

/-! ### Runs -/

/-- Nothing is there. -/
def nothing : State := ⟨none, none, fun _ => none, fun _ => .idle⟩

theorem initial_nothing : Initial nothing := ⟨fun _ => rfl, fun _ => rfl⟩

/-- A command starts a daemon in the foreground, up to its socket. -/
def starting (c p : ℕ) : List Act :=
  [.start c true .unreachable, .read c, .probe c true, .launch c p, .unlink p, .bind p]

/-- The daemon is asked to stop, and cleans up; while the stop waits, another one is started. -/
def startedWhileWaiting : List Act :=
  starting 0 7 ++
    [Act.stop 1 .answered, .serveReturn 7, .forget 7, .cleanup 7, .exit 7] ++
    starting 2 8 ++ [Act.removeSocket 1, .removePidfile 1]

/-- **A live daemon is orphaned**: the stop removes both files of the daemon that was started while
it waited. -/
theorem stop_orphans :
    ¬ ∀ (s t : State) (as : List Act), Initial s → Run (ofFn State.step) s as t →
      Reached t ∧ ∀ pre a post u v, as = pre ++ a :: post → Run (ofFn State.step) s pre u →
        u.step a = some v → Spares pre u a := by
  intro h
  have hrun : Run (ofFn State.step) nothing startedWhileWaiting _ :=
    .cons rfl <| .cons rfl <| .cons rfl <| .cons rfl <| .cons rfl <| .cons rfl <| .cons rfl <|
    .cons rfl <| .cons rfl <| .cons rfl <| .cons rfl <| .cons rfl <| .cons rfl <| .cons rfl <|
    .cons rfl <| .cons rfl <| .cons rfl <| .cons rfl <| .cons rfl <| .nil _
  have hreached := (h nothing _ _ initial_nothing hrun).1 8 ⟨true, .running, .accepting⟩ rfl rfl
  rcases hreached with ⟨hsocket, -⟩ | hpid
  · cases hsocket
  · cases hpid

/-- One daemon is started by itself, and can be stopped. -/
theorem stoppable_of_apart_start :
    ∃ t, Run (ofFn State.step) nothing (starting 0 7) t ∧ Reached t := by
  obtain ⟨t, hrun⟩ : ∃ t, Run (ofFn State.step) nothing (starting 0 7) t :=
    ⟨_, .cons rfl <| .cons rfl <| .cons rfl <| .cons rfl <| .cons rfl <| .cons rfl <| .nil _⟩
  refine ⟨t, hrun, (stoppable_of_apart initial_nothing hrun ?_).1⟩
  rintro pre a post u he hu
  refine ⟨?_, ?_⟩
  · rintro c p rfl j hj
    rcases pre with _ | ⟨a₁, _ | ⟨a₂, _ | ⟨a₃, _ | ⟨a₄, pre⟩⟩⟩⟩
    · cases he
    · cases he
    · cases he
    · cases he
      obtain rfl := hu.unique (.cons rfl <| .cons rfl <| .cons rfl <| .nil _)
      simp [State.setCommand, nothing, hj, Looking]
    · have hmem : Act.launch c p ∈ (starting 0 7).drop 4 := by simp [he]
      simp [starting] at hmem
  · rintro c ha -
    have hmem : a ∈ starting 0 7 := by simp [he]
    rcases ha with rfl | rfl <;> simp [starting] at hmem

end MuxrCore.Muxrd.Stoppable
