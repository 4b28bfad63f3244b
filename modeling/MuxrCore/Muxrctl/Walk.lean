import Mathlib.Data.List.Perm.Basic
import MuxrCore.Muxrctl.Moves

/-! # The walk through the wizard

A visit to a step dispatches one task at most, and the wizard waits for it. The results do not say
whose they are: the invariant holds as long as the waiting wizard is given none that it takes for that
of its own task and that is not.

* `inv_step`: the wizard waits while a task of its visit is in flight, and there is one at most.
* `walks`: each step is left by the success of its own task or because its work is done already, this
  success is never lost, and one token at most is created on the way from the first step. -/

namespace MuxrCore.Muxrctl.Walk

open MuxrCore.Lib.Runs
open MuxrCore.Pairing.Qr (AdvertiseTrust)

/-- The step has work to do. -/
def hasWork : WizardStep → Bool
  | .welcome | .pair => false
  | _ => true

/-- The result is a success of the action. -/
def success : UpdateAction → Message → Bool
  | .saveBind _, .actionOk _ => true
  | .ensureCert _, .certEnsured .. => true
  | .createToken .., .tokenCreated .. => true
  | .startServer, .statusLoaded info => info.isSome
  | _, _ => false

/-! ### The tasks of a visit -/

/-- The waiting step takes the message for the result of its action. A status that finds the daemon
up is one that any task may bring. -/
def takes (step : WizardStep) (msg : Message) : Bool :=
  isFailure msg || (step ≠ .start && succeeds step msg)

/-- A result that the waiting wizard takes for that of its action comes from it. -/
def recognised (p : Panel) : Event → Bool
  | .input _ => true
  | .result index msg =>
    !(Wizard.isOpen p.app && p.app.wizard.busy && takes p.app.wizard.step msg) ||
      p.tasks[index]?.all p.isOwn

/-- The step with the token has been left, or its action is in flight. -/
def PastToken (s : AppState) : Prop :=
  3 < s.wizard.step.index ∨ (s.wizard.step = .token ∧ s.wizard.busy = true)

/-- The open wizard waits while the task of its step is in flight, and there is one at most. -/
structure Inv (p : Panel) : Prop where
  visits : ∀ task ∈ p.tasks, task.visit ≤ p.visit
  own : Wizard.isOpen p.app = true → ∀ task ∈ p.tasks, p.isOwn task = true →
    p.app.wizard.busy = true ∧ serves p.app.wizard.step task.action = true
  single : Wizard.isOpen p.app = true → p.tasks.countP p.isOwn ≤ 1
  asked : ∀ n, p.asked = some n → n ≤ 1 ∧ (n = 1 → PastToken p.app)

variable {p q : Panel} {tasks : List Task} {msg : Message} {failed : ℕ}

theorem isOwn_of_recognised {index : ℕ} {task : Task}
    (h : recognised p (.result index msg) = true) (htask : p.tasks[index]? = some task)
    (ho : Wizard.isOpen p.app = true) (hb : p.app.wizard.busy = true)
    (ht : takes p.app.wizard.step msg = true) : p.isOwn task = true := by
  unfold recognised at h
  dsimp only at h
  rw [ho, hb, ht, htask] at h
  exact h

theorem visit_reduce_le : p.visit ≤ (p.reduce tasks msg failed).visit := by
  unfold Panel.reduce
  dsimp only
  split_ifs
  · exact le_rfl
  · exact Nat.le_succ _

theorem mem_reduce {task : Task} :
    task ∈ (p.reduce tasks msg failed).tasks ↔
      task ∈ tasks ∨ ∃ a ∈ (update p.app msg).2.filter UpdateAction.isTask,
        ⟨a, some msg, p.visit⟩ = task := by
  unfold Panel.reduce
  rw [List.mem_append, List.mem_map]

theorem visits_reduce (h : ∀ task ∈ p.tasks, task.visit ≤ p.visit) (hsub : tasks.Sublist p.tasks) :
    ∀ task ∈ (p.reduce tasks msg failed).tasks, task.visit ≤ p.visit := by
  intro task htask
  rcases mem_reduce.mp htask with hold | ⟨a, -, rfl⟩
  · exact h task (hsub.subset hold)
  · exact le_rfl

/-- The visit goes on, or no task belongs to the new one. -/
theorem visit_cases (h : ∀ task ∈ p.tasks, task.visit ≤ p.visit) (hsub : tasks.Sublist p.tasks) :
    ((p.reduce tasks msg failed).visit = p.visit ∧
      (update p.app msg).1.wizard.step = p.app.wizard.step ∧
      Wizard.isOpen (update p.app msg).1 = Wizard.isOpen p.app) ∨
    ∀ task ∈ (p.reduce tasks msg failed).tasks,
      (p.reduce tasks msg failed).isOwn task = false := by
  by_cases hsame : (update p.app msg).1.wizard.step = p.app.wizard.step &&
    Wizard.isOpen (update p.app msg).1 = Wizard.isOpen p.app
  · left
    refine ⟨if_pos hsame, ?_⟩
    simpa using hsame
  · right
    intro task htask
    have hle := @visits_reduce p tasks msg failed h hsub task htask
    have hnew : (p.reduce tasks msg failed).visit = p.visit + 1 := if_neg hsame
    unfold Panel.isOwn
    rw [hnew, decide_eq_false (by omega : task.visit ≠ p.visit + 1), Bool.and_false]

theorem isOwn_of_visit (h : q.visit = p.visit) (task : Task) : q.isOwn task = p.isOwn task := by
  unfold Panel.isOwn
  rw [h]

/-- A task of the wizard's step is one that it was asked for. -/
theorem origin_of_isOwn {task : Task} (h : p.isOwn task = true) : task.origin = some wizardNext := by
  unfold Panel.isOwn at h
  simpa using (Bool.and_eq_true_iff.mp h).1

theorem next_ne {step : WizardStep} (h : step ≠ .pair) : step.next ≠ step := by
  cases step <;> first | decide | exact absurd rfl h

theorem ne_pair_of_workDone {step : WizardStep} (h : workDone s step = true) : step ≠ .pair := by
  rintro rfl
  cases h

theorem ne_pair_of_succeeds {step : WizardStep} (h : succeeds step msg = true) :
    step ≠ .pair := by
  rintro rfl
  cases msg <;> cases h

/-- A message that the wizard is not asked to go on by adds no task of its step. -/
theorem countP_reduce_of_ne (h : msg ≠ wizardNext) :
    (p.reduce tasks msg failed).tasks.countP p.isOwn = tasks.countP p.isOwn := by
  unfold Panel.reduce
  dsimp only
  rw [List.countP_append, Nat.add_eq_left, List.countP_eq_zero]
  intro task htask hown
  obtain ⟨a, -, rfl⟩ := List.mem_map.mp htask
  exact h (Option.some.inj (origin_of_isOwn hown))

/-- What a failure must be of, for the rest to be as the wizard takes it to be. -/
structure FailsOwn (p : Panel) (tasks : List Task) (msg : Message) (failed : ℕ) : Prop where
  none_left : isFailure msg = true → Wizard.isOpen p.app = true → p.app.wizard.busy = true →
    tasks.countP p.isOwn = 0
  counted : isFailure msg = true → Wizard.isOpen p.app = true → p.app.wizard.busy = true →
    p.app.wizard.step = .token → failed = 1

/-- The tasks of a visit that goes on. -/
theorem own_reduce (hp : Inv p) (hsub : tasks.Sublist p.tasks)
    (hfail : FailsOwn p tasks msg failed)
    (hstep : (update p.app msg).1.wizard.step = p.app.wizard.step)
    (hsame : Wizard.isOpen (update p.app msg).1 = Wizard.isOpen p.app)
    (ho : Wizard.isOpen (update p.app msg).1 = true) :
    (∀ task ∈ (p.reduce tasks msg failed).tasks, p.isOwn task = true →
      (update p.app msg).1.wizard.busy = true ∧
        serves (update p.app msg).1.wizard.step task.action = true) ∧
    (p.reduce tasks msg failed).tasks.countP p.isOwn ≤ 1 := by
  have hopen : Wizard.isOpen p.app = true := hsame ▸ ho
  have hle : tasks.countP p.isOwn ≤ 1 := hsub.countP_le.trans (hp.single hopen)
  -- the tasks that were in flight before
  have hold : ∀ task ∈ tasks, p.isOwn task = true →
      p.app.wizard.busy = true ∧ serves p.app.wizard.step task.action = true :=
    fun task htask => hp.own hopen task (hsub.subset htask)
  have hquiet : msg ≠ wizardNext → ∀ task ∈ (p.reduce tasks msg failed).tasks,
      p.isOwn task = true → task ∈ tasks := by
    intro hmsg task htask hown
    rcases mem_reduce.mp htask with hmem | ⟨a, -, rfl⟩
    · exact hmem
    · exact absurd (Option.some.inj (origin_of_isOwn hown)) hmsg
  cases moves p.app msg with
  | stay _ hbusy hidle =>
    rw [hbusy, hstep]
    by_cases hmsg : msg = wizardNext
    · have htasks : (p.reduce tasks msg failed).tasks = tasks := by
        unfold Panel.reduce
        dsimp only
        rw [hidle hmsg]
        exact List.append_nil _
      rw [htasks]
      exact ⟨hold, hle⟩
    · refine ⟨fun task htask hown => hold task (hquiet hmsg task htask hown) hown, ?_⟩
      rw [countP_reduce_of_ne hmsg]
      exact hle
  | work action hmsg hready _ hbusy hdo hserves =>
    -- the wizard was not waiting, so that no task of its step was in flight
    have hnone : ∀ task ∈ tasks, ¬ p.isOwn task = true := by
      intro task htask hown
      have := (hold task htask hown).1
      rw [hready] at this
      cases this
    rw [hbusy, hstep]
    refine ⟨fun task htask hown => ⟨rfl, ?_⟩, ?_⟩
    · rcases mem_reduce.mp htask with hmem | ⟨a, ha, rfl⟩
      · exact absurd hown (hnone task hmem)
      · rw [hdo] at ha
        obtain rfl := List.mem_singleton.mp (List.mem_filter.mp ha).1
        exact hserves
    · unfold Panel.reduce
      dsimp only
      rw [List.countP_append, List.countP_eq_zero.mpr hnone, hdo, Nat.zero_add]
      refine List.countP_le_length.trans ?_
      rw [List.length_map]
      exact List.length_filter_le _ [action]
  | found _ _ hdone hnext =>
    exact absurd (hnext.symm.trans hstep) (next_ne (ne_pair_of_workDone hdone))
  | done _ _ hsucc hnext =>
    exact absurd (hnext.symm.trans hstep) (next_ne (ne_pair_of_succeeds hsucc))
  | failed hmsg hwait =>
    have hne : msg ≠ wizardNext := by rintro rfl; cases hmsg
    have hzero := hfail.none_left hmsg hopen hwait
    refine ⟨fun task htask hown => ?_, ?_⟩
    · exact absurd hown (List.countP_eq_zero.mp hzero task (hquiet hne task htask hown))
    · rw [countP_reduce_of_ne hne, hzero]
      exact Nat.zero_le 1
  | back _ hlt => exact absurd hlt (by rw [hstep]; exact Nat.lt_irrefl _)
  | shut _ _ _ hshut => rw [hshut] at ho; cases ho
  | auto _ hshut => rw [hshut] at hopen; cases hopen

/-- What has been asked for after a message, on the way through the open wizard. -/
theorem askedAfter_cases {before after : AppState} {asked : Option ℕ} {minted failed n : ℕ}
    (h : askedAfter before after asked minted failed = some n) :
    Wizard.isOpen after = true ∧
      ((Wizard.isOpen before = false ∧ n = 0) ∨
        (Wizard.isOpen before = true ∧ before.wizard.step.index ≤ after.wizard.step.index ∧
          ∃ m, asked = some m ∧ n = m + minted - failed)) := by
  unfold askedAfter at h
  by_cases ho : Wizard.isOpen after = true
  · refine ⟨ho, ?_⟩
    rw [ho] at h
    by_cases hb : Wizard.isOpen before = true
    · rw [hb] at h
      by_cases hlt : after.wizard.step.index < before.wizard.step.index
      · simp [hlt] at h
      · refine .inr ⟨hb, by omega, ?_⟩
        simp only [hlt, Bool.not_true, Bool.false_eq_true, if_false] at h
        obtain ⟨m, hm, rfl⟩ := Option.map_eq_some_iff.mp h
        exact ⟨m, hm, rfl⟩
    · have hb : Wizard.isOpen before = false := by simpa using hb
      rw [hb] at h
      refine .inl ⟨hb, ?_⟩
      simp only [Bool.not_true, Bool.not_false, Bool.false_eq_true, if_false, if_true] at h
      split_ifs at h
      exact (Option.some.inj h).symm
  · simp [ho] at h

/-- The tokens asked for. -/
theorem asked_reduce (hp : Inv p) (hfail : FailsOwn p tasks msg failed) {n : ℕ}
    (h : (p.reduce tasks msg failed).asked = some n) :
    n ≤ 1 ∧ (n = 1 → PastToken (update p.app msg).1) := by
  obtain ⟨ho, ⟨-, rfl⟩ | ⟨hopen, hle, m, hm, rfl⟩⟩ := askedAfter_cases h
  · exact ⟨Nat.zero_le 1, fun h => absurd h (by decide)⟩
  obtain ⟨hm1, hpast⟩ := hp.asked m hm
  have hmint : msg ≠ wizardNext → (if msg = wizardNext then
      (update p.app msg).2.countP UpdateAction.isCreateToken else 0) = 0 := fun h => if_neg h
  have hlater : 3 < p.app.wizard.step.index → PastToken (update p.app msg).1 :=
    fun h => .inl (h.trans_le hle)
  cases moves p.app msg with
  | stay hstep hbusy hidle =>
    have hzero : (if msg = wizardNext then
        (update p.app msg).2.countP UpdateAction.isCreateToken else 0) = 0 := by
      split_ifs with hmsg
      · rw [hidle hmsg]; rfl
      · rfl
    rw [hzero]
    refine ⟨by omega, fun hn => ?_⟩
    obtain hlt | ⟨htoken, hwait⟩ := hpast (by omega)
    · exact hlater hlt
    · exact .inr ⟨hstep.trans htoken, hbusy.trans hwait⟩
  | work action hmsg hready hstep hbusy hdo hserves =>
    have hone : m = 1 → 3 < p.app.wizard.step.index := by
      intro hm
      obtain hlt | ⟨-, hwait⟩ := hpast hm
      · exact hlt
      · rw [hready] at hwait; cases hwait
    have hcount : [action].countP UpdateAction.isCreateToken ≤ 1 := List.countP_le_length
    rw [if_pos hmsg, hdo]
    by_cases htoken : p.app.wizard.step = .token
    · -- none has been asked for so far
      have hzero : m ≠ 1 := by
        intro hm
        have := hone hm
        rw [htoken] at this
        exact absurd this (by decide)
      exact ⟨by omega, fun _ => .inr ⟨hstep.trans htoken, hbusy⟩⟩
    · have hnone : [action].countP UpdateAction.isCreateToken = 0 := by
        cases hs : p.app.wizard.step with
        | token => exact absurd hs htoken
        | _ =>
          rw [hs] at hserves
          cases action <;> first | rfl | cases hserves
      rw [hnone]
      exact ⟨by omega, fun hn => hlater (hone (by omega))⟩
  | found hmsg hready _ hstep _ hzero =>
    rw [if_pos hmsg, hzero]
    refine ⟨by omega, fun hn => ?_⟩
    obtain hlt | ⟨-, hwait⟩ := hpast (by omega)
    · exact hlater hlt
    · rw [hready] at hwait; cases hwait
  | done hmsg _ _ hstep =>
    rw [hmint (ne_next_of_isResult hmsg)]
    refine ⟨by omega, fun hn => ?_⟩
    obtain hlt | ⟨htoken, -⟩ := hpast (by omega)
    · exact hlater hlt
    · exact .inl (by rw [hstep, htoken]; decide)
  | failed hmsg hwait =>
    have hne : msg ≠ wizardNext := by rintro rfl; cases hmsg
    rw [hmint hne]
    refine ⟨by omega, fun hn => ?_⟩
    obtain hlt | ⟨htoken, -⟩ := hpast (by omega)
    · exact hlater hlt
    · -- the token that has failed is not counted any more
      have := hfail.counted hmsg hopen hwait htoken
      omega
  | back _ hlt => omega
  | shut _ _ _ hshut => rw [hshut] at ho; cases ho
  | auto _ hshut => rw [hshut] at hopen; cases hopen

theorem inv_reduce (hp : Inv p) (hsub : tasks.Sublist p.tasks)
    (hfail : FailsOwn p tasks msg failed) : Inv (p.reduce tasks msg failed) := by
  refine ⟨fun task htask => ?_, fun ho task htask hown => ?_, fun ho => ?_,
    fun n h => asked_reduce hp hfail h⟩
  · exact (visits_reduce hp.visits hsub task htask).trans visit_reduce_le
  · obtain ⟨hvisit, hstep, hsame⟩ | hnone := @visit_cases p tasks msg failed hp.visits hsub
    · rw [isOwn_of_visit hvisit] at hown
      exact (own_reduce hp hsub hfail hstep hsame ho).1 task htask hown
    · rw [hnone task htask] at hown
      cases hown
  · obtain ⟨hvisit, hstep, hsame⟩ | hnone := @visit_cases p tasks msg failed hp.visits hsub
    · rw [List.countP_congr fun task _ => by rw [isOwn_of_visit hvisit task]]
      exact (own_reduce hp hsub hfail hstep hsame ho).2
    · rw [List.countP_eq_zero.mpr fun task htask => by rw [hnone task htask]; decide]
      exact Nat.zero_le 1

/-- **A step keeps the invariant**, if its result is recognised. -/
theorem inv_step {e : Event} (hp : Inv p) (h : p.step e = some q) (hrec : recognised p e = true) :
    Inv q := by
  cases e with
  | input msg =>
    obtain ⟨hmsg, rfl⟩ := step_input h
    have hno : isFailure msg = true → False := by
      intro hf
      cases msg with
      | actionFailed msg => cases hmsg
      | _ => cases hf
    exact inv_reduce hp (List.Sublist.refl _)
      ⟨fun hf => (hno hf).elim, fun hf => (hno hf).elim⟩
  | result index msg =>
    obtain ⟨task, htask, hposts, rfl⟩ := step_result h
    refine inv_reduce hp (List.eraseIdx_sublist _ _) ⟨fun hf ho hb => ?_, fun hf ho hb hs => ?_⟩
    · -- the task that has failed was the only one of the step
      have hown := isOwn_of_recognised hrec htask ho hb (by unfold takes; rw [hf]; rfl)
      have hsingle := hp.single ho
      obtain ⟨hlt, hget⟩ := List.getElem?_eq_some_iff.mp htask
      have hperm := (List.getElem_cons_eraseIdx_perm hlt).countP_eq p.isOwn
      rw [hget, List.countP_cons_of_pos hown] at hperm
      omega
    · have hown := isOwn_of_recognised hrec htask ho hb (by unfold takes; rw [hf]; rfl)
      obtain ⟨-, hserves⟩ := hp.own ho task (List.mem_of_getElem? htask) hown
      rw [hs] at hserves
      have hmint : task.action.isCreateToken = true := by
        cases ha : task.action with
        | createToken name readOnly expirySecs => rfl
        | _ => rw [ha] at hserves; cases hserves
      unfold Panel.failed
      cases msg with
      | actionFailed msg => exact if_pos (by rw [hown, hmint]; rfl)
      | _ => cases hf

theorem inv_startup (trust : AdvertiseTrust) : Inv (startup trust) := by
  refine ⟨?_, ?_, ?_, ?_⟩
  · intro task htask
    obtain ⟨a, -, rfl⟩ := List.mem_map.mp htask
    exact le_rfl
  · intro ho; cases ho
  · intro ho; cases ho
  · intro n hn; cases hn

/-! ### The way through the wizard -/

/-- Why a step is left. -/
inductive LeftBy (p : Panel) : Event → Prop
  /-- the action of this visit has succeeded -/
  | own {index : ℕ} {msg : Message} {task : Task} (htask : p.tasks[index]? = some task)
      (hown : p.isOwn task = true) (hserves : serves p.app.wizard.step task.action = true)
      (hsucc : success task.action msg = true) : LeftBy p (.result index msg)
  /-- there is a certificate, and it is to be kept -/
  | certified (hstep : p.app.wizard.step = .certificate)
      (hcert : p.app.cert.fingerprint.isSome = true) (hkeep : p.app.wizard.certRegenAck = false) :
      LeftBy p (.input wizardNext)
  /-- the daemon is known to be up -/
  | running (hstep : p.app.wizard.step = .start) (hup : p.app.server.status.isSome = true) :
      LeftBy p (.input wizardNext)
  /-- the daemon is found to be up -/
  | up {index : ℕ} {info : ServerInfo} (hstep : p.app.wizard.step = .start) :
      LeftBy p (.result index (.statusLoaded (some info)))

/-- A success that the step takes is that of an action that serves it, if it comes from one. -/
theorem success_of_posts {step : WizardStep} {action : UpdateAction}
    (hposts : action.posts msg = true) (h : succeeds step msg = true) (hstep : step ≠ .start) :
    serves step action = true ∧ success action msg = true := by
  cases step with
  | start => exact absurd rfl hstep
  | network =>
    cases msg with
    | actionOk msg => cases action <;> first | exact ⟨rfl, rfl⟩ | cases hposts
    | _ => cases h
  | certificate =>
    cases msg with
    | certEnsured fingerprint sans => cases action <;> first | exact ⟨rfl, rfl⟩ | cases hposts
    | _ => cases h
  | token =>
    cases msg with
    | tokenCreated token name readOnly =>
      cases action <;> first | exact ⟨rfl, rfl⟩ | cases hposts
    | _ => cases h
  | welcome => cases msg <;> cases h
  | pair => cases msg <;> cases h

/-- A success of an action that serves the step is one that the step takes. -/
theorem succeeds_of_success {step : WizardStep} {action : UpdateAction}
    (hserves : serves step action = true) (h : success action msg = true) :
    succeeds step msg = true := by
  cases action with
  | saveBind addr =>
    cases step <;> first | cases msg <;> exact h | cases hserves
  | ensureCert sans =>
    cases step <;> first | cases msg <;> exact h | cases hserves
  | createToken name readOnly expirySecs =>
    cases step <;> first | cases msg <;> exact h | cases hserves
  | startServer =>
    cases step <;> first | cases msg <;> exact h | cases hserves
  | _ => cases step <;> cases hserves

/-- **A step with work to do is left forward** by its own success, or because its work is done. -/
theorem left_by {e : Event} (h : p.step e = some q) (hrec : recognised p e = true)
    (ho : Wizard.isOpen p.app = true) (hwork : hasWork p.app.wizard.step = true)
    (hforward : p.app.wizard.step.index < q.app.wizard.step.index) : LeftBy p e := by
  rw [step_app h] at hforward
  cases moves p.app e.msg with
  | stay hstep => exact absurd hforward (by rw [hstep]; exact Nat.lt_irrefl _)
  | work action _ _ hstep => exact absurd hforward (by rw [hstep]; exact Nat.lt_irrefl _)
  | found hmsg _ hdone =>
    have he : e = .input wizardNext := by
      cases e with
      | input msg => exact congrArg Event.input hmsg
      | result index msg =>
        obtain ⟨task, -, hposts, -⟩ := step_result h
        exact absurd hmsg (ne_next_of_isResult (isResult_of_posts hposts))
    rw [he]
    cases hs : p.app.wizard.step with
    | certificate =>
      rw [hs] at hdone
      obtain ⟨hcert, hkeep⟩ := Bool.and_eq_true_iff.mp hdone
      exact .certified hs hcert (by simpa using hkeep)
    | start =>
      rw [hs] at hdone
      exact .running hs hdone
    | welcome => rw [hs] at hwork; cases hwork
    | _ => rw [hs] at hdone; cases hdone
  | done hmsg hwait hsucc =>
    cases e with
    | input msg =>
      have hinput : msg.isResult = false := (step_input h).1
      exact absurd (hmsg.symm.trans hinput) (by decide)
    | result index msg =>
      obtain ⟨task, htask, hposts, -⟩ := step_result h
      by_cases hstart : p.app.wizard.step = .start
      · -- whichever task has brought the status
        have hup : succeeds .start msg = true := hstart ▸ hsucc
        cases msg with
        | statusLoaded info =>
          cases info with
          | none => cases hup
          | some info => exact .up hstart
        | _ => cases hup
      · obtain ⟨hserves, hsuccess⟩ := success_of_posts hposts hsucc hstart
        refine .own htask (isOwn_of_recognised hrec htask ho hwait ?_) hserves hsuccess
        have hsucc : succeeds p.app.wizard.step msg = true := hsucc
        simp [takes, hstart, hsucc]
  | failed _ _ hstep => exact absurd hforward (by rw [hstep]; exact Nat.lt_irrefl _)
  | back _ hlt => exact absurd hforward (Nat.lt_asymm hlt)
  | shut _ _ hstep => exact absurd hforward (by rw [hstep]; exact Nat.lt_irrefl _)
  | auto _ hshut => rw [hshut] at ho; cases ho

/-- **A success of its own takes the wizard on**, if it is still at the step. -/
theorem own_success {index : ℕ} {task : Task} (hp : Inv p)
    (h : p.step (.result index msg) = some q) (ho : Wizard.isOpen p.app = true)
    (htask : p.tasks[index]? = some task) (hown : p.isOwn task = true)
    (hsucc : success task.action msg = true) :
    q.app.wizard.step = p.app.wizard.step.next := by
  obtain ⟨hbusy, hserves⟩ := hp.own ho task (List.mem_of_getElem? htask) hown
  rw [step_app h]
  exact takes_success ho hbusy (succeeds_of_success hserves hsucc)

/-- **The way through the wizard**, in a run from the start in which the waiting wizard is given no
failure, and no success of the kind that it waits for, of a task that its step has not dispatched. -/
theorem walks {trust : AdvertiseTrust} {events : List Event} {p : Panel}
    (hr : Run (ofFn Panel.step) (startup trust) events p)
    (hrec : Along (ofFn Panel.step) (fun _ u e => recognised u e = true) (startup trust) events) :
    (∀ pre e post u v, events = pre ++ e :: post → Run (ofFn Panel.step) (startup trust) pre u →
      u.step e = some v → Wizard.isOpen u.app = true → hasWork u.app.wizard.step = true →
      u.app.wizard.step.index < v.app.wizard.step.index → LeftBy u e) ∧
    (∀ pre index msg post u v task, events = pre ++ Event.result index msg :: post →
      Run (ofFn Panel.step) (startup trust) pre u → u.step (.result index msg) = some v →
      Wizard.isOpen u.app = true → u.tasks[index]? = some task → u.isOwn task = true →
      success task.action msg = true → v.app.wizard.step = u.app.wizard.step.next) ∧
    ∀ n, p.asked = some n → n ≤ 1 := by
  have hinv : ∀ {as u}, Run (ofFn Panel.step) (startup trust) as u →
      Along (ofFn Panel.step) (fun _ u e => recognised u e = true) (startup trust) as → Inv u :=
    fun hu hC => Run.invariant_along (I := Inv) (C := fun _ u e => recognised u e = true)
      (fun _ _ _ _ hI hrec ht => inv_step hI ht hrec) hu (inv_startup trust) hC
  refine ⟨fun pre e post u v he hu huv ho hwork hforward => ?_,
    fun pre index msg post u v task he hu huv ho htask hown hsucc => ?_, fun n hn => ?_⟩
  · exact left_by huv (hrec pre e post u he hu) ho hwork hforward
  · exact own_success (hinv hu (he ▸ hrec).left) huv ho htask hown hsucc
  · exact ((hinv hr hrec).asked n hn).1

/-! ### A walk -/

/-- From the start to the step with the token: the address is saved, and there is a certificate. -/
def toToken : List Event :=
  [.input (.key ⟨some 'w', false⟩), .result 1 (.configLoaded ⟨"0.0.0.0:50051", "", [], []⟩),
    .result 2 (.certInfoLoaded (some "ab:cd") []), .input wizardNext, .input wizardNext,
    .result 4 (.actionOk "Saved bind address: 0.0.0.0:50051"), .input wizardNext]

/-- The token cannot be created. -/
def refused : List Event :=
  [.input wizardNext, .result 4 (.actionFailed "create token failed: disk full")]

def daemon : ServerInfo := ⟨"1.0.0", "0.0.0.0:50051", 1, 0, 0, none, 0⟩

/-- The token is created, and the daemon started. -/
def toPair : List Event :=
  [.input wizardNext, .result 4 (.tokenCreated "secret" "phone" false), .input wizardNext,
    .result 5 (.statusLoaded (some daemon))]

/-- A walk to the last step, with a failure on the way: the steps are left as they are to be, the
successes are taken, and one token has been asked for that could be created. -/
theorem walks_toPair :
    let events := toToken ++ refused ++ toPair
    ∃ p, Run (ofFn Panel.step) (startup .auto) events p ∧ p.app.wizard.step = .pair ∧
      p.asked = some 1 ∧
      (∀ pre e post u v, events = pre ++ e :: post → Run (ofFn Panel.step) (startup .auto) pre u →
        u.step e = some v → Wizard.isOpen u.app = true → hasWork u.app.wizard.step = true →
        u.app.wizard.step.index < v.app.wizard.step.index → LeftBy u e) ∧
      (∀ pre index msg post u v task, events = pre ++ Event.result index msg :: post →
        Run (ofFn Panel.step) (startup .auto) pre u → u.step (.result index msg) = some v →
        Wizard.isOpen u.app = true → u.tasks[index]? = some task → u.isOwn task = true →
        success task.action msg = true → v.app.wizard.step = u.app.wizard.step.next) ∧
      ∀ n, p.asked = some n → n ≤ 1 := by
  intro events
  have hrun : ((events.foldlM Panel.step (startup .auto)).any fun p =>
      p.app.wizard.step = .pair && p.asked = some 1) = true := by
    decide +kernel
  have hrec : check Panel.step recognised (startup .auto) events = true := by decide +kernel
  obtain ⟨p, hp, hrun⟩ := (Option.any_eq_true _ _).mp hrun
  obtain ⟨hpair, hone⟩ := Bool.and_eq_true_iff.mp hrun
  have hr := run_ofFn_iff.mpr hp
  exact ⟨p, hr, of_decide_eq_true hpair, of_decide_eq_true hone, walks hr (along_of_check hrec)⟩

/-! ### A second token -/

/-- A message asks for a token. -/
def asksToken (p : Panel) (msg : Message) : Bool :=
  (update p.app msg).2.any UpdateAction.isCreateToken

/-- The failure of another task, the load of the devices. -/
def disturbed : List Event :=
  [.input wizardNext, .result 2 (.actionFailed "list devices failed: refused"), .input wizardNext]

/-- A token that could not be created is asked for again. And while one is being created, the failure
of another task is taken for that of the creation: two are in flight. -/
theorem asked_twice :
    (∃ u v w, Run (ofFn Panel.step) (startup .auto) toToken u ∧
      Run (ofFn Panel.step) u refused v ∧ Run (ofFn Panel.step) v toPair w ∧
      u.asked = some 0 ∧ asksToken u wizardNext = true ∧ asksToken v wizardNext = true ∧
      w.app.wizard.step = .pair ∧ w.asked = some 1) ∧
    ∃ u v, Run (ofFn Panel.step) (startup .auto) toToken u ∧
      Run (ofFn Panel.step) u disturbed v ∧
      v.inFlight (fun task => task.action.isCreateToken) = 2 := by
  simp only [run_ofFn_iff]
  constructor
  · have hrun : ((toToken.foldlM Panel.step (startup .auto)).any fun u =>
        (refused.foldlM Panel.step u).any fun v => (toPair.foldlM Panel.step v).any fun w =>
          u.asked = some 0 && asksToken u wizardNext && asksToken v wizardNext &&
            w.app.wizard.step = .pair && w.asked = some 1) = true := by
      decide +kernel
    obtain ⟨u, hu, hrun⟩ := (Option.any_eq_true _ _).mp hrun
    obtain ⟨v, hv, hrun⟩ := (Option.any_eq_true _ _).mp hrun
    obtain ⟨w, hw, hrun⟩ := (Option.any_eq_true _ _).mp hrun
    simp only [Bool.and_eq_true, decide_eq_true_eq] at hrun
    obtain ⟨⟨⟨⟨h0, hask⟩, hagain⟩, hpair⟩, h1⟩ := hrun
    exact ⟨u, v, w, hu, hv, hw, h0, hask, hagain, hpair, h1⟩
  · have hrun : ((toToken.foldlM Panel.step (startup .auto)).any fun u =>
        (disturbed.foldlM Panel.step u).any fun v =>
          v.inFlight (fun task => task.action.isCreateToken) = 2) = true := by
      decide +kernel
    obtain ⟨u, hu, hrun⟩ := (Option.any_eq_true _ _).mp hrun
    obtain ⟨v, hv, hrun⟩ := (Option.any_eq_true _ _).mp hrun
    exact ⟨u, v, hu, hv, of_decide_eq_true hrun⟩

end MuxrCore.Muxrctl.Walk
