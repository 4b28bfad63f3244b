import Mathlib.Data.List.Perm.Basic
import MuxrCore.Muxrctl.Flags

/-! # A second task

Where the result of another task has cleared the flag of a guarded one that is unanswered, the
operator or the next ticks can have a second one dispatched (`second_of_not_calm`). So the runs that
stay single in flight, whatever the operator and the ticks do after any part of them, are the calm
ones (`single_iff_calm`). -/

namespace MuxrCore.Muxrctl.Flight

open MuxrCore.Lib.Runs MuxrCore.Lib.Text
open MuxrCore.Pairing.Qr (AdvertiseTrust)

variable {s : AppState} {f : Feature} {p q : Panel}

/-! ### The flag is down -/

/-- Closing the Config dialog loads the form again. -/
theorem flag_closeTop_config (h : s.topDialog = some .config) (hf : f ≠ .config) :
    flag (closeTop s).1 f = flag s f := by
  unfold closeTop
  rw [h]
  cases f with
  | config => exact absurd rfl hf
  | _ => rfl

theorem flag_onActionOk : flag (Wizard.onActionOk s).1 f = flag s f := by
  unfold Wizard.onActionOk
  split_ifs
  · exact flag_proceed
  · rfl

/-- A success clears the flags; only that of the form may be raised again. -/
theorem lowers_actionOk (text : String) (hf : f ≠ .config) :
    flag (update s (.actionOk text)).1 f = false := by
  change flag (onActionOk s text).1 f = false
  unfold onActionOk Updated.andThen
  dsimp only
  rw [flag_onActionOk]
  split_ifs with hp htop
  · refine (flag_closeTop_config htop hf).trans ?_
    cases f <;> rfl
  · cases f <;> rfl
  · cases f <;> rfl

theorem lowers_actionFailed (msg : String) : flag (update s (.actionFailed msg)).1 f = false := by
  change flag (onActionFailed s msg).1 f = false
  unfold onActionFailed Wizard.onActionFailed
  dsimp only
  split_ifs <;> cases f <;> rfl

/-- A result that clears a flag has it down, but for a success and the flag of the form. -/
theorem lowers_update {msg : Message} (hc : clears f msg = true) :
    flag (update s msg).1 f = false ∨ f = .config ∧ ∃ text, msg = .actionOk text := by
  cases msg with
  | actionOk text =>
    by_cases hf : f = .config
    · exact .inr ⟨hf, text, rfl⟩
    · exact .inl (lowers_actionOk text hf)
  | actionFailed text => exact .inl (lowers_actionFailed text)
  | statusLoaded info => exact .inl (by rw [flag_statusLoaded, hc, Bool.not_true, Bool.and_false])
  | configLoaded snapshot =>
    exact .inl (by rw [flag_configLoaded, hc, Bool.not_true, Bool.and_false])
  | tokensLoaded records =>
    exact .inl (by rw [flag_tokensLoaded, hc, Bool.not_true, Bool.and_false])
  | tokenCreated token name readOnly =>
    exact .inl (by rw [flag_tokenCreated, hc, Bool.not_true, Bool.and_false])
  | _ => cases f <;> cases hc

/-! ### Asked for again -/

/-- Inputs alone, other than the wizard's Next, lead to two tasks of a kind in flight. -/
def Repeatable (p : Panel) : Prop :=
  ∃ (msgs : List Message) (q : Panel), wizardNext ∉ msgs ∧
    Run (ofFn Panel.step) p (msgs.map Event.input) q ∧ ¬ SingleFlight q

theorem Repeatable.of_not_single (h : ¬ SingleFlight p) : Repeatable p :=
  ⟨[], p, List.not_mem_nil, .nil p, h⟩

theorem Repeatable.of_step {msg : Message} (hmsg : msg ≠ wizardNext)
    (h : p.step (.input msg) = some q) (hq : Repeatable q) : Repeatable p := by
  obtain ⟨msgs, r, hnext, hr, hsingle⟩ := hq
  exact ⟨msg :: msgs, r, List.not_mem_cons_of_ne_of_not_mem hmsg.symm hnext, .cons h hr, hsingle⟩

/-- Every input can be reduced. -/
theorem step_of_input {msg : Message} (h : msg.isResult = false) :
    p.step (.input msg) = some (p.reduce p.tasks msg 0) := by
  unfold Panel.step
  dsimp only
  rw [h]
  rfl

/-- A task that is asked for while another of its kind is unanswered is the second. -/
theorem not_single_of_asks {msg : Message} {a : UpdateAction} {k : Kind}
    (h : asksFor p.app msg = some a) (hk : kind a = some k) (hn : p.inFlight (ofKind k) ≠ 0)
    (hq : p.step (.input msg) = some q) : ¬ SingleFlight q := by
  intro hsingle
  have hone := hsingle.kinds k
  rw [inFlight_input hq, dispatched_ofKind, h, Option.bind_some, if_pos hk] at hone
  omega

theorem repeatable_of_asks {msg : Message} {a : UpdateAction} {k : Kind}
    (hmsg : msg.isResult = false) (hnext : msg ≠ wizardNext) (h : asksFor p.app msg = some a)
    (hk : kind a = some k) (hn : p.inFlight (ofKind k) ≠ 0) : Repeatable p :=
  .of_step hnext (step_of_input hmsg)
    (.of_not_single (not_single_of_asks h hk hn (step_of_input hmsg)))

/-- A poll of the pairing code that is not due leaves the daemon's part alone. -/
theorem server_onTick (h : (Tokens.onTick s).2 = []) : (Tokens.onTick s).1.server = s.server := by
  unfold Tokens.onTick at h ⊢
  split_ifs at h ⊢
  · rfl
  split at h
  · rfl
  · dsimp only at h ⊢
    split_ifs at h ⊢
    · rfl
    · rfl

/-- Where the flag is down, the dashboard's poll is due if it is its turn. -/
theorem not_due (hl : s.server.loading = false) (hdue : pollDue s = false) :
    due s.server.tickCounter = false := by
  simp only [pollDue, hl, Bool.not_false, Bool.true_and, Bool.or_eq_false_iff] at hdue
  exact hdue.1

/-- A tick on which no poll is due counts. -/
theorem tick_counts (hl : s.server.loading = false) (hdue : pollDue s = false) :
    (handleTick s).1.server =
      { s.server with tickCounter := (s.server.tickCounter + 1) % 2 ^ 32 } := by
  have hnone := tick_actions s
  rw [hdue] at hnone
  obtain ⟨-, hnone⟩ := List.append_eq_nil_iff.mp hnone
  refine (server_onTick hnone).trans ?_
  have hcount := not_due hl hdue
  unfold pollTick
  rw [if_neg (by simp [hl])]
  dsimp only
  rw [if_neg (by simpa [due] using hcount)]
  rfl

/-- A poll that is due while another is unanswered is the second. -/
theorem repeatable_of_due (hdue : pollDue p.app = true) (hp : p.inFlight isTickPoll ≠ 0) :
    Repeatable p := by
  have hstep : p.step (.input .tick) = some (p.reduce p.tasks .tick 0) := step_of_input rfl
  refine .of_step Message.noConfusion hstep (.of_not_single fun hsingle => ?_)
  have hone := hsingle.polls
  rw [inFlight_input hstep, dispatched_isTickPoll, if_pos ⟨rfl, hdue⟩] at hone
  omega

/-- How many ticks a poll of the dashboard is away, at most. -/
def ticksLeft (counter : ℕ) : ℕ := 19 - counter % 2 ^ 32 % 20

/-- A tick on which no poll is due brings the next one nearer; the counter wraps at one that is. -/
theorem ticksLeft_lt {counter : ℕ} (h : due counter = false) :
    ticksLeft ((counter + 1) % 2 ^ 32) < ticksLeft counter := by
  simp only [due, decide_eq_false_iff_not] at h
  have hnext : (counter + 1) % 2 ^ 32 = counter % 2 ^ 32 + 1 ∨ (counter + 1) % 2 ^ 32 = 0 := by
    omega
  rcases hnext with hnext | hnext
  · rw [hnext] at h
    have hlast : counter % 2 ^ 32 % 20 ≠ 19 := by
      intro hlast
      exact h (by omega)
    unfold ticksLeft
    rw [Nat.mod_mod, hnext]
    omega
  · rw [hnext] at h
    exact absurd rfl h

/-- The ticks come to one on which a poll is due. -/
theorem repeatable_of_poll {n : ℕ} (hn : ticksLeft p.app.server.tickCounter ≤ n)
    (hl : p.app.server.loading = false) (hp : p.inFlight isTickPoll ≠ 0) : Repeatable p := by
  induction n generalizing p with
  | zero =>
    by_cases hdue : pollDue p.app = true
    · exact repeatable_of_due hdue hp
    · have hless := ticksLeft_lt (not_due hl (by simpa using hdue))
      exact absurd hless (by omega)
  | succ n ih =>
    by_cases hdue : pollDue p.app = true
    · exact repeatable_of_due hdue hp
    · have hfalse : pollDue p.app = false := by simpa using hdue
      have hless := ticksLeft_lt (not_due hl hfalse)
      have hstep : p.step (.input .tick) = some (p.reduce p.tasks .tick 0) := step_of_input rfl
      have hserver : (p.reduce p.tasks .tick 0).app.server = _ := tick_counts hl hfalse
      refine .of_step Message.noConfusion hstep (ih ?_ ?_ ?_)
      · rw [hserver]
        dsimp only
        omega
      · rw [hserver]
        exact hl
      · rw [inFlight_input hstep]
        exact Nat.ne_of_gt (Nat.add_pos_left (Nat.pos_of_ne_zero hp) _)

theorem asksSave_filled (hl : s.config.loading = false) (hhost : s.config.host = "localhost")
    (hport : s.config.port = "1") : asksSave s = some (.saveBind s.config.bindAddr) := by
  have hname : trim "localhost" ≠ "" := by decide +kernel
  have hvalid : Config.validPort "1" = true := by decide +kernel
  unfold asksSave
  rw [if_neg (by simp [hl, hhost, hport, hname, hvalid])]

/-- The form can be filled in and saved. -/
theorem repeatable_of_save (hl : p.app.config.loading = false)
    (hp : p.inFlight (ofKind .save) ≠ 0) : Repeatable p := by
  let q := p.reduce p.tasks (.ui (.config (.hostChanged "localhost"))) 0
  let r := q.reduce q.tasks (.ui (.config (.portChanged "1"))) 0
  have hhost : p.step (.input (.ui (.config (.hostChanged "localhost")))) = some q :=
    step_of_input rfl
  have hport : q.step (.input (.ui (.config (.portChanged "1")))) = some r := step_of_input rfl
  have hr : r.inFlight (ofKind .save) ≠ 0 := by
    rw [inFlight_input hport, inFlight_input hhost]
    omega
  have hdigit : r.app.config.port = "1" := by
    change String.ofList ("1".toList.filter Char.isDigit) = "1"
    decide +kernel
  have hasks : asksFor r.app (.ui (.config .save)) = some (.saveBind r.app.config.bindAddr) :=
    asksSave_filled hl rfl hdigit
  exact .of_step (by decide) hhost (.of_step (by decide) hport
    (repeatable_of_asks rfl (by decide) hasks rfl hr))

/-- **Where a flag is down although a task that it guards is unanswered**, a second one can be asked
for. -/
theorem repeatable_of_flag (hl : flag p.app f = false) (hn : unanswered p.tasks f ≠ 0) :
    Repeatable p := by
  cases f with
  | tokens =>
    have hasks : asksFor p.app (.ui (.tokens .createSubmit)) =
        some (Tokens.createToken p.app.tokens) := by
      simp only [asksFor]
      rw [if_neg (by simpa [flag] using hl)]
    exact repeatable_of_asks rfl (by decide) hasks rfl hn
  | config => exact repeatable_of_save hl hn
  | server =>
    by_cases hdaemon : p.inFlight (ofKind .daemon) = 0
    · refine repeatable_of_poll le_rfl hl fun hpolls => hn ?_
      exact Nat.add_eq_zero_iff.mpr ⟨hdaemon, hpolls⟩
    · have hasks : asksFor p.app (.ui (.server .start)) = some .startServer := by
        simp only [asksFor, asksStart]
        rw [if_neg (by simpa [flag] using hl)]
      exact repeatable_of_asks rfl (by decide) hasks rfl hdaemon

/-- The only save in flight is not left behind by its own result. -/
theorem unanswered_of_actionOk {index : ℕ} {text : String} (hp : Standing p)
    (h : p.step (.result index (.actionOk text)) = some q) :
    unanswered (p.tasks.eraseIdx index) .config = 0 := by
  obtain ⟨task, htask, hposts, -⟩ := step_result h
  have hsave : ofKind .save task = true := by
    unfold ofKind
    cases haction : task.action <;> rw [haction] at hposts <;> first | rfl | cases hposts
  obtain ⟨hlt, hget⟩ := List.getElem?_eq_some_iff.mp htask
  have hperm := (List.getElem_cons_eraseIdx_perm hlt).countP_eq (ofKind .save)
  rw [hget, List.countP_cons_of_pos hsave] at hperm
  have hone : p.tasks.countP (ofKind .save) ≤ 1 := (hp .config).trans (Bool.toNat_le _)
  change (p.tasks.eraseIdx index).countP (ofKind .save) = 0
  omega

variable {e : Event}

/-- **A step that is not calm** lets a second task come. -/
theorem repeatable_of_not_calm (hp : Standing p) (hc : ¬ Calm p e) (h : p.step e = some q) :
    Repeatable q := by
  cases e with
  | input msg =>
    unfold Calm at hc
    push Not at hc
    obtain ⟨rfl, hstep, hbusy, hn⟩ := hc
    have hasks : asksFor p.app wizardNext = some (Tokens.createToken p.app.tokens) := by
      change asksStep p.app = _
      unfold asksStep
      rw [hbusy, hstep]
      rfl
    exact .of_not_single (not_single_of_asks hasks rfl hn h)
  | result index msg =>
    unfold Calm at hc
    push Not at hc
    obtain ⟨f, hclears, hn⟩ := hc
    obtain ⟨task, -, hposts, hq⟩ := step_result h
    have hleft : unanswered q.tasks f ≠ 0 := by
      rw [hq, unanswered_reduce]
      omega
    rcases lowers_update (s := p.app) hclears with hdown | ⟨rfl, text, rfl⟩
    · refine repeatable_of_flag ?_ hleft
      rw [step_app h]
      exact hdown
    · exact absurd (unanswered_of_actionOk hp h) hn

/-! ### Calm runs -/

/-- In calm states no inputs lead to two tasks of a kind in flight. -/
theorem Standing.not_repeatable (hp : Standing p) : ¬ Repeatable p := by
  rintro ⟨msgs, q, hnext, hq, hsingle⟩
  refine hsingle (Standing.singleFlight ?_)
  clear hsingle
  induction msgs generalizing p with
  | nil => exact run_nil_iff.mp hq ▸ hp
  | cons msg msgs ih =>
    obtain ⟨r, hr, hq⟩ := run_cons_iff.mp hq
    obtain ⟨hmsg, hothers⟩ := not_or.mp (mt List.mem_cons.mpr hnext)
    have hcalm : Calm p (.input msg) := fun he => absurd he.symm hmsg
    exact ih (standing_step hp hcalm hr) hothers hq

/-- **The runs that stay single in flight**, whatever the operator and the ticks do after any part
of them, are those in which no result of another task clears the flag of a guarded task that is
unanswered, and the wizard does not go on from its Token step while a token is being created. -/
theorem single_iff_calm {trust : AdvertiseTrust} {events : List Event}
    (h : Run (ofFn Panel.step) (startup trust) events p) :
    (∀ pre post q, events = pre ++ post → Run (ofFn Panel.step) (startup trust) pre q →
      ¬ Repeatable q) ↔
      Along (ofFn Panel.step) (fun _ => Calm) (startup trust) events := by
  constructor
  · intro hsingle
    have hcalm : ∀ {pre e post u}, events = pre ++ e :: post →
        Run (ofFn Panel.step) (startup trust) pre u → Standing u → Calm u e := by
      intro pre e post u he hu hstanding
      obtain ⟨v, huv, -⟩ := run_cons_iff.mp (h.split he hu)
      by_contra hc
      exact hsingle (pre ++ [e]) post v (by simp [he]) (hu.concat huv)
        (repeatable_of_not_calm hstanding hc huv)
    intro pre e post u he hu
    refine hcalm he hu ?_
    -- by induction on the events before, each of which is calm
    induction pre using List.reverseRecOn generalizing e post u with
    | nil => exact run_nil_iff.mp hu ▸ standing_startup trust
    | append_singleton pre a ih =>
      obtain ⟨v, hv, ha⟩ := run_append_iff.mp hu
      have he' : events = pre ++ a :: e :: post := by simp [he]
      have hstanding := ih _ _ v he' hv
      exact standing_step hstanding (hcalm he' hv hstanding) (run_singleton_iff.mp ha)
  · rintro hcalm pre post q rfl hq
    exact (standing_run hcalm.left hq).not_repeatable

end MuxrCore.Muxrctl.Flight
