import MuxrCore.Muxrctl.Frame

/-! # What a message does to the wizard

A step of the wizard with work to do dispatches its action and waits. The results carry no identity:
the wizard takes a result for that of its own action if it waits at the step that such a result
belongs to.

* `moves`: what a message may do to the wizard, in all cases.
* `takes_success`: a success of the step that waits is always taken. -/

namespace MuxrCore.Muxrctl.Walk

open MuxrCore.Muxrctl.Flight

/-- The action is the work of the step. -/
def serves : WizardStep → UpdateAction → Bool
  | .network, .saveBind _ => true
  | .certificate, .ensureCert _ => true
  | .token, .createToken .. => true
  | .start, .startServer => true
  | _, _ => false

/-- The waiting step takes the result for a success of its action. -/
def succeeds : WizardStep → Message → Bool
  | .network, .actionOk _ => true
  | .certificate, .certEnsured .. => true
  | .token, .tokenCreated .. => true
  | .start, .statusLoaded info => info.isSome
  | _, _ => false

/-- The message says that an action has failed. -/
def isFailure : Message → Bool
  | .actionFailed _ => true
  | _ => false

/-- The work of the step is done already. -/
def workDone (s : AppState) : WizardStep → Bool
  | .welcome => true
  | .certificate => s.cert.fingerprint.isSome && !s.wizard.certRegenAck
  | .start => s.server.status.isSome
  | _ => false

/-- What a message may do to the wizard. -/
inductive Move (s : AppState) (msg : Message) (u : Updated) : Prop
  /-- nothing -/
  | stay (hstep : u.1.wizard.step = s.wizard.step) (hbusy : u.1.wizard.busy = s.wizard.busy)
      (hidle : msg = wizardNext → u.2 = [])
  /-- the step starts its work -/
  | work (action : UpdateAction) (hmsg : msg = wizardNext) (hready : s.wizard.busy = false)
      (hstep : u.1.wizard.step = s.wizard.step) (hbusy : u.1.wizard.busy = true)
      (hdo : u.2 = [action]) (hserves : serves s.wizard.step action = true)
  /-- there is no work for the step to do -/
  | found (hmsg : msg = wizardNext) (hready : s.wizard.busy = false)
      (hdone : workDone s s.wizard.step = true) (hstep : u.1.wizard.step = s.wizard.step.next)
      (hbusy : u.1.wizard.busy = false) (hmint : u.2.countP UpdateAction.isCreateToken = 0)
  /-- the work has succeeded -/
  | done (hmsg : msg.isResult = true) (hwait : s.wizard.busy = true)
      (hsucc : succeeds s.wizard.step msg = true)
      (hstep : u.1.wizard.step = s.wizard.step.next) (hbusy : u.1.wizard.busy = false)
  /-- the work has failed -/
  | failed (hmsg : isFailure msg = true) (hwait : s.wizard.busy = true)
      (hstep : u.1.wizard.step = s.wizard.step) (hbusy : u.1.wizard.busy = false)
  /-- one step back -/
  | back (hmsg : msg = .ui (.wizard .back))
      (hstep : u.1.wizard.step.index < s.wizard.step.index)
  /-- the wizard is closed -/
  | shut (hmsg : msg.isResult = false) (hnext : msg ≠ wizardNext)
      (hstep : u.1.wizard.step = s.wizard.step) (hshut : Wizard.isOpen u.1 = false)
  /-- the wizard opens by itself -/
  | auto (hmsg : msg.isResult = true) (hshut : Wizard.isOpen s = false)
      (hopen : Wizard.isOpen u.1 = true)

variable {s : AppState}

theorem wizard_openHook (id : DialogId) : (openHook s id).1.wizard = s.wizard :=
  congrArg Prod.snd (frame_openHook id)

/-- A message that leaves the wizard alone. -/
theorem Move.of_wizard {msg : Message} {u : Updated} (hmsg : msg ≠ wizardNext)
    (h : u.1.wizard = s.wizard) : Move s msg u :=
  .stay (by rw [h]) (by rw [h]) fun hnext => absurd hnext hmsg

theorem Move.of_frame {msg : Message} {u : Updated} (hmsg : msg ≠ wizardNext)
    (h : frame u.1 = frame s) : Move s msg u :=
  .of_wizard hmsg (congrArg Prod.snd h)

/-- A result is not asked for by the operator. -/
theorem ne_next_of_isResult {msg : Message} (h : msg.isResult = true) : msg ≠ wizardNext := by
  rintro rfl
  cases h

/-! ### Going on -/

theorem goto_wizard (step : WizardStep) :
    (Wizard.goto s step).1.wizard = { s.wizard with step, error := none } := by
  unfold Wizard.goto
  dsimp only
  split_ifs
  · exact (congrArg Prod.snd frame_enterPair).trans rfl
  · rfl

theorem mint_goto (step : WizardStep) :
    (Wizard.goto s step).2.countP UpdateAction.isCreateToken = 0 := by
  unfold Wizard.goto
  dsimp only
  split_ifs
  · unfold Wizard.enterPair
    split <;> rfl
  · rfl

theorem proceed_wizard :
    (Wizard.proceed s).1.wizard =
      { s.wizard with step := s.wizard.step.next, busy := false, error := none } :=
  goto_wizard _

/-- The wizard goes on without work. -/
theorem Move.of_advance {w : WizardState} (hstep : w.step = s.wizard.step)
    (hbusy : w.busy = s.wizard.busy) (hready : s.wizard.busy = false)
    (hdone : workDone s s.wizard.step = true) :
    Move s wizardNext (Wizard.advance (s.setWizard w)) := by
  refine .found rfl hready hdone ?_ ?_ (mint_goto _)
  · unfold Wizard.advance
    rw [goto_wizard]
    exact congrArg WizardStep.next hstep
  · unfold Wizard.advance
    rw [goto_wizard]
    exact hbusy.trans hready

theorem move_next (s : AppState) : Move s wizardNext (Wizard.next s) := by
  unfold Wizard.next
  by_cases hb : s.wizard.busy
  · rw [if_pos hb]
    exact .stay rfl rfl fun _ => rfl
  have hready : s.wizard.busy = false := by simpa using hb
  rw [if_neg hb]
  cases hs : s.wizard.step with
  | welcome => exact .of_advance rfl rfl hready (by rw [hs]; rfl)
  | network =>
    obtain ⟨c, e, h, -⟩ | ⟨c, h, -⟩ := saveBind_cases s
    · dsimp only
      rw [h]
      exact .stay rfl rfl fun _ => rfl
    · dsimp only
      rw [h]
      exact .work _ rfl hready rfl rfl rfl (by rw [hs]; rfl)
  | certificate =>
    dsimp only
    unfold Wizard.ensureCert
    by_cases hdone : s.cert.fingerprint.isSome && !s.wizard.certRegenAck
    · rw [if_pos hdone]
      exact .of_advance (w := s.wizard) rfl rfl hready (by rw [hs]; exact hdone)
    · rw [if_neg hdone]
      exact .work _ rfl hready rfl rfl rfl (by rw [hs]; rfl)
  | token => exact .work _ rfl hready rfl rfl rfl (by rw [hs]; rfl)
  | start =>
    obtain ⟨hup, h⟩ | ⟨-, -, e, h⟩ | ⟨-, -, q, -, h⟩ := startDaemon_cases s
    · dsimp only
      rw [h]
      exact .of_advance (w := s.wizard) rfl rfl hready (by rw [hs]; exact hup)
    · dsimp only
      rw [h]
      exact .stay rfl rfl fun _ => rfl
    · dsimp only
      rw [h]
      exact .work _ rfl hready rfl rfl rfl (by rw [hs]; rfl)
  | pair => exact .stay rfl rfl fun _ => rfl

/-! ### Closing -/

theorem closeTop_modals (s : AppState) : (closeTop s).1.ui.modals = s.ui.modals.tail := by
  unfold closeTop
  split
  next id _ => cases id <;> rfl
  next h =>
    have hnil : s.ui.modals = [] := List.head?_eq_none_iff.mp h
    rw [hnil]
    rfl

/-- Closing as many dialogs as are open closes the wizard. -/
theorem closeAll_shut (n : ℕ) (s : AppState) (h : s.ui.modals.length ≤ n) :
    Wizard.isOpen (Wizard.closeAll n s).1 = false := by
  induction n generalizing s with
  | zero =>
    have hnil : s.ui.modals = [] := List.length_eq_zero_iff.mp (Nat.le_zero.mp h)
    unfold Wizard.closeAll Wizard.isOpen AppState.isOpen
    rw [hnil]
    rfl
  | succ n ih =>
    unfold Wizard.closeAll
    split
    · refine ih _ ?_
      rw [closeTop_modals, List.length_tail]
      omega
    next hshut => simpa using hshut

theorem close_shut (s : AppState) : Wizard.isOpen (Wizard.close s).1 = false :=
  closeAll_shut _ _ le_rfl

theorem finish_shut (s : AppState) : Wizard.isOpen (Wizard.finish s).1 = false := by
  unfold Wizard.finish
  exact close_shut s

theorem close_step (s : AppState) : (Wizard.close s).1.wizard.step = s.wizard.step :=
  (congrArg (·.2.step) (frame_closeAll _)).trans rfl

theorem finish_step (s : AppState) : (Wizard.finish s).1.wizard.step = s.wizard.step := by
  unfold Wizard.finish
  exact close_step s

theorem index_previous {step : WizardStep} (h : step ≠ .welcome) :
    step.previous.index < step.index := by
  cases step <;> first | decide | exact absurd rfl h

theorem move_wizard (msg : WizardMsg) :
    Move s (.ui (.wizard msg)) (Wizard.update s msg) := by
  cases msg with
  | close => exact .shut rfl (by decide) (close_step s) (close_shut s)
  | next => exact move_next s
  | back =>
    unfold Wizard.update Wizard.back
    dsimp only
    by_cases hstay : s.wizard.busy || s.wizard.step = .welcome
    · rw [if_pos hstay]
      exact .stay rfl rfl fun h => by cases h
    · rw [if_neg hstay]
      have hstep : s.wizard.step ≠ .welcome := by
        intro h
        exact hstay (by rw [h]; simp)
      refine .back rfl ?_
      split_ifs
      · exact index_previous hstep
      · exact index_previous hstep
  | regenAckChanged ack => exact .stay rfl rfl fun h => by cases h
  | finish => exact .shut rfl (by decide) (finish_step s) (finish_shut s)

/-! ### The results -/

/-- The wizard goes on from what a result has left alone. -/
theorem Move.of_proceed {msg : Message} {t : AppState} {acts : List UpdateAction}
    (hmsg : msg.isResult = true) (h : t.wizard = s.wizard) (hbusy : t.wizard.busy = true)
    (hsucc : succeeds t.wizard.step msg = true) :
    Move s msg ((Wizard.proceed t).1, acts) := by
  refine .done hmsg (h ▸ hbusy) (h ▸ hsucc) ?_ ?_
  · rw [proceed_wizard, h]
  · rw [proceed_wizard]

theorem waitingOn_iff {step : WizardStep} :
    Wizard.waitingOn s step = true ↔
      Wizard.isOpen s = true ∧ s.wizard.busy = true ∧ s.wizard.step = step := by
  unfold Wizard.waitingOn
  simp [and_assoc]

theorem move_statusLoaded (s : AppState) (info : Option ServerInfo) :
    Move s (.statusLoaded info) (update s (.statusLoaded info)) := by
  change Move s _ ((Server.onStatusLoaded s info).andThen Wizard.onStatusLoaded)
  obtain ⟨hframe, hstatus, -⟩ := frame_statusLoaded s info
  have hwizard : (Server.onStatusLoaded s info).1.wizard = s.wizard := congrArg Prod.snd hframe
  unfold Updated.andThen Wizard.onStatusLoaded
  generalize (Server.onStatusLoaded s info) = u at hwizard hstatus ⊢
  by_cases hwait : Wizard.waitingOn u.1 .start && u.1.server.status.isSome
  · rw [if_pos hwait]
    obtain ⟨hstart, hup⟩ := Bool.and_eq_true_iff.mp hwait
    obtain ⟨-, hbusy, hstep⟩ := waitingOn_iff.mp hstart
    rw [hstatus] at hup
    exact .of_proceed rfl hwizard hbusy (by rw [hstep]; exact hup)
  · rw [if_neg hwait]
    exact .of_wizard (ne_next_of_isResult rfl) hwizard

theorem move_certEnsured (s : AppState) (fingerprint : String) (sans : List String) :
    Move s (.certEnsured fingerprint sans) (update s (.certEnsured fingerprint sans)) := by
  change Move s _ ((Cert.onCertEnsured s fingerprint sans).andThen Wizard.onCertEnsured)
  unfold Updated.andThen Wizard.onCertEnsured
  by_cases hwait : Wizard.waitingOn (Cert.onCertEnsured s fingerprint sans).1 .certificate
  · rw [if_pos hwait]
    obtain ⟨-, hbusy, hstep⟩ := waitingOn_iff.mp hwait
    exact .of_proceed rfl rfl hbusy (by rw [hstep]; rfl)
  · rw [if_neg hwait]
    exact .of_wizard (ne_next_of_isResult rfl) rfl

theorem Move.of_actionOk {msg : String} {u : Updated} (h : u.1.wizard = s.wizard) :
    Move s (.actionOk msg) (u.andThen Wizard.onActionOk) := by
  unfold Updated.andThen Wizard.onActionOk
  by_cases hwait : Wizard.waitingOn u.1 .network
  · rw [if_pos hwait]
    obtain ⟨-, hbusy, hstep⟩ := waitingOn_iff.mp hwait
    exact .of_proceed rfl h hbusy (by rw [hstep]; rfl)
  · rw [if_neg hwait]
    exact .of_wizard (ne_next_of_isResult rfl) h

theorem move_actionOk (s : AppState) (msg : String) :
    Move s (.actionOk msg) (update s (.actionOk msg)) := by
  -- a saved address closes its dialog, and leaves the wizard alone
  refine .of_actionOk ?_
  dsimp only
  split_ifs
  · exact (congrArg Prod.snd frame_closeTop).trans rfl
  · rfl
  · rfl

theorem Move.of_actionFailed {msg : String} {t : AppState} (h : t.wizard = s.wizard) :
    Move s (.actionFailed msg) (Wizard.onActionFailed t msg) := by
  unfold Wizard.onActionFailed
  by_cases hwait : Wizard.isOpen t && t.wizard.busy
  · rw [if_pos hwait]
    have hbusy : s.wizard.busy = true := h ▸ (Bool.and_eq_true_iff.mp hwait).2
    exact .failed rfl hbusy (congrArg (·.step) h) rfl
  · rw [if_neg hwait]
    exact .of_wizard (ne_next_of_isResult rfl) h

theorem move_actionFailed (s : AppState) (msg : String) :
    Move s (.actionFailed msg) (update s (.actionFailed msg)) := by
  refine .of_actionFailed ?_
  dsimp only
  split_ifs <;> rfl

theorem isOpen_openHook (t : AppState) : Wizard.isOpen (openHook t .wizard).1 = true := by
  change ((t.ui.modals.open .wizard).contains DialogId.wizard) = true
  unfold ModalState.open
  split_ifs with hin
  · simpa using hin
  · simp

theorem Move.of_autoOpen {msg : Message} {u : Updated} (hmsg : msg.isResult = true)
    (hstep : u.1.wizard.step = s.wizard.step) (hbusy : u.1.wizard.busy = s.wizard.busy)
    (hui : u.1.ui.modals = s.ui.modals) : Move s msg (u.andThen Wizard.maybeAutoOpen) := by
  unfold Updated.andThen
  obtain ⟨w, hw, hb, h⟩ | ⟨w, hw, hb, htop, h⟩ := maybeAutoOpen_cases u.1
  · rw [h]
    exact .stay (hw.trans hstep) (hb.trans hbusy) fun hn => absurd hn (ne_next_of_isResult hmsg)
  · rw [h]
    refine .auto hmsg ?_ (isOpen_openHook _)
    have hnil : s.ui.modals = [] := hui ▸ List.head?_eq_none_iff.mp htop
    unfold Wizard.isOpen AppState.isOpen
    rw [hnil]
    rfl

theorem move_tokenCreated (s : AppState) (token name : String) (readOnly : Bool) :
    Move s (.tokenCreated token name readOnly)
      (update s (.tokenCreated token name readOnly)) := by
  change Move s _ ((Tokens.onTokenCreated s token name readOnly).andThen Wizard.onTokenCreated)
  have hwizard : (Tokens.onTokenCreated s token name readOnly).1.wizard = s.wizard := by
    unfold Tokens.onTokenCreated
    dsimp only
    split_ifs
    · exact (wizard_openHook _).trans rfl
    · exact (wizard_openHook _).trans rfl
  unfold Updated.andThen Wizard.onTokenCreated
  generalize (Tokens.onTokenCreated s token name readOnly) = u at hwizard ⊢
  by_cases hwait : Wizard.waitingOn u.1 .token
  · rw [if_pos hwait]
    obtain ⟨-, hbusy, hstep⟩ := waitingOn_iff.mp hwait
    -- closing the dialog with the secret leaves the wizard alone
    split_ifs
    · have hstep : u.1.closeDialog.wizard.step = .token := hstep
      exact .of_proceed rfl hwizard hbusy (by rw [hstep]; rfl)
    · exact .of_proceed rfl hwizard hbusy (by rw [hstep]; rfl)
  · rw [if_neg hwait]
    exact .of_wizard (ne_next_of_isResult rfl) hwizard

/-- **What a message may do to the wizard.** -/
theorem moves (s : AppState) (msg : Message) : Move s msg (update s msg) := by
  cases msg with
  | key key => exact .of_frame (by rintro ⟨⟩) (frame_key key)
  | tick => exact .of_frame (by rintro ⟨⟩) frame_tick
  | quit => exact .of_wizard (by rintro ⟨⟩) rfl
  | ui msg =>
    cases msg with
    | focus => exact .of_wizard (by rintro ⟨⟩) rfl
    | «open» id => exact .of_frame (by rintro ⟨⟩) (frame_openHook id)
    | close => exact .of_frame (by rintro ⟨⟩) frame_closeTop
    | config msg => exact .of_frame (by rintro ⟨⟩) (frame_config msg)
    | server msg => exact .of_frame (by rintro ⟨⟩) (frame_server msg)
    | cert msg => exact .of_frame (by rintro ⟨⟩) (frame_cert msg)
    | tokens msg =>
      by_cases hmsg : movesFocus (.ui (.tokens msg))
      · cases msg <;> first | exact .of_wizard (by rintro ⟨⟩) rfl | cases hmsg
      · exact .of_frame (by rintro ⟨⟩) (frame_tokens (by simpa using hmsg))
    | devices msg =>
      by_cases hmsg : movesFocus (.ui (.devices msg))
      · cases msg <;> first | exact .of_wizard (by rintro ⟨⟩) rfl | cases hmsg
      · exact .of_frame (by rintro ⟨⟩) (frame_devices (by simpa using hmsg))
    | wizard msg => exact move_wizard msg
  | statusLoaded info => exact move_statusLoaded s info
  | configLoaded snapshot => exact .of_frame (by rintro ⟨⟩) (frame_configLoaded snapshot)
  | certEnsured fingerprint sans => exact move_certEnsured s fingerprint sans
  | certInfoLoaded fingerprint sans => exact .of_autoOpen rfl rfl rfl rfl
  | certModeLoaded mode => exact .of_wizard (by rintro ⟨⟩) rfl
  | actionOk msg => exact move_actionOk s msg
  | actionFailed msg => exact move_actionFailed s msg
  | tokensLoaded records => exact .of_autoOpen rfl rfl rfl rfl
  | tokenCreated token name readOnly => exact move_tokenCreated s token name readOnly
  | tokensChanged => exact .of_wizard (by rintro ⟨⟩) rfl
  | devicesLoaded devices relayUrl => exact .of_wizard (by rintro ⟨⟩) rfl
  | devicesChanged => exact .of_wizard (by rintro ⟨⟩) rfl
  | tokenQrReady uri host port fingerprintShort baselineClients seq =>
    exact .of_frame (by rintro ⟨⟩) (frame_qrReady uri host port fingerprintShort baselineClients seq)
  | tokenQrFailed err seq => exact .of_frame (by rintro ⟨⟩) (frame_qrFailed err seq)

/-! ### A success is taken -/

theorem isOpen_iff : Wizard.isOpen s = true ↔ DialogId.wizard ∈ s.ui.modals := by
  unfold Wizard.isOpen AppState.isOpen
  exact List.contains_iff_mem

/-- Closing another dialog leaves the wizard open. -/
theorem mem_tail_of_top {id : DialogId} (h : s.topDialog = some id) (hid : id ≠ .wizard)
    (ho : Wizard.isOpen s = true) : DialogId.wizard ∈ s.ui.modals.tail := by
  rw [isOpen_iff] at ho
  unfold AppState.topDialog at h
  cases hm : s.ui.modals with
  | nil => rw [hm] at ho; cases ho
  | cons d ds =>
    rw [hm] at h ho
    obtain rfl := Option.some.inj h
    exact (List.mem_cons.mp ho).resolve_left fun hw => hid hw.symm

/-- Opening another dialog leaves the wizard open. -/
theorem mem_openHook {id : DialogId} (h : DialogId.wizard ∈ s.ui.modals) :
    DialogId.wizard ∈ (openHook s id).1.ui.modals := by
  have hmodals : (openHook s id).1.ui.modals = s.ui.modals.open id := by
    cases id <;> rfl
  rw [hmodals]
  unfold ModalState.open
  split_ifs
  · exact h
  · exact List.mem_cons_of_mem _ h

theorem step_of_waiting {t : AppState} {step : WizardStep} (hwizard : t.wizard = s.wizard)
    (hopen : DialogId.wizard ∈ t.ui.modals) (hbusy : s.wizard.busy = true)
    (hstep : s.wizard.step = step) : Wizard.waitingOn t step = true :=
  waitingOn_iff.mpr ⟨isOpen_iff.mpr hopen, hwizard ▸ hbusy, hwizard ▸ hstep⟩

/-- The step after a result that the wizard takes. -/
theorem step_proceed {t : AppState} (h : t.wizard = s.wizard) :
    (Wizard.proceed t).1.wizard.step = s.wizard.step.next := by
  rw [proceed_wizard, h]

theorem takes_actionOk {msg : String} (ho : Wizard.isOpen s = true) (hb : s.wizard.busy = true)
    (hs : s.wizard.step = .network) :
    (update s (.actionOk msg)).1.wizard.step = s.wizard.step.next := by
  have hwait : ∀ u : Updated, u.1.wizard = s.wizard → DialogId.wizard ∈ u.1.ui.modals →
      (u.andThen Wizard.onActionOk).1.wizard.step = s.wizard.step.next := by
    intro u hw hopen
    unfold Updated.andThen Wizard.onActionOk
    rw [if_pos (step_of_waiting hw hopen hb hs)]
    exact step_proceed hw
  refine hwait _ ?_ ?_
  · dsimp only
    split_ifs
    · exact (congrArg Prod.snd frame_closeTop).trans rfl
    · rfl
    · rfl
  · dsimp only
    split_ifs with hsave htop
    · rw [closeTop_modals]
      exact mem_tail_of_top (s := s) htop (by decide) ho
    · exact isOpen_iff.mp ho
    · exact isOpen_iff.mp ho

theorem takes_certEnsured {fingerprint : String} {sans : List String}
    (ho : Wizard.isOpen s = true) (hb : s.wizard.busy = true) (hs : s.wizard.step = .certificate) :
    (update s (.certEnsured fingerprint sans)).1.wizard.step = s.wizard.step.next := by
  change ((Cert.onCertEnsured s fingerprint sans).andThen Wizard.onCertEnsured).1.wizard.step = _
  unfold Updated.andThen Wizard.onCertEnsured
  rw [if_pos (step_of_waiting (t := (Cert.onCertEnsured s fingerprint sans).1) rfl
    (isOpen_iff.mp ho) hb hs)]
  exact step_proceed rfl

theorem takes_tokenCreated {token name : String} {readOnly : Bool}
    (ho : Wizard.isOpen s = true) (hb : s.wizard.busy = true) (hs : s.wizard.step = .token) :
    (update s (.tokenCreated token name readOnly)).1.wizard.step = s.wizard.step.next := by
  change ((Tokens.onTokenCreated s token name readOnly).andThen
    Wizard.onTokenCreated).1.wizard.step = _
  have hcreated : (Tokens.onTokenCreated s token name readOnly).1.wizard = s.wizard ∧
      DialogId.wizard ∈ (Tokens.onTokenCreated s token name readOnly).1.ui.modals := by
    unfold Tokens.onTokenCreated
    dsimp only
    split_ifs with htop
    · exact ⟨(wizard_openHook _).trans rfl,
        mem_openHook (mem_tail_of_top (s := s) htop (by decide) ho)⟩
    · exact ⟨(wizard_openHook _).trans rfl, mem_openHook (isOpen_iff.mp ho)⟩
  unfold Updated.andThen Wizard.onTokenCreated
  generalize (Tokens.onTokenCreated s token name readOnly) = u at hcreated ⊢
  dsimp only
  rw [if_pos (step_of_waiting hcreated.1 hcreated.2 hb hs)]
  split_ifs
  · exact step_proceed hcreated.1
  · exact step_proceed hcreated.1

theorem takes_statusLoaded {info : Option ServerInfo} (hup : info.isSome = true)
    (ho : Wizard.isOpen s = true) (hb : s.wizard.busy = true) (hs : s.wizard.step = .start) :
    (update s (.statusLoaded info)).1.wizard.step = s.wizard.step.next := by
  change ((Server.onStatusLoaded s info).andThen Wizard.onStatusLoaded).1.wizard.step = _
  obtain ⟨hframe, hstatus, hui⟩ := frame_statusLoaded s info
  have hwizard : (Server.onStatusLoaded s info).1.wizard = s.wizard := congrArg Prod.snd hframe
  unfold Updated.andThen Wizard.onStatusLoaded
  generalize (Server.onStatusLoaded s info) = u at hwizard hstatus hui ⊢
  dsimp only
  have hopen : DialogId.wizard ∈ u.1.ui.modals := hui ▸ isOpen_iff.mp ho
  rw [if_pos (by rw [step_of_waiting hwizard hopen hb hs, hstatus, hup]; rfl)]
  exact step_proceed hwizard

/-- **The waiting wizard takes a success of its step.** -/
theorem takes_success {msg : Message} (ho : Wizard.isOpen s = true) (hb : s.wizard.busy = true)
    (h : succeeds s.wizard.step msg = true) :
    (update s msg).1.wizard.step = s.wizard.step.next := by
  cases hs : s.wizard.step with
  | network =>
    rw [hs] at h
    cases msg with
    | actionOk msg => exact hs ▸ takes_actionOk ho hb hs
    | _ => cases h
  | certificate =>
    rw [hs] at h
    cases msg with
    | certEnsured fingerprint sans => exact hs ▸ takes_certEnsured ho hb hs
    | _ => cases h
  | token =>
    rw [hs] at h
    cases msg with
    | tokenCreated token name readOnly => exact hs ▸ takes_tokenCreated ho hb hs
    | _ => cases h
  | start =>
    rw [hs] at h
    cases msg with
    | statusLoaded info => exact hs ▸ takes_statusLoaded h ho hb hs
    | _ => cases h
  | welcome =>
    rw [hs] at h
    cases msg <;> cases h
  | pair =>
    rw [hs] at h
    cases msg <;> cases h

end MuxrCore.Muxrctl.Walk
