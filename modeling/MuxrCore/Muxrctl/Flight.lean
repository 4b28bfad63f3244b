import MuxrCore.Muxrctl.Runner

/-! # The tasks that are guarded

A start or stop of the daemon, the creation of a token, the saving of the bind address, and the
polls of the ticks: of each kind one task at most is to be in flight. The reducer looks at a flag of
the feature before it dispatches such a task.

* `guarded_update`: the guarded action that a message dispatches, if it dispatches one.
* `dispatched_ofKind`, `dispatched_isTickPoll`: the tasks that it dispatches of each kind. -/

namespace MuxrCore.Muxrctl.Flight

open MuxrCore.Lib.Runs MuxrCore.Lib.Text
open MuxrCore.Pairing.Qr (AdvertiseTrust)

/-- The kinds of tasks that are guarded. -/
inductive Kind
  | daemon
  | create
  | save
  deriving DecidableEq, Repr

def kind : UpdateAction → Option Kind
  | .startServer | .stopServer => some .daemon
  | .createToken .. => some .create
  | .saveBind _ => some .save
  | _ => none

/-- A task of the kind. -/
def ofKind (k : Kind) (task : Task) : Bool := kind task.action = some k

/-- A poll that a tick has dispatched. -/
def isTickPoll (task : Task) : Bool :=
  task.action = .refreshStatus && task.origin = some .tick

/-- Of each kind there is one task in flight at most. -/
structure SingleFlight (p : Panel) : Prop where
  kinds : ∀ k, p.inFlight (ofKind k) ≤ 1
  polls : p.inFlight isTickPoll ≤ 1

/-! ### What a message asks for -/

/-- Saving the form, if it is complete and nothing is in flight. -/
def asksSave (s : AppState) : Option UpdateAction :=
  if s.config.loading || trim s.config.host = "" || !Config.validPort s.config.port then none
  else some (.saveBind s.config.bindAddr)

/-- Starting the daemon, if nothing of it is in flight. -/
def asksStart (s : AppState) : Option UpdateAction :=
  if s.server.loading then none else some .startServer

/-- What a step of the wizard asks for; a token is asked for whatever is in flight. -/
def asksStep (s : AppState) : Option UpdateAction :=
  if s.wizard.busy then none
  else match s.wizard.step with
    | .network => asksSave s
    | .token => some (Tokens.createToken s.tokens)
    | .start => if s.server.status.isSome then none else asksStart s
    | _ => none

/-- The guarded action that a message asks for. -/
def asksFor (s : AppState) : Message → Option UpdateAction
  | .key key =>
    if key.code = some 's' && s.topDialog.isNone && !s.server.isRunning then asksStart s else none
  | .ui (.server .start) => asksStart s
  | .ui (.server .stopConfirmed) => if s.server.loading then none else some .stopServer
  | .ui (.config .save) => asksSave s
  | .ui (.tokens .createSubmit) =>
    if s.tokens.loading then none else some (Tokens.createToken s.tokens)
  | .ui (.wizard .next) => asksStep s
  | _ => none

/-- A counter comes to a multiple of twenty at the next tick. -/
def due (counter : ℕ) : Bool := (counter + 1) % 2 ^ 32 % 20 = 0

/-- A tick asks for a poll: for the dashboard, or for the pairing code on display. -/
def pollDue (s : AppState) : Bool :=
  !s.server.loading &&
    (due s.server.tickCounter ||
      s.tokens.qrOverlay.any fun overlay => overlay.phase.isShowing && due overlay.tickCounter)

/-! ### The guarded actions -/

/-- The guarded actions among those to be done. -/
def guarded (u : Updated) : List UpdateAction := u.2.filter fun a => (kind a).isSome

variable {s : AppState}

@[simp] theorem guarded_nil : guarded (s, []) = [] := rfl

@[simp] theorem guarded_andThen (u : Updated) (f : AppState → Updated) :
    guarded (u.andThen f) = guarded u ++ guarded (f u.1) := List.filter_append ..

@[simp] theorem guarded_push (u : Updated) (actions : List UpdateAction) :
    guarded (u.push actions) = guarded u ++ guarded (u.1, actions) := List.filter_append ..

@[simp] theorem guarded_openHook (id : DialogId) : guarded (openHook s id) = [] := by
  cases id <;> rfl

@[simp] theorem guarded_refreshAfterClose (id : DialogId) :
    guarded (refreshAfterClose s id) = [] := by
  cases id <;> rfl

@[simp] theorem guarded_closeTop : guarded (closeTop s) = [] := by
  unfold closeTop
  split
  · exact guarded_refreshAfterClose _
  · rfl

@[simp] theorem guarded_closeAll (n : ℕ) : guarded (Wizard.closeAll n s) = [] := by
  induction n generalizing s with
  | zero => rfl
  | succ n ih =>
    unfold Wizard.closeAll
    split_ifs
    · simp [ih]
    · rfl

@[simp] theorem guarded_enterPair : guarded (Wizard.enterPair s) = [] := by
  unfold Wizard.enterPair
  split <;> rfl

@[simp] theorem guarded_goto (step : WizardStep) : guarded (Wizard.goto s step) = [] := by
  unfold Wizard.goto
  dsimp only
  split_ifs
  · exact guarded_enterPair
  · rfl

@[simp] theorem guarded_advance : guarded (Wizard.advance s) = [] := guarded_goto _

@[simp] theorem guarded_proceed : guarded (Wizard.proceed s) = [] := guarded_advance

@[simp] theorem guarded_openQr : guarded (Tokens.openQr s) = [] := by
  unfold Tokens.openQr
  split
  · rfl
  · rw [guarded_push, guarded_openHook]
    rfl

/-- The wizard stays as it is, or it is opened at its first step. -/
theorem maybeAutoOpen_cases (s : AppState) :
    (∃ w, w.step = s.wizard.step ∧ w.busy = s.wizard.busy ∧
      Wizard.maybeAutoOpen s = (s.setWizard w, [])) ∨
    ∃ w, w.step = .welcome ∧ w.busy = false ∧ s.topDialog = none ∧
      Wizard.maybeAutoOpen s = (openHook (s.setWizard w) .wizard).push [.loadConfig] := by
  unfold Wizard.maybeAutoOpen
  generalize hw : (if s.wizard.tokensMarkPending then _ else _ : WizardState) = w
  have hstep : w.step = s.wizard.step ∧ w.busy = s.wizard.busy := by
    rw [← hw]
    split_ifs <;> exact ⟨rfl, rfl⟩
  by_cases hchecked : w.firstRunChecked || !(w.certInfoSeen && w.tokensSeen)
  · exact .inl ⟨w, hstep.1, hstep.2, if_pos hchecked⟩
  · by_cases hopen : !(s.cert.fingerprint.isNone && s.tokens.tokens.isEmpty) || s.topDialog.isSome
    · exact .inl ⟨{ w with firstRunChecked := true }, hstep.1, hstep.2,
        (if_neg hchecked).trans (if_pos hopen)⟩
    · refine .inr ⟨_, rfl, rfl, ?_, (if_neg hchecked).trans (if_neg hopen)⟩
      rw [Bool.or_eq_true, not_or] at hopen
      simpa using hopen.2

@[simp] theorem guarded_maybeAutoOpen : guarded (Wizard.maybeAutoOpen s) = [] := by
  obtain ⟨w, -, -, h⟩ | ⟨w, -, -, -, h⟩ := maybeAutoOpen_cases s
  · rw [h, guarded_nil]
  · rw [h, guarded_push, guarded_openHook]
    rfl

theorem closeTop_server (s : AppState) : (closeTop s).1.server = s.server := by
  unfold closeTop
  split
  next id _ => cases id <;> rfl
  · rfl

/-- Save does what it is asked for, or shows what is wrong with the form. -/
theorem save_cases (s : AppState) :
    (∃ c, Config.save s = (s.setConfig c, []) ∧ asksSave s = none ∧
      c.loading = s.config.loading) ∨
    ∃ c, c.error = none ∧ Config.save s = (s.setConfig c, [.saveBind s.config.bindAddr]) ∧
      asksSave s = some (.saveBind s.config.bindAddr) ∧ c.loading = true := by
  unfold Config.save asksSave
  by_cases hl : s.config.loading
  · exact .inl ⟨s.config, if_pos hl, by simp [hl], rfl⟩
  · rw [if_neg hl]
    by_cases hh : trim s.config.host = ""
    · exact .inl ⟨_, if_pos hh, by simp [hh], rfl⟩
    · rw [if_neg hh]
      by_cases hp : Config.validPort s.config.port
      · exact .inr ⟨_, rfl, if_neg (by simp [hp]), by simp [hl, hh, hp], rfl⟩
      · exact .inl ⟨_, if_pos (by simp [hp]), by simp [hp], rfl⟩

theorem guarded_save : guarded (Config.save s) = (asksSave s).toList := by
  obtain ⟨c, h, hasks, -⟩ | ⟨c, -, h, hasks, -⟩ := save_cases s
  · rw [h, hasks]; rfl
  · rw [h, hasks]; rfl

/-- The wizard saves the form of the Config dialog, its error left aside. -/
theorem saveBind_cases (s : AppState) :
    (∃ c e, Wizard.saveBind s = (Wizard.fail (s.setConfig c) e, []) ∧ asksSave s = none ∧
      c.loading = s.config.loading) ∨
    ∃ c, Wizard.saveBind s = (Wizard.wait (s.setConfig c), [.saveBind s.config.bindAddr]) ∧
      asksSave s = some (.saveBind s.config.bindAddr) ∧ c.loading = true := by
  have hclear : asksSave (s.setConfig { s.config with error := none }) = asksSave s := rfl
  rw [← hclear]
  unfold Wizard.saveBind Config.update
  obtain ⟨c, h, hasks, hl⟩ | ⟨c, he, h, hasks, hl⟩ :=
    save_cases (s.setConfig { s.config with error := none })
  · left
    rw [h, hasks]
    cases hc : c.error with
    | none => exact ⟨c, _, by simp only [AppState.setConfig, hc]; rfl, rfl, hl⟩
    | some e => exact ⟨c, e, by simp only [AppState.setConfig, hc], rfl, hl⟩
  · right
    rw [h, hasks]
    exact ⟨c, by simp only [AppState.setConfig, he]; rfl, rfl, hl⟩

theorem guarded_saveBind : guarded (Wizard.saveBind s) = (asksSave s).toList := by
  obtain ⟨c, e, h, hasks, -⟩ | ⟨c, h, hasks, -⟩ := saveBind_cases s
  · rw [h, hasks]; rfl
  · rw [h, hasks]; rfl

theorem guarded_start : guarded (Server.update s .start) = (asksStart s).toList := by
  unfold Server.update asksStart
  dsimp only
  split_ifs <;> rfl

/-- The wizard starts the daemon that is not up, as the dashboard does. -/
theorem startDaemon_cases (s : AppState) :
    (s.server.status.isSome = true ∧ Wizard.startDaemon s = Wizard.advance s) ∨
    (s.server.status.isSome = false ∧ asksStart s = none ∧
      ∃ e, Wizard.startDaemon s = (Wizard.fail s e, [])) ∨
    (s.server.status.isSome = false ∧ asksStart s = some .startServer ∧
      ∃ p, p.loading = true ∧
        Wizard.startDaemon s = (Wizard.wait (s.setServer p), [.startServer])) := by
  unfold Wizard.startDaemon
  by_cases hup : s.server.status.isSome
  · exact .inl ⟨hup, if_pos hup⟩
  · right
    rw [if_neg hup]
    unfold Server.update asksStart
    by_cases hl : s.server.loading
    · exact .inl ⟨by simpa using hup, if_pos hl, _, by simp [hl]; rfl⟩
    · exact .inr ⟨by simpa using hup, if_neg hl,
        { s.server with loading := true, stopped := false }, rfl, by simp [hl]⟩

theorem guarded_startDaemon :
    guarded (Wizard.startDaemon s) =
      (if s.server.status.isSome then none else asksStart s).toList := by
  obtain ⟨hup, h⟩ | ⟨hup, hasks, e, h⟩ | ⟨hup, hasks, q, -, h⟩ := startDaemon_cases s
  · rw [h, guarded_advance, hup]; rfl
  · rw [h, hup, hasks]; rfl
  · rw [h, hup, hasks]; rfl

theorem guarded_next : guarded (Wizard.next s) = (asksStep s).toList := by
  unfold Wizard.next asksStep
  by_cases hb : s.wizard.busy
  · simp [hb]
  · rw [if_neg hb, if_neg hb]
    cases s.wizard.step with
    | welcome => exact guarded_advance
    | network => exact guarded_saveBind
    | certificate =>
      dsimp only
      unfold Wizard.ensureCert
      split_ifs
      · exact guarded_advance
      · rfl
    | token => rfl
    | start => exact guarded_startDaemon
    | pair => rfl

/-! ### The messages -/

theorem guarded_config (msg : ConfigMsg) :
    guarded (Config.update s msg) = (asksFor s (.ui (.config msg))).toList := by
  cases msg with
  | save => exact guarded_save
  | cancel => exact guarded_closeTop
  | _ => rfl

theorem guarded_server (msg : ServerMsg) :
    guarded (Server.update s msg) = (asksFor s (.ui (.server msg))).toList := by
  cases msg with
  | start => exact guarded_start
  | stopRequested => exact guarded_openHook _
  | stopConfirmed =>
    -- closing the dialog does not touch the flag of the daemon
    have hrest := guarded_closeTop (s := s)
    unfold Server.update asksFor
    dsimp only
    rw [closeTop_server]
    unfold guarded at hrest ⊢
    split_ifs
    · exact hrest
    · rw [List.filter_append, hrest]; rfl
  | stopCancelled => exact guarded_closeTop
  | refresh =>
    unfold Server.update
    dsimp only
    split_ifs <;> rfl

theorem guarded_cert (msg : CertMsg) : guarded (Cert.update s msg) = [] := by
  cases msg with
  | close => exact guarded_closeTop
  | closeHelp => exact guarded_closeTop
  | regenerateCancelled => exact guarded_closeTop
  | openHelp => exact guarded_openHook _
  | regenerateRequested => exact guarded_openHook _
  | _ => rfl

theorem guarded_tokens (msg : TokensMsg) :
    guarded (Tokens.update s msg) = (asksFor s (.ui (.tokens msg))).toList := by
  cases msg with
  | close => exact guarded_closeTop
  | createCancel => exact guarded_closeTop
  | mintedDone => exact guarded_closeTop
  | revokeCancelled => exact guarded_closeTop
  | createRequested => exact guarded_openHook _
  | createSubmit =>
    unfold Tokens.update asksFor
    dsimp only
    split_ifs <;> rfl
  | mintedShowQr => exact guarded_openQr
  | showQrForMinted => exact guarded_openQr
  | revokeRequested =>
    unfold Tokens.update
    dsimp only
    split_ifs
    · rfl
    · exact guarded_openHook _
  | revokeConfirmed =>
    have hrest := guarded_closeTop (s := s)
    unfold Tokens.update
    dsimp only
    split
    · exact hrest
    · unfold guarded at hrest ⊢
      rw [List.filter_append, hrest]; rfl
  | qrClose =>
    unfold Tokens.update
    dsimp only
    split_ifs
    · exact guarded_closeTop
    · rfl
  | _ => rfl

theorem guarded_devices (msg : DevicesMsg) : guarded (Devices.update s msg) = [] := by
  cases msg with
  | close => exact guarded_closeTop
  | removeCancelled => exact guarded_closeTop
  | removeRequested =>
    unfold Devices.update
    dsimp only
    split_ifs
    · exact guarded_openHook _
    · rfl
  | removeConfirmed =>
    have hrest := guarded_closeTop (s := s)
    unfold Devices.update
    dsimp only
    split
    · exact hrest
    · unfold guarded at hrest ⊢
      rw [List.filter_append, hrest]; rfl
  | _ => rfl

theorem guarded_close : guarded (Wizard.close s) = [] := guarded_closeAll _

theorem guarded_wizard (msg : WizardMsg) :
    guarded (Wizard.update s msg) = (asksFor s (.ui (.wizard msg))).toList := by
  cases msg with
  | close => exact guarded_close
  | next => exact guarded_next
  | back =>
    unfold Wizard.update Wizard.back
    dsimp only
    split_ifs <;> rfl
  | regenAckChanged ack => rfl
  | finish =>
    have hrest := guarded_close (s := s)
    unfold guarded at hrest
    unfold Wizard.update Wizard.finish guarded
    dsimp only
    rw [List.filter_append, hrest]
    rfl

theorem guarded_key (key : KeyEvent) :
    guarded (handleKey s key) = (asksFor s (.key key)).toList := by
  unfold handleKey asksFor
  dsimp only
  by_cases hquit : key.ctrl && key.code = some 'c'
  · have hcode : key.code = some 'c' := by simpa using (Bool.and_eq_true_iff.mp hquit).2
    rw [if_pos hquit, hcode]
    rfl
  rw [if_neg hquit]
  by_cases htop : s.topDialog.isSome
  · have hnone : s.topDialog.isNone = false := by simp [htop]
    rw [if_pos htop, hnone, Bool.and_false, Bool.false_and]
    rfl
  rw [if_neg htop]
  have hnone : s.topDialog.isNone = true := by simpa using htop
  split
  case h_7 hcode =>
    -- the key that starts the daemon, or asks whether to stop it
    rw [hcode, hnone]
    cases s.server.isRunning with
    | true => exact guarded_openHook _
    | false => exact guarded_start
  case h_9 hs _ =>
    have hcode : key.code ≠ some 's' := hs
    rw [if_neg (by simp [hcode])]
    rfl
  all_goals
    next hcode =>
    rw [hcode, if_neg (by simp)]
    rfl

/-- The poll of the dashboard. -/
theorem pollTick_cases (s : AppState) :
    (s.server.loading = true ∧ pollTick s = (s, [])) ∨
    (s.server.loading = false ∧ due s.server.tickCounter = true ∧
      ∃ p, p.loading = true ∧ pollTick s = (s.setServer p, [.refreshStatus])) ∨
    (s.server.loading = false ∧ due s.server.tickCounter = false ∧
      ∃ p, p.loading = false ∧ pollTick s = (s.setServer p, [])) := by
  unfold pollTick due
  by_cases hl : s.server.loading
  · exact .inl ⟨hl, if_pos hl⟩
  · have hf : s.server.loading = false := by simpa using hl
    right
    rw [if_neg hl]
    by_cases hdue : (s.server.tickCounter + 1) % 2 ^ 32 % 20 = 0
    · exact .inl ⟨hf, by simpa using hdue, _, rfl, if_pos hdue⟩
    · exact .inr ⟨hf, by simpa using hdue,
        { s.server with tickCounter := (s.server.tickCounter + 1) % 2 ^ 32 }, hf, if_neg hdue⟩

/-- The poll of the pairing code. -/
theorem onTick_actions (s : AppState) :
    (Tokens.onTick s).2 =
      if !s.server.loading && s.tokens.qrOverlay.any fun overlay =>
        overlay.phase.isShowing && due overlay.tickCounter then [.refreshStatus] else [] := by
  unfold Tokens.onTick
  by_cases hl : s.server.loading
  · simp [hl]
  · rw [if_neg hl]
    cases hq : s.tokens.qrOverlay with
    | none => simp
    | some overlay =>
      cases hs : overlay.phase.isShowing with
      | false => simp [hs]
      | true =>
        simp only [hl, hs, due, Option.any_some, Bool.true_and, Bool.not_false, Bool.not_true,
          Bool.false_eq_true, if_false]
        split_ifs <;> simp_all

/-- A tick polls if a poll is due, and does nothing else. -/
theorem tick_actions (s : AppState) :
    (handleTick s).2 = if pollDue s then [.refreshStatus] else [] := by
  unfold handleTick Updated.andThen pollDue
  dsimp only
  rw [onTick_actions]
  obtain ⟨hl, h⟩ | ⟨hl, hdue, p, hp, h⟩ | ⟨hl, hdue, p, hp, h⟩ := pollTick_cases s
  · rw [h, hl]; rfl
  · -- the second poll finds the flag that the first one has set
    rw [h, hl, hdue]
    simp [AppState.setServer, hp]
  · rw [h, hl, hdue]
    simp [AppState.setServer, hp]

theorem guarded_actionOk (msg : String) : guarded (onActionOk s msg) = [] := by
  unfold onActionOk Wizard.onActionOk
  dsimp only
  rw [guarded_andThen]
  split_ifs <;> simp

theorem guarded_actionFailed (msg : String) : guarded (onActionFailed s msg) = [] := by
  unfold onActionFailed Wizard.onActionFailed
  dsimp only
  split_ifs <;> rfl

theorem guarded_statusLoaded (info : Option ServerInfo) :
    guarded ((Server.onStatusLoaded s info).andThen Wizard.onStatusLoaded) = [] := by
  rw [guarded_andThen]
  unfold Server.onStatusLoaded Tokens.onStatusForQr Wizard.onStatusLoaded
  split <;> split_ifs <;> simp

theorem guarded_tokenCreated (token name : String) (readOnly : Bool) :
    guarded (Tokens.onTokenCreated s token name readOnly) = [] := by
  unfold Tokens.onTokenCreated
  rw [guarded_push, guarded_openHook]
  rfl

theorem guarded_wizardTokenCreated : guarded (Wizard.onTokenCreated s) = [] := by
  unfold Wizard.onTokenCreated
  split
  · exact guarded_proceed
  · rfl

/-- **The guarded action that a message dispatches** is the one that it asks for. -/
theorem guarded_update (s : AppState) (msg : Message) :
    guarded (update s msg) = (asksFor s msg).toList := by
  cases msg with
  | key key => exact guarded_key key
  | tick =>
    unfold guarded update
    rw [tick_actions]
    split_ifs <;> rfl
  | quit => rfl
  | ui msg =>
    cases msg with
    | focus => rfl
    | «open» id => exact guarded_openHook id
    | close => exact guarded_closeTop
    | config msg => exact guarded_config msg
    | server msg => exact guarded_server msg
    | cert msg => exact guarded_cert msg
    | tokens msg => exact guarded_tokens msg
    | devices msg => exact guarded_devices msg
    | wizard msg => exact guarded_wizard msg
  | statusLoaded info => exact guarded_statusLoaded info
  | configLoaded snapshot => rfl
  | certEnsured fingerprint sans =>
    change guarded (Updated.andThen _ _) = []
    rw [guarded_andThen]
    unfold Wizard.onCertEnsured
    split_ifs
    · rw [guarded_proceed]; rfl
    · rfl
  | certInfoLoaded fingerprint sans => exact guarded_maybeAutoOpen
  | certModeLoaded mode => rfl
  | actionOk msg => exact guarded_actionOk msg
  | actionFailed msg => exact guarded_actionFailed msg
  | tokensLoaded records => exact guarded_maybeAutoOpen
  | tokenCreated token name readOnly =>
    change guarded (Updated.andThen _ _) = []
    rw [guarded_andThen, guarded_tokenCreated, guarded_wizardTokenCreated]
    rfl
  | tokensChanged => rfl
  | devicesLoaded devices relayUrl => rfl
  | devicesChanged => rfl
  | tokenQrReady uri host port fingerprintShort baselineClients seq =>
    change guarded (Tokens.onQrReady ..) = []
    unfold Tokens.onQrReady
    split
    · rfl
    · split_ifs <;> rfl
  | tokenQrFailed err seq =>
    change guarded (Tokens.onQrFailed ..) = []
    unfold Tokens.onQrFailed
    split
    · rfl
    · split_ifs <;> rfl

/-- A result asks for nothing. -/
theorem asksFor_result {msg : Message} (h : msg.isResult = true) : asksFor s msg = none := by
  cases msg <;> first | rfl | cases h

/-! ### Counting the tasks -/

/-- The task that a message dispatches of a kind. -/
theorem dispatched_ofKind (s : AppState) (msg : Message) (visit : ℕ) (k : Kind) :
    dispatched s msg visit (ofKind k) = if (asksFor s msg).bind kind = some k then 1 else 0 := by
  have hguarded : dispatched s msg visit (ofKind k) =
      (guarded (update s msg)).countP fun a => kind a = some k := by
    unfold dispatched guarded
    rw [List.countP_map, List.countP_filter, List.countP_filter]
    refine List.countP_congr fun a _ => ?_
    -- an action of a kind is guarded, and it is done as a task
    cases a <;> simp [ofKind, kind, UpdateAction.isTask]
  rw [hguarded, guarded_update]
  cases asksFor s msg with
  | none => rfl
  | some a => simp [List.countP_cons]

/-- The poll that a message dispatches as a tick. -/
theorem dispatched_isTickPoll (s : AppState) (msg : Message) (visit : ℕ) :
    dispatched s msg visit isTickPoll = if msg = .tick ∧ pollDue s = true then 1 else 0 := by
  unfold dispatched
  by_cases htick : msg = .tick
  · subst htick
    change List.countP _ (List.map _ (List.filter _ (handleTick s).2)) = _
    rw [tick_actions]
    cases pollDue s <;> rfl
  · rw [if_neg fun h => htick h.1, List.countP_eq_zero]
    intro task htask
    obtain ⟨a, -, rfl⟩ := List.mem_map.mp htask
    simp [isTickPoll, htick]

end MuxrCore.Muxrctl.Flight
