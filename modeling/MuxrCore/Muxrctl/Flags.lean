import MuxrCore.Muxrctl.Frame

/-! # One task at a time

Each feature has one flag for all of its tasks. A message that dispatches a guarded task finds the
flag down and raises it, except at the wizard's Token step, which does not look at it. Nothing that
the operator does lowers a flag; the result of any task of the feature does.

* `rises_update`: a message that does not clear a flag leaves it up.
* `asks_cases`: a guarded task is asked for where the flag is down, which is up after it.
* `singleFlight_of_calm`: no kind ever has two tasks in flight, unless the result of another task
  clears the flag of an unanswered one, or the wizard asks for a token while one is being created.
* `created_twice`: then two tokens are created for one form. -/

namespace MuxrCore.Muxrctl.Flight

open MuxrCore.Lib.Runs
open MuxrCore.Pairing.Qr (AdvertiseTrust)

/-! ### The flags -/

/-- The features with guarded tasks. -/
inductive Feature
  | server
  | tokens
  | config
  deriving DecidableEq, Repr

/-- A task of the feature is in flight, as the reducer has it. -/
def flag (s : AppState) : Feature → Bool
  | .server => s.server.loading
  | .tokens => s.tokens.loading
  | .config => s.config.loading

def Kind.feature : Kind → Feature
  | .daemon => .server
  | .create => .tokens
  | .save => .config

/-- The results that clear a flag. -/
def clears : Feature → Message → Bool
  | _, .actionOk _ | _, .actionFailed _ => true
  | .server, .statusLoaded _ => true
  | .tokens, .tokensLoaded _ | .tokens, .tokenCreated .. => true
  | .config, .configLoaded _ => true
  | _, _ => false

/-- How many of the tasks are guarded by the flag. -/
def unanswered (tasks : List Task) : Feature → ℕ
  | .server => tasks.countP (ofKind .daemon) + tasks.countP isTickPoll
  | .tokens => tasks.countP (ofKind .create)
  | .config => tasks.countP (ofKind .save)

/-- No result clears the flag of another task, a guarded one that is unanswered; and the wizard does
not go on from its Token step while a token is being created. -/
def Calm (p : Panel) : Event → Prop
  | .result index msg => ∀ f, clears f msg = true → unanswered (p.tasks.eraseIdx index) f = 0
  | .input msg => msg = wizardNext → p.app.wizard.step = .token → p.app.wizard.busy = false →
    p.inFlight (ofKind .create) = 0

instance {P : Feature → Prop} [DecidablePred P] : Decidable (∀ f, P f) :=
  decidable_of_iff (P .server ∧ P .tokens ∧ P .config)
    ⟨fun ⟨hs, ht, hc⟩ f => by cases f <;> assumption, fun h => ⟨h _, h _, h _⟩⟩

instance (p : Panel) : DecidablePred (Calm p)
  | .result index msg => inferInstanceAs (Decidable (∀ f, clears f msg = true →
      unanswered (p.tasks.eraseIdx index) f = 0))
  | .input msg => inferInstanceAs (Decidable (msg = wizardNext → p.app.wizard.step = .token →
      p.app.wizard.busy = false → p.inFlight (ofKind .create) = 0))

/-- The flags that are up in the one state are up in the other. -/
structure Rises (s t : AppState) : Prop where
  server : s.server.loading = true → t.server.loading = true
  tokens : s.tokens.loading = true → t.tokens.loading = true
  config : s.config.loading = true → t.config.loading = true

variable {s t u : AppState} {f : Feature}

theorem Rises.refl (s : AppState) : Rises s s := ⟨id, id, id⟩

theorem Rises.trans (h : Rises s t) (h' : Rises t u) : Rises s u :=
  ⟨h'.server ∘ h.server, h'.tokens ∘ h.tokens, h'.config ∘ h.config⟩

theorem Rises.of_flag (h : ∀ f, Flight.flag t f = Flight.flag s f) : Rises s t :=
  ⟨(h .server).trans, (h .tokens).trans, (h .config).trans⟩

/-- The wizard has no flag of the features. -/
theorem Rises.of_setWizard {w : WizardState} (h : Rises (s.setWizard w) t) : Rises s t :=
  ⟨h.server, h.tokens, h.config⟩

theorem Rises.flag (h : Rises s t) (hs : flag s f = true) : flag t f = true := by
  cases f with
  | server => exact h.server hs
  | tokens => exact h.tokens hs
  | config => exact h.config hs

/-! ### What leaves the flags up -/

theorem rises_openHook (dialog : DialogId) : Rises s (openHook s dialog).1 := by
  cases dialog with
  | config => exact ⟨id, id, fun _ => rfl⟩
  | cert => exact ⟨id, id, fun _ => rfl⟩
  | tokens => exact ⟨id, fun _ => rfl, id⟩
  | _ => exact ⟨id, id, id⟩

theorem rises_refreshAfterClose (dialog : DialogId) :
    Rises s (refreshAfterClose s dialog).1 := by
  cases dialog with
  | tokens => exact ⟨id, fun _ => rfl, id⟩
  | tokenCreate => exact ⟨id, fun _ => rfl, id⟩
  | tokenMinted => exact ⟨id, fun _ => rfl, id⟩
  | config => exact ⟨id, id, fun _ => rfl⟩
  | _ => exact ⟨id, id, id⟩

theorem rises_closeTop : Rises s (closeTop s).1 := by
  unfold closeTop
  split
  next dialog _ =>
    have hclosed : Rises s s.closeDialog := ⟨id, id, id⟩
    exact hclosed.trans (rises_refreshAfterClose dialog)
  · exact .refl s

theorem rises_closeAll (n : ℕ) : Rises s (Wizard.closeAll n s).1 := by
  induction n generalizing s with
  | zero => exact .refl s
  | succ n ih =>
    unfold Wizard.closeAll
    split_ifs
    · exact rises_closeTop.trans ih
    · exact .refl s

theorem flag_goto (step : WizardStep) : flag (Wizard.goto s step).1 f = flag s f := by
  unfold Wizard.goto Wizard.enterPair
  dsimp only
  split_ifs
  · split <;> cases f <;> rfl
  · cases f <;> rfl

theorem rises_advance : Rises s (Wizard.advance s).1 := .of_flag fun _ => flag_goto _

theorem flag_proceed : flag (Wizard.proceed s).1 f = flag s f := by
  refine (flag_goto _).trans ?_
  cases f <;> rfl

theorem rises_openQr : Rises s (Tokens.openQr s).1 := by
  unfold Tokens.openQr
  split
  · exact ⟨id, id, id⟩
  · exact ⟨id, id, id⟩

theorem flag_maybeAutoOpen : flag (Wizard.maybeAutoOpen s).1 f = flag s f := by
  obtain ⟨w, -, -, h⟩ | ⟨w, -, -, -, h⟩ := maybeAutoOpen_cases s
  · rw [h]
    cases f <;> rfl
  · rw [h]
    cases f <;> rfl

/-! ### What the operator does -/

theorem rises_save : Rises s (Config.save s).1 := by
  obtain ⟨c, h, -, hl⟩ | ⟨c, -, h, -, hl⟩ := save_cases s
  · rw [h]
    exact ⟨id, id, hl.trans⟩
  · rw [h]
    exact ⟨id, id, fun _ => hl⟩

theorem rises_config (msg : ConfigMsg) : Rises s (Config.update s msg).1 := by
  cases msg with
  | save => exact rises_save
  | cancel => exact rises_closeTop
  | _ => exact ⟨id, id, id⟩

theorem rises_server (msg : ServerMsg) : Rises s (Server.update s msg).1 := by
  unfold Server.update
  cases msg with
  | start =>
    dsimp only
    split_ifs
    · exact .refl s
    · exact ⟨fun _ => rfl, id, id⟩
  | stopRequested => exact rises_openHook _
  | stopConfirmed =>
    dsimp only
    split_ifs
    · exact rises_closeTop
    · exact rises_closeTop.trans ⟨fun _ => rfl, id, id⟩
  | stopCancelled => exact rises_closeTop
  | refresh =>
    dsimp only
    split_ifs
    · exact .refl s
    · exact ⟨fun _ => rfl, id, id⟩

theorem rises_cert (msg : CertMsg) : Rises s (Cert.update s msg).1 := by
  cases msg with
  | close => exact rises_closeTop
  | closeHelp => exact rises_closeTop
  | regenerateCancelled => exact rises_closeTop
  | _ => exact ⟨id, id, id⟩

theorem rises_tokens (msg : TokensMsg) : Rises s (Tokens.update s msg).1 := by
  unfold Tokens.update
  cases msg with
  | close => exact rises_closeTop
  | createCancel => exact rises_closeTop
  | mintedDone => exact rises_closeTop
  | revokeCancelled => exact rises_closeTop
  | createSubmit =>
    dsimp only
    split_ifs
    · exact .refl s
    · exact ⟨id, fun _ => rfl, id⟩
  | mintedShowQr => exact rises_openQr
  | showQrForMinted => exact rises_openQr
  | revokeRequested =>
    dsimp only
    split_ifs
    · exact .refl s
    · exact ⟨id, id, id⟩
  | revokeConfirmed =>
    dsimp only
    split
    · exact rises_closeTop
    · exact rises_closeTop.trans ⟨id, fun _ => rfl, id⟩
  | qrClose =>
    have hqr : Rises s (s.setTokens { s.tokens with qrOverlay := none }) := ⟨id, id, id⟩
    dsimp only
    split_ifs
    · exact hqr.trans rises_closeTop
    · exact hqr
  | refresh => exact ⟨id, fun _ => rfl, id⟩
  | _ => exact ⟨id, id, id⟩

theorem rises_devices (msg : DevicesMsg) : Rises s (Devices.update s msg).1 := by
  unfold Devices.update
  cases msg with
  | close => exact rises_closeTop
  | removeCancelled => exact rises_closeTop
  | removeRequested =>
    dsimp only
    split_ifs
    · exact ⟨id, id, id⟩
    · exact .refl s
  | removeConfirmed =>
    dsimp only
    split
    · exact rises_closeTop
    · exact rises_closeTop.trans ⟨id, id, id⟩
  | _ => exact ⟨id, id, id⟩

theorem rises_next : Rises s (Wizard.next s).1 := by
  unfold Wizard.next
  split_ifs
  · exact .refl s
  split
  · exact rises_advance.of_setWizard
  · obtain ⟨c, e, h, -, hl⟩ | ⟨c, h, -, hl⟩ := saveBind_cases s
    · rw [h]
      exact ⟨id, id, hl.trans⟩
    · rw [h]
      exact ⟨id, id, fun _ => hl⟩
  · unfold Wizard.ensureCert
    split_ifs
    · exact rises_advance
    · exact ⟨id, id, id⟩
  · exact ⟨id, fun _ => rfl, id⟩
  · obtain ⟨-, h⟩ | ⟨-, -, e, h⟩ | ⟨-, -, q, hl, h⟩ := startDaemon_cases s
    · rw [h]
      exact rises_advance
    · rw [h]
      exact ⟨id, id, id⟩
    · rw [h]
      exact ⟨fun _ => hl, id, id⟩
  · exact .refl s

theorem rises_close : Rises s (Wizard.close s).1 := by
  have hqr : Rises (s.setWizard { s.wizard with busy := false, error := none })
      ((s.setWizard { s.wizard with busy := false, error := none }).setTokens
        { s.tokens with qrOverlay := none }) := ⟨id, id, id⟩
  exact (hqr.trans (rises_closeAll _)).of_setWizard

theorem rises_wizard (msg : WizardMsg) : Rises s (Wizard.update s msg).1 := by
  cases msg with
  | close => exact rises_close
  | next => exact rises_next
  | back =>
    unfold Wizard.update Wizard.back
    dsimp only
    split_ifs <;> exact ⟨id, id, id⟩
  | regenAckChanged ack => exact ⟨id, id, id⟩
  | finish => exact rises_close.trans ⟨fun _ => rfl, fun _ => rfl, id⟩

theorem rises_key (key : KeyEvent) : Rises s (handleKey s key).1 := by
  unfold handleKey
  split
  · exact ⟨id, id, id⟩
  split
  · exact .refl s
  split
  case h_1 => exact ⟨id, id, id⟩
  case h_7 => exact rises_server _
  case h_8 => exact .refl s
  case h_9 => exact .refl s
  all_goals exact rises_openHook _

/-! ### Ticks and results -/

/-- The poll of the pairing code raises the flag of the daemon, and nothing else is changed of the
flags. -/
theorem rises_onTick : Rises s (Tokens.onTick s).1 ∧
    ((Tokens.onTick s).2 ≠ [] → (Tokens.onTick s).1.server.loading = true) := by
  unfold Tokens.onTick
  split_ifs
  · exact ⟨.refl s, fun h => absurd rfl h⟩
  split
  · exact ⟨.refl s, fun h => absurd rfl h⟩
  dsimp only
  split_ifs
  · exact ⟨⟨id, id, id⟩, fun h => absurd rfl h⟩
  · exact ⟨⟨fun _ => rfl, id, id⟩, fun _ => rfl⟩
  · exact ⟨⟨id, id, id⟩, fun h => absurd rfl h⟩

theorem rises_pollTick : Rises s (pollTick s).1 ∧
    ((pollTick s).2 ≠ [] → (pollTick s).1.server.loading = true) := by
  obtain ⟨-, h⟩ | ⟨-, -, p, hp, h⟩ | ⟨hl, -, p, -, h⟩ := pollTick_cases s
  · rw [h]
    exact ⟨.refl s, fun h => absurd rfl h⟩
  · rw [h]
    exact ⟨⟨fun _ => hp, id, id⟩, fun _ => hp⟩
  · rw [h]
    exact ⟨⟨fun hs => absurd hs (by simp [hl]), id, id⟩, fun h => absurd rfl h⟩

/-- A tick that polls raises the flag of the daemon. -/
theorem rises_tick : Rises s (handleTick s).1 ∧
    ((handleTick s).2 ≠ [] → (handleTick s).1.server.loading = true) := by
  obtain ⟨hpoll, hup⟩ := rises_pollTick (s := s)
  obtain ⟨hqr, hup'⟩ := rises_onTick (s := (pollTick s).1)
  refine ⟨hpoll.trans hqr, fun h => ?_⟩
  by_cases hnil : (pollTick s).2 = []
  · refine hup' fun hnil' => h ?_
    exact List.append_eq_nil_iff.mpr ⟨hnil, hnil'⟩
  · exact hqr.server (hup hnil)

theorem rises_ui (msg : UiMsg) : Rises s (handleUi s msg).1 := by
  cases msg with
  | focus => exact .refl s
  | «open» dialog => exact rises_openHook dialog
  | close => exact rises_closeTop
  | config msg => exact rises_config msg
  | server msg => exact rises_server msg
  | cert msg => exact rises_cert msg
  | tokens msg => exact rises_tokens msg
  | devices msg => exact rises_devices msg
  | wizard msg => exact rises_wizard msg

/-- A new certificate leaves the flags as they are. -/
theorem flag_certEnsured (fingerprint : String) (sans : List String) :
    flag (update s (.certEnsured fingerprint sans)).1 f = flag s f := by
  change flag (Wizard.onCertEnsured _).1 f = _
  unfold Wizard.onCertEnsured
  split_ifs
  · refine flag_proceed.trans ?_
    cases f <;> rfl
  · cases f <;> rfl

theorem flag_certInfoLoaded (fingerprint : Option String) (sans : List String) :
    flag (update s (.certInfoLoaded fingerprint sans)).1 f = flag s f := by
  refine flag_maybeAutoOpen.trans ?_
  cases f <;> rfl

theorem flag_qrReady (uri host : String) (port : ℕ) (fingerprintShort : String)
    (baselineClients seq : ℕ) :
    flag (Tokens.onQrReady s uri host port fingerprintShort baselineClients seq).1 f =
      flag s f := by
  unfold Tokens.onQrReady
  split
  · rfl
  · split_ifs
    · cases f <;> rfl
    · rfl

theorem flag_qrFailed (err : String) (seq : ℕ) :
    flag (Tokens.onQrFailed s err seq).1 f = flag s f := by
  unfold Tokens.onQrFailed
  split
  · rfl
  · split_ifs
    · cases f <;> rfl
    · rfl

/-- A status clears the flag of the daemon, and no other. -/
theorem flag_statusLoaded (info : Option ServerInfo) :
    flag (update s (.statusLoaded info)).1 f =
      (flag s f && !clears f (.statusLoaded info)) := by
  have hstatus : flag (Server.onStatusLoaded s info).1 f =
      (flag s f && !clears f (.statusLoaded info)) := by
    unfold Server.onStatusLoaded Tokens.onStatusForQr
    cases info with
    | none => cases f <;> simp [flag, clears, AppState.setServer]
    | some info =>
      dsimp only [Option.map_some]
      obtain ⟨o, ho⟩ := checkOverlayConnection_cases (s.setServer { s.server with
        status := some info, stopped := (some info).isNone, loading := false }) info.clientCount
      rw [ho]
      cases f <;> simp [flag, clears, AppState.setServer, AppState.setTokens]
  rw [← hstatus]
  change flag (Wizard.onStatusLoaded _).1 f = _
  unfold Wizard.onStatusLoaded
  split_ifs
  · exact flag_proceed
  · rfl

theorem flag_setConfig (c : ConfigState) :
    flag (s.setConfig c) f = if f = .config then c.loading else flag s f := by
  cases f <;> rfl

/-- The form clears its flag, and no other. -/
theorem flag_configLoaded (snapshot : ConfigSnapshot) :
    flag (update s (.configLoaded snapshot)).1 f =
      (flag s f && !clears f (.configLoaded snapshot)) := by
  change flag (Config.onConfigLoaded s snapshot).1 f = _
  unfold Config.onConfigLoaded
  rw [flag_setConfig]
  cases f <;> simp [clears]

/-- The list of tokens clears their flag, and no other. -/
theorem flag_tokensLoaded (records : List TokenRecord) :
    flag (update s (.tokensLoaded records)).1 f =
      (flag s f && !clears f (.tokensLoaded records)) := by
  refine flag_maybeAutoOpen.trans ?_
  cases f <;> simp [flag, clears, Wizard.onTokensLoaded, Tokens.onTokensLoaded,
    Updated.andThen, AppState.setWizard, AppState.setTokens]

/-- A new token clears the flag of the tokens, and no other. -/
theorem flag_tokenCreated (token name : String) (readOnly : Bool) :
    flag (update s (.tokenCreated token name readOnly)).1 f =
      (flag s f && !clears f (.tokenCreated token name readOnly)) := by
  have hcreated : flag (Tokens.onTokenCreated s token name readOnly).1 f =
      (flag s f && !clears f (.tokenCreated token name readOnly)) := by
    unfold Tokens.onTokenCreated
    dsimp only
    split_ifs <;> cases f <;> simp [flag, clears, openHook, Updated.push, AppState.openDialog,
      AppState.closeDialog, AppState.setTokens]
  rw [← hcreated]
  change flag (Wizard.onTokenCreated _).1 f = _
  unfold Wizard.onTokenCreated
  split
  · refine flag_proceed.trans ?_
    split_ifs
    · cases f <;> rfl
    · rfl
  · rfl

/-- **A message that does not clear a flag leaves it up.** -/
theorem rises_update (msg : Message) (hc : clears f msg = false) (hs : flag s f = true) :
    flag (update s msg).1 f = true := by
  cases msg with
  | key key => exact (rises_key key).flag hs
  | tick => exact rises_tick.1.flag hs
  | quit => exact (Rises.mk id id id : Rises s { s with shouldQuit := true }).flag hs
  | ui msg => exact (rises_ui msg).flag hs
  | statusLoaded info => rw [flag_statusLoaded, hs, hc]; rfl
  | configLoaded snapshot => rw [flag_configLoaded, hs, hc]; rfl
  | tokensLoaded records => rw [flag_tokensLoaded, hs, hc]; rfl
  | tokenCreated token name readOnly => rw [flag_tokenCreated, hs, hc]; rfl
  | certEnsured fingerprint sans => exact (flag_certEnsured fingerprint sans).trans hs
  | certInfoLoaded fingerprint sans => exact (flag_certInfoLoaded fingerprint sans).trans hs
  | certModeLoaded mode =>
    exact (Rises.mk id id id : Rises s (Cert.onCertModeLoaded s mode).1).flag hs
  | actionOk msg => cases f <;> cases hc
  | actionFailed msg => cases f <;> cases hc
  | tokensChanged =>
    exact (Rises.mk id (fun _ => rfl) id : Rises s (Tokens.onTokensChanged s).1).flag hs
  | devicesLoaded devices relayUrl =>
    exact (Rises.mk id id id : Rises s (Devices.onDevicesLoaded s devices relayUrl).1).flag hs
  | devicesChanged => exact (Rises.mk id id id : Rises s (Devices.onDevicesChanged s).1).flag hs
  | tokenQrReady uri host port fingerprintShort baselineClients seq =>
    exact (flag_qrReady uri host port fingerprintShort baselineClients seq).trans hs
  | tokenQrFailed err seq => exact (flag_qrFailed err seq).trans hs

/-! ### The guards -/

/-- The wizard asks for a token, whatever the flag is. -/
def asksUnguarded (s : AppState) (msg : Message) : Prop :=
  msg = wizardNext ∧ s.wizard.step = .token ∧ s.wizard.busy = false

/-- Saving is asked for where the flag is down, and both ways of saving raise it. -/
theorem asksSave_cases {a : UpdateAction} (h : asksSave s = some a) :
    kind a = some .save ∧ s.config.loading = false ∧ (Config.save s).1.config.loading = true ∧
      (Wizard.saveBind s).1.config.loading = true := by
  have hl : s.config.loading = false := by
    unfold asksSave at h
    cases hl : s.config.loading with
    | false => rfl
    | true => simp [hl] at h
  obtain ⟨c, -, hasks, -⟩ | ⟨c, -, hsave, hasks, hc⟩ := save_cases s
  · rw [hasks] at h
    cases h
  obtain ⟨c', e, -, hasks', -⟩ | ⟨c', hbind, -, hc'⟩ := saveBind_cases s
  · rw [hasks'] at h
    cases h
  rw [hasks] at h
  obtain rfl := Option.some.inj h
  rw [hsave, hbind]
  exact ⟨rfl, hl, hc, hc'⟩

/-- Starting the daemon is asked for where the flag is down, and raises it. -/
theorem asksStart_cases {a : UpdateAction} (h : asksStart s = some a) :
    kind a = some .daemon ∧ s.server.loading = false ∧
      (Server.update s .start).1.server.loading = true := by
  unfold asksStart at h
  cases hl : s.server.loading with
  | true => simp [hl] at h
  | false =>
    obtain rfl : UpdateAction.startServer = a := by simpa [hl] using h
    exact ⟨rfl, rfl, by simp [Server.update, hl, AppState.setServer]⟩

/-- What a step of the wizard asks for. -/
theorem asksStep_cases {a : UpdateAction} {k : Kind} (h : asksStep s = some a)
    (hk : kind a = some k) :
    (flag s k.feature = false ∨ k = .create ∧ asksUnguarded s wizardNext) ∧
      flag (Wizard.next s).1 k.feature = true := by
  unfold asksStep at h
  cases hb : s.wizard.busy with
  | true => simp [hb] at h
  | false =>
    simp only [hb, Bool.false_eq_true, if_false] at h
    unfold Wizard.next
    simp only [hb, Bool.false_eq_true, if_false]
    cases hstep : s.wizard.step with
    | welcome => simp [hstep] at h
    | certificate => simp [hstep] at h
    | pair => simp [hstep] at h
    | network =>
      simp only [hstep] at h
      obtain ⟨hsave, hdown, -, hup⟩ := asksSave_cases h
      obtain rfl := Option.some.inj (hsave.symm.trans hk)
      exact ⟨.inl hdown, hup⟩
    | token =>
      simp only [hstep, Option.some.injEq] at h
      subst h
      obtain rfl := Option.some.inj hk
      exact ⟨.inr ⟨rfl, rfl, hstep, hb⟩, rfl⟩
    | start =>
      simp only [hstep] at h
      obtain ⟨hup, -⟩ | ⟨-, hasks, -⟩ | ⟨-, hasks, q, hq, hstart⟩ := startDaemon_cases s
      · simp [hup] at h
      · simp [hasks] at h
      · split_ifs at h
        obtain ⟨hdaemon, hdown, -⟩ := asksStart_cases h
        obtain rfl := Option.some.inj (hdaemon.symm.trans hk)
        refine ⟨.inl hdown, ?_⟩
        change flag (Wizard.startDaemon s).1 _ = true
        rw [hstart]
        exact hq

/-- **A guarded task** is asked for where the flag of its feature is down, which is up after it; or
it is a token that the wizard asks for. -/
theorem asks_cases {msg : Message} {a : UpdateAction} {k : Kind} (h : asksFor s msg = some a)
    (hk : kind a = some k) :
    (flag s k.feature = false ∨ k = .create ∧ asksUnguarded s msg) ∧
      flag (update s msg).1 k.feature = true := by
  cases msg with
  | key key =>
    simp only [asksFor] at h
    split_ifs at h with hkey
    obtain ⟨hdaemon, hdown, hup⟩ := asksStart_cases h
    obtain rfl := Option.some.inj (hdaemon.symm.trans hk)
    refine ⟨.inl hdown, ?_⟩
    simp only [Bool.and_eq_true, decide_eq_true_eq, Bool.not_eq_true', Option.isNone_iff_eq_none]
      at hkey
    obtain ⟨⟨hcode, htop⟩, hrunning⟩ := hkey
    change flag (handleKey s key).1 _ = true
    have hstart : handleKey s key = Server.update s .start := by
      unfold handleKey
      simp [hcode, htop, hrunning]
    rw [hstart]
    exact hup
  | ui msg =>
    cases msg with
    | server msg =>
      cases msg with
      | start =>
        obtain ⟨hdaemon, hdown, hup⟩ := asksStart_cases h
        obtain rfl := Option.some.inj (hdaemon.symm.trans hk)
        exact ⟨.inl hdown, hup⟩
      | stopConfirmed =>
        simp only [asksFor] at h
        split_ifs at h with hl
        obtain rfl := Option.some.inj h
        obtain rfl := Option.some.inj hk
        refine ⟨.inl (by simpa [flag, Kind.feature] using hl), ?_⟩
        change (Server.update s .stopConfirmed).1.server.loading = true
        unfold Server.update
        simp only [closeTop_server, hl, Bool.false_eq_true, if_false]
        rfl
      | _ => cases h
    | config msg =>
      cases msg with
      | save =>
        obtain ⟨hsave, hdown, hup, -⟩ := asksSave_cases h
        obtain rfl := Option.some.inj (hsave.symm.trans hk)
        exact ⟨.inl hdown, hup⟩
      | _ => cases h
    | tokens msg =>
      cases msg with
      | createSubmit =>
        simp only [asksFor] at h
        split_ifs at h with hl
        obtain rfl := Option.some.inj h
        obtain rfl := Option.some.inj hk
        refine ⟨.inl (by simpa [flag, Kind.feature] using hl), ?_⟩
        change (Tokens.update s .createSubmit).1.tokens.loading = true
        unfold Tokens.update
        simp only [hl, Bool.false_eq_true, if_false]
        rfl
      | _ => cases h
    | wizard msg =>
      cases msg with
      | next => exact asksStep_cases h hk
      | _ => cases h
    | _ => cases h
  | _ => cases h

/-! ### The tasks that a flag guards -/

/-- The tasks that a message dispatches. -/
def tasksOf (s : AppState) (msg : Message) (visit : ℕ) : List Task :=
  ((update s msg).2.filter UpdateAction.isTask).map (⟨·, some msg, visit⟩)

/-- The feature has no new task, or one: its flag is up then, and was down, unless the wizard has
asked for a token. -/
def Raised (s : AppState) (msg : Message) (f : Feature) (n : ℕ) : Prop :=
  n = 0 ∨ n = 1 ∧ flag (update s msg).1 f = true ∧
    (flag s f = false ∨ f = .tokens ∧ asksUnguarded s msg)

theorem raised_ofKind (s : AppState) (msg : Message) (visit : ℕ) (k : Kind) :
    Raised s msg k.feature (dispatched s msg visit (ofKind k)) := by
  rw [dispatched_ofKind]
  split_ifs with h
  · obtain ⟨a, ha, hk⟩ := Option.bind_eq_some_iff.mp h
    obtain ⟨hdown, hup⟩ := asks_cases ha hk
    refine .inr ⟨rfl, hup, hdown.imp id ?_⟩
    rintro ⟨rfl, hun⟩
    exact ⟨rfl, hun⟩
  · exact .inl rfl

theorem raised_isTickPoll (s : AppState) (visit : ℕ) :
    Raised s .tick .server (dispatched s .tick visit isTickPoll) := by
  rw [dispatched_isTickPoll]
  by_cases hdue : pollDue s = true
  · rw [if_pos ⟨rfl, hdue⟩]
    refine .inr ⟨rfl, rises_tick.2 ?_, .inl ?_⟩
    · rw [tick_actions, if_pos hdue]
      simp
    · exact (Bool.not_eq_true' _).mp (Bool.and_eq_true_iff.mp hdue).1
  · rw [if_neg fun h => hdue h.2]
    exact .inl rfl

/-- **The tasks of a feature that a message dispatches.** -/
theorem raised_update (s : AppState) (msg : Message) (visit : ℕ) (f : Feature) :
    Raised s msg f (unanswered (tasksOf s msg visit) f) := by
  cases f with
  | tokens => exact raised_ofKind s msg visit .create
  | config => exact raised_ofKind s msg visit .save
  | server =>
    change Raised s msg .server
      (dispatched s msg visit (ofKind .daemon) + dispatched s msg visit isTickPoll)
    by_cases htick : msg = .tick
    · subst htick
      have hnone : dispatched s .tick visit (ofKind .daemon) = 0 := by
        rw [dispatched_ofKind]
        rfl
      rw [hnone, Nat.zero_add]
      exact raised_isTickPoll s visit
    · have hnone : dispatched s msg visit isTickPoll = 0 := by
        rw [dispatched_isTickPoll, if_neg fun h => htick h.1]
      rw [hnone, Nat.add_zero]
      exact raised_ofKind s msg visit .daemon

/-- A result dispatches no guarded task. -/
theorem unanswered_result {msg : Message} (h : msg.isResult = true) (s : AppState) (visit : ℕ)
    (f : Feature) : unanswered (tasksOf s msg visit) f = 0 := by
  have hkinds : ∀ k, dispatched s msg visit (ofKind k) = 0 := by
    intro k
    rw [dispatched_ofKind, asksFor_result h]
    rfl
  have htick : msg ≠ .tick := by
    rintro rfl
    cases h
  have hpolls : dispatched s msg visit isTickPoll = 0 := by
    rw [dispatched_isTickPoll, if_neg fun h => htick h.1]
  cases f with
  | server => exact Nat.add_eq_zero_iff.mpr ⟨hkinds .daemon, hpolls⟩
  | tokens => exact hkinds .create
  | config => exact hkinds .save

theorem unanswered_append (tasks new : List Task) (f : Feature) :
    unanswered (tasks ++ new) f = unanswered tasks f + unanswered new f := by
  cases f <;> simp only [unanswered, List.countP_append]
  omega

theorem unanswered_eraseIdx_le (tasks : List Task) (index : ℕ) (f : Feature) :
    unanswered (tasks.eraseIdx index) f ≤ unanswered tasks f := by
  have hsub := List.eraseIdx_sublist tasks index
  cases f with
  | server => exact Nat.add_le_add hsub.countP_le hsub.countP_le
  | tokens => exact hsub.countP_le
  | config => exact hsub.countP_le

theorem unanswered_reduce (p : Panel) (tasks : List Task) (msg : Message) (failed : ℕ)
    (f : Feature) : unanswered (p.reduce tasks msg failed).tasks f =
      unanswered tasks f + unanswered (tasksOf p.app msg p.visit) f :=
  unanswered_append ..

/-- **What the flags stand for**: where one is down, no guarded task of the feature is unanswered,
and one at most where it is up. -/
def Standing (p : Panel) : Prop := ∀ f, unanswered p.tasks f ≤ (flag p.app f).toNat

variable {p q : Panel} {e : Event}

theorem not_clears_input {msg : Message} (h : msg.isResult = false) : clears f msg = false := by
  cases f <;> cases msg <;> first | rfl | cases h

/-- A flag that is not cleared goes on to stand for what is unanswered. -/
theorem standing_kept {msg : Message} {n : ℕ} (hn : n ≤ (flag s f).toNat)
    (hc : clears f msg = false) : n ≤ (flag (update s msg).1 f).toNat := by
  cases hs : flag s f with
  | true => rwa [rises_update msg hc hs, ← hs]
  | false =>
    rw [hs] at hn
    exact hn.trans (Nat.zero_le _)

/-- **One step**: an input raises the flag of what it dispatches, a result that clears a flag leaves
nothing unanswered. -/
theorem standing_step (hp : Standing p) (hc : Calm p e) (h : p.step e = some q) : Standing q := by
  intro f
  have happ := step_app h
  cases e with
  | input msg =>
    obtain ⟨hmsg, rfl⟩ := step_input h
    have hkept := standing_kept (hp f) (not_clears_input hmsg)
    rw [unanswered_reduce, happ]
    rcases raised_update p.app msg p.visit f with hnone | ⟨hone, hup, hdown⟩
    · rw [hnone]
      exact hkept
    · have hnothing : unanswered p.tasks f = 0 := by
        rcases hdown with hdown | ⟨rfl, rfl, hstep, hbusy⟩
        · have hf := hp f
          rw [hdown] at hf
          exact Nat.le_zero.mp hf
        · exact hc rfl hstep hbusy
      rw [hnothing, hone]
      exact (congrArg Bool.toNat hup).ge
  | result index msg =>
    obtain ⟨task, -, hposts, rfl⟩ := step_result h
    rw [unanswered_reduce, unanswered_result (isResult_of_posts hposts), happ, Nat.add_zero]
    cases hclears : clears f msg with
    | true =>
      rw [hc f hclears]
      exact Nat.zero_le _
    | false => exact standing_kept ((unanswered_eraseIdx_le ..).trans (hp f)) hclears

theorem standing_startup (trust : AdvertiseTrust) : Standing (startup trust) := by
  intro f
  cases f <;> exact Nat.zero_le _

/-- **A calm run.** -/
theorem standing_run {trust : AdvertiseTrust} {events : List Event}
    (hcalm : Along (ofFn Panel.step) (fun _ => Calm) (startup trust) events)
    (h : Run (ofFn Panel.step) (startup trust) events p) : Standing p :=
  Run.invariant_along (C := fun _ => Calm) (I := Standing)
    (fun _ _ _ _ hp hc hstep => standing_step hp hc hstep) h (standing_startup trust) hcalm

theorem Standing.singleFlight (h : Standing p) : SingleFlight p := by
  have hone : ∀ f, unanswered p.tasks f ≤ 1 := fun f => (h f).trans (Bool.toNat_le _)
  have hserver := hone .server
  refine ⟨fun k => ?_, (Nat.le_add_left _ _).trans hserver⟩
  cases k with
  | daemon => exact (Nat.le_add_right _ _).trans hserver
  | create => exact hone .tokens
  | save => exact hone .config

/-- **Of no kind there are ever two tasks in flight** in a run in which no result of another task
clears the flag of a guarded task that is unanswered, and the wizard does not go on from its Token
step while a token is being created. -/
theorem singleFlight_of_calm {trust : AdvertiseTrust} {events : List Event}
    (hcalm : Along (ofFn Panel.step) (fun _ => Calm) (startup trust) events) :
    ∀ pre post q, events = pre ++ post → Run (ofFn Panel.step) (startup trust) pre q →
      SingleFlight q := by
  rintro pre post q rfl hq
  exact (standing_run hcalm.left hq).singleFlight

/-! ### Two tokens for one form -/

/-- The operator opens the list of tokens and the form while the first load is in flight. -/
def openForm : List Event :=
  [.input (.key ⟨some 't', false⟩), .result 2 (.tokensLoaded []),
    .input (.ui (.tokens .createRequested)), .input (.ui (.tokens .createSubmit))]

/-- A run in which the first token comes back before the list is loaded and the form is submitted
again. -/
theorem singleFlight_of_calm_created :
    let events := openForm ++ [Event.result 6 (.tokenCreated "secret" "phone" false),
      .result 5 (.tokensLoaded []), .input (.ui (.tokens .createSubmit))]
    ∃ p, Run (ofFn Panel.step) (startup .auto) events p ∧ p.inFlight (ofKind .create) = 1 ∧
      ∀ pre post q, events = pre ++ post → Run (ofFn Panel.step) (startup .auto) pre q →
        SingleFlight q := by
  intro events
  have hr : ∃ p, Run (ofFn Panel.step) (startup .auto) events p ∧
      p.inFlight (ofKind .create) = 1 :=
    ⟨_, Run.cons rfl (Run.cons rfl (Run.cons rfl (Run.cons rfl (Run.cons rfl (Run.cons rfl
      (Run.cons rfl (Run.nil _))))))), rfl⟩
  obtain ⟨p, hr, hcount⟩ := hr
  have hcheck : check Panel.step (fun p e => decide (Calm p e)) (startup .auto) events = true := by
    decide +kernel
  have hcalm : Along (ofFn Panel.step) (fun _ => Calm) (startup .auto) events :=
    (along_of_check hcheck).mono fun _ _ _ _ h => of_decide_eq_true h
  exact ⟨p, hr, hcount, singleFlight_of_calm hcalm⟩

/-- **The load of the dialog comes back** while the token is being created, and clears the flag: the
form is submitted again, and two tokens are created. -/
theorem created_twice :
    ∃ p, Run (ofFn Panel.step) (startup .auto)
        (openForm ++ [Event.result 5 (.tokensLoaded []), .input (.ui (.tokens .createSubmit))]) p ∧
      p.inFlight (ofKind .create) = 2 ∧ ¬ SingleFlight p := by
  refine ⟨_, Run.cons rfl (Run.cons rfl (Run.cons rfl (Run.cons rfl (Run.cons rfl (Run.cons rfl
    (Run.nil _)))))), rfl, fun h => ?_⟩
  exact absurd (h.kinds .create) (by decide)

end MuxrCore.Muxrctl.Flight
