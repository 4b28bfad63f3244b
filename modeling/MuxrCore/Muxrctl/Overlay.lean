import MuxrCore.Muxrctl.Frame
import MuxrCore.Muxrctl.Moves

/-! # What a message does to the pairing code

The state of the pairing code is the secret of the token created last, the layer that shows the
code, and the number of the last layer. Most functions leave all of it alone (`Keeps`).

* `secret_update`: the secret after a message.
* `qrMove_update`: a message leaves the layer alone, takes it away, opens a new one and dispatches
  its task, or brings the layer a result, a client or a tick. -/

namespace MuxrCore.Muxrctl

open MuxrCore.Muxrctl.Flight

/-- The action builds a code. -/
def UpdateAction.isShowTokenQr : UpdateAction → Bool
  | .showTokenQr .. => true
  | _ => false

/-- The tasks for a code. -/
def shows (actions : List UpdateAction) : List UpdateAction :=
  actions.filter UpdateAction.isShowTokenQr

/-- The secret, the layer, and the number of the last layer. -/
def AppState.qr (s : AppState) : Option (String × String × Bool) × Option QrOverlay × ℕ :=
  (s.tokens.lastMintedSecret, s.tokens.qrOverlay, s.qrSeq)

/-- The pairing code is left alone, and no task for one is dispatched. -/
structure Keeps (s : AppState) (u : Updated) : Prop where
  qr : u.1.qr = s.qr
  shows : shows u.2 = []

variable {s : AppState} {u : Updated}

theorem shows_append (as bs : List UpdateAction) : shows (as ++ bs) = shows as ++ shows bs :=
  List.filter_append ..

theorem Keeps.andThen {f : AppState → Updated} (h : Keeps s u) (hf : Keeps u.1 (f u.1)) :
    Keeps s (u.andThen f) :=
  ⟨hf.qr.trans h.qr, by rw [Updated.andThen, shows_append, h.shows, hf.shows]; rfl⟩

theorem Keeps.push {acts : List UpdateAction} (h : Keeps s u) (hacts : Muxrctl.shows acts = []) :
    Keeps s (u.push acts) :=
  ⟨h.qr, by rw [Updated.push, shows_append, h.shows, hacts]; rfl⟩

theorem keeps_openHook (id : DialogId) : Keeps s (openHook s id) := by
  cases id <;> exact ⟨rfl, rfl⟩

theorem keeps_closeTop : Keeps s (closeTop s) := by
  unfold closeTop
  split
  next id _ => cases id <;> exact ⟨rfl, rfl⟩
  · exact ⟨rfl, rfl⟩

theorem keeps_closeAll (n : ℕ) : Keeps s (Wizard.closeAll n s) := by
  induction n generalizing s with
  | zero => exact ⟨rfl, rfl⟩
  | succ n ih =>
    unfold Wizard.closeAll
    split_ifs
    · exact keeps_closeTop.andThen ih
    · exact ⟨rfl, rfl⟩

theorem keeps_config (msg : ConfigMsg) : Keeps s (Config.update s msg) := by
  cases msg with
  | save =>
    obtain ⟨c, h, -⟩ | ⟨c, -, h, -⟩ := save_cases s
    · exact ⟨congrArg (·.1.qr) h, congrArg (shows ·.2) h⟩
    · exact ⟨congrArg (·.1.qr) h, congrArg (shows ·.2) h⟩
  | cancel => exact keeps_closeTop
  | _ => exact ⟨rfl, rfl⟩

theorem keeps_server (msg : ServerMsg) : Keeps s (Server.update s msg) := by
  unfold Server.update
  cases msg with
  | start => dsimp only; split_ifs <;> exact ⟨rfl, rfl⟩
  | stopRequested => exact keeps_openHook _
  | stopConfirmed =>
    dsimp only
    split_ifs
    · exact keeps_closeTop
    · have h : Keeps s ((closeTop s).push [.stopServer]) := keeps_closeTop.push rfl
      exact ⟨h.qr, h.shows⟩
  | stopCancelled => exact keeps_closeTop
  | refresh => dsimp only; split_ifs <;> exact ⟨rfl, rfl⟩

theorem keeps_cert (msg : CertMsg) : Keeps s (Cert.update s msg) := by
  unfold Cert.update
  cases msg with
  | close => exact keeps_closeTop
  | closeHelp => exact keeps_closeTop
  | regenerateCancelled => exact keeps_closeTop
  | openHelp => exact ⟨(keeps_openHook _).qr, (keeps_openHook _).shows⟩
  | regenerateRequested => exact keeps_openHook _
  | _ => exact ⟨rfl, rfl⟩

theorem keeps_devices (msg : DevicesMsg) : Keeps s (Devices.update s msg) := by
  unfold Devices.update
  cases msg with
  | close => exact keeps_closeTop
  | removeCancelled => exact keeps_closeTop
  | focused name => exact ⟨rfl, rfl⟩
  | removeRequested =>
    dsimp only
    split_ifs
    · exact keeps_openHook _
    · exact ⟨rfl, rfl⟩
  | removeConfirmed =>
    dsimp only
    split
    · exact keeps_closeTop
    next device _ =>
      have h : Keeps s ((closeTop s).push [.removeDevice device.deviceName]) :=
        keeps_closeTop.push rfl
      exact ⟨h.qr, h.shows⟩
  | refresh => exact ⟨rfl, rfl⟩

theorem keeps_key (key : KeyEvent) : Keeps s (handleKey s key) := by
  unfold handleKey
  split
  · exact ⟨rfl, rfl⟩
  split
  · exact ⟨rfl, rfl⟩
  split
  case h_7 => exact keeps_server _
  all_goals exact ⟨rfl, rfl⟩

theorem keeps_pollTick : Keeps s (pollTick s) := by
  obtain ⟨-, h⟩ | ⟨-, -, p, -, h⟩ | ⟨-, -, p, -, h⟩ := pollTick_cases s
  · exact ⟨congrArg (·.1.qr) h, congrArg (shows ·.2) h⟩
  · exact ⟨congrArg (·.1.qr) h, congrArg (shows ·.2) h⟩
  · exact ⟨congrArg (·.1.qr) h, congrArg (shows ·.2) h⟩

theorem keeps_configLoaded (snapshot : ConfigSnapshot) :
    Keeps s (Config.onConfigLoaded s snapshot) := ⟨rfl, rfl⟩

theorem keeps_maybeAutoOpen : Keeps s (Wizard.maybeAutoOpen s) := by
  unfold Wizard.maybeAutoOpen
  dsimp only
  split_ifs
  all_goals exact ⟨rfl, rfl⟩

theorem keeps_saveBind : Keeps s (Wizard.saveBind s) := by
  obtain ⟨c, e, h, -⟩ | ⟨c, h, -⟩ := saveBind_cases s
  · exact ⟨congrArg (·.1.qr) h, congrArg (shows ·.2) h⟩
  · exact ⟨congrArg (·.1.qr) h, congrArg (shows ·.2) h⟩

/-! ### The secret -/

/-- The secret after a message: a token that is created has one, and a revocation takes it away when
it is confirmed and when it is done. -/
def secretAfter (s : AppState) : Message → Option (String × String × Bool)
  | .tokenCreated token name readOnly => some (name, token, readOnly)
  | .tokensChanged => none
  | .ui (.tokens .revokeConfirmed) =>
    if s.tokens.focused.isSome then none else s.tokens.lastMintedSecret
  | _ => s.tokens.lastMintedSecret

/-- The secret is left alone. -/
theorem Keeps.secret (h : Keeps s u) : u.1.tokens.lastMintedSecret = s.tokens.lastMintedSecret :=
  congrArg Prod.fst h.qr

theorem secret_enterPair :
    (Wizard.enterPair s).1.tokens.lastMintedSecret = s.tokens.lastMintedSecret := by
  unfold Wizard.enterPair
  split <;> rfl

theorem secret_goto (step : WizardStep) :
    (Wizard.goto s step).1.tokens.lastMintedSecret = s.tokens.lastMintedSecret := by
  unfold Wizard.goto
  dsimp only
  split_ifs
  · exact secret_enterPair
  · rfl

theorem secret_openQr :
    (Tokens.openQr s).1.tokens.lastMintedSecret = s.tokens.lastMintedSecret := by
  unfold Tokens.openQr
  split
  · rfl
  · exact (keeps_openHook _).secret

theorem secret_tokens (msg : TokensMsg) :
    (Tokens.update s msg).1.tokens.lastMintedSecret = secretAfter s (.ui (.tokens msg)) := by
  unfold Tokens.update
  cases msg with
  | close => exact keeps_closeTop.secret
  | createCancel => exact keeps_closeTop.secret
  | mintedDone => exact keeps_closeTop.secret
  | revokeCancelled => exact keeps_closeTop.secret
  | createRequested => exact (keeps_openHook _).secret
  | createSubmit => dsimp only; split_ifs <;> rfl
  | mintedShowQr => exact secret_openQr
  | showQrForMinted => exact secret_openQr
  | revokeRequested =>
    dsimp only
    split_ifs
    · rfl
    · exact (keeps_openHook _).secret
  | revokeConfirmed =>
    have hfocused : (closeTop s).1.tokens.focused = s.tokens.focused :=
      congrArg (·.1.1) (frame_closeTop (s := s))
    dsimp only
    rw [hfocused]
    rcases hf : s.tokens.focused with _ | name
    · simpa [secretAfter, hf] using keeps_closeTop.secret
    · simp [secretAfter, hf, AppState.setTokens]
  | qrClose =>
    dsimp only
    split_ifs
    · exact keeps_closeTop.secret
    · rfl
  | _ => rfl

theorem secret_next :
    (Wizard.next s).1.tokens.lastMintedSecret = s.tokens.lastMintedSecret := by
  unfold Wizard.next
  split_ifs
  · rfl
  split
  · exact secret_goto _
  · exact keeps_saveBind.secret
  · unfold Wizard.ensureCert
    split_ifs
    · exact secret_goto _
    · rfl
  · rfl
  · obtain ⟨-, h⟩ | ⟨-, -, e, h⟩ | ⟨-, -, q, -, h⟩ := startDaemon_cases s
    · rw [h]
      exact secret_goto _
    · rw [h]
      rfl
    · rw [h]
      rfl
  · rfl

theorem secret_wizard (msg : WizardMsg) :
    (Wizard.update s msg).1.tokens.lastMintedSecret = s.tokens.lastMintedSecret := by
  cases msg with
  | close => exact (keeps_closeAll _).secret
  | next => exact secret_next
  | back =>
    unfold Wizard.update Wizard.back
    dsimp only
    split_ifs <;> rfl
  | regenAckChanged ack => rfl
  | finish => exact (keeps_closeAll _).secret

/-- The wizard that goes on leaves the secret alone. -/
theorem secret_proceed_ite {c : Prop} [Decidable c] :
    (if c then Wizard.proceed s else (s, [])).1.tokens.lastMintedSecret =
      s.tokens.lastMintedSecret := by
  split_ifs
  · exact secret_goto _
  · rfl

/-- **The secret after a message.** -/
theorem secret_update (s : AppState) (msg : Message) :
    (update s msg).1.tokens.lastMintedSecret = secretAfter s msg := by
  cases msg with
  | key key => exact (keeps_key key).secret
  | tick =>
    refine Eq.trans ?_ keeps_pollTick.secret
    simp only [update, handleTick, Updated.andThen]
    generalize (pollTick s).1 = t
    unfold Tokens.onTick
    split_ifs
    · rfl
    split
    · rfl
    · dsimp only
      split_ifs <;> rfl
  | quit => rfl
  | ui msg =>
    cases msg with
    | focus => rfl
    | «open» id => exact (keeps_openHook id).secret
    | close => exact keeps_closeTop.secret
    | config msg => exact (keeps_config msg).secret
    | server msg => exact (keeps_server msg).secret
    | cert msg => exact (keeps_cert msg).secret
    | tokens msg => exact secret_tokens msg
    | devices msg => exact (keeps_devices msg).secret
    | wizard msg => exact secret_wizard msg
  | statusLoaded info =>
    refine secret_proceed_ite.trans ?_
    unfold Server.onStatusLoaded Tokens.onStatusForQr
    rcases info with _ | info
    · rfl
    · obtain ⟨o, ho⟩ := checkOverlayConnection_cases (s.setServer
        { s.server with status := some info, stopped := false, loading := false }) info.clientCount
      exact congrArg (·.tokens.lastMintedSecret) ho
  | configLoaded snapshot => rfl
  | certEnsured fingerprint sans => exact secret_proceed_ite
  | certInfoLoaded fingerprint sans => exact keeps_maybeAutoOpen.secret
  | certModeLoaded mode => rfl
  | actionFailed msg =>
    simp only [update, onActionFailed, Wizard.onActionFailed]
    split_ifs <;> rfl
  | actionOk msg =>
    refine secret_proceed_ite.trans ?_
    dsimp only
    split_ifs
    · exact keeps_closeTop.secret
    · rfl
    · rfl
  | tokensLoaded records => exact keeps_maybeAutoOpen.secret
  | tokenCreated token name readOnly =>
    have hcreated : (Tokens.onTokenCreated s token name readOnly).1.tokens.lastMintedSecret =
        some (name, token, readOnly) := by
      unfold Tokens.onTokenCreated
      dsimp only
      refine (keeps_openHook _).secret.trans ?_
      split_ifs <;> rfl
    refine Eq.trans ?_ hcreated
    simp only [update, Updated.andThen, Wizard.onTokenCreated]
    split_ifs
    · exact secret_goto _
    · exact secret_goto _
    · rfl
  | tokensChanged => rfl
  | devicesLoaded devices relayUrl => rfl
  | devicesChanged => rfl
  | tokenQrReady uri host port fingerprintShort baselineClients seq =>
    simp only [update, Tokens.onQrReady]
    split
    · rfl
    · split_ifs <;> rfl
  | tokenQrFailed err seq =>
    simp only [update, Tokens.onQrFailed]
    split
    · rfl
    · split_ifs <;> rfl

/-! ### The layer -/

/-- The layer and its number are left alone, and no task for a code is dispatched. -/
structure Still (s : AppState) (u : Updated) : Prop where
  overlay : u.1.tokens.qrOverlay = s.tokens.qrOverlay
  seq : u.1.qrSeq = s.qrSeq
  shows : shows u.2 = []

/-- What a message may bring a layer: its result, a client, or a tick. -/
inductive QrChange (o : QrOverlay) : Message → QrOverlay → Prop
  | ready (uri host : String) (port : ℕ) (fingerprintShort : String) (baselineClients : ℕ) :
      QrChange o (.tokenQrReady uri host port fingerprintShort baselineClients o.seq)
        { o with baselineClients, phase := .showing uri host port fingerprintShort }
  | failed (err : String) : QrChange o (.tokenQrFailed err o.seq) { o with phase := .failed err }
  | connected (info : ServerInfo) (hshowing : o.phase.isShowing = true)
      (hmore : o.baselineClients < info.clientCount) :
      QrChange o (.statusLoaded (some info)) { o with phase := .connected }
  | ticked (tickCounter : ℕ) : QrChange o .tick { o with tickCounter }

/-- What a message may do to the layer. -/
inductive QrMove (s : AppState) (msg : Message) (u : Updated) : Prop
  | kept (h : Still s u)
  | closed (hov : u.1.tokens.qrOverlay = none) (hseq : u.1.qrSeq = s.qrSeq)
      (hshows : shows u.2 = [])
  /-- a new layer, whose task is dispatched with what is captured -/
  | opened (name secret : String) (readOnly : Bool)
      (hsecret : u.1.tokens.lastMintedSecret = some (name, secret, readOnly))
      (hseq : u.1.qrSeq = (s.qrSeq + 1) % 2 ^ 64)
      (hov : u.1.tokens.qrOverlay = some ⟨.generating, u.1.qrSeq, 0, name, readOnly, 0⟩)
      (hshows : shows u.2 = [.showTokenQr secret readOnly u.1.qrSeq u.1.cert.advertiseTrust])
  | changed (o o' : QrOverlay) (hov : s.tokens.qrOverlay = some o)
      (hov' : u.1.tokens.qrOverlay = some o') (h : QrChange o msg o') (hseq : u.1.qrSeq = s.qrSeq)
      (hshows : shows u.2 = [])

theorem Keeps.still (h : Keeps s u) : Still s u :=
  ⟨congrArg (·.2.1) h.qr, congrArg (·.2.2) h.qr, h.shows⟩

theorem Still.of_state {t : AppState} (h : Still t u)
    (hov : t.tokens.qrOverlay = s.tokens.qrOverlay) (hseq : t.qrSeq = s.qrSeq) : Still s u :=
  ⟨h.overlay.trans hov, h.seq.trans hseq, h.shows⟩

variable {msg : Message}

theorem Keeps.move (h : Keeps s u) : QrMove s msg u := .kept h.still

/-- What leaves the layer alone may come first. -/
theorem Still.andThen {f : AppState → Updated} (h : Still s u) (hf : QrMove u.1 msg (f u.1)) :
    QrMove s msg (u.andThen f) := by
  have hshows : Muxrctl.shows (u.andThen f).2 = Muxrctl.shows (f u.1).2 := by
    rw [Updated.andThen, shows_append, h.shows]
    rfl
  cases hf with
  | kept hk => exact .kept ⟨hk.overlay.trans h.overlay, hk.seq.trans h.seq, hshows.trans hk.shows⟩
  | closed hov hseq hs => exact .closed hov (hseq.trans h.seq) (hshows.trans hs)
  | opened name secret readOnly hsecret hseq hov hs =>
    exact .opened name secret readOnly hsecret (h.seq ▸ hseq) hov (hshows.trans hs)
  | changed o o' hov hov' hc hseq hs =>
    exact .changed o o' (h.overlay ▸ hov) hov' hc (hseq.trans h.seq) (hshows.trans hs)

/-- A state that differs in nothing of the layer. -/
theorem QrMove.of_state {t : AppState} (h : QrMove t msg u)
    (hov : t.tokens.qrOverlay = s.tokens.qrOverlay) (hseq : t.qrSeq = s.qrSeq) :
    QrMove s msg u := by
  have hstill : Still s (t, []) := ⟨hov, hseq, rfl⟩
  exact hstill.andThen (f := fun _ => u) h

/-- What moves the layer whatever the message is may come last. -/
theorem QrMove.andThen {f : AppState → Updated} (h : QrMove s msg u) (hs : Muxrctl.shows u.2 = [])
    (hf : QrMove u.1 .quit (f u.1)) : QrMove s msg (u.andThen f) := by
  have hshows : Muxrctl.shows (u.andThen f).2 = Muxrctl.shows (f u.1).2 := by
    rw [Updated.andThen, shows_append, hs]
    rfl
  have hseq : u.1.qrSeq = s.qrSeq := by
    cases h with
    | kept hk => exact hk.seq
    | closed hov hseq => exact hseq
    | opened name secret readOnly hsecret hseq hov hshows' => cases hs.symm.trans hshows'
    | changed o o' hov hov' hc hseq => exact hseq
  cases hf with
  | kept hk =>
    cases h with
    | kept h => exact .kept ⟨hk.overlay.trans h.overlay, hk.seq.trans hseq, hshows.trans hk.shows⟩
    | closed hov => exact .closed (hk.overlay.trans hov) (hk.seq.trans hseq) (hshows.trans hk.shows)
    | opened name secret readOnly hsecret hseq hov hshows' => cases hs.symm.trans hshows'
    | changed o o' hov hov' hc =>
      exact .changed o o' hov (hk.overlay.trans hov') hc (hk.seq.trans hseq)
        (hshows.trans hk.shows)
  | closed hov hseq' hs' => exact .closed hov (hseq'.trans hseq) (hshows.trans hs')
  | opened name secret readOnly hsecret hseq' hov hs' =>
    exact .opened name secret readOnly hsecret (hseq ▸ hseq') hov (hshows.trans hs')
  | changed o o' hov hov' hc => cases hc

theorem qrMove_enterPair : QrMove s msg (Wizard.enterPair s) := by
  unfold Wizard.enterPair
  split
  · exact .closed rfl rfl rfl
  next name secret readOnly hsecret => exact .opened name secret readOnly hsecret rfl rfl rfl

theorem qrMove_goto (step : WizardStep) : QrMove s msg (Wizard.goto s step) := by
  unfold Wizard.goto
  dsimp only
  split_ifs
  · exact qrMove_enterPair.of_state rfl rfl
  · exact .kept ⟨rfl, rfl, rfl⟩

theorem qrMove_openQr : QrMove s msg (Tokens.openQr s) := by
  unfold Tokens.openQr
  split
  · exact .kept ⟨rfl, rfl, rfl⟩
  next name secret readOnly hsecret => exact .opened name secret readOnly hsecret rfl rfl rfl

/-- What closes dialogs once the layer is taken away. -/
theorem Keeps.closed {t : AppState} (h : Keeps t u) (hov : t.tokens.qrOverlay = none)
    (hseq : t.qrSeq = s.qrSeq) : QrMove s msg u :=
  .closed (h.still.overlay.trans hov) (h.still.seq.trans hseq) h.shows

theorem qrMove_tokens (m : TokensMsg) : QrMove s msg (Tokens.update s m) := by
  unfold Tokens.update
  cases m with
  | close => exact keeps_closeTop.move
  | createCancel => exact keeps_closeTop.move
  | mintedDone => exact keeps_closeTop.move
  | revokeCancelled => exact keeps_closeTop.move
  | createRequested => exact (keeps_openHook _).move.of_state rfl rfl
  | createSubmit =>
    dsimp only
    split_ifs
    · exact .kept ⟨rfl, rfl, rfl⟩
    · exact .kept ⟨rfl, rfl, rfl⟩
  | mintedShowQr => exact qrMove_openQr
  | showQrForMinted => exact qrMove_openQr
  | revokeRequested =>
    dsimp only
    split_ifs
    · exact .kept ⟨rfl, rfl, rfl⟩
    · exact (keeps_openHook _).move
  | revokeConfirmed =>
    have h : Keeps s (closeTop s) := keeps_closeTop
    dsimp only
    split
    · exact h.move
    next name _ =>
      have hshows : shows ((closeTop s).2 ++ [.revokeToken name]) = [] := by
        rw [shows_append, h.shows]
        rfl
      exact .kept ⟨h.still.overlay, h.still.seq, hshows⟩
  | qrClose =>
    dsimp only
    split_ifs
    · exact keeps_closeTop.closed rfl rfl
    · exact .closed rfl rfl rfl
  | _ => exact .kept ⟨rfl, rfl, rfl⟩

theorem qrMove_next : QrMove s msg (Wizard.next s) := by
  unfold Wizard.next
  split_ifs
  · exact .kept ⟨rfl, rfl, rfl⟩
  split
  · exact (qrMove_goto _).of_state rfl rfl
  · exact keeps_saveBind.move
  · unfold Wizard.ensureCert
    split_ifs
    · exact qrMove_goto _
    · exact .kept ⟨rfl, rfl, rfl⟩
  · exact .kept ⟨rfl, rfl, rfl⟩
  · obtain ⟨-, h⟩ | ⟨-, -, e, h⟩ | ⟨-, -, q, -, h⟩ := startDaemon_cases s
    · rw [h]
      exact qrMove_goto _
    · rw [h]
      exact .kept ⟨rfl, rfl, rfl⟩
    · rw [h]
      exact .kept ⟨rfl, rfl, rfl⟩
  · exact .kept ⟨rfl, rfl, rfl⟩

theorem qrMove_wizard (m : WizardMsg) : QrMove s msg (Wizard.update s m) := by
  cases m with
  | close => exact (keeps_closeAll _).closed rfl rfl
  | next => exact qrMove_next
  | back =>
    unfold Wizard.update Wizard.back
    dsimp only
    split_ifs
    · exact .kept ⟨rfl, rfl, rfl⟩
    · exact .closed rfl rfl rfl
    · exact .kept ⟨rfl, rfl, rfl⟩
  | regenAckChanged ack => exact .kept ⟨rfl, rfl, rfl⟩
  | finish =>
    have h : Keeps _ ((Wizard.close s).push [.loadTokens, .loadCertInfo, .refreshStatus]) :=
      (keeps_closeAll _).push rfl
    exact .closed h.still.overlay h.still.seq h.shows

/-- The wizard that goes on. -/
theorem qrMove_proceed_ite {c : Prop} [Decidable c] :
    QrMove s msg (if c then Wizard.proceed s else (s, [])) := by
  split_ifs
  · exact (qrMove_goto _).of_state rfl rfl
  · exact .kept ⟨rfl, rfl, rfl⟩

/-- A status connects a code on display if there are more clients than before. -/
theorem qrMove_onStatusLoaded (info : Option ServerInfo) :
    QrMove s (.statusLoaded info) (Server.onStatusLoaded s info) := by
  unfold Server.onStatusLoaded Tokens.onStatusForQr Tokens.checkOverlayConnection
  rcases info with _ | info
  · exact .kept ⟨rfl, rfl, rfl⟩
  · dsimp only [Option.map_some]
    split
    · exact .kept ⟨rfl, rfl, rfl⟩
    next o ho =>
      split_ifs with hc
      · rw [Bool.and_eq_true, decide_eq_true_eq] at hc
        exact .changed o _ ho rfl (.connected info hc.1 hc.2) rfl rfl
      · exact .kept ⟨rfl, rfl, rfl⟩

/-- **What a message does to the layer.** -/
theorem qrMove_update (s : AppState) (msg : Message) : QrMove s msg (update s msg) := by
  cases msg with
  | key key => exact (keeps_key key).move
  | tick =>
    refine keeps_pollTick.still.andThen ?_
    generalize (pollTick s).1 = t
    unfold Tokens.onTick
    split_ifs
    · exact .kept ⟨rfl, rfl, rfl⟩
    split
    · exact .kept ⟨rfl, rfl, rfl⟩
    next o ho =>
      dsimp only
      split_ifs
      · exact .kept ⟨rfl, rfl, rfl⟩
      · exact .changed o _ ho rfl (.ticked _) rfl rfl
      · exact .changed o _ ho rfl (.ticked _) rfl rfl
  | quit => exact .kept ⟨rfl, rfl, rfl⟩
  | ui msg =>
    cases msg with
    | focus => exact .kept ⟨rfl, rfl, rfl⟩
    | «open» id => exact (keeps_openHook id).move
    | close => exact keeps_closeTop.move
    | config msg => exact (keeps_config msg).move
    | server msg => exact (keeps_server msg).move
    | cert msg => exact (keeps_cert msg).move
    | tokens msg => exact qrMove_tokens msg
    | devices msg => exact (keeps_devices msg).move
    | wizard msg => exact qrMove_wizard msg
  | statusLoaded info =>
    have hshows : shows (Server.onStatusLoaded s info).2 = [] := by
      unfold Server.onStatusLoaded Tokens.onStatusForQr
      rcases info with _ | info <;> rfl
    exact (qrMove_onStatusLoaded info).andThen hshows qrMove_proceed_ite
  | configLoaded snapshot => exact (keeps_configLoaded snapshot).move
  | certEnsured fingerprint sans =>
    have h : Still s (Cert.onCertEnsured s fingerprint sans) := ⟨rfl, rfl, rfl⟩
    exact h.andThen qrMove_proceed_ite
  | certInfoLoaded fingerprint sans =>
    have h : Still s (Cert.onCertInfoLoaded s fingerprint sans) := ⟨rfl, rfl, rfl⟩
    exact h.andThen keeps_maybeAutoOpen.move
  | certModeLoaded mode => exact .kept ⟨rfl, rfl, rfl⟩
  | actionFailed msg =>
    simp only [update, onActionFailed, Wizard.onActionFailed]
    split_ifs
    all_goals exact .kept ⟨rfl, rfl, rfl⟩
  | actionOk msg =>
    refine Still.andThen ?_ qrMove_proceed_ite
    dsimp only
    split_ifs
    · exact keeps_closeTop.still.of_state rfl rfl
    · exact ⟨rfl, rfl, rfl⟩
    · exact ⟨rfl, rfl, rfl⟩
  | tokensLoaded records =>
    have h : Still s ((Tokens.onTokensLoaded s records).andThen Wizard.onTokensLoaded) :=
      ⟨rfl, rfl, rfl⟩
    exact h.andThen keeps_maybeAutoOpen.move
  | tokenCreated token name readOnly =>
    have h : Still s (Tokens.onTokenCreated s token name readOnly) := by
      unfold Tokens.onTokenCreated
      dsimp only
      split_ifs
      · exact ⟨rfl, rfl, rfl⟩
      · exact ⟨rfl, rfl, rfl⟩
    refine h.andThen ?_
    unfold Wizard.onTokenCreated
    split_ifs
    · exact (qrMove_goto _).of_state rfl rfl
    · exact (qrMove_goto _).of_state rfl rfl
    · exact .kept ⟨rfl, rfl, rfl⟩
  | tokensChanged => exact .kept ⟨rfl, rfl, rfl⟩
  | devicesLoaded devices relayUrl => exact .kept ⟨rfl, rfl, rfl⟩
  | devicesChanged => exact .kept ⟨rfl, rfl, rfl⟩
  | tokenQrReady uri host port fingerprintShort baselineClients seq =>
    simp only [update, Tokens.onQrReady]
    split
    · exact .kept ⟨rfl, rfl, rfl⟩
    next o ho =>
      split_ifs with hseq
      · subst hseq
        exact .changed o _ ho rfl (.ready uri host port fingerprintShort baselineClients) rfl rfl
      · exact .kept ⟨rfl, rfl, rfl⟩
  | tokenQrFailed err seq =>
    simp only [update, Tokens.onQrFailed]
    split
    · exact .kept ⟨rfl, rfl, rfl⟩
    next o ho =>
      split_ifs with hseq
      · subst hseq
        exact .changed o _ ho rfl (.failed err) rfl rfl
      · exact .kept ⟨rfl, rfl, rfl⟩

end MuxrCore.Muxrctl
