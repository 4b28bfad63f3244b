import MuxrCore.Muxrctl.Flight

/-! # What the reducers of the features leave alone

The reducers of the features and the ticks change neither the wizard nor the place of a cursor; a
cursor is moved by its operator and by the list that is loaded. -/

namespace MuxrCore.Muxrctl

open MuxrCore.Muxrctl.Flight

/-- The operator moves a cursor. -/
def movesFocus : Message → Bool
  | .ui (.tokens (.focused _)) | .ui (.devices (.focused _)) => true
  | _ => false

/-- Where the cursors are. -/
def cursors (s : AppState) : Option String × Option String := (s.tokens.focused, s.devices.focused)

/-- The cursors and the wizard. -/
def frame (s : AppState) : (Option String × Option String) × WizardState := (cursors s, s.wizard)

variable {s : AppState}

theorem frame_openHook (id : DialogId) : frame (openHook s id).1 = frame s := by
  cases id <;> rfl

theorem frame_closeTop : frame (closeTop s).1 = frame s := by
  unfold closeTop
  split
  next id _ => cases id <;> rfl
  · rfl

theorem frame_closeAll (n : ℕ) : frame (Wizard.closeAll n s).1 = frame s := by
  induction n generalizing s with
  | zero => rfl
  | succ n ih =>
    unfold Wizard.closeAll
    split_ifs
    · exact ih.trans frame_closeTop
    · rfl

theorem frame_enterPair : frame (Wizard.enterPair s).1 = frame s := by
  unfold Wizard.enterPair
  split <;> rfl

theorem frame_openQr : frame (Tokens.openQr s).1 = frame s := by
  unfold Tokens.openQr
  split
  · rfl
  · exact frame_openHook _

theorem frame_config (msg : ConfigMsg) : frame (Config.update s msg).1 = frame s := by
  cases msg with
  | save =>
    obtain ⟨c, h, -⟩ | ⟨c, -, h, -⟩ := save_cases s
    · exact congrArg (frame ·.1) h
    · exact congrArg (frame ·.1) h
  | cancel => exact frame_closeTop
  | _ => rfl

theorem frame_server (msg : ServerMsg) : frame (Server.update s msg).1 = frame s := by
  unfold Server.update
  cases msg with
  | start => dsimp only; split_ifs <;> rfl
  | stopRequested => exact frame_openHook _
  | stopConfirmed =>
    dsimp only
    split_ifs
    · exact frame_closeTop
    · exact frame_closeTop
  | stopCancelled => exact frame_closeTop
  | refresh => dsimp only; split_ifs <;> rfl

theorem frame_cert (msg : CertMsg) : frame (Cert.update s msg).1 = frame s := by
  cases msg with
  | close => exact frame_closeTop
  | closeHelp => exact frame_closeTop
  | regenerateCancelled => exact frame_closeTop
  | openHelp => exact frame_openHook _
  | regenerateRequested => exact frame_openHook _
  | _ => rfl

theorem frame_tokens {msg : TokensMsg} (h : movesFocus (.ui (.tokens msg)) = false) :
    frame (Tokens.update s msg).1 = frame s := by
  unfold Tokens.update
  cases msg with
  | focused name => cases h
  | close => exact frame_closeTop
  | createCancel => exact frame_closeTop
  | mintedDone => exact frame_closeTop
  | revokeCancelled => exact frame_closeTop
  | createRequested => exact frame_openHook _
  | createSubmit => dsimp only; split_ifs <;> rfl
  | mintedShowQr => exact frame_openQr
  | showQrForMinted => exact frame_openQr
  | revokeRequested =>
    dsimp only
    split_ifs
    · rfl
    · exact frame_openHook _
  | revokeConfirmed =>
    dsimp only
    split
    · exact frame_closeTop
    · exact frame_closeTop
  | qrClose =>
    dsimp only
    split_ifs
    · exact frame_closeTop
    · rfl
  | _ => rfl

theorem frame_devices {msg : DevicesMsg} (h : movesFocus (.ui (.devices msg)) = false) :
    frame (Devices.update s msg).1 = frame s := by
  unfold Devices.update
  cases msg with
  | focused name => cases h
  | close => exact frame_closeTop
  | removeCancelled => exact frame_closeTop
  | removeRequested =>
    dsimp only
    split_ifs
    · exact frame_openHook _
    · rfl
  | removeConfirmed =>
    dsimp only
    split
    · exact frame_closeTop
    · exact frame_closeTop
  | refresh => rfl

theorem frame_key (key : KeyEvent) : frame (handleKey s key).1 = frame s := by
  unfold handleKey
  split
  · rfl
  split
  · rfl
  split
  case h_7 => exact frame_server _
  all_goals rfl

theorem frame_onTick : frame (Tokens.onTick s).1 = frame s := by
  unfold Tokens.onTick
  split_ifs
  · rfl
  split
  · rfl
  · dsimp only
    split_ifs <;> rfl

theorem frame_tick : frame (handleTick s).1 = frame s := by
  unfold handleTick Updated.andThen
  refine frame_onTick.trans ?_
  obtain ⟨-, h⟩ | ⟨-, -, p, -, h⟩ | ⟨-, -, p, -, h⟩ := pollTick_cases s
  · exact congrArg (frame ·.1) h
  · exact congrArg (frame ·.1) h
  · exact congrArg (frame ·.1) h

theorem frame_setConfig (c : ConfigState) : frame (s.setConfig c) = frame s := rfl

theorem frame_configLoaded (snapshot : ConfigSnapshot) :
    frame (Config.onConfigLoaded s snapshot).1 = frame s := by
  unfold Config.onConfigLoaded
  exact frame_setConfig _

theorem frame_qrReady (uri host : String) (port : ℕ) (fingerprintShort : String)
    (baselineClients seq : ℕ) :
    frame (Tokens.onQrReady s uri host port fingerprintShort baselineClients seq).1 = frame s := by
  unfold Tokens.onQrReady
  split
  · rfl
  · split_ifs <;> rfl

theorem frame_qrFailed (err : String) (seq : ℕ) :
    frame (Tokens.onQrFailed s err seq).1 = frame s := by
  unfold Tokens.onQrFailed
  split
  · rfl
  · split_ifs <;> rfl

/-- A new client changes the layer with the code and nothing else. -/
theorem checkOverlayConnection_cases (s : AppState) (n : ℕ) :
    ∃ o, Tokens.checkOverlayConnection s n = s.setTokens { s.tokens with qrOverlay := o } := by
  unfold Tokens.checkOverlayConnection
  split
  · exact ⟨s.tokens.qrOverlay, rfl⟩
  · split_ifs
    · exact ⟨_, rfl⟩
    · exact ⟨s.tokens.qrOverlay, rfl⟩

/-- What a status changes before the wizard is told. -/
theorem frame_statusLoaded (s : AppState) (info : Option ServerInfo) :
    frame (Server.onStatusLoaded s info).1 = frame s ∧
      (Server.onStatusLoaded s info).1.server.status = info ∧
      (Server.onStatusLoaded s info).1.ui = s.ui := by
  unfold Server.onStatusLoaded Tokens.onStatusForQr
  cases info with
  | none => exact ⟨rfl, rfl, rfl⟩
  | some info =>
    dsimp only [Option.map_some]
    obtain ⟨o, ho⟩ := checkOverlayConnection_cases (s.setServer { s.server with
      status := some info, stopped := (some info).isNone, loading := false }) info.clientCount
    rw [ho]
    exact ⟨rfl, rfl, rfl⟩

end MuxrCore.Muxrctl
