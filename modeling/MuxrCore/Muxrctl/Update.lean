import MuxrCore.Muxrctl.Message
import MuxrCore.Muxrctl.Sans

/-! # The reducer of the control panel

A message changes the state and returns the actions to be done. Each feature has a reducer of its own
and functions for the results that concern it. -/

namespace MuxrCore.Muxrctl

open MuxrCore.Lib.Address MuxrCore.Lib.Text
open MuxrCore.Pairing.Qr (parsePort)

/-- The new state, and what is to be done. -/
abbrev Updated := AppState × List UpdateAction

/-- One change after another. -/
def Updated.andThen (u : Updated) (f : AppState → Updated) : Updated :=
  ((f u.1).1, u.2 ++ (f u.1).2)

/-- Further actions. -/
def Updated.push (u : Updated) (actions : List UpdateAction) : Updated := (u.1, u.2 ++ actions)

/-! ### The parts of the state -/

def AppState.setConfig (s : AppState) (c : ConfigState) : AppState := { s with config := c }

def AppState.setServer (s : AppState) (p : ServerPanelState) : AppState := { s with server := p }

def AppState.setCert (s : AppState) (c : CertState) : AppState := { s with cert := c }

def AppState.setTokens (s : AppState) (t : TokensState) : AppState := { s with tokens := t }

def AppState.setDevices (s : AppState) (d : DevicesState) : AppState := { s with devices := d }

def AppState.setWizard (s : AppState) (w : WizardState) : AppState := { s with wizard := w }

/-! ### Dialogs -/

/-- Open a dialog, and load what it shows. -/
def openHook (s : AppState) (id : DialogId) : Updated :=
  let s := s.openDialog id
  match id with
  | .config => (s.setConfig { s.config with loading := true, error := none }, [.loadConfig])
  | .cert =>
    ((s.setConfig { s.config with loading := true }).setCert { s.cert with loading := true },
      [.loadConfig, .loadCertInfo, .loadCertMode])
  | .tokens => (s.setTokens { s.tokens with loading := true }, [.loadTokens])
  | .devices => (s.setDevices { s.devices with loading := true }, [.loadDevices])
  | _ => (s, [])

/-- Load what a dialog may have changed. -/
def refreshAfterClose (s : AppState) (id : DialogId) : Updated :=
  match id with
  | .tokens | .tokenCreate | .tokenMinted =>
    (s.setTokens { s.tokens with loading := true }, [.loadTokens])
  | .devices => (s.setDevices { s.devices with loading := true }, [.loadDevices])
  | .cert | .certRegenConfirm => (s.setCert { s.cert with loading := true }, [.loadCertInfo])
  | .config => (s.setConfig { s.config with loading := true }, [.loadConfig])
  | _ => (s, [])

/-- Close the top dialog. -/
def closeTop (s : AppState) : Updated :=
  match s.topDialog with
  | some id => refreshAfterClose s.closeDialog id
  | none => (s, [])

/-- No feature has a task in flight. -/
def clearLoading (s : AppState) : AppState :=
  { s with
    config := { s.config with loading := false }
    cert := { s.cert with loading := false }
    server := { s.server with loading := false }
    tokens := { s.tokens with loading := false }
    devices := { s.devices with loading := false } }

/-! ### The Config dialog -/

namespace Config

/-- The form is complete: there is a host, and the port is one. -/
def validPort (port : String) : Bool := (parsePort (trim port).toList).any (1 ≤ ·)

/-- Check the form, and save the address. -/
def save (s : AppState) : Updated :=
  if s.config.loading then (s, [])
  else if trim s.config.host = "" then
    (s.setConfig { s.config with error := some "Bind host must not be empty." }, [])
  else if !validPort s.config.port then
    (s.setConfig { s.config with error := some "Port must be a number in 1..=65535." }, [])
  else
    (s.setConfig { s.config with error := none, loading := true, pendingSave := true },
      [.saveBind s.config.bindAddr])

def update (s : AppState) : ConfigMsg → Updated
  | .hostChanged host => (s.setConfig { s.config with host, error := none }, [])
  | .portChanged port =>
    (s.setConfig { s.config with
      port := String.ofList (port.toList.filter Char.isDigit), error := none }, [])
  | .ipOpenChanged isOpen => (s.setConfig { s.config with ipOpen := isOpen }, [])
  | .ipFocused ip => (s.setConfig { s.config with ipCursor := some ip }, [])
  | .ipPicked ip =>
    (s.setConfig { s.config with
      host := String.ofList (fmtIpv4 ip), ipCursor := some ip, ipOpen := false, error := none }, [])
  | .save => save s
  | .cancel => closeTop s

def onConfigLoaded (s : AppState) (snapshot : ConfigSnapshot) : Updated :=
  let c := s.config.applyBindAddr snapshot.bindAddr
  (s.setConfig { c with
    certDir := snapshot.certDir
    reachableIps := snapshot.reachableIps
    advertiseSans := snapshot.advertiseSans
    -- a cursor on an address that is not reported any more is dropped
    ipCursor := c.ipCursor.filter (· ∈ snapshot.reachableIps)
    loading := false }, [])

end Config

/-! ### The pairing code -/

namespace Tokens

/-- Open the layer with the code of the token created last. -/
def openQr (s : AppState) : Updated :=
  match s.tokens.lastMintedSecret with
  | none =>
    (s.toast false "Create a token first — only a freshly minted secret can be shown as a QR.", [])
  | some (name, secret, readOnly) =>
    let seq := (s.qrSeq + 1) % 2 ^ 64
    let s := { s with qrSeq := seq }
    let s := s.setTokens { s.tokens with qrOverlay := some ⟨.generating, seq, 0, name, readOnly, 0⟩ }
    (openHook s .qr).push [.showTokenQr secret readOnly seq s.cert.advertiseTrust]

def onQrReady (s : AppState) (uri host : String) (port : ℕ) (fingerprintShort : String)
    (baselineClients seq : ℕ) : Updated :=
  match s.tokens.qrOverlay with
  | none => (s, [])
  | some overlay =>
    if overlay.seq = seq then
      (s.setTokens { s.tokens with qrOverlay := some { overlay with
        baselineClients, phase := .showing uri host port fingerprintShort } }, [])
    else (s, [])

def onQrFailed (s : AppState) (err : String) (seq : ℕ) : Updated :=
  match s.tokens.qrOverlay with
  | none => (s, [])
  | some overlay =>
    if overlay.seq = seq then
      (s.setTokens { s.tokens with qrOverlay := some { overlay with phase := .failed err } }, [])
    else (s, [])

/-- A client has come. -/
def checkOverlayConnection (s : AppState) (currentClients : ℕ) : AppState :=
  match s.tokens.qrOverlay with
  | none => s
  | some overlay =>
    if overlay.phase.isShowing && overlay.baselineClients < currentClients then
      s.setTokens { s.tokens with qrOverlay := some { overlay with phase := .connected } }
    else s

def onStatusForQr (s : AppState) (clientCount : Option ℕ) : Updated :=
  match clientCount with
  | none => (s, [])
  | some n => (checkOverlayConnection s n, [])

/-- The poll of the layer, every twentieth tick on which it shows a code. -/
def onTick (s : AppState) : Updated :=
  if s.server.loading then (s, [])
  else match s.tokens.qrOverlay with
    | none => (s, [])
    | some overlay =>
      if !overlay.phase.isShowing then (s, [])
      else
        let counter := (overlay.tickCounter + 1) % 2 ^ 32
        let s := s.setTokens
          { s.tokens with qrOverlay := some { overlay with tickCounter := counter } }
        if counter % 20 = 0 then
          (s.setServer { s.server with loading := true }, [.refreshStatus])
        else (s, [])

end Tokens

/-! ### The daemon -/

namespace Server

def update (s : AppState) : ServerMsg → Updated
  | .start =>
    if s.server.loading then (s, [])
    else (s.setServer { s.server with loading := true, stopped := false }, [.startServer])
  | .stopRequested => openHook s .stopServer
  | .stopConfirmed =>
    let u := closeTop s
    if u.1.server.loading then u
    else (u.1.setServer { u.1.server with loading := true }, u.2 ++ [.stopServer])
  | .stopCancelled => closeTop s
  | .refresh =>
    if s.server.loading then (s, [])
    else (s.setServer { s.server with loading := true }, [.refreshStatus])

def onStatusLoaded (s : AppState) (info : Option ServerInfo) : Updated :=
  Tokens.onStatusForQr
    (s.setServer { s.server with status := info, stopped := info.isNone, loading := false })
    (info.map (·.clientCount))

end Server

/-! ### The Certificate dialog -/

namespace Cert

def update (s : AppState) : CertMsg → Updated
  | .close | .closeHelp | .regenerateCancelled => closeTop s
  | .trustChanged index =>
    (s.setCert { s.cert with advertiseTrust := advertiseTrustOfIndex index },
      [.saveAdvertiseTrust (advertiseTrustOfIndex index)])
  | .openHelp => openHook (s.setCert { s.cert with helpScroll := 0 }) .certHelp
  | .helpScrolled offset => (s.setCert { s.cert with helpScroll := offset }, [])
  | .regenerateRequested => openHook s .certRegenConfirm
  | .regenerateConfirmed =>
    let s := s.closeDialog
    (s.setCert { s.cert with loading := true }, [.ensureCert (buildSansFromConfig s.config)])
  | .refresh => (s.setCert { s.cert with loading := true }, [.loadCertInfo, .loadCertMode])

def onCertEnsured (s : AppState) (fingerprint : String) (sans : List String) : Updated :=
  ((s.setCert { s.cert with fingerprint := some fingerprint, sans, loading := false }).toast true
    "Certificate ready — re-pair every phone", [.loadCertInfo])

def onCertInfoLoaded (s : AppState) (fingerprint : Option String) (sans : List String) : Updated :=
  (s.setCert { s.cert with fingerprint, sans, loading := false }, [])

def onCertModeLoaded (s : AppState) (mode : Option TlsMode) : Updated :=
  (s.setCert { s.cert with tlsMode := mode }, [])

end Cert

/-! ### The token dialogs -/

namespace Tokens

/-- The name in the form, if there is one. -/
def formName (t : TokensState) : Option String :=
  if trim t.formName = "" then none else some (trim t.formName)

/-- Create the token of the form. -/
def createToken (t : TokensState) : UpdateAction :=
  .createToken (formName t) t.formReadOnly t.formExpiry.ttlSecs

def update (s : AppState) : TokensMsg → Updated
  | .close | .createCancel | .mintedDone | .revokeCancelled => closeTop s
  | .focused name => (s.setTokens { s.tokens with focused := some name }, [])
  | .createRequested => openHook (s.setTokens s.tokens.resetForm) .tokenCreate
  | .createNameChanged name => (s.setTokens { s.tokens with formName := name }, [])
  | .createReadOnlyChanged readOnly => (s.setTokens { s.tokens with formReadOnly := readOnly }, [])
  | .createExpiryChanged index =>
    (s.setTokens { s.tokens with formExpiry := .fromIndex index }, [])
  | .createSubmit =>
    if s.tokens.loading then (s, [])
    else (s.setTokens { s.tokens with loading := true }, [createToken s.tokens])
  | .mintedShowQr | .showQrForMinted => openQr s
  | .revokeRequested =>
    if s.tokens.loading || s.tokens.focusedRecord.isNone then (s, [])
    else openHook s .tokenRevokeConfirm
  | .revokeConfirmed =>
    let u := closeTop s
    match u.1.tokens.focused with
    | none => u
    | some name =>
      (u.1.setTokens { u.1.tokens with loading := true, lastMintedSecret := none },
        u.2 ++ [.revokeToken name])
  | .qrClose =>
    let s := s.setTokens { s.tokens with qrOverlay := none }
    if s.topDialog = some .qr then closeTop s else (s, [])
  | .refresh => (s.setTokens { s.tokens with loading := true }, [.loadTokens])

/-- The cursor after a load: on the same token if it is still there, else on the first one. -/
def refocus (focused : Option String) (records : List TokenRecord) : Option String :=
  if focused.any fun name => records.any (·.name = name) then focused
  else records.head?.map (·.name)

def onTokensLoaded (s : AppState) (records : List TokenRecord) : Updated :=
  (s.setTokens { s.tokens with
    tokens := records, focused := refocus s.tokens.focused records, loading := false }, [])

def onTokenCreated (s : AppState) (token name : String) (readOnly : Bool) : Updated :=
  let s := s.setTokens
    { s.tokens.resetForm with lastMintedSecret := some (name, token, readOnly), loading := false }
  let s := if s.topDialog = some .tokenCreate then s.closeDialog else s
  (openHook s .tokenMinted).push [.loadTokens]

def onTokensChanged (s : AppState) : Updated :=
  (s.setTokens { s.tokens with lastMintedSecret := none, loading := true }, [.loadTokens])

end Tokens

/-! ### The Devices dialog -/

namespace Devices

def update (s : AppState) : DevicesMsg → Updated
  | .close | .removeCancelled => closeTop s
  | .focused name => (s.setDevices { s.devices with focused := some name }, [])
  | .removeRequested =>
    if s.devices.focused.isSome then openHook s .deviceRemoveConfirm else (s, [])
  | .removeConfirmed =>
    let u := closeTop s
    match u.1.devices.focusedDevice with
    | none => u
    | some device =>
      (u.1.setDevices { u.1.devices with loading := true },
        u.2 ++ [.removeDevice device.deviceName])
  | .refresh => (s.setDevices { s.devices with loading := true }, [.loadDevices])

/-- The cursor after a load: on the same device if it is still there, else on none. -/
def refocus (focused : Option String) (devices : List DeviceRecord) : Option String :=
  focused.filter fun name => devices.any (·.deviceName = name)

def onDevicesLoaded (s : AppState) (devices : List DeviceRecord) (relayUrl : Option String) :
    Updated :=
  (s.setDevices { s.devices with
    devices, focused := refocus s.devices.focused devices, relayUrl, loading := false }, [])

def onDevicesChanged (s : AppState) : Updated :=
  ((s.setDevices { s.devices with loading := false }).toast true "Device removed", [.loadDevices])

end Devices

/-! ### The wizard -/

namespace Wizard

def isOpen (s : AppState) : Bool := s.isOpen .wizard

/-- The wizard is open and waits for the result of the step. -/
def waitingOn (s : AppState) (step : WizardStep) : Bool :=
  isOpen s && s.wizard.busy && s.wizard.step = step

/-- Close the top dialog until the wizard is closed. -/
def closeAll : ℕ → AppState → Updated
  | 0, s => (s, [])
  | n + 1, s => if isOpen s then (closeTop s).andThen (closeAll n) else (s, [])

def close (s : AppState) : Updated :=
  let s := s.setWizard { s.wizard with busy := false, error := none }
  let s := s.setTokens { s.tokens with qrOverlay := none }
  closeAll s.ui.modals.length s

def finish (s : AppState) : Updated :=
  let u := close s
  let s := u.1
  let s := s.setTokens { s.tokens with loading := true }
  let s := s.setCert { s.cert with loading := true }
  (s.setServer { s.server with loading := true },
    u.2 ++ [UpdateAction.loadTokens, .loadCertInfo, .refreshStatus])

/-- The last step: show the code of the token created last. -/
def enterPair (s : AppState) : Updated :=
  match s.tokens.lastMintedSecret with
  | none => (s.setTokens { s.tokens with qrOverlay := none }, [])
  | some (name, secret, readOnly) =>
    let seq := (s.qrSeq + 1) % 2 ^ 64
    let s := { s with qrSeq := seq }
    (s.setTokens { s.tokens with qrOverlay := some ⟨.generating, seq, 0, name, readOnly, 0⟩ },
      [.showTokenQr secret readOnly seq s.cert.advertiseTrust])

/-- Go to a step. -/
def goto (s : AppState) (step : WizardStep) : Updated :=
  let s := s.setWizard { s.wizard with step, error := none }
  if step = .pair then enterPair s else (s, [])

/-- Go to the step after the current one. -/
def advance (s : AppState) : Updated := goto s s.wizard.step.next

/-- The step cannot be done. -/
def fail (s : AppState) (error : String) : AppState :=
  s.setWizard { s.wizard with error := some error }

/-- The action of the step is in flight. -/
def wait (s : AppState) : AppState := s.setWizard { s.wizard with busy := true, error := none }

def saveBind (s : AppState) : Updated :=
  let u := Config.update (s.setConfig { s.config with error := none }) .save
  match u.1.config.error with
  | some error => (fail u.1 error, [])
  | none =>
    if u.2.isEmpty then
      (fail u.1 "A configuration read or write is already in flight — try again.", [])
    else (wait u.1, u.2)

def ensureCert (s : AppState) : Updated :=
  if s.cert.fingerprint.isSome && !s.wizard.certRegenAck then advance s
  else ((wait s).setCert { s.cert with loading := true },
    [.ensureCert (buildSansFromConfig s.config)])

def createToken (s : AppState) : Updated :=
  ((wait s).setTokens { s.tokens with loading := true }, [Tokens.createToken s.tokens])

def startDaemon (s : AppState) : Updated :=
  if s.server.status.isSome then advance s
  else
    let u := Server.update s .start
    if u.2.isEmpty then (fail u.1 "A daemon operation is already in flight — try again.", [])
    else (wait u.1, u.2)

/-- Do the current step. -/
def next (s : AppState) : Updated :=
  if s.wizard.busy then (s, [])
  else match s.wizard.step with
    | .welcome => advance (s.setWizard { s.wizard with certExisted := s.cert.fingerprint.isSome })
    | .network => saveBind s
    | .certificate => ensureCert s
    | .token => createToken s
    | .start => startDaemon s
    | .pair => (s, [])

/-- Go back a step. -/
def back (s : AppState) : Updated :=
  if s.wizard.busy || s.wizard.step = .welcome then (s, [])
  else
    let s := if s.wizard.step = .pair then s.setTokens { s.tokens with qrOverlay := none } else s
    (s.setWizard { s.wizard with step := s.wizard.step.previous, error := none }, [])

def update (s : AppState) : WizardMsg → Updated
  | .close => close s
  | .next => next s
  | .back => back s
  | .regenAckChanged ack => (s.setWizard { s.wizard with certRegenAck := ack }, [])
  | .finish => finish s

/-- The wizard opens by itself once, if the first loads find neither a certificate nor a token. -/
def maybeAutoOpen (s : AppState) : Updated :=
  let s := s.setWizard
    (if s.wizard.tokensMarkPending then
      { s.wizard with tokensMarkPending := false, tokensSeen := true }
    else { s.wizard with certInfoSeen := true })
  if s.wizard.firstRunChecked || !(s.wizard.certInfoSeen && s.wizard.tokensSeen) then (s, [])
  else
    let s := s.setWizard { s.wizard with firstRunChecked := true }
    let firstRun := s.cert.fingerprint.isNone && s.tokens.tokens.isEmpty
    if !firstRun || s.topDialog.isSome then (s, [])
    else
      let s := s.setWizard { s.wizard with step := .welcome, busy := false, error := none }
      (openHook s .wizard).push [.loadConfig]

/-- Stop waiting, and go on. -/
def proceed (s : AppState) : Updated := advance (s.setWizard { s.wizard with busy := false })

def onActionOk (s : AppState) : Updated :=
  if waitingOn s .network then proceed s else (s, [])

def onActionFailed (s : AppState) (msg : String) : Updated :=
  if isOpen s && s.wizard.busy then
    (s.setWizard { s.wizard with busy := false, error := some msg }, [])
  else (s, [])

def onCertEnsured (s : AppState) : Updated :=
  if waitingOn s .certificate then proceed s else (s, [])

def onTokenCreated (s : AppState) : Updated :=
  if waitingOn s .token then
    -- the dialog with the secret is closed again
    proceed (if s.topDialog = some .tokenMinted then s.closeDialog else s)
  else (s, [])

def onStatusLoaded (s : AppState) : Updated :=
  if waitingOn s .start && s.server.status.isSome then proceed s else (s, [])

def onTokensLoaded (s : AppState) : Updated :=
  (s.setWizard { s.wizard with tokensSeen := true, tokensMarkPending := true }, [])

end Wizard

/-! ### Messages -/

def handleUi (s : AppState) : UiMsg → Updated
  | .focus => (s, [])
  | .open id => openHook s id
  | .close => closeTop s
  | .config msg => Config.update s msg
  | .server msg => Server.update s msg
  | .cert msg => Cert.update s msg
  | .tokens msg => Tokens.update s msg
  | .devices msg => Devices.update s msg
  | .wizard msg => Wizard.update s msg

/-- A key that no component has taken; a dialog has them all but one. -/
def handleKey (s : AppState) (key : KeyEvent) : Updated :=
  if key.ctrl && key.code = some 'c' then ({ s with shouldQuit := true }, [.quit])
  else if s.topDialog.isSome then (s, [])
  else match key.code with
    | some 'q' => ({ s with shouldQuit := true }, [.quit])
    | some 'c' => openHook s .config
    | some 'e' => openHook s .cert
    | some 't' => openHook s .tokens
    | some 'd' => openHook s .devices
    | some 'w' => openHook s .wizard
    | some 's' => Server.update s (if s.server.isRunning then .stopRequested else .start)
    | some 'r' => (s, [.refreshStatus, .loadConfig, .loadTokens, .loadCertInfo, .loadDevices])
    | _ => (s, [])

/-- The poll of the daemon, every twentieth tick on which no task of it is in flight. -/
def pollTick (s : AppState) : Updated :=
  if s.server.loading then (s, [])
  else
    let counter := (s.server.tickCounter + 1) % 2 ^ 32
    if counter % 20 = 0 then
      (s.setServer { s.server with tickCounter := counter, loading := true }, [.refreshStatus])
    else (s.setServer { s.server with tickCounter := counter }, [])

def handleTick (s : AppState) : Updated := (pollTick s).andThen Tokens.onTick

/-- A task has succeeded; a saved address closes its dialog. -/
def onActionOk (s : AppState) (msg : String) : Updated :=
  let s := (clearLoading s).toast true msg
  let u : Updated :=
    if s.config.pendingSave then
      let s := s.setConfig { s.config with pendingSave := false }
      if s.topDialog = some .config then closeTop s else (s, [])
    else (s, [])
  u.andThen Wizard.onActionOk

/-- A task has failed. -/
def onActionFailed (s : AppState) (msg : String) : Updated :=
  let s := clearLoading s
  let s := (s.setConfig { s.config with pendingSave := false }).toast false msg
  let s := if s.isOpen .config then s.setConfig { s.config with error := some msg } else s
  Wizard.onActionFailed s msg

def update (s : AppState) : Message → Updated
  | .key key => handleKey s key
  | .tick => handleTick s
  | .quit => ({ s with shouldQuit := true }, [.quit])
  | .ui msg => handleUi s msg
  | .statusLoaded info => (Server.onStatusLoaded s info).andThen Wizard.onStatusLoaded
  | .configLoaded snapshot => Config.onConfigLoaded s snapshot
  | .certEnsured fingerprint sans =>
    (Cert.onCertEnsured s fingerprint sans).andThen Wizard.onCertEnsured
  | .certInfoLoaded fingerprint sans =>
    (Cert.onCertInfoLoaded s fingerprint sans).andThen Wizard.maybeAutoOpen
  | .certModeLoaded mode => Cert.onCertModeLoaded s mode
  | .actionOk msg => onActionOk s msg
  | .actionFailed msg => onActionFailed s msg
  | .tokensLoaded records =>
    ((Tokens.onTokensLoaded s records).andThen Wizard.onTokensLoaded).andThen Wizard.maybeAutoOpen
  | .tokenCreated token name readOnly =>
    (Tokens.onTokenCreated s token name readOnly).andThen Wizard.onTokenCreated
  | .tokensChanged => Tokens.onTokensChanged s
  | .devicesLoaded devices relayUrl => Devices.onDevicesLoaded s devices relayUrl
  | .devicesChanged => Devices.onDevicesChanged s
  | .tokenQrReady uri host port fingerprintShort baselineClients seq =>
    Tokens.onQrReady s uri host port fingerprintShort baselineClients seq
  | .tokenQrFailed err seq => Tokens.onQrFailed s err seq

end MuxrCore.Muxrctl
