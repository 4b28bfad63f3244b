import MuxrCore.Lib.Text
import MuxrCore.Pairing.Qr

/-! # The state of the control panel

The state is pure data, a part for each feature. The keyboard focus is left out: the reducers set it
and never read it. The open dialogs are a stack, the top one first. -/

namespace MuxrCore.Muxrctl

open MuxrCore.Lib.Text
open MuxrCore.Pairing.Qr (AdvertiseTrust)

/-- A name that a certificate is to be made for, as the panel keeps it. -/
inductive San
  | ip (text : String)
  | dns (name : String)
  deriving DecidableEq, Repr

/-- The text of a name. -/
def San.value : San → String
  | .ip s | .dns s => s

/-- What a running daemon reports. -/
structure ServerInfo where
  version : String
  bindAddr : String
  pid : ℕ
  uptimeSecs : ℕ
  clientCount : ℕ
  notifyRelayUrl : Option String
  pushDeviceCount : ℕ
  deriving DecidableEq, Repr

/-- Every dialog. -/
inductive DialogId
  | config
  | stopServer
  | cert
  | certHelp
  | certRegenConfirm
  | tokens
  | tokenCreate
  | tokenMinted
  | tokenRevokeConfirm
  | qr
  | devices
  | deviceRemoveConfirm
  | wizard
  deriving DecidableEq, Repr

/-- The open dialogs, the top one first. -/
abbrev ModalState := List DialogId

/-- Opening a dialog that is open already changes nothing. -/
def ModalState.open (modals : ModalState) (id : DialogId) : ModalState :=
  if id ∈ modals then modals else id :: modals

/-- A toast: its text, and whether it tells of a success. -/
structure Toast where
  success : Bool
  text : String
  deriving DecidableEq, Repr

structure UiState where
  modals : ModalState := []
  toasts : List Toast := []
  deriving DecidableEq, Repr

/-- The Config dialog: the form of the bind address and the picker of reachable addresses. -/
structure ConfigState where
  host : String := ""
  port : String := ""
  reachableIps : List (BitVec 32) := []
  ipCursor : Option (BitVec 32) := none
  ipOpen : Bool := false
  certDir : String := ""
  /-- further names, from the variable `MUXRD_SAN` -/
  advertiseSans : List String := []
  /-- a load or a save is in flight -/
  loading : Bool := false
  error : Option String := none
  /-- a save has been dispatched and is not confirmed yet -/
  pendingSave : Bool := false
  deriving DecidableEq, Repr

def ConfigState.bindAddr (c : ConfigState) : String := s!"{c.host}:{c.port}"

/-- Fill in the form, at the last colon of the address. -/
def ConfigState.applyBindAddr (c : ConfigState) (addr : String) : ConfigState :=
  match rsplitOnce addr ':' with
  | some (host, port) => { c with host, port }
  | none => { c with host := addr, port := "50051" }

/-- What is known of the daemon. -/
structure ServerPanelState where
  status : Option ServerInfo := none
  stopped : Bool := false
  /-- a start, a stop or a poll is in flight -/
  loading : Bool := false
  tickCounter : ℕ := 0
  deriving DecidableEq, Repr

/-- The daemon is known to be up. -/
def ServerPanelState.isRunning (s : ServerPanelState) : Bool := s.status.isSome && !s.stopped

/-- The transport that the daemon reports. -/
inductive TlsMode
  | selfSigned
  | external
  | h2c
  deriving DecidableEq, Repr

/-- The choice at an index. -/
def advertiseTrustOfIndex : ℕ → AdvertiseTrust
  | 1 => .ca
  | 2 => .pin
  | _ => .auto

/-- The Certificate dialog. -/
structure CertState where
  fingerprint : Option String := none
  sans : List String := []
  tlsMode : Option TlsMode := none
  /-- a generation or a read is in flight -/
  loading : Bool := false
  advertiseTrust : AdvertiseTrust := .auto
  helpScroll : ℕ := 0
  deriving DecidableEq, Repr

/-- A token, as the list shows it. -/
structure TokenRecord where
  name : String
  createdAt : String
  readOnly : Bool
  deriving DecidableEq, Repr

inductive TokenExpiryChoice
  | never
  | thirtyMinutes
  | oneHour
  | oneDay
  | sevenDays
  deriving DecidableEq, Repr

/-- The choice at an index, which wraps around. -/
def TokenExpiryChoice.fromIndex (index : ℕ) : TokenExpiryChoice :=
  match index % 5 with
  | 0 => .never
  | 1 => .thirtyMinutes
  | 2 => .oneHour
  | 3 => .oneDay
  | _ => .sevenDays

/-- How long a token may be used for pairing. -/
def TokenExpiryChoice.ttlSecs : TokenExpiryChoice → Option ℕ
  | .never => none
  | .thirtyMinutes => some (30 * 60)
  | .oneHour => some (60 * 60)
  | .oneDay => some (24 * 60 * 60)
  | .sevenDays => some (7 * 24 * 60 * 60)

inductive QrOverlayPhase
  | generating
  | showing (uri host : String) (port : ℕ) (fingerprintShort : String)
  | connected
  | failed (err : String)
  deriving DecidableEq, Repr

/-- A code is on display. -/
def QrOverlayPhase.isShowing : QrOverlayPhase → Bool
  | .showing .. => true
  | _ => false

/-- The layer with the pairing code of a token. -/
structure QrOverlay where
  phase : QrOverlayPhase
  seq : ℕ
  baselineClients : ℕ
  tokenName : String
  readOnly : Bool
  tickCounter : ℕ
  deriving DecidableEq, Repr

/-- The token list, the form for a new token, and the pairing code. -/
structure TokensState where
  tokens : List TokenRecord := []
  /-- the name of the token that the cursor is on -/
  focused : Option String := none
  /-- a load, a creation or a revocation is in flight -/
  loading : Bool := false
  /-- the name, the secret and the kind of the token created last -/
  lastMintedSecret : Option (String × String × Bool) := none
  formName : String := ""
  formReadOnly : Bool := false
  formExpiry : TokenExpiryChoice := .never
  qrOverlay : Option QrOverlay := none
  deriving DecidableEq, Repr

/-- The record that the cursor is on. -/
def TokensState.focusedRecord (t : TokensState) : Option TokenRecord :=
  t.focused.bind fun name => t.tokens.find? (·.name = name)

/-- An empty form. -/
def TokensState.resetForm (t : TokensState) : TokensState :=
  { t with formName := "", formReadOnly := false, formExpiry := .never }

/-- A device, as the list shows it. -/
structure DeviceRecord where
  deviceName : String
  platform : String
  registeredAt : ℕ
  handlePrefix : String
  deriving DecidableEq, Repr

/-- The device list. -/
structure DevicesState where
  devices : List DeviceRecord := []
  focused : Option String := none
  /-- a load or a removal is in flight -/
  loading : Bool := false
  relayUrl : Option String := none
  deriving DecidableEq, Repr

/-- The record that the cursor is on. -/
def DevicesState.focusedDevice (d : DevicesState) : Option DeviceRecord :=
  d.focused.bind fun name => d.devices.find? (·.deviceName = name)

/-- The steps of the wizard, in their order. -/
inductive WizardStep
  | welcome
  | network
  | certificate
  | token
  | start
  | pair
  deriving DecidableEq, Repr

/-- The step after; the last one stays. -/
def WizardStep.next : WizardStep → WizardStep
  | .welcome => .network
  | .network => .certificate
  | .certificate => .token
  | .token => .start
  | .start | .pair => .pair

/-- The step before; the first one stays. -/
def WizardStep.previous : WizardStep → WizardStep
  | .welcome | .network => .welcome
  | .certificate => .network
  | .token => .certificate
  | .start => .token
  | .pair => .start

structure WizardState where
  step : WizardStep := .welcome
  firstRunChecked : Bool := false
  /-- the action of the step has been dispatched, and its result has not come yet -/
  busy : Bool := false
  error : Option String := none
  certExisted : Bool := false
  certRegenAck : Bool := false
  certInfoSeen : Bool := false
  tokensSeen : Bool := false
  tokensMarkPending : Bool := false
  deriving DecidableEq, Repr

structure AppState where
  shouldQuit : Bool := false
  ui : UiState := {}
  config : ConfigState := {}
  server : ServerPanelState := {}
  cert : CertState := {}
  tokens : TokensState := {}
  devices : DevicesState := {}
  wizard : WizardState := {}
  qrSeq : ℕ := 0
  deriving DecidableEq, Repr

/-- Open a dialog on top of the others. -/
def AppState.openDialog (s : AppState) (id : DialogId) : AppState :=
  { s with ui := { s.ui with modals := s.ui.modals.open id } }

/-- Close the top dialog. -/
def AppState.closeDialog (s : AppState) : AppState :=
  { s with ui := { s.ui with modals := s.ui.modals.tail } }

def AppState.topDialog (s : AppState) : Option DialogId := s.ui.modals.head?

/-- A dialog is open, on top or below another. -/
def AppState.isOpen (s : AppState) (id : DialogId) : Bool := s.ui.modals.contains id

def AppState.toast (s : AppState) (success : Bool) (text : String) : AppState :=
  { s with ui := { s.ui with toasts := s.ui.toasts ++ [⟨success, text⟩] } }

end MuxrCore.Muxrctl
