import MuxrCore.Muxrctl.State

/-! # Messages and actions of the control panel

A message is the only input of the reducer: a key, a tick, what a component asks for, or the result
of a task. An action is what the reducer wants done; the runner does it as a task of its own, which
posts one message in the end.

* `UpdateAction.posts`: the messages that the task of an action may post. -/

namespace MuxrCore.Muxrctl

open MuxrCore.Pairing.Qr (AdvertiseTrust)

/-- A key: its code, if it is a character, and whether the control key is held. -/
structure KeyEvent where
  code : Option Char
  ctrl : Bool
  deriving DecidableEq, Repr

structure ConfigSnapshot where
  bindAddr : String
  certDir : String
  reachableIps : List (BitVec 32)
  advertiseSans : List String
  deriving DecidableEq, Repr

inductive ConfigMsg
  | hostChanged (host : String)
  | portChanged (port : String)
  | ipOpenChanged (isOpen : Bool)
  | ipFocused (ip : BitVec 32)
  | ipPicked (ip : BitVec 32)
  | save
  | cancel
  deriving DecidableEq, Repr

inductive ServerMsg
  | start
  | stopRequested
  | stopConfirmed
  | stopCancelled
  | refresh
  deriving DecidableEq, Repr

inductive CertMsg
  | close
  | trustChanged (index : ℕ)
  | openHelp
  | closeHelp
  | helpScrolled (offset : ℕ)
  | regenerateRequested
  | regenerateConfirmed
  | regenerateCancelled
  | refresh
  deriving DecidableEq, Repr

inductive TokensMsg
  | close
  | focused (name : String)
  | createRequested
  | createNameChanged (name : String)
  | createReadOnlyChanged (readOnly : Bool)
  | createExpiryChanged (index : ℕ)
  | createSubmit
  | createCancel
  | mintedDone
  | mintedShowQr
  | revokeRequested
  | revokeConfirmed
  | revokeCancelled
  | showQrForMinted
  | qrClose
  | refresh
  deriving DecidableEq, Repr

inductive DevicesMsg
  | close
  | focused (name : String)
  | removeRequested
  | removeConfirmed
  | removeCancelled
  | refresh
  deriving DecidableEq, Repr

inductive WizardMsg
  | close
  | next
  | back
  | regenAckChanged (ack : Bool)
  | finish
  deriving DecidableEq, Repr

/-- What a component asks for. -/
inductive UiMsg
  /-- the keyboard focus has moved -/
  | focus
  | open (id : DialogId)
  | close
  | config (msg : ConfigMsg)
  | server (msg : ServerMsg)
  | cert (msg : CertMsg)
  | tokens (msg : TokensMsg)
  | devices (msg : DevicesMsg)
  | wizard (msg : WizardMsg)
  deriving DecidableEq, Repr

inductive Message
  | key (key : KeyEvent)
  | tick
  | quit
  | ui (msg : UiMsg)
  | statusLoaded (info : Option ServerInfo)
  | configLoaded (snapshot : ConfigSnapshot)
  | certEnsured (fingerprint : String) (sans : List String)
  | certInfoLoaded (fingerprint : Option String) (sans : List String)
  | certModeLoaded (mode : Option TlsMode)
  | actionFailed (msg : String)
  | actionOk (msg : String)
  | tokensLoaded (records : List TokenRecord)
  | tokenCreated (token name : String) (readOnly : Bool)
  | tokensChanged
  | devicesLoaded (devices : List DeviceRecord) (relayUrl : Option String)
  | devicesChanged
  | tokenQrReady (uri host : String) (port : ℕ) (fingerprintShort : String)
      (baselineClients seq : ℕ)
  | tokenQrFailed (err : String) (seq : ℕ)
  deriving DecidableEq, Repr

/-- The message is the result of a task. -/
def Message.isResult : Message → Bool
  | .key _ | .tick | .quit | .ui _ => false
  | _ => true

inductive UpdateAction
  | quit
  | refreshStatus
  | startServer
  | stopServer
  | loadConfig
  | saveBind (addr : String)
  | ensureCert (sans : List San)
  | loadTokens
  | createToken (name : Option String) (readOnly : Bool) (expirySecs : Option ℕ)
  | revokeToken (name : String)
  | loadDevices
  | removeDevice (name : String)
  | showTokenQr (token : String) (readOnly : Bool) (seq : ℕ) (advertiseTrust : AdvertiseTrust)
  | loadCertInfo
  | loadCertMode
  | saveAdvertiseTrust (trust : AdvertiseTrust)
  deriving DecidableEq, Repr

/-- The action is done as a task, and not on the spot. -/
def UpdateAction.isTask : UpdateAction → Bool
  | .quit | .saveAdvertiseTrust _ => false
  | _ => true

/-- The task of an action may post the message. -/
def UpdateAction.posts : UpdateAction → Message → Bool
  | .refreshStatus, .statusLoaded _ => true
  | .startServer, .statusLoaded _ => true
  | .startServer, .actionFailed _ => true
  | .stopServer, .statusLoaded none => true
  | .stopServer, .actionFailed _ => true
  | .loadConfig, .configLoaded _ => true
  | .loadConfig, .actionFailed _ => true
  | .saveBind addr, .actionOk msg => msg = s!"Saved bind address: {addr}"
  | .saveBind _, .actionFailed _ => true
  | .ensureCert sans, .certEnsured _ active => active = sans.map San.value
  | .ensureCert _, .actionFailed _ => true
  | .loadTokens, .tokensLoaded _ => true
  | .loadTokens, .actionFailed _ => true
  | .createToken _ readOnly _, .tokenCreated _ _ ro => ro = readOnly
  | .createToken .., .actionFailed _ => true
  | .revokeToken _, .tokensChanged => true
  | .revokeToken _, .actionFailed _ => true
  | .loadDevices, .devicesLoaded .. => true
  | .loadDevices, .actionFailed _ => true
  | .removeDevice _, .devicesChanged => true
  | .removeDevice _, .actionFailed _ => true
  | .showTokenQr _ _ seq _, .tokenQrReady _ _ _ _ _ seq' => seq' = seq
  | .showTokenQr _ _ seq _, .tokenQrFailed _ seq' => seq' = seq
  | .loadCertInfo, .certInfoLoaded .. => true
  | .loadCertInfo, .actionFailed _ => true
  | .loadCertMode, .certModeLoaded _ => true
  | _, _ => false

/-- What a task posts is a result. -/
theorem isResult_of_posts {action : UpdateAction} {msg : Message} (h : action.posts msg = true) :
    msg.isResult = true := by
  cases msg <;> first | rfl | (cases action <;> cases h)

end MuxrCore.Muxrctl
