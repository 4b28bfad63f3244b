import Mathlib.Data.List.Basic
import MuxrCore.Lib.Address

/-! # Building a pairing code

What the control panel puts into the pairing code of a token: where the server is, and whether the
client is to pin the certificate. The server is asked for its certificate mode; the fingerprint is
that of the certificate file. -/

namespace MuxrCore.Pairing.Qr

open MuxrCore.Lib.Address

def defaultBind : String := "127.0.0.1:50051"

/-- The settings of the config file. -/
structure FileConfig where
  bindAddr : Option String
  certDir : Option String
  deriving DecidableEq, Repr

structure EffectiveConfig where
  bindAddr : String
  certDir : String
  deriving DecidableEq, Repr

/-- The settings that hold: an override, then the environment, the file, and the defaults. -/
def resolve (dataDir : String) (bindOverride envBind : Option String) (file : FileConfig) :
    EffectiveConfig :=
  ⟨((bindOverride.or envBind).or file.bindAddr).getD defaultBind, file.certDir.getD dataDir⟩

/-- How the server's certificate is made. -/
inductive CertMode
  | selfSigned
  | external
  | h2c
  deriving DecidableEq, Repr

/-- What the operator has chosen. -/
inductive AdvertiseTrust
  | auto
  | ca
  | pin
  deriving DecidableEq, Repr

inductive PairingTrust
  | pin (fingerprint : String)
  | ca
  deriving DecidableEq, Repr

structure PairingParams where
  host : String
  port : ℕ
  trust : PairingTrust
  token : String
  readOnly : Bool
  label : String
  deriving DecidableEq, Repr

/-- The outcome; the URI is kept as its parameters. -/
inductive Message
  | tokenQrReady (uri : PairingParams) (host : String) (port : ℕ) (fingerprintShort : String)
      (baselineClients seq : ℕ)
  | tokenQrFailed (err : String) (seq : ℕ)
  deriving DecidableEq, Repr

/-- A port: decimal digits, after an optional plus sign. -/
def parsePort (text : List Char) : Option ℕ :=
  let digits := if text.head? = some '+' then text.tail else text
  if digits.isEmpty || !digits.all (·.isDigit) then none
  else
    let n := digits.foldl (fun n c => 10 * n + (c.toNat - '0'.toNat)) 0
    if n < 2 ^ 16 then some n else none

/-- A port is read from decimal digits. -/
theorem parsePort_of_digits {text : List Char} (hne : text ≠ [])
    (h : ∀ c ∈ text, isDigit 10 c = true) :
    parsePort text = if ofDigitsBE 10 (text.map digitValue) < 2 ^ 16 then
      some (ofDigitsBE 10 (text.map digitValue)) else none := by
  have hdigit : ∀ c ∈ text, c.isDigit = true ∧ c.toNat - '0'.toNat = digitValue c := fun c hc => by
    have hlt : digitValue c < 10 := of_decide_eq_true (h c hc)
    unfold digitValue at hlt ⊢
    rw [Char.isDigit, Bool.and_eq_true, decide_eq_true_eq, decide_eq_true_eq, ge_iff_le,
      UInt32.le_iff_toNat_le, UInt32.le_iff_toNat_le]
    split_ifs at hlt ⊢
    · exact ⟨‹_›, rfl⟩
    · omega
    · omega
    · omega
  have hhead : text.head? ≠ some '+' := fun hp => by
    have := (hdigit '+' (List.mem_of_mem_head? hp)).1
    exact absurd this (by decide)
  have hfold : ∀ n, text.foldl (fun n c => 10 * n + (c.toNat - '0'.toNat)) n =
      (text.map digitValue).foldl (fun n d => 10 * n + d) n := fun n => by
    rw [List.foldl_map]
    exact List.foldl_ext _ _ _ fun n c hc => by rw [(hdigit c hc).2]
  rw [parsePort, if_neg hhead, if_neg, hfold]
  · rfl
  · simp only [Bool.or_eq_true, List.isEmpty_iff, hne, Bool.not_eq_true', false_or,
      Bool.not_eq_false]
    exact List.all_eq_true.mpr fun c hc => (hdigit c hc).1

theorem parsePort_toDigits {n : ℕ} (h : n < 2 ^ 16) : parsePort (Nat.toDigits 10 n) = some n := by
  rw [parsePort_of_digits (by simp) fun c hc =>
    isDigit_of_mem_toDigits (by decide) (by decide) hc, ofDigitsBE_toDigits (by decide) (by decide),
    if_pos h]

/-- The host and the port of a bind address, at its last colon. -/
def splitBind (addr : String) : String × ℕ :=
  let after := addr.toList.reverse.takeWhile (· ≠ ':')
  if after.length = addr.length then (addr, 50051)
  else (String.ofList (addr.toList.take (addr.length - after.length - 1)),
    (parsePort after.reverse).getD 50051)

/-- Whether a certificate mode asks for a pin. -/
def resolveAutoTrust : Option CertMode → Bool
  | some .external | some .h2c => false
  | some .selfSigned | none => true

/-- What the facade of the server answers. -/
structure Facade where
  isRunning : Bool
  effectiveConfig : Except String EffectiveConfig
  /-- which host to advertise for a bind host -/
  chooseAdvertiseHost : String → String
  serverCertMode : Option CertMode
  currentCertFingerprint : Except String (Option String)
  clientCount : Option ℕ

/-- The trust, with the fingerprint of the certificate file if it is a pin. -/
def pinTrust : Except String (Option String) → Except String PairingTrust
  | .ok (some fp) => .ok (.pin fp)
  | .ok none =>
    .error "No certificate yet — open the Certificate dialog (e) and regenerate first."
  | .error e => .error s!"cert fingerprint: {e}"

/-- The trust of a pairing code. -/
def resolveTrust (facade : Facade) : AdvertiseTrust → Except String PairingTrust
  | .ca => .ok .ca
  | .pin => pinTrust facade.currentCertFingerprint
  | .auto =>
    if resolveAutoTrust facade.serverCertMode then pinTrust facade.currentCertFingerprint
    else .ok .ca

/-- The excerpt of a fingerprint that is shown. -/
def fingerprintShort : PairingTrust → String
  | .ca => "CA trust (no pin)"
  | .pin fp => if fp.length > 16 then String.ofList (fp.toList.take 16) ++ "…" else fp

/-- Build the pairing code of a token. -/
def buildTokenQrTask (facade : Facade) (token : String) (readOnly : Bool) (seq : ℕ)
    (advertiseTrust : AdvertiseTrust) : Message :=
  if !facade.isRunning then .tokenQrFailed "Start the server first." seq
  else match facade.effectiveConfig with
    | .error e => .tokenQrFailed s!"config: {e}" seq
    | .ok cfg =>
      let (bindHost, port) := splitBind cfg.bindAddr
      let host := facade.chooseAdvertiseHost bindHost
      match resolveTrust facade advertiseTrust with
      | .error e => .tokenQrFailed e seq
      | .ok trust =>
        .tokenQrReady ⟨host, port, trust, token, readOnly, "muxrd"⟩ host port
          (fingerprintShort trust) (facade.clientCount.getD 0) seq

/-- A code with a pin has the fingerprint of the certificate file. -/
theorem pin_of_ready {facade : Facade} {token : String} {readOnly : Bool} {seq : ℕ}
    {advertiseTrust : AdvertiseTrust} {uri : PairingParams} {host short : String}
    {port clients seq' : ℕ} {fp : String}
    (h : buildTokenQrTask facade token readOnly seq advertiseTrust =
      .tokenQrReady uri host port short clients seq') (hpin : uri.trust = .pin fp) :
    advertiseTrust ≠ .ca ∧ facade.currentCertFingerprint = .ok (some fp) := by
  have hfp : ∀ r, pinTrust r = .ok (.pin fp) → r = .ok (some fp) := by
    intro r hr
    rcases r with e | _ | fp'
    · cases hr
    · cases hr
    · cases hr
      rfl
  unfold buildTokenQrTask at h
  split_ifs at h
  split at h
  · cases h
  · rcases ht : resolveTrust facade advertiseTrust with e | trust
    · simp only [ht] at h
      cases h
    · simp only [ht, Message.tokenQrReady.injEq] at h
      obtain ⟨rfl, -⟩ := h
      change trust = .pin fp at hpin
      rw [hpin] at ht
      cases advertiseTrust with
      | ca => cases ht
      | pin => exact ⟨by simp, hfp _ ht⟩
      | auto =>
        unfold resolveTrust at ht
        dsimp only at ht
        split_ifs at ht
        · exact ⟨by simp, hfp _ ht⟩
        · cases ht

end MuxrCore.Pairing.Qr
