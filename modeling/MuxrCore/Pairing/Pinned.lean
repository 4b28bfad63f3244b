import Mathlib.Logic.Function.Basic
import MuxrCore.Lib.Runs
import MuxrCore.Pairing.Qr
import MuxrCore.Tls.Identity

/-! # The certificate that a pairing code pins

The daemon loads its identity when it starts, and keeps it. The control panel may generate another
one at any time, and a pairing code takes the fingerprint of the certificate file in the configured
directory; the identity is always in the data directory.

* `Current`: a pin is taken from the daemon's directory, and the certificate there has not been
  written since the daemon started.
* `loaded_step`: until then the file has the certificate that the daemon loaded.
* `pins_served`: so a pin is that of the certificate that is served.
* `pins_regenerated`: a code that is built after a regeneration pins a certificate that the daemon
  does not have. -/

namespace MuxrCore.Pairing.Pinned

open MuxrCore.Lib.Runs MuxrCore.Pairing.Qr MuxrCore.Tls.Identity

/-- A daemon: how its certificate is made, and the certificate that it has loaded. -/
structure Running where
  mode : CertMode
  cert : Stored Cert
  deriving DecidableEq, Repr

/-- The directories, the config file, the daemon, the next key to be drawn, and whether the
certificate in the data directory has been written since the daemon started. -/
structure State (D : Type*) where
  disk : D → Dir
  config : FileConfig
  daemon : Option Running
  nextKey : ℕ
  rewritten : Bool

/-- A request for a pairing code, and how the queries for it go: whether each is answered in time.
-/
structure Request where
  token : String
  readOnly : Bool
  seq : ℕ
  advertiseTrust : AdvertiseTrust
  envBind : Option String
  runningAnswered : Bool
  modeAnswered : Bool
  /-- why the config, or the certificate file, cannot be read -/
  configFailed : Option String
  certFailed : Option String
  clientCount : Option ℕ
  deriving DecidableEq, Repr

/-- What happens next. -/
inductive Act
  | ensureCert (sans : List SanEntry)
  /-- a generation, by the control panel or by a daemon that is starting, ends after some of its
  writes -/
  | interrupted (sans : List SanEntry) (writes : ℕ)
  | start (mode : CertMode) (sans : List SanEntry)
  | stop
  | editConfig (config : FileConfig)
  | buildQr (request : Request)
  deriving DecidableEq, Repr

section
variable {D : Type*} [DecidableEq D] (locate : String → D) (dataDir : String)
  (certSha256 : Cert → String) (chooseAdvertiseHost : String → String)

/-- The fingerprint of a certificate. -/
def certSha256Fingerprint : Stored Cert → Except String String
  | .value cert => .ok (certSha256 cert)
  | _ => .error "tls: no CERTIFICATE block found in PEM input"

/-- The files with only the first of a generation's writes done. -/
def partlyGenerated (dir : Dir) (key : ℕ) (sans : List SanEntry) (writes : ℕ) : Dir :=
  ⟨if 0 < writes then .value ⟨key, sans⟩ else dir.cert,
    if 1 < writes then .value key else dir.key,
    if 2 < writes then .value sans else dir.sidecar⟩

/-- The daemon's own directory. -/
def State.dir (s : State D) : Dir := s.disk (locate dataDir)

/-- The daemon's directory has been replaced, by a generation or not. -/
def State.setDir (s : State D) (dir : Dir) (rewritten : Bool) : State D :=
  { s with
    disk := Function.update s.disk (locate dataDir) dir
    nextKey := s.nextKey + 1
    rewritten := s.rewritten || rewritten }

/-- Load the identity, or generate one. -/
def State.ensureCert (s : State D) (sans : List SanEntry) : State D :=
  s.setDir locate dataDir
    (loadOrGenerateIdentity (s.dir locate dataDir) s.nextKey sans).1
    (!(s.dir locate dataDir).covers sans)

/-- The fingerprint of the certificate file in the configured directory. -/
def State.currentCertFingerprint (s : State D) (cfg : EffectiveConfig) (failed : Option String) :
    Except String (Option String) :=
  match failed, (s.disk (locate cfg.certDir)).cert with
  | some e, _ => .error e
  | none, .absent => .ok none
  | none, cert => (certSha256Fingerprint certSha256 cert).map some

/-- The settings that a request finds. -/
def State.effectiveConfig (s : State D) (request : Request) : EffectiveConfig :=
  resolve dataDir none request.envBind s.config

/-- What the facade answers to a request. -/
def State.facade (s : State D) (request : Request) : Facade where
  isRunning := s.daemon.isSome && request.runningAnswered
  effectiveConfig := request.configFailed.elim (.ok (s.effectiveConfig dataDir request)) .error
  chooseAdvertiseHost
  serverCertMode := if request.modeAnswered then s.daemon.map (·.mode) else none
  currentCertFingerprint :=
    match request.configFailed with
    | some e => .error e
    | none => s.currentCertFingerprint locate certSha256 (s.effectiveConfig dataDir request)
        request.certFailed
  clientCount := request.clientCount

/-- The outcome of a request. -/
def State.message (s : State D) (request : Request) : Message :=
  buildTokenQrTask (s.facade locate dataDir certSha256 chooseAdvertiseHost request) request.token
    request.readOnly request.seq request.advertiseTrust

/-- One step. A daemon is started when none is running; only a self-signed one has an identity. -/
def State.step (s : State D) : Act → Option (State D)
  | .ensureCert sans => some (s.ensureCert locate dataDir sans)
  | .interrupted sans writes =>
    if (s.dir locate dataDir).covers sans then none
    else some (s.setDir locate dataDir
      (partlyGenerated (s.dir locate dataDir) s.nextKey sans writes) (0 < writes))
  | .start mode sans =>
    match s.daemon, mode with
    | some _, _ => none
    | none, .selfSigned =>
      let t := s.ensureCert locate dataDir sans
      some { t with
        daemon := some ⟨.selfSigned,
          (loadOrGenerateIdentity (s.dir locate dataDir) s.nextKey sans).2.1⟩
        rewritten := false }
    | none, mode => some { s with daemon := some ⟨mode, .absent⟩, rewritten := false }
  | .stop => some { s with daemon := none }
  | .editConfig config => some { s with config }
  | .buildQr _ => some s

/-! ### Which certificate is pinned -/

/-- A code with a pin, built while the running daemon reports a self-signed certificate, has the
fingerprint of the certificate that the daemon has loaded. -/
def PinsServed (_ : List Act) (s : State D) (a : Act) : Prop :=
  ∀ request uri host port short clients seq fp d, a = .buildQr request →
    s.message locate dataDir certSha256 chooseAdvertiseHost request =
      .tokenQrReady uri host port short clients seq → uri.trust = .pin fp →
    s.daemon = some d → d.mode = .selfSigned → certSha256Fingerprint certSha256 d.cert = .ok fp

/-- A code that is to have a pin is built with the daemon's own directory configured, and with its
certificate not written since the daemon started. -/
def Current (_ : List Act) (s : State D) (a : Act) : Prop :=
  ∀ request d, a = .buildQr request → request.advertiseTrust ≠ .ca → s.daemon = some d →
    d.mode = .selfSigned →
      locate (s.effectiveConfig dataDir request).certDir = locate dataDir ∧ s.rewritten = false

/-- The certificate file is the one that the daemon has loaded, unless it has been written since. -/
def Loaded (s : State D) : Prop :=
  ∀ d, s.daemon = some d → d.mode = .selfSigned → s.rewritten = false →
    (s.dir locate dataDir).cert = d.cert

variable {locate dataDir certSha256 chooseAdvertiseHost} {s t : State D} {a : Act}

@[simp] theorem setDir_dir (dir : Dir) (rewritten : Bool) :
    (s.setDir locate dataDir dir rewritten).dir locate dataDir = dir := by
  simp [State.setDir, State.dir]

/-- The directory is replaced by one with the same certificate, or this is noted. -/
theorem Loaded.setDir (h : Loaded locate dataDir s) {dir : Dir} {rewritten : Bool}
    (hdir : rewritten = false → dir.cert = (s.dir locate dataDir).cert) :
    Loaded locate dataDir (s.setDir locate dataDir dir rewritten) := by
  intro d hd hmode hnot
  have hnot : s.rewritten = false ∧ rewritten = false := by simpa [State.setDir] using hnot
  rw [setDir_dir, hdir hnot.2]
  exact h d hd hmode hnot.1

/-- **The certificate file is the loaded one**, until it is written. -/
theorem loaded_step (h : Loaded locate dataDir s) (ha : s.step locate dataDir a = some t) :
    Loaded locate dataDir t := by
  cases a with
  | ensureCert sans =>
    cases ha
    refine h.setDir fun hcovers => ?_
    rw [loadOrGenerateIdentity_of_covers (by simpa using hcovers)]
  | interrupted sans writes =>
    unfold State.step at ha
    dsimp only at ha
    split_ifs at ha
    cases ha
    refine h.setDir fun hzero => ?_
    have hzero : writes = 0 := by simpa using hzero
    simp [partlyGenerated, hzero]
  | start mode sans =>
    unfold State.step at ha
    dsimp only at ha
    rcases hd : s.daemon with _ | d
    · cases mode <;> simp only [hd, Option.some.injEq] at ha <;> subst ha
      · rintro d ⟨⟩ - -
        have hdir : (s.ensureCert locate dataDir sans).dir locate dataDir =
            (loadOrGenerateIdentity (s.dir locate dataDir) s.nextKey sans).1 := setDir_dir _ _
        exact (congrArg Dir.cert hdir).trans (loadOrGenerateIdentity_cert _ _ _)
      · rintro d ⟨⟩ ⟨⟩
      · rintro d ⟨⟩ ⟨⟩
    · simp only [hd, reduceCtorEq] at ha
  | stop =>
    cases ha
    rintro d ⟨⟩
  | editConfig config =>
    cases ha
    exact h
  | buildQr request =>
    cases ha
    exact h

omit [DecidableEq D] in
/-- A pin is that of the certificate file in the configured directory. -/
theorem pin_of_message {request : Request} {uri : PairingParams} {host short : String}
    {port clients seq : ℕ} {fp : String}
    (h : s.message locate dataDir certSha256 chooseAdvertiseHost request =
      .tokenQrReady uri host port short clients seq) (hpin : uri.trust = .pin fp) :
    request.advertiseTrust ≠ .ca ∧ certSha256Fingerprint certSha256
      (s.disk (locate (s.effectiveConfig dataDir request).certDir)).cert = .ok fp := by
  obtain ⟨htrust, hfp⟩ := pin_of_ready h hpin
  refine ⟨htrust, ?_⟩
  unfold State.facade at hfp
  dsimp only at hfp
  split at hfp
  · cases hfp
  · unfold State.currentCertFingerprint at hfp
    split at hfp
    · cases hfp
    · cases hfp
    · rcases hc : certSha256Fingerprint certSha256
        (s.disk (locate (s.effectiveConfig dataDir request).certDir)).cert with e | fp'
      · rw [hc] at hfp
        cases hfp
      · rw [hc] at hfp
        cases hfp
        rfl

/-- **A pin is that of the certificate that is served** in a run in which every code that is to have
one is built with the daemon's own directory configured, and with its certificate not written since
the daemon started. -/
theorem pins_served {as : List Act} (hs : s.daemon = none)
    (hc : Along (ofFn (State.step locate dataDir)) (Current locate dataDir) s as) :
    Along (ofFn (State.step locate dataDir))
      (PinsServed locate dataDir certSha256 chooseAdvertiseHost) s as := by
  rintro pre a post u rfl hu request uri host port short clients seq fp d rfl hmsg hpin hd hmode
  have hloaded : Loaded locate dataDir u :=
    hu.invariant (fun _ _ _ hi ha => loaded_step hi ha) fun d hd => by simp [hs] at hd
  obtain ⟨htrust, hfile⟩ := pin_of_message hmsg hpin
  obtain ⟨hdir, hnot⟩ := hc pre _ post u rfl hu request d rfl htrust hd hmode
  rwa [hdir, ← State.dir, hloaded d hd hmode hnot] at hfile

end

/-! ### Runs -/

/-- No certificate, no settings, and no daemon. -/
def nothing : State String := ⟨fun _ => ⟨.absent, .absent, .absent⟩, ⟨none, none⟩, none, 0, false⟩

/-- A digest that tells the first certificate from the others. -/
def firstOrOther (cert : Cert) : String := if cert.key = 0 then "first" else "other"

/-- A request all of whose queries are answered. -/
def request : Request := ⟨"token", false, 1, .auto, none, true, true, none, none, some 0⟩

/-- The certificate is regenerated while the daemon runs. -/
def regenerated : List Act := [.start .selfSigned [], .ensureCert [.dns "a"]]

/-- **A certificate is pinned that is not served**: the daemon keeps the one that it has loaded. -/
theorem pins_regenerated :
    ¬ ∀ (locate : String → String) (dataDir : String) (certSha256 : Cert → String)
      (chooseAdvertiseHost : String → String) (s t : State String) (as : List Act),
      s.daemon = none → Run (ofFn (State.step locate dataDir)) s as t →
        Along (ofFn (State.step locate dataDir))
          (PinsServed locate dataDir certSha256 chooseAdvertiseHost) s as := by
  intro h
  have hpre : Run (ofFn (State.step id "data")) nothing regenerated _ :=
    .cons rfl <| .cons rfl <| .nil _
  have hrun : Run (ofFn (State.step id "data")) nothing (regenerated ++ [Act.buildQr request]) _ :=
    .cons rfl <| .cons rfl <| .cons rfl <| .nil _
  have hserved := h id "data" firstOrOther id nothing _ _ rfl hrun regenerated _ [] _ rfl hpre
    request _ _ _ _ _ _ "other" _ rfl rfl rfl rfl rfl
  have hsame : "first" = "other" := Except.ok.inj hserved
  exact absurd hsame (by decide)

/-- A code that is built right after the daemon has started. -/
def started : List Act := [.start .selfSigned [], .buildQr request]

theorem pins_served_started :
    Along (ofFn (State.step id "data")) (PinsServed id "data" firstOrOther id) nothing started := by
  refine pins_served rfl (along_cons_iff.mpr ⟨?_, fun t ht => along_cons_iff.mpr ⟨?_, ?_⟩⟩)
  · rintro r d ⟨⟩
  · cases ht
    rintro r d ⟨⟩ - - -
    exact ⟨rfl, rfl⟩
  · exact fun u _ => along_nil _ _

end MuxrCore.Pairing.Pinned
