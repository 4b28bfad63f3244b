import MuxrCore.Muxrctl.Runner

/-! # A confirmed regeneration

The operator confirms that a new certificate is to be made, in the Certificate dialog or in the
wizard. Either dispatches the task that makes sure of a certificate for the planned names, which
generates one only if there is none yet that covers them.

* `dispatches`: what the confirmation dispatches.
* `regenerates_iff`: the task fails, or leaves another certificate, exactly if the one that is there
  is not one that it loads. -/

namespace MuxrCore.Muxrctl.Regenerate

open MuxrCore.Tls.Identity

/-- What the file system and the generator answer: whether an operation goes through, and what a
write that does not leaves behind. -/
structure Answers where
  certDir : Bool
  readCert : Bool
  readKey : Bool
  key : ℕ
  generate : Bool
  writeCert : Option (Stored Cert)
  writeKey : Option (Stored ℕ)
  writeSidecar : Option (Stored (List SanEntry))

/-- Load the identity if it covers the names, and generate one otherwise; nothing if this fails. -/
def loadOrGenerate (dir : Dir) (a : Answers) (extraSans : List SanEntry) :
    Dir × Option (Stored Cert) :=
  if !a.certDir then (dir, none)
  else if dir.covers extraSans then
    (dir, if a.readCert && a.readKey then some dir.cert else none)
  else if !a.generate then (dir, none)
  else
    let cert : Cert := ⟨a.key, extraSans⟩
    match a.writeCert, a.writeKey, a.writeSidecar with
    | some left, _, _ => ({ dir with cert := left }, none)
    | none, some left, _ => ({ dir with cert := .value cert, key := left }, none)
    | none, none, some left => (⟨.value cert, .value a.key, left⟩, none)
    | none, none, none => (.generated a.key extraSans, some (.value cert))

/-- The fingerprint of what is stored, if there is a certificate. -/
def certFingerprint (sha256 : Cert → String) : Stored Cert → Option String
  | .value cert => some (sha256 cert)
  | .absent => none
  | .garbled => none

/-- The task that makes sure of a certificate. -/
def ensureCertTask (sha256 : Cert → String) (dir : Dir) (a : Answers) (sans : List San) :
    Dir × Message :=
  match loadOrGenerate dir a (sans.map sanEntryFrom) with
  | (dir, none) =>
    (dir, .actionFailed
      "Cert generation failed: ensure_cert: failed to load or generate TLS identity")
  | (dir, some cert) =>
    match certFingerprint sha256 cert with
    | none =>
      (dir, .actionFailed
        "Fingerprint failed: cert_fingerprint: failed to compute SHA-256 fingerprint")
    | some fingerprint => (dir, .certEnsured fingerprint (sans.map San.value))

/-- The operator confirms: in the dialog, or at the wizard's step with the box ticked. -/
inductive Confirms (s : AppState) : Message → Prop
  | dialog : Confirms s (.ui (.cert .regenerateConfirmed))
  | wizard (hbusy : s.wizard.busy = false) (hstep : s.wizard.step = .certificate)
      (hack : s.wizard.certRegenAck = true) : Confirms s wizardNext

/-- The notice that every phone must pair again. -/
def notice : Toast := ⟨true, "Certificate ready — re-pair every phone"⟩

/-- The result raises the notice, whatever has happened in the meantime. -/
def Raises (msg : Message) : Prop :=
  ∀ s : AppState, (update s msg).1.ui.toasts = s.ui.toasts ++ [notice]

/-- The result does not raise the notice. -/
def Silent (msg : Message) : Prop :=
  ∀ s : AppState, (update s msg).1.ui.toasts ≠ s.ui.toasts ++ [notice]

/-- The task fails, and nothing is said of phones; or it leaves and reports another certificate than
the one before, and the notice is raised. -/
def Regenerates (sha256 : Cert → String) (dir : Dir) (r : Dir × Message) : Prop :=
  ((∃ e, r.2 = .actionFailed e) ∧ Silent r.2) ∨
    (∃ fingerprint sans, r.2 = .certEnsured fingerprint sans ∧
      certFingerprint sha256 r.1.cert = some fingerprint ∧
      certFingerprint sha256 dir.cert ≠ some fingerprint) ∧ Raises r.2

/-- There is an identity for the names, and it can be read. -/
structure Loads (dir : Dir) (a : Answers) (sans : List SanEntry) : Prop where
  certDir : a.certDir = true
  covers : dir.covers sans = true
  readCert : a.readCert = true
  readKey : a.readKey = true
  cert : ∃ old, dir.cert = .value old

variable {sha256 : Cert → String} {s : AppState} {msg : Message} {dir : Dir} {a : Answers}

/-! ### The confirmation and the notice -/

/-- The confirmation dispatches the task for the planned names, and nothing else. -/
theorem dispatches (h : Confirms s msg) :
    (update s msg).2 = [.ensureCert (buildSansFromConfig s.config)] := by
  cases h with
  | dialog => rfl
  | wizard hbusy hstep hack =>
    simp only [wizardNext, update, handleUi, Wizard.update, Wizard.next, hbusy, hstep,
      Wizard.ensureCert, hack, Bool.false_eq_true, if_false, Bool.not_true, Bool.and_false]

/-- The task posts what its action may post. -/
theorem posts_ensureCertTask (sans : List San) :
    (UpdateAction.ensureCert sans).posts (ensureCertTask sha256 dir a sans).2 = true := by
  unfold ensureCertTask
  split
  · rfl
  split
  · rfl
  · simp [UpdateAction.posts]

theorem raises_certEnsured (fingerprint : String) (sans : List String) :
    Raises (.certEnsured fingerprint sans) := by
  intro s
  simp only [update, Updated.andThen, Wizard.onCertEnsured]
  split_ifs with hw
  · -- the step after the certificate is not the last one
    have hstep : s.wizard.step = .certificate := by
      have h := (Bool.and_eq_true_iff.mp hw).2
      exact of_decide_eq_true h
    simp [Wizard.proceed, Wizard.advance, Wizard.goto, Cert.onCertEnsured, AppState.toast,
      AppState.setWizard, AppState.setCert, hstep, WizardStep.next, notice]
  · rfl

theorem silent_actionFailed (e : String) : Silent (.actionFailed e) := by
  intro s h
  have htoasts : (update s (.actionFailed e)).1.ui.toasts = s.ui.toasts ++ [⟨false, e⟩] := by
    simp only [update, onActionFailed, Wizard.onActionFailed]
    split_ifs <;> rfl
  rw [htoasts] at h
  have hlast := List.append_cancel_left h
  cases hlast

/-! ### The task -/

/-- Without failures this is what a call on the identity does. -/
theorem loadOrGenerate_eq (dir : Dir) (key : ℕ) (sans : List SanEntry) :
    loadOrGenerate dir ⟨true, true, true, key, true, none, none, none⟩ sans =
      ((loadOrGenerateIdentity dir key sans).1,
        some (loadOrGenerateIdentity dir key sans).2.1) := by
  unfold loadOrGenerate loadOrGenerateIdentity
  by_cases h : dir.covers sans = true <;> simp [h]

/-- What a call comes to: a failure, the identity that is there, or a new one. -/
theorem loadOrGenerate_cases (dir : Dir) (a : Answers) (sans : List SanEntry) :
    (loadOrGenerate dir a sans).2 = none ∨
      (a.certDir = true ∧ dir.covers sans = true ∧ a.readCert = true ∧ a.readKey = true ∧
        loadOrGenerate dir a sans = (dir, some dir.cert)) ∨
      (dir.covers sans = false ∧
        loadOrGenerate dir a sans = (.generated a.key sans, some (.value ⟨a.key, sans⟩))) := by
  unfold loadOrGenerate
  rcases hdir : a.certDir with _ | _
  · exact .inl rfl
  rcases hcov : dir.covers sans with _ | _
  · rcases hgen : a.generate with _ | _
    · exact .inl rfl
    · rcases a.writeCert with _ | left
      · rcases a.writeKey with _ | left
        · rcases a.writeSidecar with _ | left
          · exact .inr (.inr ⟨rfl, rfl⟩)
          · exact .inl rfl
        · exact .inl rfl
      · exact .inl rfl
  · rcases hcert : a.readCert with _ | _
    · exact .inl rfl
    · rcases hkey : a.readKey with _ | _
      · exact .inl rfl
      · exact .inr (.inl ⟨rfl, rfl, rfl, rfl, rfl⟩)

theorem regenerates_failed {r : Dir × Message} {e : String} (h : r.2 = .actionFailed e) :
    Regenerates sha256 dir r :=
  .inl ⟨⟨e, h⟩, by rw [h]; exact silent_actionFailed e⟩

/-- A call that fails has not loaded. -/
theorem not_loads_of_none {sans : List SanEntry} (h : (loadOrGenerate dir a sans).2 = none) :
    ¬ Loads dir a sans := fun hl => by
  simp [loadOrGenerate, hl.certDir, hl.covers, hl.readCert, hl.readKey] at h

theorem regenerates_of_none {sans : List San}
    (h : (loadOrGenerate dir a (sans.map sanEntryFrom)).2 = none) :
    Regenerates sha256 dir (ensureCertTask sha256 dir a sans) := by
  have hfail : ∃ e, (ensureCertTask sha256 dir a sans).2 = .actionFailed e := by
    unfold ensureCertTask
    split
    · exact ⟨_, rfl⟩
    next d cert hc =>
      rw [hc] at h
      cases h
  obtain ⟨e, he⟩ := hfail
  exact regenerates_failed he

/-- What is there and loaded has a certificate, or the task fails. -/
theorem regenerates_loaded_iff {sans : List San}
    (h : loadOrGenerate dir a (sans.map sanEntryFrom) = (dir, some dir.cert)) :
    Regenerates sha256 dir (ensureCertTask sha256 dir a sans) ↔ ¬ ∃ old, dir.cert = .value old := by
  rcases hold : dir.cert with _ | _ | old
  case value =>
    have htask : ensureCertTask sha256 dir a sans =
        (dir, .certEnsured (sha256 old) (sans.map San.value)) := by
      rw [ensureCertTask, h, hold]
      rfl
    rw [htask]
    refine iff_of_false ?_ (not_not_intro ⟨old, rfl⟩)
    rintro (⟨⟨e, he⟩, -⟩ | ⟨⟨fingerprint, sans, hmsg, -, hne⟩, -⟩)
    · cases he
    · cases hmsg
      exact hne (by rw [hold]; rfl)
  all_goals
    have hfail : (ensureCertTask sha256 dir a sans).2 = .actionFailed
        "Fingerprint failed: cert_fingerprint: failed to compute SHA-256 fingerprint" := by
      rw [ensureCertTask, h, hold]
      rfl
    exact iff_of_true (regenerates_failed hfail) (by simp)

/-- A new certificate is reported, and is another one. -/
theorem regenerates_generated {sans : List San} {cert : Cert} {left : Dir}
    (h : loadOrGenerate dir a (sans.map sanEntryFrom) = (left, some (.value cert)))
    (hleft : left.cert = .value cert)
    (hfresh : ∀ old, dir.cert = .value old → sha256 cert ≠ sha256 old) :
    Regenerates sha256 dir (ensureCertTask sha256 dir a sans) := by
  have htask : ensureCertTask sha256 dir a sans =
      (left, .certEnsured (sha256 cert) (sans.map San.value)) := by
    rw [ensureCertTask, h]
    rfl
  rw [htask]
  refine .inr ⟨⟨_, _, rfl, by rw [hleft]; rfl, ?_⟩, raises_certEnsured _ _⟩
  rcases hold : dir.cert with _ | _ | old
  · simp [certFingerprint]
  · simp [certFingerprint]
  · simpa [certFingerprint] using (hfresh old hold).symm

/-- **When a confirmed regeneration regenerates**: the confirmation dispatches one task, for the
planned names. It fails, or leaves and reports another certificate, with the notice that the phones
must pair again, exactly unless there is a certificate with a key that covers these names and can be
read. -/
theorem regenerates_iff (h : Confirms s msg)
    (hfresh : ∀ old, dir.cert = .value old →
      sha256 ⟨a.key, requested s.config⟩ ≠ sha256 old) :
    ∃ sans, (update s msg).2 = [.ensureCert sans] ∧
      (Regenerates sha256 dir (ensureCertTask sha256 dir a sans) ↔
        ¬ Loads dir a (requested s.config)) := by
  refine ⟨_, dispatches h, ?_⟩
  -- the names that the task is for are the requested ones
  rcases loadOrGenerate_cases dir a (requested s.config) with
    hnone | ⟨hdir, hcov, hcert, hkey, heq⟩ | ⟨hcov, heq⟩
  · exact iff_of_true (regenerates_of_none hnone) (not_loads_of_none hnone)
  · refine (regenerates_loaded_iff heq).trans (not_congr ⟨fun hold => ?_, Loads.cert⟩)
    exact ⟨hdir, hcov, hcert, hkey, hold⟩
  · refine iff_of_true (regenerates_generated heq rfl hfresh) fun hl => ?_
    rw [hl.covers] at hcov
    cases hcov

/-! ### Two directories -/

/-- A fingerprint that tells the keys apart. -/
def byKey (cert : Cert) : String := String.ofList (List.replicate cert.key 'f')

/-- Everything goes through, and the key that is drawn is new. -/
def smooth : Answers := ⟨true, true, true, 2, true, none, none, none⟩

/-- The panel before a confirmation; the daemon is to bind to a DNS name. -/
def named : AppState := { config := { host := "muxr.example" } }

/-- There is a certificate for no name but the built-in ones. -/
def plain : Dir := ⟨.value ⟨1, []⟩, .value 1, .value []⟩

/-- A certificate that lacks the name is replaced. -/
theorem regenerates_iff_named : ∃ sans,
    (update named (.ui (.cert .regenerateConfirmed))).2 = [.ensureCert sans] ∧
      Regenerates byKey plain (ensureCertTask byKey plain smooth sans) := by
  have hcov : ¬ Loads plain smooth (requested named.config) := by
    rintro ⟨-, hcov, -⟩
    exact absurd hcov (by decide +kernel)
  obtain ⟨sans, hsans, hiff⟩ := @regenerates_iff byKey named
    (.ui (.cert .regenerateConfirmed)) plain smooth .dialog (by
      rintro old hold
      cases hold
      decide)
  exact ⟨sans, hsans, hiff.mpr hcov⟩

/-- **The certificate is kept, and the phones are to pair again**: the directory has a certificate
for the planned names, of which there are none. -/
theorem kept_with_notice : ¬ ∀ (sha256 : Cert → String) (s : AppState) (msg : Message) (dir : Dir)
    (a : Answers), Confirms s msg →
    (∀ old, dir.cert = .value old → sha256 ⟨a.key, requested s.config⟩ ≠ sha256 old) →
    ∃ sans, (update s msg).2 = [.ensureCert sans] ∧
      Regenerates sha256 dir (ensureCertTask sha256 dir a sans) := by
  intro h
  obtain ⟨sans, hsans, hreg⟩ := h byKey {} (.ui (.cert .regenerateConfirmed)) plain smooth .dialog
    (by
      rintro old hold
      cases hold
      decide)
  obtain rfl : [] = sans := by
    have hnone : (update {} (.ui (.cert .regenerateConfirmed))).2 = [.ensureCert []] := by
      decide +kernel
    rw [hnone] at hsans
    cases hsans
    rfl
  rcases hreg with ⟨⟨e, he⟩, -⟩ | ⟨⟨fingerprint, sans, hmsg, -, hne⟩, -⟩
  · cases he
  · cases hmsg
    exact hne rfl

end MuxrCore.Muxrctl.Regenerate
