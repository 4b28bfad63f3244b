import MuxrCore.Grpc.TokenOps
import MuxrCore.Lib.Runs

/-! # An expired token stays expired

Calls on the sidecar, one after another, under a clock that does not go back. A missing entry reads
as "never expires", and every write drops the entries whose deadline has passed. So a token's
expiry is permanent exactly as long as no call for another token rewrites the file past the
deadline (`expiry_permanent_iff`); after such a call the token is accepted again
(`expiry_forgotten`).

Two tokens of the same hash share an entry: the results ask that the tokens written do not have the
hash of the token they are about. -/

namespace MuxrCore.TokenExpiry.History

open MuxrCore.Lib.Runs MuxrCore.TokenExpiry.Sidecar MuxrCore.Grpc.TokenOps

/-- The sidecar file, and the latest reading of the clock. -/
structure State where
  file : File
  clock : ℤ

/-- A call, with its readings of the clock and what the file system answered. -/
inductive Act
  | setExpiry (plaintext : String) (expiresAt now : ℤ) (io : Io)
  | setExpiryIn (plaintext : String) (ttlSecs now₁ now₂ : ℤ) (io : Io)
  | forget (plaintext : String) (now : ℤ) (io : Io)
  | isExpired (plaintext : String) (now : ℤ)

variable (sha256 : List UInt8 → List UInt8)

/-- One call; the clock does not go back. -/
def State.step (s : State) : Act → Option State
  | .setExpiry plaintext expiresAt now io =>
    if s.clock ≤ now then
      some ⟨(Sidecar.setExpiry sha256 s.file plaintext expiresAt now io).1, now⟩
    else none
  | .setExpiryIn plaintext ttlSecs now₁ now₂ io =>
    if s.clock ≤ now₁ ∧ now₁ ≤ now₂ then
      some ⟨(Sidecar.setExpiryIn sha256 s.file plaintext ttlSecs now₁ now₂ io).1, now₂⟩
    else none
  | .forget plaintext now io =>
    if s.clock ≤ now then some ⟨Sidecar.forget sha256 s.file plaintext now io, now⟩ else none
  | .isExpired _ now => if s.clock ≤ now then some ⟨s.file, now⟩ else none

/-- The token a call records or forgets, where the file system lets it. -/
def Act.target : Act → Option String
  | .setExpiry plaintext _ _ io => if io.isOk then some plaintext else none
  | .setExpiryIn plaintext _ _ _ io => if io.isOk then some plaintext else none
  | .forget plaintext _ io => if io.isOk then some plaintext else none
  | .isExpired _ _ => none

/-- The reading of the clock at which a call rewrites the file, if it does. Forgetting rewrites it
only where the token has a deadline still to come. -/
def Act.rewritesAt (s : State) : Act → Option ℤ
  | .setExpiry _ _ now io => if io.isOk then some now else none
  | .setExpiryIn _ _ _ now₂ io => if io.isOk then some now₂ else none
  | .forget plaintext now io =>
    if io.isOk ∧ (loadPruned s.file now (tokenHash sha256 plaintext)).isSome then some now else none
  | .isExpired _ _ => none

/-- The call does not rewrite the file at the deadline or past it. -/
def Spares (deadline : ℤ) (s : State) (a : Act) : Prop :=
  ∀ now, a.rewritesAt sha256 s = some now → now < deadline

/-- The call is not the token's own, and does not touch its entry. -/
def Foreign (p : String) (a : Act) : Prop :=
  a.target ≠ some p ∧ ∀ q, a.target = some q → tokenHash sha256 q ≠ tokenHash sha256 p

/-- From now on, once the deadline has passed the token reads as expired and a login with it is
refused. -/
def Refused (p : String) (deadline : ℤ) (s : State) : Prop :=
  ∀ now, s.clock ≤ now → deadline ≤ now →
    Sidecar.isExpired sha256 s.file p now = true ∧
      ∀ db joined rememberMe, ∃ status,
        loginImpl db sha256 s.file now joined ⟨p, rememberMe⟩ = .error status

variable {sha256} {p : String} {deadline : ℤ}

theorem refused_iff {s : State} :
    Refused sha256 p deadline s ↔ ∀ now, s.clock ≤ now → deadline ≤ now →
      Sidecar.isExpired sha256 s.file p now = true := by
  refine forall_congr' fun now => forall_congr' fun _ => forall_congr' fun _ => ?_
  refine ⟨fun h => h.1, fun h => ⟨h, fun db joined rememberMe => ?_⟩⟩
  obtain ⟨status, hs, -⟩ := @login_expired db sha256 s.file now ⟨p, rememberMe⟩ h joined
  exact ⟨status, hs⟩

/-! ### One call -/

/-- What a call does to the deadline of a token that is not its own: a call that rewrites the file
keeps it if it is still to come. -/
theorem step_deadline {s t : State} {a : Act} (hf : Foreign sha256 p a)
    (ht : s.step sha256 a = some t) :
    t.file.deadline (tokenHash sha256 p) =
      match a.rewritesAt sha256 s with
      | some now => (s.file.deadline (tokenHash sha256 p)).filter (now < ·)
      | none => s.file.deadline (tokenHash sha256 p) := by
  rcases a with ⟨q, expiresAt, now, io⟩ | ⟨q, ttlSecs, now₁, now₂, io⟩ | ⟨q, now, io⟩ | ⟨q, now⟩ <;>
    simp only [State.step, Option.ite_none_right_eq_some, Option.some.injEq] at ht <;>
    obtain ⟨-, rfl⟩ := ht
  · have hne : io.isOk = true → tokenHash sha256 q ≠ tokenHash sha256 p :=
      fun hok => hf.2 q (by simp [Act.target, hok])
    rw [setExpiry_deadline hne]
    by_cases hok : io.isOk = true <;> simp [Act.rewritesAt, hok]
  · have hne : io.isOk = true → tokenHash sha256 q ≠ tokenHash sha256 p :=
      fun hok => hf.2 q (by simp [Act.target, hok])
    rw [setExpiryIn_deadline hne]
    by_cases hok : io.isOk = true <;> simp [Act.rewritesAt, hok]
  · have hne : io.isOk = true → tokenHash sha256 q ≠ tokenHash sha256 p :=
      fun hok => hf.2 q (by simp [Act.target, hok])
    rw [forget_deadline hne]
    by_cases hok : io.isOk = true ∧ (loadPruned s.file now (tokenHash sha256 q)).isSome = true <;>
      simp [Act.rewritesAt, hok]
  · rfl

theorem step_kept {s t : State} {a : Act} (hf : Foreign sha256 p a)
    (hsp : Spares sha256 deadline s a) (ht : s.step sha256 a = some t)
    (h : s.file.deadline (tokenHash sha256 p) = some deadline) :
    t.file.deadline (tokenHash sha256 p) = some deadline := by
  rw [step_deadline hf ht, h]
  rcases hr : a.rewritesAt sha256 s with - | now
  · rfl
  · simp [hsp now hr]

theorem step_gone {s t : State} {a : Act} (hf : Foreign sha256 p a)
    (ht : s.step sha256 a = some t) (h : s.file.deadline (tokenHash sha256 p) = none) :
    t.file.deadline (tokenHash sha256 p) = none := by
  rw [step_deadline hf ht, h]
  rcases a.rewritesAt sha256 s with - | now <;> rfl

theorem step_lost {s t : State} {a : Act} (hf : Foreign sha256 p a)
    (hsp : ¬ Spares sha256 deadline s a) (ht : s.step sha256 a = some t)
    (h : s.file.deadline (tokenHash sha256 p) = some deadline) :
    t.file.deadline (tokenHash sha256 p) = none := by
  obtain ⟨now, hr, hle⟩ : ∃ now, a.rewritesAt sha256 s = some now ∧ deadline ≤ now := by
    by_contra hno
    refine hsp fun now hr => ?_
    by_contra hlt
    exact hno ⟨now, hr, Int.not_lt.mp hlt⟩
  rw [step_deadline hf ht, h, hr]
  simp [hle]

/-! ### Whole histories -/

variable {s t : State} {as : List Act}

theorem foreign_along (hf : ∀ a ∈ as, Foreign sha256 p a) (s : State) :
    Along (ofFn (State.step sha256)) (fun _ _ a => Foreign sha256 p a) s as := by
  rintro pre a post u rfl -
  exact hf a (by simp)

/-- Calls that rewrite the file only before the deadline keep it recorded. -/
theorem run_kept (hr : Run (ofFn (State.step sha256)) s as t)
    (hf : ∀ a ∈ as, Foreign sha256 p a)
    (hsp : Along (ofFn (State.step sha256)) (fun _ u a => Spares sha256 deadline u a) s as)
    (h : s.file.deadline (tokenHash sha256 p) = some deadline) :
    t.file.deadline (tokenHash sha256 p) = some deadline := by
  have hstep : ∀ (_ : List Act) (u : State) (a : Act) (v : State),
      u.file.deadline (tokenHash sha256 p) = some deadline →
      Foreign sha256 p a ∧ Spares sha256 deadline u a → ofFn (State.step sha256) u a v →
      v.file.deadline (tokenHash sha256 p) = some deadline :=
    fun _ u a v hu hC hv => step_kept hC.1 hC.2 hv hu
  exact hr.invariant_along hstep h ((foreign_along hf s).and hsp)

/-- A deadline that is gone stays gone. -/
theorem run_gone (hr : Run (ofFn (State.step sha256)) s as t)
    (hf : ∀ a ∈ as, Foreign sha256 p a) (h : s.file.deadline (tokenHash sha256 p) = none) :
    t.file.deadline (tokenHash sha256 p) = none := by
  have hstep : ∀ (_ : List Act) (u : State) (a : Act) (v : State),
      u.file.deadline (tokenHash sha256 p) = none → Foreign sha256 p a →
      ofFn (State.step sha256) u a v → v.file.deadline (tokenHash sha256 p) = none :=
    fun _ u a v hu hC hv => step_gone hC hv hu
  exact hr.invariant_along hstep h (foreign_along hf s)

/-- The deadline recorded stays the one recorded, or is gone. -/
theorem run_recorded (hr : Run (ofFn (State.step sha256)) s as t)
    (hf : ∀ a ∈ as, Foreign sha256 p a)
    (h : s.file.deadline (tokenHash sha256 p) = some deadline) :
    t.file.deadline (tokenHash sha256 p) = some deadline ∨
      t.file.deadline (tokenHash sha256 p) = none := by
  have hstep : ∀ (_ : List Act) (u : State) (a : Act) (v : State),
      (u.file.deadline (tokenHash sha256 p) = some deadline ∨
        u.file.deadline (tokenHash sha256 p) = none) →
      Foreign sha256 p a → ofFn (State.step sha256) u a v →
      (v.file.deadline (tokenHash sha256 p) = some deadline ∨
        v.file.deadline (tokenHash sha256 p) = none) := by
    rintro pre u a v (hu | hu) hC hv
    · by_cases hsp : Spares sha256 deadline u a
      · exact Or.inl (step_kept hC hsp hv hu)
      · exact Or.inr (step_lost hC hsp hv hu)
    · exact Or.inr (step_gone hC hv hu)
  exact hr.invariant_along hstep (Or.inl h) (foreign_along hf s)

/-- **Expiry is permanent exactly as long as no call for another token rewrites the file at the
deadline or past it.** A deadline is recorded for a token, and the calls after are not its own. -/
theorem expiry_permanent_iff (hr : Run (ofFn (State.step sha256)) s as t)
    (hrec : s.file.deadline (tokenHash sha256 p) = some deadline)
    (hown : ∀ a ∈ as, a.target ≠ some p)
    (hhash : ∀ a ∈ as, ∀ q, a.target = some q → q ≠ p → tokenHash sha256 q ≠ tokenHash sha256 p) :
    Refused sha256 p deadline t ↔
      Along (ofFn (State.step sha256)) (fun _ u a => Spares sha256 deadline u a) s as := by
  have hf : ∀ a ∈ as, Foreign sha256 p a := by
    intro a ha
    refine ⟨hown a ha, fun q hq => hhash a ha q hq ?_⟩
    rintro rfl
    exact hown a ha hq
  rw [refused_iff]
  constructor
  · intro h pre a post u has hu
    by_contra hsp
    obtain ⟨v, hv, hpost⟩ := run_cons_iff.mp (hr.split has hu)
    -- the entry, if it is still there before the call, is gone after it, and so at the end
    have hgone : v.file.deadline (tokenHash sha256 p) = none := by
      rcases run_recorded hu (fun b hb => hf b (by simp [has, hb])) hrec with hd | hd
      · exact step_lost (hf a (by simp [has])) hsp hv hd
      · exact step_gone (hf a (by simp [has])) hv hd
    have hend := run_gone hpost (fun b hb => hf b (by simp [has, hb])) hgone
    have hexp := h (max t.clock deadline) (Int.le_max_left _ _) (Int.le_max_right _ _)
    obtain ⟨exp, hexp, -⟩ := isExpired_iff.mp hexp
    rw [hend] at hexp
    exact absurd hexp (by simp)
  · intro h now _ hle
    exact isExpired_iff.mpr ⟨deadline, run_kept hr hf h hrec, hle⟩

/-- A digest function with the SHA-256 digests of `pairing` and `other`. -/
def sampleSha256 (bytes : List UInt8) : List UInt8 :=
  if bytes = "pairing".toUTF8.data.toList then
    [249, 245, 207, 115, 230, 3, 139, 145, 65, 139, 15, 9, 15, 218, 249, 223, 30, 154, 64, 220, 0,
      121, 158, 66, 248, 55, 204, 83, 56, 100, 174, 172]
  else if bytes = "other".toUTF8.data.toList then
    [217, 41, 138, 16, 209, 176, 115, 88, 55, 220, 75, 216, 93, 172, 100, 27, 15, 60, 239, 39, 164,
      126, 93, 83, 165, 79, 47, 63, 91, 47, 207, 250]
  else List.replicate 32 0

theorem other_ne_pairing :
    tokenHash sampleSha256 "other" ≠ tokenHash sampleSha256 "pairing" := by
  decide +kernel

/-- The file in which `pairing` expires at 10, read at 5. -/
def sampleState : State :=
  ⟨(Sidecar.setExpiry sampleSha256 .unreadable "pairing" 10 5 (.ok ())).1, 5⟩

/-- `other` gets its deadline before `pairing` expires: `pairing` is refused once it expires. -/
theorem expiry_permanent_before :
    ∃ t, Run (ofFn (State.step sampleSha256)) sampleState [.setExpiry "other" 100 7 (.ok ())] t ∧
      Refused sampleSha256 "pairing" 10 t := by
  have hr : Run (ofFn (State.step sampleSha256)) sampleState [.setExpiry "other" 100 7 (.ok ())]
      ⟨(Sidecar.setExpiry sampleSha256 sampleState.file "other" 100 7 (.ok ())).1, 7⟩ :=
    .cons rfl (.nil _)
  refine ⟨_, hr, (expiry_permanent_iff hr (by decide +kernel) (by simp [Act.target]) ?_).mpr ?_⟩
  · simp [Act.target, other_ne_pairing]
  · refine along_cons_iff.mpr ⟨fun now hnow => ?_, fun t _ => along_nil _ t⟩
    cases hnow
    decide

/-- `other` gets its deadline after `pairing` has expired: `pairing` is not expired any more. -/
theorem expiry_forgotten :
    ¬ ∀ (sha256 : List UInt8 → List UInt8) (p : String) (deadline : ℤ) (s t : State)
        (as : List Act), Run (ofFn (State.step sha256)) s as t →
        s.file.deadline (tokenHash sha256 p) = some deadline → (∀ a ∈ as, a.target ≠ some p) →
        (∀ a ∈ as, ∀ q, a.target = some q → q ≠ p → tokenHash sha256 q ≠ tokenHash sha256 p) →
        Refused sha256 p deadline t := by
  intro h
  have hr := h sampleSha256 "pairing" 10 sampleState _ [.setExpiry "other" 100 20 (.ok ())]
    (.cons rfl (.nil _)) (by decide +kernel) (by simp [Act.target])
    (by simp [Act.target, other_ne_pairing]) 30 (by decide +kernel) (by decide +kernel)
  exact absurd hr.1 (by decide +kernel)

end MuxrCore.TokenExpiry.History
