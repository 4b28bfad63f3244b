import Mathlib.Logic.Function.Basic
import Mathlib.Tactic.SplitIfs
import MuxrCore.Lib.Runs
import MuxrCore.Tls.Identity

/-! # Calls for the identity that overlap

A call checks for the two files, reads the sidecar, and then reads the certificate and the key, or
writes all three files one after the other. The daemon and the control panel both make such calls,
and each may end at any point.

`State.step` is one step of one call.

* `Exclusive`: a call writes only while no other is between its first and its last write, or reads
  the identity; and a call that ends between its writes leaves no pair of files that do not belong
  together.
* `inv_step`: then the files agree whenever no call is between its writes.
* `consistent_of_exclusive`: so what a call has loaded is an identity for its names.
* `mixed_identity`: a call that ends after its first write leaves the old key to the new
  certificate. -/

namespace MuxrCore.Tls.Calls

open MuxrCore.Lib.Runs MuxrCore.Tls.Identity

/-- How far a call is; the next step is named after the phase. -/
inductive Phase
  | idle
  | certExists (sans : List SanEntry)
  | keyExists (sans : List SanEntry)
  | readSidecar (sans : List SanEntry)
  | readCert (sans : List SanEntry)
  | readKey (sans : List SanEntry) (cert : Stored Cert)
  | generate (sans : List SanEntry)
  | writeCert (sans : List SanEntry) (key : ℕ)
  | writeKey (sans : List SanEntry) (key : ℕ)
  | writeSidecar (sans : List SanEntry) (key : ℕ)
  | finish (sans : List SanEntry) (key : ℕ)
  /-- the identity was loaded -/
  | loaded (sans : List SanEntry) (cert : Stored Cert) (key : Stored ℕ)
  | generated (sans : List SanEntry) (key : ℕ)
  | failed
  deriving DecidableEq, Repr

/-- The files, the calls, and the next key to be drawn. -/
structure State where
  dir : Dir
  calls : ℕ → Phase
  nextKey : ℕ

/-- What happens next; `errored` says that a file cannot be looked at. -/
inductive Act
  | start (id : ℕ) (sans : List SanEntry)
  | certExists (id : ℕ) (errored : Bool)
  | keyExists (id : ℕ) (errored : Bool)
  | readSidecar (id : ℕ) (errored : Bool)
  | readCert (id : ℕ)
  | readKey (id : ℕ)
  | generate (id : ℕ)
  /-- the next of the three files is written -/
  | write (id : ℕ)
  | finish (id : ℕ)
  /-- an error or a crash -/
  | fail (id : ℕ)
  deriving DecidableEq, Repr

/-- The call that takes the step. -/
def Act.id : Act → ℕ
  | .start id _ | .certExists id _ | .keyExists id _ | .readSidecar id _ | .readCert id
  | .readKey id | .generate id | .write id | .finish id | .fail id => id

def State.set (s : State) (id : ℕ) (phase : Phase) : State :=
  { s with calls := Function.update s.calls id phase }

/-- One step. -/
def State.step (s : State) : Act → Option State
  | .start id sans =>
    match s.calls id with
    | .idle => some (s.set id (.certExists sans))
    | _ => none
  | .certExists id errored =>
    match s.calls id with
    | .certExists sans =>
      some (s.set id (if s.dir.cert.exists && !errored then .keyExists sans else .generate sans))
    | _ => none
  | .keyExists id errored =>
    match s.calls id with
    | .keyExists sans =>
      some (s.set id (if s.dir.key.exists && !errored then .readSidecar sans else .generate sans))
    | _ => none
  | .readSidecar id errored =>
    match s.calls id with
    | .readSidecar sans =>
      let stored := if errored then [] else readSanSidecar s.dir
      some (s.set id (if sidecarCovers stored sans then .readCert sans else .generate sans))
    | _ => none
  | .readCert id =>
    match s.calls id with
    | .readCert sans =>
      some (s.set id (if s.dir.cert.exists then .readKey sans s.dir.cert else .failed))
    | _ => none
  | .readKey id =>
    match s.calls id with
    | .readKey sans cert =>
      some (s.set id (if s.dir.key.exists then .loaded sans cert s.dir.key else .failed))
    | _ => none
  | .generate id =>
    match s.calls id with
    | .generate sans =>
      some ({ s with nextKey := s.nextKey + 1 }.set id (.writeCert sans s.nextKey))
    | _ => none
  | .write id =>
    match s.calls id with
    | .writeCert sans key =>
      some ({ s with dir := { s.dir with cert := .value ⟨key, sans⟩ } }.set id (.writeKey sans key))
    | .writeKey sans key =>
      some ({ s with dir := { s.dir with key := .value key } }.set id (.writeSidecar sans key))
    | .writeSidecar sans key =>
      some ({ s with dir := { s.dir with sidecar := .value sans } }.set id (.finish sans key))
    | _ => none
  | .finish id =>
    match s.calls id with
    | .finish sans key => some (s.set id (.generated sans key))
    | _ => none
  | .fail id => some (s.set id .failed)

/-! ### What is kept -/

/-- The call reads the identity. -/
def Reading : Phase → Prop
  | .readCert _ | .readKey _ _ => True
  | _ => False

/-- The call is between its first and its last write. -/
def Writing : Phase → Prop
  | .writeKey _ _ | .writeSidecar _ _ => True
  | _ => False

/-- A certificate and a key that belong together, for the names. -/
def Belongs (cert : Stored Cert) (key : Stored ℕ) (sans : List SanEntry) : Prop :=
  ∃ c, cert = .value c ∧ key = .value c.key ∧ ∀ r ∈ sans, r ∈ c.sans

/-- What calls have loaded are identities for their names. -/
def Consistent (s : State) : Prop :=
  ∀ id sans cert key, s.calls id = .loaded sans cert key → Belongs cert key sans

/-- A call may end here: if it has written the certificate alone, there was no key yet; if it has
written the key as well, its names cover those of the sidecar. -/
def MayEnd (dir : Dir) : Phase → Prop
  | .writeKey _ _ => dir.key = .absent
  | .writeSidecar sans _ => sidecarCovers sans (readSanSidecar dir) = true
  | _ => True

/-- A call writes while no other reads the identity or is between its writes, and reads the sidecar
while no other is between its writes; and it ends where it may. -/
def Exclusive (_ : List Act) (s : State) (a : Act) : Prop :=
  (∀ id, a = .write id → ∀ j, j ≠ id → ¬ Reading (s.calls j) ∧ ¬ Writing (s.calls j)) ∧
  (∀ id errored, a = .readSidecar id errored → ∀ j, j ≠ id → ¬ Writing (s.calls j)) ∧
  ∀ id, a = .fail id → MayEnd s.dir (s.calls id)

/-- No file, and no call. -/
structure Initial (s : State) : Prop where
  dir : s.dir = ⟨.absent, .absent, .absent⟩
  calls : ∀ id, s.calls id = .idle

/-- If both files are there, they belong together, for the names in the sidecar. -/
def Sound (dir : Dir) : Prop :=
  dir.cert.exists = true → dir.key.exists = true → Belongs dir.cert dir.key (readSanSidecar dir)

/-- What is known of a call. -/
def PhaseOk (dir : Dir) : Phase → Prop
  | .readCert sans => ∀ r ∈ sans, r ∈ readSanSidecar dir
  | .readKey sans cert => (∀ r ∈ sans, r ∈ readSanSidecar dir) ∧ cert = dir.cert ∧
      cert.exists = true
  | .writeKey sans key => dir.cert = .value ⟨key, sans⟩
  | .writeSidecar sans key => dir.cert = .value ⟨key, sans⟩ ∧ dir.key = .value key
  | .loaded sans cert key => Belongs cert key sans
  | _ => True

/-- Whenever no call is between its writes, the files are sound; one call writes at a time, and none
while another reads the identity. -/
structure Inv (s : State) : Prop where
  sound : (∀ id, ¬ Writing (s.calls id)) → Sound s.dir
  phases : ∀ id, PhaseOk s.dir (s.calls id)
  single : ∀ i j, Writing (s.calls i) → Writing (s.calls j) → i = j
  apart : ∀ i j, Reading (s.calls i) → ¬ Writing (s.calls j)

variable {s t : State} {id : ℕ} {phase : Phase}

theorem Initial.inv (h : Initial s) : Inv s := by
  refine ⟨fun _ hc => ?_, fun id => ?_, fun i j hi => ?_, fun i j hi => ?_⟩
  · rw [h.dir] at hc
    cases hc
  · rw [h.calls id]
    trivial
  · rw [h.calls i] at hi
    exact hi.elim
  · rw [h.calls i] at hi
    exact hi.elim

theorem Inv.consistent (h : Inv s) : Consistent s := fun id sans cert key hc => by
  have := h.phases id
  rwa [hc] at this

/-! ### What a step does to the invariant -/

/-- A call that neither reads nor writes is not concerned by the files. -/
theorem PhaseOk.change {dir dir' : Dir} (h : PhaseOk dir phase) (hr : ¬ Reading phase)
    (hw : ¬ Writing phase) : PhaseOk dir' phase := by
  cases phase with
  | readCert sans => exact absurd trivial hr
  | readKey sans cert => exact absurd trivial hr
  | writeKey sans key => exact absurd trivial hw
  | writeSidecar sans key => exact absurd trivial hw
  | loaded sans cert key => exact h
  | _ => trivial

/-- A step that leaves the files alone. -/
theorem Inv.set (h : Inv s) (hphase : PhaseOk s.dir phase)
    (hwriting : Writing phase → Writing (s.calls id))
    (hreading : Reading phase → ∀ j, j ≠ id → ¬ Writing (s.calls j))
    (hexcl : Reading phase → ¬ Writing phase)
    (hsound : ¬ Writing phase → Writing (s.calls id) → Sound s.dir) : Inv (s.set id phase) where
  sound hnone := by
    have hid : ¬ Writing phase := by simpa [State.set] using hnone id
    by_cases hw : Writing (s.calls id)
    · exact hsound hid hw
    · refine h.sound fun j => ?_
      by_cases hj : j = id
      · rwa [hj]
      · simpa [State.set, hj] using hnone j
  phases j := by
    by_cases hj : j = id
    · subst hj
      simpa [State.set] using hphase
    · simpa [State.set, hj] using h.phases j
  single i j hi hj := by
    have hold : ∀ k, Writing ((s.set id phase).calls k) → Writing (s.calls k) := by
      intro k hk
      by_cases hkid : k = id
      · subst hkid
        exact hwriting (by simpa [State.set] using hk)
      · simpa [State.set, hkid] using hk
    exact h.single i j (hold i hi) (hold j hj)
  apart i j hi hj := by
    by_cases hiid : i = id <;> by_cases hjid : j = id
    · subst hiid hjid
      simp only [State.set, Function.update_self] at hi hj
      exact hexcl hi hj
    · subst hiid
      simp only [State.set, Function.update_self, Function.update_of_ne hjid] at hi hj
      exact hreading hi j hjid hj
    · subst hjid
      simp only [State.set, Function.update_self, Function.update_of_ne hiid] at hi hj
      exact h.apart i j hi (hwriting hj)
    · simp only [State.set, Function.update_of_ne hiid, Function.update_of_ne hjid] at hi hj
      exact h.apart i j hi hj

/-- A step of a call that has nothing to do with the files. -/
theorem Inv.quiet (h : Inv s) (hphase : PhaseOk s.dir phase)
    (hnew : ¬ Reading phase ∧ ¬ Writing phase) (hold : ¬ Writing (s.calls id)) :
    Inv (s.set id phase) :=
  h.set hphase (fun hp => absurd hp hnew.2) (fun hp => absurd hp hnew.1)
    (fun hp => absurd hp hnew.1) fun _ hp => absurd hp hold

/-- While a call reads the identity, the files are sound. -/
theorem Inv.sound_of_reading (h : Inv s) (hr : Reading (s.calls id)) : Sound s.dir :=
  h.sound fun j => h.apart id j hr

/-- A write, while no other call reads the identity or is between its writes. -/
theorem Inv.write (h : Inv s) {dir : Dir} (hphase : PhaseOk dir phase) (hr : ¬ Reading phase)
    (hsound : ¬ Writing phase → Sound dir)
    (hothers : ∀ j, j ≠ id → ¬ Reading (s.calls j) ∧ ¬ Writing (s.calls j)) :
    Inv ({ s with dir }.set id phase) where
  sound hnone := hsound (by simpa [State.set] using hnone id)
  phases j := by
    by_cases hj : j = id
    · subst hj
      simpa [State.set] using hphase
    · have hok : PhaseOk dir (s.calls j) :=
        (h.phases j).change (hothers j hj).1 (hothers j hj).2
      simpa [State.set, hj] using hok
  single i j hi hj := by
    have honly : ∀ k, Writing (({ s with dir }.set id phase).calls k) → k = id := by
      intro k hk
      by_contra hkid
      simp only [State.set, Function.update_of_ne hkid] at hk
      exact (hothers k hkid).2 hk
    rw [honly i hi, honly j hj]
  apart i j hi := by
    by_cases hiid : i = id
    · subst hiid
      simp only [State.set, Function.update_self] at hi
      exact absurd hi hr
    · simp only [State.set, Function.update_of_ne hiid] at hi
      exact absurd hi (hothers i hiid).1

/-- A call that ends where it may leaves the files sound. -/
theorem Inv.fail (h : Inv s) (hend : MayEnd s.dir (s.calls id)) : Inv (s.set id .failed) := by
  refine h.set trivial (fun hp => hp.elim) (fun hp => hp.elim) (fun hp => hp.elim) fun _ hw => ?_
  have hok := h.phases id
  rcases hc : s.calls id with _ | _ | _ | _ | _ | _ | _ | _ | ⟨sans, key⟩ | ⟨sans, key⟩ | _ | _ |
    _ | _ <;> rw [hc] at hw hok hend
  all_goals try exact hw.elim
  · intro _ hk
    rw [show s.dir.key = .absent from hend] at hk
    cases hk
  · intro _ _
    exact ⟨⟨key, sans⟩, hok.1, hok.2, sidecarCovers_iff.mp hend⟩

/-- The sidecar is read while no other call is between its writes. -/
theorem Inv.readSidecar (h : Inv s) {sans stored : List SanEntry}
    (hc : s.calls id = .readSidecar sans) (hstored : ∀ r ∈ stored, r ∈ readSanSidecar s.dir)
    (hothers : ∀ j, j ≠ id → ¬ Writing (s.calls j)) :
    Inv (s.set id (if sidecarCovers stored sans then .readCert sans else .generate sans)) := by
  have hold : ¬ Writing (s.calls id) := by
    rw [hc]
    exact not_false
  split_ifs with hcovers
  · exact h.set (fun r hr => hstored r (sidecarCovers_iff.mp hcovers r hr)) (fun hp => hp.elim)
      (fun _ => hothers) (fun _ => not_false) fun _ hp => absurd hp hold
  · exact h.quiet trivial ⟨not_false, not_false⟩ hold

theorem Inv.readCert (h : Inv s) {sans : List SanEntry} (hc : s.calls id = .readCert sans)
    (hok : ∀ r ∈ sans, r ∈ readSanSidecar s.dir) :
    Inv (s.set id (if s.dir.cert.exists then .readKey sans s.dir.cert else .failed)) := by
  have hr : Reading (s.calls id) := by
    rw [hc]
    trivial
  have hold : ¬ Writing (s.calls id) := h.apart id id hr
  split_ifs with hcert
  · exact h.set ⟨hok, rfl, hcert⟩ (fun hp => hp.elim) (fun _ j _ => h.apart id j hr)
      (fun _ => not_false) fun _ hp => absurd hp hold
  · exact h.quiet trivial ⟨not_false, not_false⟩ hold

/-- The certificate, the key and the sidecar were there at the same time. -/
theorem Inv.readKey (h : Inv s) {sans : List SanEntry} {cert : Stored Cert}
    (hc : s.calls id = .readKey sans cert)
    (hok : (∀ r ∈ sans, r ∈ readSanSidecar s.dir) ∧ cert = s.dir.cert ∧ cert.exists = true) :
    Inv (s.set id (if s.dir.key.exists then .loaded sans cert s.dir.key else .failed)) := by
  have hr : Reading (s.calls id) := by
    rw [hc]
    trivial
  have hold : ¬ Writing (s.calls id) := h.apart id id hr
  split_ifs with hkey
  · obtain ⟨hcovers, rfl, hcert⟩ := hok
    obtain ⟨c, hc', hk, hsans⟩ := h.sound_of_reading hr hcert hkey
    exact h.quiet ⟨c, hc', hk, fun r hr => hsans r (hcovers r hr)⟩ ⟨not_false, not_false⟩ hold
  · exact h.quiet trivial ⟨not_false, not_false⟩ hold

/-! ### One step -/

/-- **The files agree** whenever no call is between its writes. -/
theorem inv_step {pre : List Act} {a : Act} (h : Inv s) (hexcl : Exclusive pre s a)
    (ha : s.step a = some t) : Inv t := by
  rcases a with ⟨id, sans⟩ | ⟨id, errored⟩ | ⟨id, errored⟩ | ⟨id, errored⟩ | ⟨id⟩ | ⟨id⟩ | ⟨id⟩ |
    ⟨id⟩ | ⟨id⟩ | ⟨id⟩
  case fail =>
    cases ha
    exact h.fail (hexcl.2.2 id rfl)
  all_goals
    unfold State.step at ha
    dsimp only at ha
    have hok := h.phases id
    rcases hc : s.calls id <;> simp only [hc, reduceCtorEq, Option.some.injEq] at ha <;>
      subst ha <;> rw [hc] at hok
  case start => exact h.quiet trivial ⟨not_false, not_false⟩ (by rw [hc]; exact not_false)
  case certExists sans =>
    refine h.quiet ?_ ?_ (by rw [hc]; exact not_false)
    · split_ifs <;> trivial
    · split_ifs <;> exact ⟨not_false, not_false⟩
  case keyExists sans =>
    refine h.quiet ?_ ?_ (by rw [hc]; exact not_false)
    · split_ifs <;> trivial
    · split_ifs <;> exact ⟨not_false, not_false⟩
  case readSidecar sans =>
    refine h.readSidecar hc (fun r hr => ?_) (hexcl.2.1 id errored rfl)
    split_ifs at hr
    · cases hr
    · exact hr
  case readCert sans => exact h.readCert hc hok
  case readKey sans cert => exact h.readKey hc hok
  case generate sans =>
    have hdrawn : Inv { s with nextKey := s.nextKey + 1 } :=
      ⟨h.sound, h.phases, h.single, h.apart⟩
    exact hdrawn.quiet trivial ⟨not_false, not_false⟩ (by rw [hc]; exact not_false)
  case finish => exact h.quiet trivial ⟨not_false, not_false⟩ (by rw [hc]; exact not_false)
  case writeCert sans key =>
    exact h.write rfl not_false (fun hw => absurd trivial hw) (hexcl.1 id rfl)
  case writeKey sans key =>
    exact h.write ⟨hok, rfl⟩ not_false (fun hw => absurd trivial hw) (hexcl.1 id rfl)
  case writeSidecar sans key =>
    refine h.write trivial not_false (fun _ _ _ => ?_) (hexcl.1 id rfl)
    exact ⟨⟨key, sans⟩, hok.1, hok.2, fun r hr => hr⟩

/-- **What is loaded is an identity for the names** in a run in which the calls that write keep to
themselves, and end where they may. -/
theorem consistent_of_exclusive {as : List Act} (hs : Initial s) (hr : Run (ofFn State.step) s as t)
    (hc : Along (ofFn State.step) Exclusive s as) : Consistent t := by
  have hinv : Inv t :=
    hr.invariant_along (C := Exclusive) (fun pre s a t hi hC ha => inv_step hi hC ha) hs.inv hc
  exact hinv.consistent

/-! ### One call by itself -/

/-- A step of one call leaves the others as they are. -/
theorem step_calls {a : Act} (ha : s.step a = some t) {j : ℕ} (hj : j ≠ a.id) :
    t.calls j = s.calls j := by
  rcases a with ⟨id, sans⟩ | ⟨id, errored⟩ | ⟨id, errored⟩ | ⟨id, errored⟩ | ⟨id⟩ | ⟨id⟩ | ⟨id⟩ |
    ⟨id⟩ | ⟨id⟩ | ⟨id⟩ <;> change j ≠ id at hj
  case fail =>
    cases ha
    simp [State.set, hj]
  all_goals
    unfold State.step at ha
    dsimp only at ha
    rcases hc : s.calls id <;> simp only [hc, reduceCtorEq, Option.some.injEq] at ha <;>
      subst ha <;> simp [State.set, hj]

/-- The steps of one call, none of which fails, are exclusive while no other call is at work. -/
theorem exclusive_of_alone (id : ℕ) {as : List Act} (has : ∀ a ∈ as, a.id = id ∧ ∀ j, a ≠ .fail j)
    (hothers : ∀ j, j ≠ id → ¬ Reading (s.calls j) ∧ ¬ Writing (s.calls j)) :
    Along (ofFn State.step) Exclusive s as := by
  induction as generalizing s with
  | nil => exact along_nil _ _
  | cons a as ih =>
    obtain ⟨hid, hfail⟩ := has a List.mem_cons_self
    refine along_cons_iff.mpr ⟨⟨?_, ?_, ?_⟩, fun t ht => ih (fun b hb => has b (by simp [hb])) ?_⟩
    · rintro i rfl j hj
      exact hothers j (hid ▸ hj)
    · rintro i errored rfl j hj
      exact (hothers j (hid ▸ hj)).2
    · rintro i rfl
      exact absurd rfl (hfail i)
    · intro j hj
      rw [step_calls ht (hid ▸ hj)]
      exact hothers j hj

@[simp] theorem set_calls : (s.set id phase).calls id = phase := Function.update_self ..

@[simp] theorem set_dir : (s.set id phase).dir = s.dir := rfl

@[simp] theorem set_nextKey : (s.set id phase).nextKey = s.nextKey := rfl

@[simp] theorem set_set (new : Phase) : (s.set id phase).set id new = s.set id new := by
  simp [State.set]

/-- What a call has returned. -/
def Phase.result : Phase → Option (Stored Cert × Stored ℕ)
  | .loaded _ cert key => some (cert, key)
  | .generated sans key => some (.value ⟨key, sans⟩, .value key)
  | _ => none

/-- The steps of a generation. -/
def generating (id : ℕ) : List Act := [.generate id, .write id, .write id, .write id, .finish id]

theorem run_generating (sans : List SanEntry) :
    Run (ofFn State.step) (s.set id (.generate sans)) (generating id)
      (State.set ⟨.generated s.nextKey sans, s.calls, s.nextKey + 1⟩ id
        (.generated sans s.nextKey)) := by
  refine .cons (t := State.set ⟨s.dir, s.calls, s.nextKey + 1⟩ id (.writeCert sans s.nextKey)) ?_ <|
    .cons (t := State.set ⟨⟨.value ⟨s.nextKey, sans⟩, s.dir.key, s.dir.sidecar⟩, s.calls,
      s.nextKey + 1⟩ id (.writeKey sans s.nextKey)) ?_ <|
    .cons (t := State.set ⟨⟨.value ⟨s.nextKey, sans⟩, .value s.nextKey, s.dir.sidecar⟩, s.calls,
      s.nextKey + 1⟩ id (.writeSidecar sans s.nextKey)) ?_ <|
    .cons (t := State.set ⟨.generated s.nextKey sans, s.calls, s.nextKey + 1⟩ id
      (.finish sans s.nextKey)) ?_ <| .cons ?_ <| .nil _
  all_goals simp [ofFn, State.step, State.set, Dir.generated]

/-- The steps up to the decision, of a call that finds what it looks for. -/
theorem run_checks (hidle : s.calls id = .idle) (sans : List SanEntry) :
    let decision (found : Bool) (next : Phase) := if found then next else .generate sans
    s.step (.start id sans) = some (s.set id (.certExists sans)) ∧
    (s.set id (.certExists sans)).step (.certExists id false) =
      some (s.set id (decision s.dir.cert.exists (.keyExists sans))) ∧
    (s.set id (.keyExists sans)).step (.keyExists id false) =
      some (s.set id (decision s.dir.key.exists (.readSidecar sans))) ∧
    (s.set id (.readSidecar sans)).step (.readSidecar id false) =
      some (s.set id (decision (sidecarCovers (readSanSidecar s.dir) sans) (.readCert sans))) := by
  refine ⟨?_, ?_, ?_, ?_⟩
  · simp [State.step, hidle]
  all_goals simp [State.step]

/-- A call that finds no identity for its names comes to generate one. -/
theorem run_to_generate (hidle : s.calls id = .idle) {sans : List SanEntry}
    (hcovers : s.dir.covers sans = false) :
    ∃ as, (∀ a ∈ as, a.id = id) ∧ Run (ofFn State.step) s as (s.set id (.generate sans)) := by
  obtain ⟨hstart, hcert, hkey, hsidecar⟩ := run_checks hidle sans
  rcases hce : s.dir.cert.exists with _ | _ <;> rw [hce] at hcert
  · exact ⟨[.start id sans, .certExists id false], by simp [Act.id],
      .cons hstart <| .cons hcert <| .nil _⟩
  rcases hke : s.dir.key.exists with _ | _ <;> rw [hke] at hkey
  · exact ⟨[.start id sans, .certExists id false, .keyExists id false], by simp [Act.id],
      .cons hstart <| .cons hcert <| .cons hkey <| .nil _⟩
  have hco : sidecarCovers (readSanSidecar s.dir) sans = false := by
    simpa [Dir.covers, hce, hke] using hcovers
  rw [hco] at hsidecar
  exact ⟨[.start id sans, .certExists id false, .keyExists id false, .readSidecar id false],
    by simp [Act.id], .cons hstart <| .cons hcert <| .cons hkey <| .cons hsidecar <| .nil _⟩

/-- A call that finds one loads it. -/
theorem run_to_loaded (hidle : s.calls id = .idle) {sans : List SanEntry}
    (hcovers : s.dir.covers sans = true) :
    ∃ as, (∀ a ∈ as, a.id = id) ∧
      Run (ofFn State.step) s as (s.set id (.loaded sans s.dir.cert s.dir.key)) := by
  obtain ⟨hstart, hcert, hkey, hsidecar⟩ := run_checks hidle sans
  simp only [Dir.covers, Bool.and_eq_true] at hcovers
  obtain ⟨⟨hce, hke⟩, hco⟩ := hcovers
  rw [hce] at hcert
  rw [hke] at hkey
  rw [hco] at hsidecar
  have hreadCert : (s.set id (.readCert sans)).step (.readCert id) = some
      (s.set id (.readKey sans s.dir.cert)) := by
    simp [State.step, hce]
  have hreadKey : (s.set id (.readKey sans s.dir.cert)).step (.readKey id) = some
      (s.set id (.loaded sans s.dir.cert s.dir.key)) := by
    simp [State.step, hke]
  exact ⟨[.start id sans, .certExists id false, .keyExists id false, .readSidecar id false,
    .readCert id, .readKey id], by simp [Act.id], .cons hstart <| .cons hcert <| .cons hkey <|
    .cons hsidecar <| .cons hreadCert <| .cons hreadKey <| .nil _⟩

/-- **A call by itself** does to the files, and returns, what `loadOrGenerateIdentity` says. -/
theorem run_alone (hidle : s.calls id = .idle) (sans : List SanEntry) :
    let r := loadOrGenerateIdentity s.dir s.nextKey sans
    ∃ as t, (∀ a ∈ as, a.id = id) ∧ Run (ofFn State.step) s as t ∧ t.dir = r.1 ∧
      (t.calls id).result = some r.2 := by
  rcases hcovers : s.dir.covers sans with _ | _
  · obtain ⟨as, has, hr⟩ := run_to_generate hidle hcovers
    refine ⟨as ++ generating id, _, fun a ha => ?_,
      run_append_iff.mpr ⟨_, hr, run_generating sans⟩, ?_, ?_⟩
    · rcases List.mem_append.mp ha with ha | ha
      · exact has a ha
      · simp only [generating, List.mem_cons, List.not_mem_nil, or_false] at ha
        rcases ha with rfl | rfl | rfl | rfl | rfl <;> rfl
    · simp [loadOrGenerateIdentity, hcovers]
    · simp [loadOrGenerateIdentity, hcovers, Phase.result]
  · obtain ⟨as, has, hr⟩ := run_to_loaded hidle hcovers
    refine ⟨as, _, has, hr, ?_, ?_⟩
    · simp [loadOrGenerateIdentity, hcovers]
    · simp [loadOrGenerateIdentity, hcovers, Phase.result]

/-! ### Runs -/

/-- No file, and no call. -/
def empty : State := ⟨⟨.absent, .absent, .absent⟩, fun _ => .idle, 0⟩

theorem initial_empty : Initial empty := ⟨rfl, fun _ => rfl⟩

/-- The first call generates an identity, and returns. -/
def first : List Act := [Act.start 0 [], .certExists 0 false] ++ generating 0

/-- The next call is asked for another name, and ends after its first write; then one loads. -/
def interrupted : List Act :=
  first ++ [Act.start 1 [.dns "a"], .certExists 1 false, .keyExists 1 false, .readSidecar 1 false,
    .generate 1, .write 1, .fail 1] ++ [Act.start 2 [], .certExists 2 false, .keyExists 2 false,
    .readSidecar 2 false, .readCert 2, .readKey 2]

/-- **A mixed identity**: the certificate of the call that was interrupted is loaded with the key
that was there before. -/
theorem mixed_identity :
    ¬ ∀ (s t : State) (as : List Act), Initial s → Run (ofFn State.step) s as t → Consistent t := by
  intro h
  have hrun : Run (ofFn State.step) empty interrupted _ :=
    .cons rfl <| .cons rfl <| .cons rfl <| .cons rfl <| .cons rfl <| .cons rfl <| .cons rfl <|
    .cons rfl <| .cons rfl <| .cons rfl <| .cons rfl <| .cons rfl <| .cons rfl <| .cons rfl <|
    .cons rfl <| .cons rfl <| .cons rfl <| .cons rfl <| .cons rfl <| .cons rfl <| .nil _
  obtain ⟨c, hcert, hkey, -⟩ := h empty _ _ initial_empty hrun 2 [] (.value ⟨1, [.dns "a"]⟩)
    (.value 0) rfl
  cases hcert
  cases hkey

/-- The first call, and one that loads what it has written. -/
def sequential : List Act :=
  first ++ [Act.start 1 [], .certExists 1 false, .keyExists 1 false, .readSidecar 1 false,
    .readCert 1, .readKey 1]

theorem consistent_of_exclusive_sequential :
    ∃ t, Run (ofFn State.step) empty sequential t ∧ Consistent t := by
  have hfirst : Run (ofFn State.step) empty first _ :=
    .cons rfl <| .cons rfl <| .cons rfl <| .cons rfl <| .cons rfl <| .cons rfl <| .cons rfl <|
    .nil _
  obtain ⟨t, hrun⟩ : ∃ t, Run (ofFn State.step) empty sequential t :=
    ⟨_, .cons rfl <| .cons rfl <| .cons rfl <| .cons rfl <| .cons rfl <| .cons rfl <| .cons rfl <|
    .cons rfl <| .cons rfl <| .cons rfl <| .cons rfl <| .cons rfl <| .cons rfl <| .nil _⟩
  refine ⟨t, hrun, consistent_of_exclusive initial_empty hrun (along_append_iff.mpr ⟨?_, ?_⟩)⟩
  · refine exclusive_of_alone 0 (by simp [first, generating, Act.id]) fun j _ => ?_
    exact ⟨not_false, not_false⟩
  · intro u hu
    obtain rfl := hu.unique hfirst
    refine exclusive_of_alone 1 (by simp [Act.id]) fun j _ => ?_
    by_cases hj : j = 0
    · subst hj
      exact ⟨not_false, not_false⟩
    · simp [State.set, empty, hj, Reading, Writing]

end MuxrCore.Tls.Calls
