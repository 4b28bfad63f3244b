import MuxrCore.Lib.Files
import MuxrCore.Lib.Runs
import MuxrCore.TokenExpiry.Sidecar

/-! # Calls on the sidecar that overlap

A call reads the sidecar, and replaces it by way of a temporary file: it opens and empties that
file, writes the map to it, restricts its permissions, and renames it over the sidecar. All calls
use the same temporary file, in whatever thread or process they run, and nothing keeps them apart.

`State.step` is one such step of one call. The ledger is what the calls that went through have
recorded.

* `Exclusive`: a call that opens the temporary file has read the sidecar that is still there, and no
  other call has the temporary file.
* `inv_step`: a step that is exclusive keeps the sidecar equal to the ledger.
* `exclusive_keeps`: if all steps are, no deadline is lost.
* `deadline_lost`: two calls that overlap lose one. -/

namespace MuxrCore.TokenExpiry.Concurrent

open MuxrCore.Lib.Files MuxrCore.Lib.Runs MuxrCore.TokenExpiry.Sidecar

/-- The files of the data directory. -/
inductive Name
  | sidecar
  | tmp
  deriving DecidableEq, Repr

/-- The content of a file: nothing yet, a complete map, or what is left when one text was written
over a longer one. -/
inductive Content
  | empty
  | json (map : Deadlines)
  | garbled

/-- What reading a content gives. -/
def Content.file : Content → File
  | .empty => .malformed
  | .json map => .entries map
  | .garbled => .malformed

/-- A call of the module. -/
inductive Call
  | setExpiry (plaintext : String) (expiresAt : ℤ)
  | setExpiryIn (plaintext : String) (ttlSecs : ℤ)
  | forget (plaintext : String)

/-- The entry a call writes: a deadline for a hash, or none. -/
structure Entry where
  hash : String
  deadline : Option ℤ

/-- The entry of a call, at the first reading of the clock. -/
def Call.entry (sha256 : List UInt8 → List UInt8) (now : ℤ) : Call → Entry
  | .setExpiry plaintext expiresAt => ⟨tokenHash sha256 plaintext, some expiresAt⟩
  | .setExpiryIn plaintext ttlSecs => ⟨tokenHash sha256 plaintext, some (toI64 (now + ttlSecs))⟩
  | .forget plaintext => ⟨tokenHash sha256 plaintext, none⟩

/-- The map with the entry written. -/
def Entry.write (e : Entry) (map : Deadlines) : Deadlines := Function.update map e.hash e.deadline

/-- How far a call is. -/
inductive Phase
  | idle
  | started (e : Entry)
  /-- the map to store, and the file that was read -/
  | loaded (e : Entry) (map : Deadlines) (read : Option ℕ)
  /-- the temporary file is open and empty -/
  | opened (e : Entry) (map : Deadlines) (file : ℕ)
  | written (e : Entry) (map : Deadlines)
  | restricted (e : Entry) (map : Deadlines)
  | returned
  | failed

/-- The files, the calls, and what they have recorded. -/
structure State where
  dir : Dir Name Content
  calls : ℕ → Phase
  ledger : Deadlines

/-- What the sidecar reads as. -/
def State.file (s : State) : File := ((s.dir.read .sidecar).map Content.file).getD .unreadable

/-- One step of a call. -/
inductive Act
  | start (id : ℕ) (call : Call) (now : ℤ)
  | read (id : ℕ) (now : ℤ)
  | openTmp (id : ℕ)
  /-- the text covers what another call has put in the file since it was opened, or not -/
  | write (id : ℕ) (covers : Bool)
  | chmod (id : ℕ)
  | rename (id : ℕ)
  | fail (id : ℕ)

def State.set (s : State) (id : ℕ) (phase : Phase) : State :=
  { s with calls := Function.update s.calls id phase }

/-- The end of a call whose file could not be replaced. Forgetting does not say so. -/
def Entry.giveUp (e : Entry) : Phase := if e.deadline.isSome then .failed else .returned

/-- What writing a text leaves in a file. -/
def Content.overwrite (map : Deadlines) (covers : Bool) : Content → Content
  | .empty => .json map
  | _ => if covers then .json map else .garbled

/-- One step. -/
def State.step (sha256 : List UInt8 → List UInt8) (s : State) : Act → Option State
  | .start id call now =>
    match s.calls id with
    | .idle => some (s.set id (.started (call.entry sha256 now)))
    | _ => none
  | .read id now =>
    match s.calls id with
    | .started e =>
      let map := loadPruned s.file now
      if e.deadline = none ∧ map e.hash = none then some (s.set id .returned)
      else some (s.set id (.loaded e (e.write map) (s.dir.names .sidecar)))
    | _ => none
  | .openTmp id =>
    match s.calls id with
    | .loaded e map _ =>
      let (dir, file) := s.dir.openTruncate .tmp .empty
      some ({ s with dir }.set id (.opened e map file))
    | _ => none
  | .write id covers =>
    match s.calls id with
    | .opened e map file =>
      let dir := s.dir.write file ((s.dir.content file).overwrite map covers)
      some ({ s with dir }.set id (.written e map))
    | _ => none
  | .chmod id =>
    match s.calls id with
    | .written e map =>
      some (s.set id (if (s.dir.names .tmp).isSome then .restricted e map else e.giveUp))
    | _ => none
  | .rename id =>
    match s.calls id with
    | .restricted e _ =>
      match s.dir.rename .tmp .sidecar with
      | some dir => some ({ s with dir, ledger := e.write s.ledger }.set id .returned)
      | none => some (s.set id e.giveUp)
    | _ => none
  | .fail id =>
    match s.calls id with
    | .loaded e _ _ => some (s.set id e.giveUp)
    | .opened e _ _ => some (s.set id e.giveUp)
    | .written e _ => some (s.set id e.giveUp)
    | .restricted e _ => some (s.set id e.giveUp)
    | _ => none

/-- The map that a call stores is that of the call as a whole. -/
theorem setExpiry_eq_write (sha256 : List UInt8 → List UInt8) (file : File) (plaintext : String)
    (expiresAt now now' : ℤ) :
    (Sidecar.setExpiry sha256 file plaintext expiresAt now (.ok ())).1 =
      .entries (((Call.setExpiry plaintext expiresAt).entry sha256 now').write
        (loadPruned file now)) := rfl

/-! ### What is claimed of a run -/

/-- The call has the temporary file. -/
def Phase.Holds : Phase → Prop
  | .opened _ _ _ => True
  | .written _ _ => True
  | .restricted _ _ => True
  | _ => False

/-- Every call that was begun has returned. -/
def AllReturned (s : State) : Prop := ∀ id, s.calls id = .idle ∨ s.calls id = .returned

/-- The sidecar is absent or a complete map; and when all calls have returned it has every deadline
that was recorded last for its token. -/
structure Kept (s : State) : Prop where
  complete : ∀ c, s.dir.read .sidecar = some c → ∃ map, c = .json map
  recorded : AllReturned s → ∀ hash deadline, s.ledger hash = some deadline →
    s.file.deadline hash = some deadline

/-- No deadline passes: whenever the sidecar is read, all its deadlines are still to come. -/
def Timely (_ : List Act) (s : State) (a : Act) : Prop :=
  ∀ id now, a = .read id now →
    ∀ hash deadline, s.file.deadline hash = some deadline → now < deadline

/-- A call that opens the temporary file has read the sidecar that is still there, and no other call
has the temporary file. -/
def Exclusive (_ : List Act) (s : State) (a : Act) : Prop :=
  ∀ id, a = .openTmp id → (∀ j, ¬ (s.calls j).Holds) ∧
    ∀ e map read, s.calls id = .loaded e map read → read = s.dir.names .sidecar

/-- No call is begun, and the ledger is what the sidecar says. -/
structure Initial (s : State) : Prop where
  dir : s.dir.WellFormed
  idle : ∀ id, s.calls id = .idle
  complete : ∀ c, s.dir.read .sidecar = some c → ∃ map, c = .json map
  ledger : ∀ hash, s.ledger hash = s.file.deadline hash

/-! ### One step -/

/-- What is known of a call: the file that it has read, and the temporary file if it has that. -/
def PhaseOk (d : Dir Name Content) (ledger : Deadlines) : Phase → Prop
  | .loaded e map read => (read = d.names .sidecar → map = e.write ledger) ∧
      ∀ i, read = some i → i < d.next ∧ d.names .tmp ≠ some i
  | .opened e map file =>
    d.names .tmp = some file ∧ d.content file = .empty ∧ map = e.write ledger
  | .written e map => d.read .tmp = some (.json map) ∧ map = e.write ledger
  | .restricted e map => d.read .tmp = some (.json map) ∧ map = e.write ledger
  | _ => True

/-- The sidecar is the ledger, and at most one call has the temporary file. -/
structure Inv (s : State) : Prop where
  dir : s.dir.WellFormed
  sidecar : ∀ c, s.dir.read .sidecar = some c → c = .json s.ledger
  absent : s.dir.read .sidecar = none → s.ledger = fun _ => none
  phases : ∀ id, PhaseOk s.dir s.ledger (s.calls id)
  single : ∀ id j, (s.calls id).Holds → (s.calls j).Holds → id = j

variable {s t : State} {id : ℕ}

theorem Inv.file_deadline (h : Inv s) : s.file.deadline = s.ledger := by
  unfold State.file
  rcases hc : s.dir.read .sidecar with _ | c
  · rw [h.absent hc]
    rfl
  · rw [h.sidecar c hc]
    rfl

theorem Inv.kept (h : Inv s) : Kept s where
  complete c hc := ⟨s.ledger, h.sidecar c hc⟩
  recorded _ hash deadline hd := by rw [h.file_deadline, hd]

theorem Initial.inv (h : Initial s) : Inv s := by
  have hledger : s.ledger = s.file.deadline := funext h.ledger
  refine ⟨h.dir, fun c hc => ?_, fun hc => ?_, fun id => ?_, fun id j hid => ?_⟩
  · obtain ⟨map, rfl⟩ := h.complete c hc
    rw [hledger, State.file, hc]
    rfl
  · rw [hledger, State.file, hc]
    rfl
  · rw [h.idle id]
    trivial
  · rw [h.idle id] at hid
    exact hid.elim

/-- Nothing is pruned while no deadline passes. -/
theorem Inv.loadPruned_eq (h : Inv s) {now : ℤ}
    (hnow : ∀ hash deadline, s.file.deadline hash = some deadline → now < deadline) :
    loadPruned s.file now = s.ledger := by
  funext hash
  rw [Sidecar.loadPruned_eq, ← h.file_deadline]
  rcases hd : s.file.deadline hash with _ | deadline
  · rfl
  · simp [hnow hash deadline hd]

/-- A call without the temporary file is not concerned by what is done to the other files, unless it
has read the sidecar that is there afterwards. -/
theorem PhaseOk.change {d d' : Dir Name Content} {l l' : Deadlines} {phase : Phase}
    (h : PhaseOk d l phase) (hno : ¬ phase.Holds)
    (hmap : ∀ read, (∀ i, read = some i → i < d.next ∧ d.names .tmp ≠ some i) →
      read = d'.names .sidecar → read = d.names .sidecar ∧ l' = l)
    (hread : ∀ i, i < d.next → d.names .tmp ≠ some i → i < d'.next ∧ d'.names .tmp ≠ some i) :
    PhaseOk d' l' phase := by
  rcases phase with _ | e | ⟨e, map, read⟩ | ⟨e, map, file⟩ | ⟨e, map⟩ | ⟨e, map⟩ | _ | _
  · trivial
  · trivial
  · refine ⟨fun hr => ?_, fun i hi => hread i (h.2 i hi).1 (h.2 i hi).2⟩
    obtain ⟨hr, rfl⟩ := hmap read h.2 hr
    exact h.1 hr
  · exact absurd trivial hno
  · exact absurd trivial hno
  · exact absurd trivial hno
  · trivial
  · trivial

/-- A step of one call: the others must be as they were, and the sidecar the ledger. -/
theorem Inv.update (h : Inv s) {dir : Dir Name Content} {ledger : Deadlines} {phase : Phase}
    (hdir : dir.WellFormed) (hsidecar : ∀ c, dir.read .sidecar = some c → c = .json ledger)
    (habsent : dir.read .sidecar = none → ledger = fun _ => none)
    (hphase : PhaseOk dir ledger phase)
    (hothers : ∀ j, j ≠ id → PhaseOk dir ledger (s.calls j))
    (hsingle : phase.Holds → ∀ j, j ≠ id → ¬ (s.calls j).Holds) :
    Inv ⟨dir, Function.update s.calls id phase, ledger⟩ := by
  refine ⟨hdir, hsidecar, habsent, fun j => ?_, fun j k hj hk => ?_⟩
  · by_cases hj : j = id
    · subst hj
      simpa using hphase
    · simpa [Function.update_of_ne hj] using hothers j hj
  · by_cases hjid : j = id <;> by_cases hkid : k = id
    · rw [hjid, hkid]
    · subst hjid
      simp only [Function.update_self, Function.update_of_ne hkid] at hj hk
      exact absurd hk (hsingle hj k hkid)
    · subst hkid
      simp only [Function.update_self, Function.update_of_ne hjid] at hj hk
      exact absurd hj (hsingle hk j hjid)
    · simp only [Function.update_of_ne hjid, Function.update_of_ne hkid] at hj hk
      exact h.single j k hj hk

/-- A step that leaves the files alone. -/
theorem Inv.set (h : Inv s) {phase : Phase} (hphase : PhaseOk s.dir s.ledger phase)
    (hholds : phase.Holds → (s.calls id).Holds) : Inv (s.set id phase) := by
  refine h.update h.dir h.sidecar h.absent hphase (fun j _ => h.phases j) fun hp j hj hh => ?_
  exact hj (h.single j id hh (hholds hp))

theorem Inv.giveUp (h : Inv s) (e : Entry) : Inv (s.set id e.giveUp) := by
  unfold Entry.giveUp
  rcases e.deadline.isSome
  · exact h.set trivial (by simp [Phase.Holds])
  · exact h.set trivial (by simp [Phase.Holds])

section
variable {e : Entry} {map : Deadlines}

theorem Inv.read (h : Inv s) {now : ℤ}
    (hnow : ∀ hash deadline, s.file.deadline hash = some deadline → now < deadline) :
    Inv (s.set id (.loaded e (e.write (loadPruned s.file now)) (s.dir.names .sidecar))) := by
  refine h.set ⟨fun _ => by rw [h.loadPruned_eq hnow], fun i hi => ?_⟩ (by simp [Phase.Holds])
  refine ⟨h.dir.used _ _ hi, fun ht => ?_⟩
  have hne := h.dir.single _ _ _ hi ht
  cases hne

theorem Inv.openTmp (h : Inv s) (hmap : map = e.write s.ledger)
    (hfree : ∀ j, ¬ (s.calls j).Holds) :
    let r := s.dir.openTruncate .tmp .empty
    Inv ({ s with dir := r.1 }.set id (.opened e map r.2)) := by
  intro r
  have hsidecar : r.1.read .sidecar = s.dir.read .sidecar :=
    h.dir.read_openTruncate (by decide) _
  have hname : r.1.names .sidecar = s.dir.names .sidecar := Dir.openTruncate_names_ne (by decide)
  refine h.update (h.dir.openTruncate _ _) (hsidecar ▸ h.sidecar) (hsidecar ▸ h.absent)
    ⟨Dir.openTruncate_names, Dir.openTruncate_content, hmap⟩ (fun j _ => ?_) fun _ j _ => hfree j
  refine (h.phases j).change (hfree j) (fun read _ hr => ⟨hr.trans hname, rfl⟩) fun i hi hne => ?_
  refine ⟨Nat.lt_of_lt_of_le hi Dir.next_le_openTruncate, fun ht => ?_⟩
  -- the file that is opened was the temporary one already, or is new
  have heq : (s.dir.openTruncate .tmp .empty).2 = i :=
    Option.some.inj (Dir.openTruncate_names.symm.trans ht)
  rcases Dir.openTruncate_file s.dir .tmp .empty with hf | ⟨-, hnew⟩
  · exact hne (hf.trans (congrArg some heq))
  · omega

theorem Inv.write (h : Inv s) {file : ℕ} (hc : s.calls id = .opened e map file) (covers : Bool) :
    Inv ({ s with dir := s.dir.write file ((s.dir.content file).overwrite map covers) }.set id
      (.written e map)) := by
  have hok := h.phases id
  rw [hc] at hok
  obtain ⟨hname, hempty, hmap⟩ := hok
  rw [hempty]
  have hsidecar := h.dir.read_write hname (q := .sidecar) (by decide) (.json map)
  have hholds : (s.calls id).Holds := by rw [hc]; trivial
  have hothers : ∀ j, j ≠ id → ¬ (s.calls j).Holds := fun j hj hh => hj (h.single j id hh hholds)
  refine h.update (h.dir.write _ _) (hsidecar ▸ h.sidecar) (hsidecar ▸ h.absent) ⟨?_, hmap⟩
    (fun j hj => ?_) fun _ => hothers
  · simp [Dir.read, Dir.write, hname, Content.overwrite]
  · exact (h.phases j).change (hothers j hj) (fun read _ hr => ⟨hr, rfl⟩) fun i hi hne => ⟨hi, hne⟩

theorem Inv.rename (h : Inv s) (hc : s.calls id = .restricted e map) {dir : Dir Name Content}
    (hr : s.dir.rename .tmp .sidecar = some dir) :
    Inv ({ s with dir, ledger := e.write s.ledger }.set id .returned) := by
  have hok := h.phases id
  rw [hc] at hok
  obtain ⟨hread, hmap⟩ := hok
  have hwf := h.dir.rename hr
  obtain ⟨i, hi, rfl⟩ := Dir.rename_eq_some.mp hr
  have hcontent : s.dir.content i = .json (e.write s.ledger) := by
    rw [Dir.read, hi] at hread
    rw [← hmap]
    exact Option.some.inj hread
  have hholds : (s.calls id).Holds := by rw [hc]; trivial
  refine h.update hwf (fun c hc' => ?_) (fun hc' => ?_) trivial (fun j hj => ?_) fun hp => hp.elim
  · simp only [Dir.read, Function.update_self, Option.map_some, Option.some.injEq] at hc'
    rw [← hc', hcontent]
  · simp [Dir.read] at hc'
  · refine (h.phases j).change (fun hh => hj (h.single j id hh hholds)) (fun read hne hr => ?_)
      fun k hk _ => ⟨hk, by simp⟩
    simp only [Function.update_self] at hr
    exact absurd hi (hne i hr).2

end

/-- **A step that is exclusive keeps the sidecar equal to the ledger.** -/
theorem inv_step {sha256 : List UInt8 → List UInt8} {pre : List Act} {a : Act} (h : Inv s)
    (htime : Timely pre s a) (hexcl : Exclusive pre s a) (ha : s.step sha256 a = some t) :
    Inv t := by
  rcases a with ⟨id, call, now⟩ | ⟨id, now⟩ | ⟨id⟩ | ⟨id, covers⟩ | ⟨id⟩ | ⟨id⟩ | ⟨id⟩ <;>
    unfold State.step at ha <;> dsimp only at ha <;>
    rcases hc : s.calls id with _ | e | ⟨e, map, read⟩ | ⟨e, map, file⟩ | ⟨e, map⟩ | ⟨e, map⟩ |
      _ | _ <;>
    simp only [hc, reduceCtorEq] at ha
  · cases ha
    exact h.set trivial (by simp [Phase.Holds])
  · split at ha <;> cases ha
    · exact h.set trivial (by simp [Phase.Holds])
    · exact h.read (htime id now rfl)
  · cases ha
    obtain ⟨hfree, hbase⟩ := hexcl id rfl
    have hok := h.phases id
    rw [hc] at hok
    exact h.openTmp (hok.1 (hbase e map read hc)) hfree
  · cases ha
    exact h.write hc covers
  · have hok := h.phases id
    rw [hc] at hok
    cases ha
    split
    · exact h.set hok fun _ => by rw [hc]; trivial
    · exact h.giveUp e
  · split at ha <;> cases ha
    · exact h.rename hc ‹_›
    · exact h.giveUp e
  · cases ha; exact h.giveUp e
  · cases ha; exact h.giveUp e
  · cases ha; exact h.giveUp e
  · cases ha; exact h.giveUp e

/-- **No deadline is lost** in a run in which every call that opens the temporary file has it to
itself, and has read the sidecar that is still there. -/
theorem exclusive_keeps {sha256 : List UInt8 → List UInt8} {as : List Act} (hs : Initial s)
    (hr : Run (ofFn (State.step sha256)) s as t)
    (htime : Along (ofFn (State.step sha256)) Timely s as)
    (hexcl : Along (ofFn (State.step sha256)) Exclusive s as) : Kept t := by
  have hinv : Inv t := hr.invariant_along (I := Inv)
    (fun pre s a t hi hC ha => inv_step hi hC.1 hC.2 ha) hs.inv (htime.and hexcl)
  exact hinv.kept

/-! ### Runs -/

/-- A digest function that is easy to evaluate. -/
def plain (bytes : List UInt8) : List UInt8 := bytes

/-- No sidecar, no call. -/
def fresh : State := ⟨⟨fun _ => none, fun _ => .empty, 0⟩, fun _ => .idle, fun _ => none⟩

theorem initial_fresh : Initial fresh := by
  refine ⟨⟨?_, ?_⟩, fun _ => rfl, ?_, fun _ => rfl⟩ <;> simp [fresh, Dir.read]

/-- The steps of a call after its reading. -/
def storing (id : ℕ) : List Act := [.openTmp id, .write id true, .chmod id, .rename id]

/-- Two calls read the sidecar, and then replace it one after the other. -/
def overlap : List Act :=
  [Act.start 0 (.setExpiry "a" 100) 5, .start 1 (.setExpiry "b" 200) 5, .read 0 10, .read 1 10] ++
    storing 0 ++ storing 1

/-- **A deadline is lost**: the second call stores what it has read before the first one's rename.
-/
theorem deadline_lost :
    ¬ ∀ (sha256 : List UInt8 → List UInt8) (s t : State) (as : List Act), Initial s →
      Run (ofFn (State.step sha256)) s as t → Along (ofFn (State.step sha256)) Timely s as →
      Kept t := by
  intro h
  have hkept := h plain fresh _ overlap initial_fresh
    (.cons rfl (.cons rfl (.cons rfl (.cons rfl (.cons rfl (.cons rfl (.cons rfl (.cons rfl
      (.cons rfl (.cons rfl (.cons rfl (.cons rfl (.nil _))))))))))))) ?_
  · have hlost := hkept.recorded ?_ (tokenHash plain "a") 100 (by decide +kernel)
    · exact absurd hlost (by decide +kernel)
    · intro i
      by_cases h0 : i = 0
      · subst h0
        exact Or.inr rfl
      · by_cases h1 : i = 1
        · subst h1
          exact Or.inr rfl
        · left
          simp [State.set, h0, h1, fresh]
  · rintro pre a post u he hu i now rfl hash deadline hd
    -- nothing has been stored yet when the sidecar is read
    rcases pre with _ | ⟨b, _ | ⟨c, _ | ⟨d, _ | ⟨e, pre⟩⟩⟩⟩
    · cases he
    · cases he
    · cases he
      obtain rfl := hu.unique (.cons rfl (.cons rfl (.nil _)))
      cases hd
    · cases he
      obtain rfl := hu.unique (.cons rfl (.cons rfl (.cons rfl (.nil _))))
      cases hd
    · have hmem : Act.read i now ∈ overlap.drop 4 := by simp [he]
      simp [overlap, storing] at hmem

/-- A sidecar that has the deadline of `b`. -/
def hasB : State :=
  ⟨⟨fun p => if p = .sidecar then some 0 else none,
    fun _ => .json (Function.update (fun _ => none) (tokenHash plain "b") (some 200)), 1⟩,
    fun _ => .idle, Function.update (fun _ => none) (tokenHash plain "b") (some 200)⟩

theorem initial_hasB : Initial hasB := by
  refine ⟨⟨fun p i hp => ?_, fun p q i hp hq => ?_⟩, fun _ => rfl, fun c hc => ?_, fun _ => rfl⟩
  · simp only [hasB] at hp ⊢
    split_ifs at hp
    cases hp
    omega
  · simp only [hasB] at hp hq
    split_ifs at hp hq with h1 h2
    rw [h1, h2]
  · cases hc
    exact ⟨_, rfl⟩

/-- A call by itself. -/
def alone : List Act := [Act.start 0 (.setExpiry "a" 100) 5, .read 0 10] ++ storing 0

/-- It keeps the deadline of `b`. -/
theorem exclusive_keeps_alone :
    ∃ t, Run (ofFn (State.step plain)) hasB alone t ∧ Kept t := by
  obtain ⟨t, hrun⟩ : ∃ t, Run (ofFn (State.step plain)) hasB alone t :=
    ⟨_, .cons rfl (.cons rfl (.cons rfl (.cons rfl (.cons rfl (.cons rfl (.nil _))))))⟩
  refine ⟨t, hrun, exclusive_keeps initial_hasB hrun ?_ ?_⟩
  · rintro pre a post u he hu i now rfl hash deadline hd
    rcases pre with _ | ⟨b, _ | ⟨c, pre⟩⟩
    · cases he
    · cases he
      obtain rfl := hu.unique (.cons rfl (.nil _))
      change Function.update (fun _ => none) (tokenHash plain "b") (some 200) hash = _ at hd
      rw [Function.update_apply] at hd
      split_ifs at hd
      cases hd
      decide
    · have hmem : Act.read i now ∈ alone.drop 2 := by simp [he]
      simp [alone, storing] at hmem
  · rintro pre a post u he hu i rfl
    rcases pre with _ | ⟨b, _ | ⟨c, _ | ⟨d, pre⟩⟩⟩
    · cases he
    · cases he
    · cases he
      obtain rfl := hu.unique (.cons rfl (.cons rfl (.nil _)))
      refine ⟨fun j hj => ?_, fun e map read hl => ?_⟩
      · by_cases h0 : j = 0
        · subst h0
          exact hj.elim
        · simp [State.set, hasB, h0, Phase.Holds] at hj
      · cases hl
        rfl
    · have hmem : Act.openTmp i ∈ alone.drop 3 := by simp [he]
      simp [alone, storing] at hmem

end MuxrCore.TokenExpiry.Concurrent
