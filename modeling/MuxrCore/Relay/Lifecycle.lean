import MuxrCore.Grpc.SpaceOps
import MuxrCore.Lib.Holders
import MuxrCore.Multiplexer.Routing
import MuxrCore.Relay.Attach
import MuxrCore.Relay.Inbound

/-! # The life of a relay, and what it leaves behind

An attach is received, the backend is attached to, and the relay is counted; its view is read, and
then its view state, its channel and its lease are entered in the registries, one after the other,
and its inbound task starts. When the loop ends, the task takes all of it back in turn. A caller that
goes away while something is awaited drops the attach where it is. Every other relay may be at any
stage meanwhile.

* `exact_run`: whatever the order of the steps, the registries hold what the relays own, and the
  clients are counted exactly.
* `nothing_left`: once the relays are gone, nothing is left of them.
* `one_per_instance`: of the relays of one instance, one is not evicted at most; and only a relay
  that is all set up evicts. -/

namespace MuxrCore.Relay.Lifecycle

open MuxrCore.Lib.Runs MuxrCore.Lib.Holders MuxrCore.Lib.Rpc MuxrCore.Multiplexer.Routing
open MuxrCore.Multiplexer.Layout MuxrCore.Relay.Control MuxrCore.Relay.View MuxrCore.Relay.Attach
open MuxrCore.Relay.Inbound (clampDim minTerminalRows minTerminalCols)
open MuxrCore.Grpc.SpaceOps (ViewStateEntry maxSpaceIdLen validateSpaceId)

/-! ### The request -/

structure AttachReq where
  session : String
  rows : ℕ
  cols : ℕ
  clientInstanceId : String
  resumeSpaceId : String
  resumeTabId : ℕ
  resumePaneId : ℕ
  deriving DecidableEq, Repr

/-- The kind of a client's frame, as far as the first one is told apart. -/
inductive FrameKind
  | attach (req : AttachReq)
  | other
  deriving DecidableEq, Repr

/-- The first frame has to be an attach. -/
def firstAttach : Option (Except String (Option FrameKind)) → Except Status AttachReq
  | none => .error (.invalidArgument "stream closed before AttachReq")
  | some (.error e) => .error (.internal s!"error reading first frame: {e}")
  | some (.ok (some (.attach req))) => .ok req
  | some (.ok (some .other)) =>
    .error (.invalidArgument "first ClientFrame must be AttachReq (got input/resize)")
  | some (.ok none) => .error (.invalidArgument "first ClientFrame had no kind")

/-- The longest space id of a hint, in bytes. -/
def maxResumeSpaceIdLen : ℕ := 128

def saneSpaceId (s : String) : Bool :=
  s.utf8ByteSize ≤ maxResumeSpaceIdLen &&
    s.toList.all fun c => c.isAlphanum || c == '_' || c == '-' || c == '.' || c == ':'

/-- The hint of an attach; what is malformed in it is dropped. -/
def resumeTarget (req : AttachReq) : ResumeTarget where
  spaceId := (some req.resumeSpaceId).filter fun s => !s.isEmpty && saneSpaceId s
  tabId := (some req.resumeTabId).filter (· ≠ 0)
  paneId := (some req.resumePaneId).filter (· ≠ 0)

/-- What is left of a hint's space id is what a switch of spaces would accept. -/
theorem resumeTarget_spaceId {req : AttachReq} {spaceId : String} :
    (resumeTarget req).spaceId = some spaceId ↔
      spaceId = req.resumeSpaceId ∧ validateSpaceId spaceId = .ok () := by
  have hsane : (!spaceId.isEmpty && saneSpaceId spaceId) = true ↔
      validateSpaceId spaceId = .ok () := by
    unfold saneSpaceId validateSpaceId maxResumeSpaceIdLen maxSpaceIdLen
    generalize (spaceId.toList.all fun c =>
      c.isAlphanum || c == '_' || c == '-' || c == '.' || c == ':') = sane
    cases sane <;> split_ifs <;> simp_all
  simp only [resumeTarget, Option.filter_eq_some_iff, Option.some.injEq, hsane]
  rw [eq_comm]

/-- The server, as an attach sees it; the hash of tokens, and the backends. -/
structure Server where
  sha256 : List UInt8 → List UInt8
  env : Externs
  backends : BackendSet Unit

/-- An attach that has been read. -/
structure Attach where
  id : String
  kind : BackendKind
  bare : String
  readOnly : Bool
  key : Option AttachKey
  arrival : ℕ
  rows : ℕ
  cols : ℕ
  resume : ResumeTarget

/-- Read the first frame, and resolve the session that it names. -/
def attachOf (srv : Server) (readOnly : Bool) (token : Option String) (arrival : ℕ)
    (first : Option (Except String (Option FrameKind))) : Except Status Attach := do
  let req ← firstAttach first
  let (kind, _, bare) ← resolveSessionKind srv.env srv.backends req.session
  return {
    id := req.session, kind, bare, readOnly, arrival
    key := AttachKey.new srv.sha256 token req.clientInstanceId
    rows := clampDim req.rows 24 minTerminalRows
    cols := clampDim req.cols 80 minTerminalCols
    resume := resumeTarget req }

/-! ### Relays -/

/-- How far a relay has come, once the backend is attached to. -/
inductive Phase
  /-- counted, and its view is being read -/
  | seeding
  /-- its view state is entered -/
  | viewed
  /-- its channel is entered -/
  | routed
  /-- it has its lease, and its inbound task -/
  | running
  /-- the loop has ended -/
  | leaving
  | unrouted
  | unviewed
  /-- its lease is dropped -/
  | released
  /-- its reader has ended -/
  | joined
  deriving DecidableEq, Repr

def Phase.isViewed : Phase → Bool
  | .viewed | .routed | .running | .leaving | .unrouted => true
  | _ => false

def Phase.isRouted : Phase → Bool
  | .routed | .running | .leaving => true
  | _ => false

def Phase.isLeased : Phase → Bool
  | .running | .leaving | .unrouted | .unviewed => true
  | _ => false

/-- The lease is still to come. -/
def Phase.isEarly : Phase → Bool
  | .seeding | .viewed | .routed => true
  | _ => false

inductive Stage
  | opening
  | attached (connectionId : String) (phase : Phase)
  | gone
  deriving DecidableEq, Repr

structure RelayTask where
  attach : Attach
  stage : Stage

namespace RelayTask

variable (r : RelayTask)

/-- The id that the relay goes by. -/
def connectionId : Option String :=
  match r.stage with
  | .attached connectionId _ => some connectionId
  | _ => none

/-- The entry that a relay owns in a registry, in the phases that `p` tells. -/
def owns {α : Type} (p : Phase → Bool) (a : Attach → α) : Option (String × α) :=
  match r.stage with
  | .attached connectionId phase => if p phase then some (connectionId, a r.attach) else none
  | _ => none

/-- The relay is counted as a client of the session. -/
def counts (kind : BackendKind) (bare : String) : Bool :=
  r.connectionId.isSome && r.attach.kind = kind && r.attach.bare = bare

end RelayTask

/-- What the relays share. -/
structure System where
  relays : List RelayTask
  clients : String → ℕ
  control : ControlRegistry
  views : String → Option ViewStateEntry
  attaches : Attaches
  nextChannel : ChannelId
  channels : ∀ k e, control.get k = some e → e.sender < nextChannel

def System.init : System where
  relays := []
  clients := fun _ => 0
  control := .empty
  views := fun _ => none
  attaches := .init
  nextChannel := 0
  channels k _ he := absurd ((ControlRegistry.get_empty k).symm.trans he) nofun

inductive Act
  | receive (readOnly : Bool) (token : Option String) (arrival : ℕ)
    (first : Option (Except String (Option FrameKind)))
  /-- the backend refuses, or the caller is gone while something is awaited -/
  | cancel (i : ℕ)
  | opened (i : ℕ) (connectionId : String)
  /-- the view that the relay lands on is known -/
  | view (i : ℕ) (state : RelayViewState)
  /-- what the relay does next by itself -/
  | go (i : ℕ)
  /-- the inbound task tracks a move -/
  | track (i : ℕ) (state : RelayViewState)

/-- The connection id that an action mints. -/
def Act.minted : Act → Option String
  | .opened _ connectionId => some connectionId
  | _ => none

namespace System

variable (s : System)

/-- The relay has come to a stage. -/
def move (i : ℕ) (r : RelayTask) (stage : Stage) : System :=
  { s with relays := s.relays.set i { r with stage } }

/-- One more client, or one less, of the relay's session. -/
def count (r : RelayTask) (f : ℕ → ℕ) : System :=
  let key := makeId r.attach.kind r.attach.bare
  { s with clients := Function.update s.clients key (f (s.clients key)) }

def setView (connectionId : String) (entry : Option ViewStateEntry) : System :=
  { s with views := Function.update s.views connectionId entry }

/-- Enter the relay's channel. -/
def enter (r : RelayTask) (connectionId : String) : System :=
  { s with
    control := s.control.insert connectionId ⟨r.attach.id, s.nextChannel, r.attach.readOnly⟩
      fun k e he => Nat.ne_of_lt (s.channels k e he)
    nextChannel := s.nextChannel + 1
    channels := by
      intro k e he
      rw [ControlRegistry.get_insert] at he
      split_ifs at he
      · cases he
        exact Nat.lt_succ_self _
      · exact Nat.lt_succ_of_lt (s.channels k e he) }

/-- Remove its channel. -/
def leave (connectionId : String) : System :=
  { s with
    control := s.control.remove connectionId
    channels := by
      intro k e he
      rw [ControlRegistry.get_remove] at he
      split_ifs at he
      exact s.channels k e he }

/-- Register the relay under its key. -/
def register (r : RelayTask) (connectionId : String) : System :=
  let (registry, lease, _) :=
    s.attaches.registry.register r.attach.key connectionId r.attach.arrival
  { s with attaches := ⟨registry, s.attaches.leases ++ [lease]⟩ }

/-- Drop its lease. -/
def release (connectionId : String) : System :=
  match s.attaches.leases.findIdx? (·.connectionId = connectionId) with
  | none => s
  | some j => match s.attaches.step (.drop j) with
    | none => s
    | some attaches => { s with attaches }

/-- What a relay does next by itself, in the order of the source. -/
def go (i : ℕ) (r : RelayTask) (connectionId : String) : Phase → Option System
  | .seeding => none
  | .viewed => some ((s.enter r connectionId).move i r (.attached connectionId .routed))
  | .routed => some ((s.register r connectionId).move i r (.attached connectionId .running))
  | .running => some (s.move i r (.attached connectionId .leaving))
  | .leaving => some ((s.leave connectionId).move i r (.attached connectionId .unrouted))
  | .unrouted => some ((s.setView connectionId none).move i r (.attached connectionId .unviewed))
  | .unviewed => some ((s.release connectionId).move i r (.attached connectionId .released))
  | .released => some (s.move i r (.attached connectionId .joined))
  | .joined => some ((s.count r (· - 1)).move i r .gone)

/-- One step; `none` where the relay is not at that point. -/
def step (srv : Server) : Act → Option System
  | .receive readOnly token arrival first =>
    match attachOf srv readOnly token arrival first with
    | .error _ => some s
    | .ok attach => some { s with relays := s.relays ++ [⟨attach, .opening⟩] }
  | .cancel i =>
    match s.relays[i]? with
    | some r => match r.stage with
      | .opening => some (s.move i r .gone)
      -- what it holds is dropped: the reader ends, and then the client is not counted any more
      | .attached connectionId .seeding => some (s.move i r (.attached connectionId .released))
      | _ => none
    | none => none
  | .opened i connectionId =>
    match s.relays[i]? with
    | some r => match r.stage with
      | .opening =>
        some ((s.count r (· + 1)).move i r (.attached connectionId .seeding))
      | _ => none
    | none => none
  | .view i state =>
    match s.relays[i]? with
    | some r => match r.stage with
      | .attached connectionId .seeding =>
        some ((s.setView connectionId (some ⟨r.attach.id, state⟩)).move i r
          (.attached connectionId .viewed))
      | _ => none
    | none => none
  | .go i =>
    match s.relays[i]? with
    | some r => match r.stage with
      | .attached connectionId phase => s.go i r connectionId phase
      | _ => none
    | none => none
  | .track i state =>
    match s.relays[i]? with
    | some r => match r.stage with
      | .attached connectionId .running =>
        some (s.setView connectionId
          ((s.views connectionId).map fun entry => { entry with state }))
      | _ => none
    | none => none

end System

/-! ### What a step does -/

/-- What a step of one relay does to what all share, with the stages before and after. -/
inductive Moves (s : System) (i : ℕ) (r : RelayTask) : Act → Stage → Stage → System → Prop
  | refused : Moves s i r (.cancel i) .opening .gone s
  | dropped (c : String) :
    Moves s i r (.cancel i) (.attached c .seeding) (.attached c .released) s
  | opened (c : String) :
    Moves s i r (.opened i c) .opening (.attached c .seeding) (s.count r (· + 1))
  | viewed (c : String) (state : RelayViewState) :
    Moves s i r (.view i state) (.attached c .seeding) (.attached c .viewed)
      (s.setView c (some ⟨r.attach.id, state⟩))
  | entered (c : String) :
    Moves s i r (.go i) (.attached c .viewed) (.attached c .routed) (s.enter r c)
  | registered (c : String) :
    Moves s i r (.go i) (.attached c .routed) (.attached c .running) (s.register r c)
  | ended (c : String) : Moves s i r (.go i) (.attached c .running) (.attached c .leaving) s
  | left (c : String) :
    Moves s i r (.go i) (.attached c .leaving) (.attached c .unrouted) (s.leave c)
  | unviewed (c : String) :
    Moves s i r (.go i) (.attached c .unrouted) (.attached c .unviewed) (s.setView c none)
  | released (c : String) :
    Moves s i r (.go i) (.attached c .unviewed) (.attached c .released) (s.release c)
  | joined (c : String) : Moves s i r (.go i) (.attached c .released) (.attached c .joined) s
  | forgotten (c : String) :
    Moves s i r (.go i) (.attached c .joined) .gone (s.count r (· - 1))

variable {srv : Server} {s t : System} {a : Act} {as : List Act}

/-- A step refuses an attach, starts one, tracks a move, or moves one relay. -/
theorem step_cases (h : s.step srv a = some t) :
    t = s ∨ (∃ attach, a.minted = none ∧ t = { s with relays := s.relays ++ [⟨attach, .opening⟩] }) ∨
      (∃ c state, a.minted = none ∧
        t = s.setView c ((s.views c).map fun entry => { entry with state })) ∨
      ∃ i r stage s₁, s.relays[i]? = some r ∧ Moves s i r a r.stage stage s₁ ∧
        t = s₁.move i r stage := by
  cases a with
  | receive readOnly token arrival first =>
    rcases ha : attachOf srv readOnly token arrival first with e | attach
    · simp only [System.step, ha, Option.some.injEq] at h
      exact Or.inl h.symm
    · simp only [System.step, ha, Option.some.injEq] at h
      exact Or.inr (Or.inl ⟨attach, rfl, h.symm⟩)
  | cancel i =>
    rcases hr : s.relays[i]? with - | ⟨attach, stage⟩
    · simp [System.step, hr] at h
    refine Or.inr (Or.inr (Or.inr ⟨i, ⟨attach, stage⟩, ?_⟩))
    rcases stage with - | ⟨c, phase⟩ | -
    · simp only [System.step, hr, Option.some.injEq] at h
      exact ⟨_, _, hr, .refused, h.symm⟩
    · cases phase <;> simp only [System.step, hr, reduceCtorEq, Option.some.injEq] at h
      exact ⟨_, _, hr, .dropped c, h.symm⟩
    · simp [System.step, hr] at h
  | opened i c =>
    rcases hr : s.relays[i]? with - | ⟨attach, stage⟩
    · simp [System.step, hr] at h
    refine Or.inr (Or.inr (Or.inr ⟨i, ⟨attach, stage⟩, ?_⟩))
    cases stage <;> simp only [System.step, hr, reduceCtorEq, Option.some.injEq] at h
    exact ⟨_, _, hr, .opened c, h.symm⟩
  | view i state =>
    rcases hr : s.relays[i]? with - | ⟨attach, stage⟩
    · simp [System.step, hr] at h
    refine Or.inr (Or.inr (Or.inr ⟨i, ⟨attach, stage⟩, ?_⟩))
    rcases stage with - | ⟨c, phase⟩ | -
    · simp [System.step, hr] at h
    · cases phase <;> simp only [System.step, hr, reduceCtorEq, Option.some.injEq] at h
      exact ⟨_, _, hr, .viewed c state, h.symm⟩
    · simp [System.step, hr] at h
  | go i =>
    rcases hr : s.relays[i]? with - | ⟨attach, stage⟩
    · simp [System.step, hr] at h
    refine Or.inr (Or.inr (Or.inr ⟨i, ⟨attach, stage⟩, ?_⟩))
    rcases stage with - | ⟨c, phase⟩ | -
    · simp [System.step, hr] at h
    · cases phase <;>
        simp only [System.step, System.go, hr, reduceCtorEq, Option.some.injEq] at h
      · exact ⟨_, _, hr, .entered c, h.symm⟩
      · exact ⟨_, _, hr, .registered c, h.symm⟩
      · exact ⟨_, _, hr, .ended c, h.symm⟩
      · exact ⟨_, _, hr, .left c, h.symm⟩
      · exact ⟨_, _, hr, .unviewed c, h.symm⟩
      · exact ⟨_, _, hr, .released c, h.symm⟩
      · exact ⟨_, _, hr, .joined c, h.symm⟩
      · exact ⟨_, _, hr, .forgotten c, h.symm⟩
    · simp [System.step, hr] at h
  | track i state =>
    rcases hr : s.relays[i]? with - | ⟨attach, stage⟩
    · simp [System.step, hr] at h
    rcases stage with - | ⟨c, phase⟩ | -
    · simp [System.step, hr] at h
    · cases phase <;> simp only [System.step, hr, reduceCtorEq, Option.some.injEq] at h
      exact Or.inr (Or.inr (Or.inl ⟨c, state, rfl, h.symm⟩))
    · simp [System.step, hr] at h

/-! ### What is entered, and by whom -/

/-- The control registry has an entry of this session and tier. -/
def System.routes (s : System) (c : String) (e : String × Bool) : Prop :=
  ∃ entry, s.control.get c = some entry ∧ (entry.session, entry.readOnly) = e

/-- The view registry has an entry of this session. -/
def System.shows (s : System) (c : String) (id : String) : Prop :=
  ∃ entry, s.views c = some entry ∧ entry.session = id

/-- There is a lease for this key. -/
def System.leases (s : System) (c : String) (key : Option AttachKey) : Prop :=
  ∃ l ∈ s.attaches.leases, l.connectionId = c ∧ l.key = key

/-- **The registries hold what the relays own, and the clients are counted exactly.** -/
structure Exact (s : System) : Prop where
  clients : ∀ kind bare, s.clients (makeId kind bare) = s.relays.countP (·.counts kind bare)
  control : Mirrors (·.owns Phase.isRouted fun a => (a.id, a.readOnly)) s.relays s.routes
  views : Mirrors (·.owns Phase.isViewed (·.id)) s.relays s.shows
  leases : Mirrors (·.owns Phase.isLeased (·.key)) s.relays s.leases

/-- A run of the relays. -/
abbrev Runs (srv : Server) (as : List Act) (s : System) : Prop :=
  Run (ofFn fun s => s.step srv) System.init as s

/-- In the course of `as`, a relay that had been all set up but for its lease has registered. -/
def Registers (srv : Server) (as : List Act) (key : Option AttachKey) (c : String)
    (arrival : ℕ) : Prop :=
  ∃ pre i post s attach, as = pre ++ .go i :: post ∧ Runs srv pre s ∧
    s.relays[i]? = some ⟨attach, .attached c .routed⟩ ∧ attach.key = key ∧
    attach.arrival = arrival

/-- A registration was made by a relay; the one that goes by the id, if it is still there, is past
it. -/
structure Registered (srv : Server) (as : List Act) (s : System) (key : Option AttachKey)
    (c : String) (arrival : ℕ) : Prop where
  registers : Registers srv as key c arrival
  minted : c ∈ as.filterMap Act.minted
  past : ∀ r ∈ s.relays, r.connectionId = some c →
    r.attach.arrival = arrival ∧ ∀ phase, r.stage = .attached c phase → phase.isEarly = false

/-- With it: the relays go by different ids, all of them minted; and the leases come from a run of
the attach registry, whose registrations are those of the relays. -/
structure Inv (srv : Server) (as : List Act) (s : System) : Prop extends Exact s where
  apart : Apart RelayTask.connectionId s.relays
  minted : ∀ r ∈ s.relays, ∀ c, r.connectionId = some c → c ∈ as.filterMap Act.minted
  registered : ∃ acts, Run (ofFn Attaches.step) Attaches.init acts s.attaches ∧
    (acts.filterMap Attach.Act.connectionId).Nodup ∧
    ∀ key c arrival, .register key c arrival ∈ acts → Registered srv as s key c arrival

section
variable {α : Type} {attach : Attach} {c : String} {phase : Phase} {p : Phase → Bool}
  {f : Attach → α}

@[simp] theorem connectionId_opening : (⟨attach, .opening⟩ : RelayTask).connectionId = none := rfl

@[simp] theorem connectionId_gone : (⟨attach, .gone⟩ : RelayTask).connectionId = none := rfl

@[simp] theorem connectionId_attached :
    (⟨attach, .attached c phase⟩ : RelayTask).connectionId = some c := rfl

@[simp] theorem owns_opening : (⟨attach, .opening⟩ : RelayTask).owns p f = none := rfl

@[simp] theorem owns_gone : (⟨attach, .gone⟩ : RelayTask).owns p f = none := rfl

@[simp] theorem owns_attached : (⟨attach, .attached c phase⟩ : RelayTask).owns p f =
    if p phase then some (c, f attach) else none := rfl

/-- What a relay owns is under its own id. -/
theorem connectionId_of_owns (r : RelayTask) (k : String) (a : α) (h : r.owns p f = some (k, a)) :
    r.connectionId = some k := by
  rcases r with ⟨attach, - | ⟨c, phase⟩ | -⟩
  · cases h
  · rw [owns_attached] at h
    split_ifs at h
    obtain ⟨rfl, -⟩ := Prod.mk.inj (Option.some.inj h)
    rfl
  · cases h

end

/-- The session of an id can be read off it. -/
theorem makeId_inj {kind kind' : BackendKind} {bare bare' : String} :
    makeId kind bare = makeId kind' bare' ↔ kind = kind' ∧ bare = bare' := by
  have hsplit : ∀ (kind : BackendKind) (bare : String),
      Lib.Text.splitOnce (makeId kind bare) ':' = some (kind.display, bare) := by
    intro kind bare
    refine Lib.Text.splitOnce_eq_some_iff.mpr ⟨by cases kind <;> decide, ?_⟩
    simp [makeId, String.toList_append]
  constructor
  · intro h
    have heq := (hsplit kind bare).symm.trans (h ▸ hsplit kind' bare')
    obtain ⟨hk, hb⟩ := Prod.mk.inj (Option.some.inj heq)
    refine ⟨?_, hb⟩
    have hp := congrArg parseBackendKind hk
    rw [parseBackendKind_display, parseBackendKind_display] at hp
    exact Option.some.inj hp
  · rintro ⟨rfl, rfl⟩
    rfl

/-! ### What the operations do to the registries -/

section
variable {r : RelayTask} {c k : String}

theorem routes_enter (hvacant : ∀ e, ¬ s.routes c e) {e : String × Bool} :
    (s.enter r c).routes k e ↔
      s.routes k e ∨ (k = c ∧ e = (r.attach.id, r.attach.readOnly)) := by
  unfold System.routes System.enter
  simp only [ControlRegistry.get_insert]
  by_cases hk : k = c
  · subst hk
    rw [if_pos rfl]
    constructor
    · rintro ⟨_, ⟨⟩, rfl⟩
      exact Or.inr ⟨rfl, rfl⟩
    · rintro (hin | ⟨-, rfl⟩)
      · exact absurd hin (hvacant e)
      · exact ⟨_, rfl, rfl⟩
  · simp [hk]

theorem routes_leave {e : String × Bool} :
    (s.leave c).routes k e ↔ s.routes k e ∧ k ≠ c := by
  unfold System.routes System.leave
  simp only [ControlRegistry.get_remove]
  by_cases hk : k = c <;> simp [hk]

theorem shows_setView_some (hvacant : ∀ id, ¬ s.shows c id) {state : RelayViewState}
    {id id' : String} :
    (s.setView c (some ⟨id', state⟩)).shows k id ↔ s.shows k id ∨ (k = c ∧ id = id') := by
  unfold System.shows System.setView
  by_cases hk : k = c
  · subst hk
    have hself : Function.update s.views k (some ⟨id', state⟩) k = some ⟨id', state⟩ :=
      Function.update_self _ _ _
    constructor
    · rintro ⟨entry, he, rfl⟩
      obtain rfl := Option.some.inj (hself.symm.trans he)
      exact Or.inr ⟨rfl, rfl⟩
    · rintro (hin | ⟨-, rfl⟩)
      · exact absurd hin (hvacant id)
      · exact ⟨_, hself, rfl⟩
  · simp [hk]

theorem shows_setView_none {id : String} :
    (s.setView c none).shows k id ↔ s.shows k id ∧ k ≠ c := by
  unfold System.shows System.setView
  by_cases hk : k = c <;> simp [hk]

/-- A move that is tracked leaves the entry to its relay. -/
theorem shows_track {state : RelayViewState} {id : String} :
    (s.setView c ((s.views c).map fun entry => { entry with state })).shows k id ↔
      s.shows k id := by
  unfold System.shows System.setView
  by_cases hk : k = c
  · subst hk
    simp
  · simp [hk]

/-- The lease of a relay that registers is its own. -/
theorem lease_register {reg : AttachRegistry} {key : Option AttachKey} {arrival : ℕ} :
    (reg.register key c arrival).2.1.connectionId = c ∧
      (reg.register key c arrival).2.1.key = key := by
  rcases key with - | key
  · exact ⟨rfl, rfl⟩
  rcases ho : reg.slots.lookup key with - | o
  · rw [register_vacant ho]
    exact ⟨rfl, rfl⟩
  · by_cases hlt : arrival < o.arrival
    · rw [register_stale ho hlt]
      exact ⟨rfl, rfl⟩
    · rw [register_takeover ho (Nat.le_of_not_lt hlt)]
      exact ⟨rfl, rfl⟩

theorem leases_register {key : Option AttachKey} :
    (s.register r c).leases k key ↔ s.leases k key ∨ (k = c ∧ key = r.attach.key) := by
  obtain ⟨hc, hkey⟩ := @lease_register c s.attaches.registry r.attach.key r.attach.arrival
  simp only [System.leases, System.register, List.mem_append, List.mem_singleton]
  constructor
  · rintro ⟨l, hl | rfl, rfl, rfl⟩
    · exact Or.inl ⟨l, hl, rfl, rfl⟩
    · exact Or.inr ⟨hc, hkey⟩
  · rintro (⟨l, hl, rfl, rfl⟩ | ⟨rfl, rfl⟩)
    · exact ⟨l, Or.inl hl, rfl, rfl⟩
    · exact ⟨_, Or.inr rfl, hc, hkey⟩

/-- The lease of this connection is gone, and no other. -/
theorem leases_release (hnodup : (s.attaches.leases.map (·.connectionId)).Nodup)
    {key : Option AttachKey} : (s.release c).leases k key ↔ s.leases k key ∧ k ≠ c := by
  unfold System.release
  split
  · -- there is none
    rename_i hnone
    simp only [List.findIdx?_eq_none_iff, decide_eq_false_iff_not] at hnone
    refine (and_iff_left_of_imp ?_).symm
    rintro ⟨l, hl, rfl, -⟩
    exact hnone l hl
  · rename_i j hj
    obtain ⟨hlt, hc, -⟩ := List.findIdx?_eq_some_iff_getElem.mp hj
    have hc : (s.attaches.leases[j]).connectionId = c := by simpa using hc
    have hstep : s.attaches.step (.drop j) =
        some ⟨s.attaches.registry.dropLease s.attaches.leases[j],
          s.attaches.leases.eraseIdx j⟩ := by
      simp [Attaches.step, List.getElem?_eq_getElem hlt]
    rw [hstep]
    have hperm := List.getElem_cons_eraseIdx_perm hlt
    have hne := (hperm.map (·.connectionId)).nodup_iff.mpr hnodup
    rw [List.map_cons, List.nodup_cons, hc] at hne
    constructor
    · rintro ⟨l, hl, rfl, rfl⟩
      refine ⟨⟨l, List.mem_of_mem_eraseIdx hl, rfl, rfl⟩, fun he => hne.1 ?_⟩
      exact he ▸ List.mem_map_of_mem hl
    · rintro ⟨⟨l, hl, rfl, rfl⟩, hk⟩
      rcases List.mem_cons.mp (hperm.mem_iff.mpr hl) with rfl | hl
      · exact absurd hc hk
      · exact ⟨l, hl, rfl, rfl⟩

/-- Giving a lease back is a step of the attach registry. -/
theorem attaches_release : (s.release c).attaches = s.attaches ∨
    ∃ j, s.attaches.step (.drop j) = some (s.release c).attaches := by
  unfold System.release
  split
  · exact Or.inl rfl
  · rename_i j hj
    split
    · exact Or.inl rfl
    · rename_i attaches ha
      exact Or.inr ⟨j, ha⟩

theorem release_eq : ∃ attaches, s.release c = { s with attaches } := by
  unfold System.release
  split
  · exact ⟨s.attaches, rfl⟩
  · split
    · exact ⟨s.attaches, rfl⟩
    · exact ⟨_, rfl⟩

end

/-! ### Each registry by itself -/

section
variable {i : ℕ} {r : RelayTask} {stage : Stage} {s₁ : System}

theorem control_move (hm : Mirrors (·.owns Phase.isRouted fun a => (a.id, a.readOnly)) s.relays
      s.routes) (hap : Apart RelayTask.connectionId s.relays) (hr : s.relays[i]? = some r)
    (hmoves : Moves s i r a r.stage stage s₁) :
    Mirrors (·.owns Phase.isRouted fun a => (a.id, a.readOnly)) (s₁.move i r stage).relays
      (s₁.move i r stage).routes := by
  obtain ⟨attach, old⟩ := r
  dsimp only at hmoves
  cases hmoves with
  | entered c =>
    exact hm.put hr rfl rfl fun k e => routes_enter fun e =>
      hm.vacant hap connectionId_of_owns hr rfl rfl
  | left c => exact hm.take hap connectionId_of_owns hr rfl rfl fun k e => routes_leave
  | released c =>
    obtain ⟨attaches, he⟩ := @release_eq s c
    rw [he]
    exact hm.still hr rfl
  | _ => exact hm.still hr rfl

theorem views_move (hm : Mirrors (·.owns Phase.isViewed (·.id)) s.relays s.shows)
    (hap : Apart RelayTask.connectionId s.relays) (hr : s.relays[i]? = some r)
    (hmoves : Moves s i r a r.stage stage s₁) :
    Mirrors (·.owns Phase.isViewed (·.id)) (s₁.move i r stage).relays
      (s₁.move i r stage).shows := by
  obtain ⟨attach, old⟩ := r
  dsimp only at hmoves
  cases hmoves with
  | viewed c state =>
    exact hm.put hr rfl rfl fun k id => shows_setView_some fun id =>
      hm.vacant hap connectionId_of_owns hr rfl rfl
  | unviewed c => exact hm.take hap connectionId_of_owns hr rfl rfl fun k id => shows_setView_none
  | released c =>
    obtain ⟨attaches, he⟩ := @release_eq s c
    rw [he]
    exact hm.still hr rfl
  | _ => exact hm.still hr rfl

theorem counts_count {f : ℕ → ℕ} {kind : BackendKind} {bare : String} :
    (s.count r f).clients (makeId kind bare) =
      if r.attach.kind = kind ∧ r.attach.bare = bare then f (s.clients (makeId kind bare))
      else s.clients (makeId kind bare) := by
  unfold System.count
  by_cases h : r.attach.kind = kind ∧ r.attach.bare = bare
  · rw [if_pos h, ← h.1, ← h.2]
    exact Function.update_self _ _ _
  · rw [if_neg h]
    exact Function.update_of_ne (fun he => h (makeId_inj.mp he.symm)) _ _

/-- A relay that stays counted, or uncounted, leaves the count. -/
theorem countP_still {r' : RelayTask} (hr : s.relays[i]? = some r) (kind : BackendKind)
    (bare : String) (hp : r'.counts kind bare = r.counts kind bare) :
    (s.relays.set i r').countP (·.counts kind bare) = s.relays.countP (·.counts kind bare) := by
  obtain ⟨hi, he⟩ := List.getElem?_eq_some_iff.mp hr
  rw [List.countP_set hi, he, hp]
  split_ifs with hin
  · have hpos : 0 < s.relays.countP (·.counts kind bare) :=
      List.countP_pos_iff.mpr ⟨r, List.mem_of_getElem? hr, hin⟩
    omega
  · rfl

theorem clients_move (hc : ∀ kind bare, s.clients (makeId kind bare) =
      s.relays.countP (·.counts kind bare)) (hr : s.relays[i]? = some r)
    (hmoves : Moves s i r a r.stage stage s₁) (kind : BackendKind) (bare : String) :
    (s₁.move i r stage).clients (makeId kind bare) =
      (s₁.move i r stage).relays.countP (·.counts kind bare) := by
  obtain ⟨hi, he⟩ := List.getElem?_eq_some_iff.mp hr
  obtain ⟨attach, old⟩ := r
  dsimp only at hmoves
  cases hmoves with
  | opened c =>
    have hcount : (s.count ⟨attach, .opening⟩ (· + 1)).clients (makeId kind bare) = _ :=
      counts_count
    refine hcount.trans (Eq.trans ?_ (List.countP_set hi).symm)
    rw [he, hc]
    by_cases hk : attach.kind = kind ∧ attach.bare = bare
    · simp [RelayTask.counts, hk]
    · simp [RelayTask.counts, hk]
  | forgotten c =>
    have hcount : (s.count ⟨attach, .attached c .joined⟩ (· - 1)).clients (makeId kind bare) = _ :=
      counts_count
    refine hcount.trans (Eq.trans ?_ (List.countP_set hi).symm)
    rw [he, hc]
    by_cases hk : attach.kind = kind ∧ attach.bare = bare
    · simp [RelayTask.counts, hk]
    · simp [RelayTask.counts, hk]
  | released c =>
    obtain ⟨attaches, heq⟩ := @release_eq s c
    rw [heq]
    refine (hc kind bare).trans (countP_still hr kind bare ?_).symm
    rfl
  | _ =>
    refine (hc kind bare).trans (countP_still hr kind bare ?_).symm
    rfl

theorem leases_move (hm : Mirrors (·.owns Phase.isLeased (·.key)) s.relays s.leases)
    (hnodup : (s.attaches.leases.map (·.connectionId)).Nodup)
    (hap : Apart RelayTask.connectionId s.relays) (hr : s.relays[i]? = some r)
    (hmoves : Moves s i r a r.stage stage s₁) :
    Mirrors (·.owns Phase.isLeased (·.key)) (s₁.move i r stage).relays
      (s₁.move i r stage).leases := by
  obtain ⟨attach, old⟩ := r
  dsimp only at hmoves
  cases hmoves with
  | registered c => exact hm.put hr rfl rfl fun k key => leases_register
  | released c =>
    have htake : Mirrors (·.owns Phase.isLeased (·.key))
        (s.relays.set i ⟨attach, .attached c .released⟩) (s.release c).leases :=
      hm.take hap connectionId_of_owns hr rfl rfl fun k key => leases_release hnodup
    obtain ⟨attaches, he⟩ := @release_eq s c
    rw [he] at htake ⊢
    exact htake
  | _ => exact hm.still hr rfl

theorem apart_move (hap : Apart RelayTask.connectionId s.relays)
    (hminted : ∀ r ∈ s.relays, ∀ c, r.connectionId = some c → c ∈ as.filterMap Act.minted)
    (hids : ((as ++ [a]).filterMap Act.minted).Nodup) (hr : s.relays[i]? = some r)
    (hmoves : Moves s i r a r.stage stage s₁) :
    Apart RelayTask.connectionId (s₁.move i r stage).relays := by
  obtain ⟨attach, old⟩ := r
  dsimp only at hmoves
  cases hmoves with
  | opened c =>
    refine hap.set hr fun k hk => Or.inr fun j u hu hc => ?_
    obtain rfl := Option.some.inj hk
    -- the id has just been minted
    have hin := hminted u (List.mem_of_getElem? hu) c hc
    rw [List.filterMap_append, List.nodup_append] at hids
    exact hids.2.2 c hin c (by simp [Act.minted]) rfl
  | released c =>
    obtain ⟨attaches, he⟩ := @release_eq s c
    rw [he]
    exact hap.set hr fun k hk => Or.inl hk
  | refused => exact hap.set hr fun k hk => by cases hk
  | forgotten c => exact hap.set hr fun k hk => by cases hk
  | _ => exact hap.set hr fun k hk => Or.inl hk

/-- A step of one relay is one of the attach registry, or none. -/
theorem attaches_move (hmoves : Moves s i r a r.stage stage s₁) :
    (s₁.move i r stage).attaches = s.attaches ∨
      (∃ c, a = .go i ∧ r.stage = .attached c .routed ∧ stage = .attached c .running ∧
        s.attaches.step (.register r.attach.key c r.attach.arrival) =
          some (s₁.move i r stage).attaches) ∨
      ∃ j, s.attaches.step (.drop j) = some (s₁.move i r stage).attaches := by
  obtain ⟨attach, old⟩ := r
  dsimp only at hmoves
  cases hmoves with
  | registered c => exact Or.inr (Or.inl ⟨c, rfl, rfl, rfl, rfl⟩)
  | released c =>
    rcases @attaches_release s c with he | ⟨j, hj⟩
    · exact Or.inl he
    · exact Or.inr (Or.inr ⟨j, hj⟩)
  | _ => exact Or.inl rfl

/-- A relay's id is its own, or has just been minted. -/
theorem minted_move {c : String} (hmoves : Moves s i r a r.stage stage s₁)
    (hc : (⟨r.attach, stage⟩ : RelayTask).connectionId = some c) :
    r.connectionId = some c ∨ a.minted = some c := by
  obtain ⟨attach, old⟩ := r
  dsimp only at hmoves hc
  cases hmoves with
  | opened c' => exact Or.inr hc
  | refused => cases hc
  | forgotten c' => cases hc
  | _ => exact Or.inl hc

/-- A relay whose lease is still to come has only just got its id, or it was so before. -/
theorem early_move {c : String} {phase : Phase} (hmoves : Moves s i r a r.stage stage s₁)
    (hs : stage = .attached c phase) (he : phase.isEarly = true) :
    (∃ phase', r.stage = .attached c phase' ∧ phase'.isEarly = true) ∨ a.minted = some c := by
  obtain ⟨attach, old⟩ := r
  dsimp only at hmoves ⊢
  cases hmoves with
  | opened c' =>
    cases hs
    exact Or.inr rfl
  | viewed c' state =>
    cases hs
    exact Or.inl ⟨.seeding, rfl, rfl⟩
  | entered c' =>
    cases hs
    exact Or.inl ⟨.viewed, rfl, rfl⟩
  | refused => cases hs
  | forgotten c' => cases hs
  | _ =>
    cases hs
    cases he

theorem relays_move (hmoves : Moves s i r a r.stage stage s₁) :
    (s₁.move i r stage).relays = s.relays.set i ⟨r.attach, stage⟩ := by
  obtain ⟨attach, old⟩ := r
  dsimp only at hmoves
  cases hmoves with
  | released c =>
    obtain ⟨attaches, he⟩ := @release_eq s c
    rw [he]
    rfl
  | _ => rfl

end

/-! ### The whole run -/

theorem mem_minted_concat {c : String} (h : c ∈ as.filterMap Act.minted) :
    c ∈ (as ++ [a]).filterMap Act.minted := by
  rw [List.filterMap_append]
  exact List.mem_append_left _ h

/-- An id is minted once. -/
theorem not_minted_again (hids : ((as ++ [a]).filterMap Act.minted).Nodup) {c : String}
    (h : c ∈ as.filterMap Act.minted) : a.minted ≠ some c := by
  intro hnew
  rw [List.filterMap_append, List.nodup_append] at hids
  exact hids.2.2 c h c (by simp [hnew]) rfl

theorem Registers.concat {key : Option AttachKey} {c : String} {n : ℕ}
    (h : Registers srv as key c n) : Registers srv (as ++ [a]) key c n := by
  obtain ⟨pre, i, post, s, attach, rfl, hrest⟩ := h
  exact ⟨pre, i, post ++ [a], s, attach, by simp, hrest⟩

theorem mem_connectionIds {acts : List Attach.Act} {c : String} :
    c ∈ acts.filterMap Attach.Act.connectionId ↔ ∃ key n, .register key c n ∈ acts := by
  rw [List.mem_filterMap]
  constructor
  · rintro ⟨act, hin, hc⟩
    cases act with
    | register key c' n =>
      cases hc
      exact ⟨key, n, hin⟩
    | drop i => cases hc
  · rintro ⟨key, n, hin⟩
    exact ⟨_, hin, rfl⟩

theorem Inv.leases_nodup (h : Inv srv as s) :
    (s.attaches.leases.map (·.connectionId)).Nodup := by
  obtain ⟨acts, hrun, hnodup, -⟩ := h.registered
  exact hnodup.sublist (inv_run hrun hnodup).ids

theorem inv_init : Inv srv [] System.init where
  clients _ _ := rfl
  control k e := by simp [System.init, System.routes, ControlRegistry.get_empty]
  views k id := by simp [System.init, System.shows]
  leases k key := by simp [System.init, System.leases, Attaches.init]
  apart i j r r' k h := by simp [System.init] at h
  minted r hr := by simp [System.init] at hr
  registered := ⟨[], .nil _, by simp, by simp⟩

/-- A registration of before, as one relay moves. -/
theorem Registered.move {key : Option AttachKey} {c : String} {n : ℕ}
    (h : Registered srv as s key c n) (hids : ((as ++ [a]).filterMap Act.minted).Nodup) {i : ℕ}
    {r : RelayTask} {stage : Stage} {s₁ : System} (hr : s.relays[i]? = some r)
    (hmoves : Moves s i r a r.stage stage s₁) :
    Registered srv (as ++ [a]) (s₁.move i r stage) key c n := by
  refine ⟨h.registers.concat, mem_minted_concat h.minted, fun r' hr' hc => ?_⟩
  rw [relays_move hmoves] at hr'
  rcases List.mem_or_eq_of_mem_set hr' with hr' | rfl
  · exact h.past r' hr' hc
  rcases minted_move hmoves hc with hold | hnew
  · obtain ⟨harrival, hlate⟩ := h.past r (List.mem_of_getElem? hr) hold
    refine ⟨harrival, fun phase hs => ?_⟩
    by_contra he
    rcases early_move hmoves hs (Bool.eq_true_of_not_eq_false he) with ⟨phase', hs', he'⟩ | hnew
    · rw [hlate phase' hs'] at he'
      cases he'
    · exact not_minted_again hids h.minted hnew
  · exact absurd hnew (not_minted_again hids h.minted)

/-- The attach registry, as one relay moves. -/
theorem registered_move (hrun : Runs srv as s) (h : Inv srv as s)
    (hids : ((as ++ [a]).filterMap Act.minted).Nodup) {i : ℕ} {r : RelayTask} {stage : Stage}
    {s₁ : System} (hr : s.relays[i]? = some r) (hmoves : Moves s i r a r.stage stage s₁) :
    ∃ acts, Run (ofFn Attaches.step) Attaches.init acts (s₁.move i r stage).attaches ∧
      (acts.filterMap Attach.Act.connectionId).Nodup ∧
      ∀ key c n, .register key c n ∈ acts →
        Registered srv (as ++ [a]) (s₁.move i r stage) key c n := by
  obtain ⟨acts, hacts, hnodup, hregistered⟩ := h.registered
  -- what was registered before is as it was
  have hold : ∀ key c n, .register key c n ∈ acts →
      Registered srv (as ++ [a]) (s₁.move i r stage) key c n :=
    fun key c n hin => (hregistered key c n hin).move hids hr hmoves
  rcases attaches_move hmoves with he | ⟨c, rfl, hs, rfl, hstep⟩ | ⟨j, hstep⟩
  · rw [he]
    exact ⟨acts, hacts, hnodup, hold⟩
  · obtain ⟨attach, old⟩ := r
    dsimp only at hs hstep
    subst hs
    have hmem := List.mem_of_getElem? hr
    have hminted := h.minted _ hmem c rfl
    have hfresh : c ∉ acts.filterMap Attach.Act.connectionId := by
      intro hin
      obtain ⟨key, n, hin⟩ := mem_connectionIds.mp hin
      have hlate := ((hregistered key c n hin).past _ hmem rfl).2 .routed rfl
      cases hlate
    have hreg : ofFn Attaches.step s.attaches (.register attach.key c attach.arrival) _ := hstep
    refine ⟨_, hacts.concat hreg, ?_, ?_⟩
    · rw [List.filterMap_append]
      refine List.nodup_append.mpr ⟨hnodup, by simp [Attach.Act.connectionId], ?_⟩
      rintro c' hc' _ hin rfl
      obtain rfl : c' = c := by simpa [Attach.Act.connectionId] using hin
      exact hfresh hc'
    · intro key c' n hin
      rcases List.mem_append.mp hin with hin | hin
      · exact hold key c' n hin
      cases List.mem_singleton.mp hin
      refine ⟨⟨as, i, [], s, attach, rfl, hrun, hr, rfl, rfl⟩, mem_minted_concat hminted,
        fun r' hr' hc' => ?_⟩
      rw [relays_move hmoves] at hr'
      obtain ⟨j, hj⟩ := List.mem_iff_getElem?.mp hr'
      rcases (getElem?_set_eq_some hr).mp hj with ⟨-, rfl⟩ | ⟨hne, hj⟩
      · refine ⟨rfl, fun phase hphase => ?_⟩
        cases hphase
        rfl
      · exact absurd (h.apart j i r' _ c hj hr hc' rfl) hne
  · have hsame : (acts ++ [Attach.Act.drop j]).filterMap Attach.Act.connectionId =
        acts.filterMap Attach.Act.connectionId := by
      rw [List.filterMap_append]
      exact List.append_nil _
    have hdrop : ofFn Attaches.step s.attaches (.drop j) _ := hstep
    refine ⟨_, hacts.concat hdrop, hsame ▸ hnodup, fun key c n hin => ?_⟩
    rcases List.mem_append.mp hin with hin | hin
    · exact hold key c n hin
    · cases List.mem_singleton.mp hin

theorem inv_step (hrun : Runs srv as s) (h : Inv srv as s)
    (hids : ((as ++ [a]).filterMap Act.minted).Nodup) (ht : s.step srv a = some t) :
    Inv srv (as ++ [a]) t := by
  have hminted : ∀ r ∈ s.relays, ∀ c, r.connectionId = some c →
      c ∈ (as ++ [a]).filterMap Act.minted := fun r hr c hc => mem_minted_concat (h.minted r hr c hc)
  obtain ⟨acts, hacts, hnodup, hregistered⟩ := h.registered
  obtain rfl | ⟨attach, -, rfl⟩ | ⟨c, state, -, rfl⟩ | ⟨i, r, stage, s₁, hr, hmoves, rfl⟩ :=
    step_cases ht
  · refine ⟨h.toExact, h.apart, hminted, acts, hacts, hnodup, fun key c n hin => ?_⟩
    obtain ⟨hreg, hm, hpast⟩ := hregistered key c n hin
    exact ⟨hreg.concat, mem_minted_concat hm, hpast⟩
  · -- a new attach owns nothing yet
    refine ⟨⟨fun kind bare => ?_, h.control.concat rfl, h.views.concat rfl, h.leases.concat rfl⟩,
      h.apart.concat rfl, fun r hr c hc => ?_, acts, hacts, hnodup, fun key c n hin => ?_⟩
    · refine (h.clients kind bare).trans (Eq.symm ?_)
      rw [List.countP_append]
      rfl
    · rcases List.mem_append.mp hr with hr | hr
      · exact hminted r hr c hc
      · obtain rfl := List.mem_singleton.mp hr
        cases hc
    · obtain ⟨hreg, hm, hpast⟩ := hregistered key c n hin
      refine ⟨hreg.concat, mem_minted_concat hm, fun r hr hc => ?_⟩
      rcases List.mem_append.mp hr with hr | hr
      · exact hpast r hr hc
      · obtain rfl := List.mem_singleton.mp hr
        cases hc
  · refine ⟨⟨h.clients, h.control, fun k id => shows_track.trans (h.views k id), h.leases⟩,
      h.apart, hminted, acts, hacts, hnodup, fun key c n hin => ?_⟩
    obtain ⟨hreg, hm, hpast⟩ := hregistered key c n hin
    exact ⟨hreg.concat, mem_minted_concat hm, hpast⟩
  · refine ⟨⟨clients_move h.clients hr hmoves, control_move h.control h.apart hr hmoves,
      views_move h.views h.apart hr hmoves,
      leases_move h.leases h.leases_nodup h.apart hr hmoves⟩,
      apart_move h.apart h.minted hids hr hmoves, ?_, registered_move hrun h hids hr hmoves⟩
    intro r' hr' c hc
    rw [relays_move hmoves] at hr'
    rcases List.mem_or_eq_of_mem_set hr' with hr' | rfl
    · exact hminted r' hr' c hc
    · rcases minted_move hmoves hc with hold | hnew
      · exact hminted r (List.mem_of_getElem? hr) c hold
      · rw [List.filterMap_append, List.mem_append]
        exact Or.inr (by simp [hnew])

theorem inv_run_relays (h : Runs srv as s) (hids : (as.filterMap Act.minted).Nodup) :
    Inv srv as s := by
  have hstep : ∀ (pre : List Act) (s : System) (a : Act) (t : System),
      Runs srv pre s → ((pre.filterMap Act.minted).Nodup → Inv srv pre s) →
      ofFn (fun s => s.step srv) s a t → ((pre ++ [a]).filterMap Act.minted).Nodup →
      Inv srv (pre ++ [a]) t := by
    intro pre s a t hr hI ht hn
    have hpre : (pre.filterMap Act.minted).Nodup := by
      rw [List.filterMap_append] at hn
      exact hn.of_append_left
    exact inv_step hr (hI hpre) hn ht
  exact h.history hstep (fun _ => inv_init) hids

/-! ### One relay, and one that takes its place -/

theorem step_receive {readOnly : Bool} {token : Option String} {arrival : ℕ}
    {first : Option (Except String (Option FrameKind))} {attach : Attach}
    (h : attachOf srv readOnly token arrival first = .ok attach) :
    s.step srv (.receive readOnly token arrival first) =
      some { s with relays := s.relays ++ [⟨attach, .opening⟩] } := by
  simp [System.step, h]

/-- A server of one backend. -/
def oneBackend : Server where
  sha256 := id
  env := ⟨fun _ => .ok (), id⟩
  backends := ⟨[(.zellij, ())], List.cons_ne_nil _ _⟩

/-- The frame by which a tab of a client attaches to a session. -/
def mainFrame : Option (Except String (Option FrameKind)) :=
  some (.ok (some (.attach ⟨makeId .zellij "main", 24, 80, "tab", "", 0, 0⟩)))

def mainAttach (arrival : ℕ) : Attach :=
  ⟨makeId .zellij "main", .zellij, "main", false,
    some ⟨TokenIdentity.of id "token", "tab"⟩, arrival, 24, 80, ⟨none, none, none⟩⟩

theorem attachOf_main (arrival : ℕ) :
    attachOf oneBackend false (some "token") arrival mainFrame = .ok (mainAttach arrival) := by
  have hres : resolveSessionKind oneBackend.env oneBackend.backends (makeId .zellij "main") =
      .ok (.zellij, (), "main") := resolve_makeId rfl (by decide +kernel)
  simp only [attachOf, firstAttach, mainFrame, bind, Except.bind, hres]
  rfl

/-- An attach of the tab, from its request to its loop. -/
def setUp (i : ℕ) (connectionId : String) : List Act :=
  [.receive false (some "token") i mainFrame, .opened i connectionId, .view i ⟨none, none, none⟩,
    .go i, .go i]

/-- Its end. -/
def tearDown (i : ℕ) : List Act := List.replicate 6 (.go i)

/-! ### What the other parts rely on -/

theorem shows_of_routes (h : Exact s) {c : String} {e : ControlEntry}
    (he : s.control.get c = some e) : s.shows c e.session := by
  obtain ⟨i, ⟨attach, stage⟩, hr, ho⟩ := (h.control c (e.session, e.readOnly)).mp ⟨e, he, rfl⟩
  rcases stage with - | ⟨c', phase⟩ | -
  · cases ho
  · dsimp only at ho
    rw [owns_attached] at ho
    split_ifs at ho with hp
    obtain ⟨rfl, hsession⟩ := Prod.mk.inj (Option.some.inj ho)
    have hviewed : phase.isViewed = true := by
      revert hp
      cases phase <;> decide
    refine (h.views c' e.session).mpr ⟨i, _, hr, ?_⟩
    dsimp only
    rw [owns_attached, if_pos hviewed, (Prod.mk.inj hsession).1]
  · cases ho

/-- **At every moment, whatever the order of the steps**, each session's clients are counted
exactly, the registries hold the entries of the relays that have entered them and not yet left, and
a relay that commands can be routed to has its view state there too. -/
theorem exact_run (h : Runs srv as s) (hids : (as.filterMap Act.minted).Nodup) :
    Exact s ∧ ∀ c e, s.control.get c = some e →
      ∃ entry, s.views c = some entry ∧ entry.session = e.session :=
  have hI := inv_run_relays h hids
  ⟨hI.toExact, fun _ _ he => shows_of_routes hI.toExact he⟩

theorem exact_setUp : ∃ s, Runs oneBackend (setUp 0 "a") s ∧ Exact s ∧
    ∃ entry, s.views "a" = some entry ∧ entry.session = makeId .zellij "main" := by
  obtain ⟨s, hrun, hr⟩ : ∃ s, Runs oneBackend (setUp 0 "a") s ∧
      s.relays[0]? = some ⟨mainAttach 0, .attached "a" .running⟩ :=
    ⟨_, .cons (step_receive (attachOf_main 0)) (.cons rfl (.cons rfl (.cons rfl (.cons rfl
      (.nil _))))), rfl⟩
  obtain ⟨hexact, hshown⟩ := exact_run hrun (by decide)
  obtain ⟨e, he, hsession⟩ :=
    (hexact.control "a" (makeId .zellij "main", false)).mpr ⟨0, _, hr, rfl⟩
  rw [← (Prod.mk.inj hsession).1]
  exact ⟨s, hrun, hexact, hshown "a" e he⟩

/-- **A relay that is gone leaves nothing behind**: when all are, no client is counted, no channel,
view or lease is left, and no instance is held. -/
theorem nothing_left (h : Runs srv as s) (hids : (as.filterMap Act.minted).Nodup)
    (hgone : ∀ r ∈ s.relays, r.stage = .gone) :
    (∀ kind bare, s.clients (makeId kind bare) = 0) ∧ (∀ c, s.control.get c = none) ∧
      (∀ c, s.views c = none) ∧ s.attaches.leases = [] ∧
      ∀ key, s.attaches.registry.holder key = none := by
  have hI := inv_run_relays h hids
  -- no relay owns anything
  have hnone : ∀ {α : Type} {p : Phase → Bool} {f : Attach → α} {k : String} {a : α},
      ¬ ∃ (i : ℕ) (r : RelayTask), s.relays[i]? = some r ∧ r.owns p f = some (k, a) := by
    rintro α p f k a ⟨i, ⟨attach, stage⟩, hr, ho⟩
    obtain rfl : stage = .gone := hgone _ (List.mem_of_getElem? hr)
    cases ho
  have hleases : s.attaches.leases = [] := by
    refine List.eq_nil_iff_forall_not_mem.mpr fun l hl => ?_
    exact hnone ((hI.leases l.connectionId l.key).mp ⟨l, hl, rfl, rfl⟩)
  refine ⟨fun kind bare => ?_, fun c => ?_, fun c => ?_, hleases, fun key => ?_⟩
  · rw [hI.clients, List.countP_eq_zero]
    rintro ⟨attach, stage⟩ hr
    obtain rfl : stage = .gone := hgone _ hr
    simp [RelayTask.counts]
  · by_contra hc
    obtain ⟨e, he⟩ := Option.ne_none_iff_exists'.mp hc
    exact hnone ((hI.control c (e.session, e.readOnly)).mp ⟨e, he, rfl⟩)
  · by_contra hc
    obtain ⟨entry, he⟩ := Option.ne_none_iff_exists'.mp hc
    exact hnone ((hI.views c entry.session).mp ⟨entry, he, rfl⟩)
  · obtain ⟨acts, hrun, hnodup, -⟩ := hI.registered
    refine holder_eq_none.mpr ?_
    by_contra hc
    obtain ⟨o, ho⟩ := Option.ne_none_iff_exists'.mp hc
    have hmem := ((inv_run hrun hnodup).slot key o ho).1
    rw [hleases] at hmem
    cases hmem

theorem nothing_left_tearDown : ∃ s, Runs oneBackend (setUp 0 "a" ++ tearDown 0) s ∧
    s.clients (makeId .zellij "main") = 0 := by
  obtain ⟨s, hrun, he⟩ : ∃ s, Runs oneBackend (setUp 0 "a" ++ tearDown 0) s ∧
      s.relays = [⟨mainAttach 0, .gone⟩] :=
    ⟨_, .cons (step_receive (attachOf_main 0)) (.cons rfl (.cons rfl (.cons rfl (.cons rfl
      (.cons rfl (.cons rfl (.cons rfl (.cons rfl (.cons rfl (.cons rfl (.nil _))))))))))), rfl⟩
  refine ⟨s, hrun, (nothing_left hrun (by decide) ?_).1 .zellij "main"⟩
  rw [he]
  simp

/-! ### Eviction -/

/-- The relay's lease has been evicted. -/
def System.evicted (s : System) (c : String) : Bool :=
  s.attaches.leases.any fun l => l.connectionId = c && s.attaches.registry.isEvicted l

/-- **An instance has one relay, and only a newer one that is all set up takes its place**: of the
relays that hold a lease of a key, the one that is not evicted is the registry's holder; and one
that is evicted was so by another of the same key, which was not received earlier, and which had
been attached to, and entered in the registries of views and channels. -/
theorem one_per_instance (h : Runs srv as s) (hids : (as.filterMap Act.minted).Nodup) {i : ℕ}
    {attach : Attach} {c : String} {phase : Phase} {key : AttachKey}
    (hr : s.relays[i]? = some ⟨attach, .attached c phase⟩) (hp : phase.isLeased = true)
    (hkey : attach.key = some key) :
    (s.evicted c = false ↔ s.attaches.registry.holder key = some c) ∧
      (s.evicted c = true → ∃ c' arrival, c' ≠ c ∧ attach.arrival ≤ arrival ∧
        Registers srv as (some key) c' arrival) := by
  have hI := inv_run_relays h hids
  obtain ⟨acts, hacts, hnodup, hregistered⟩ := hI.registered
  have hown : RelayTask.owns ⟨attach, .attached c phase⟩ Phase.isLeased (·.key) =
      some (c, some key) := by
    rw [owns_attached, if_pos hp, hkey]
  obtain ⟨l, hl, rfl, hlk⟩ := (hI.leases c (some key)).mpr ⟨i, _, hr, hown⟩
  -- there is no other lease of this connection
  have hevicted : s.evicted l.connectionId = s.attaches.registry.isEvicted l := by
    have honly : ∀ l' ∈ s.attaches.leases, l'.connectionId = l.connectionId → l' = l :=
      fun l' hl' he => List.inj_on_of_nodup_map hI.leases_nodup hl' hl he
    rw [Bool.eq_iff_iff, System.evicted, List.any_eq_true]
    constructor
    · rintro ⟨l', hl', he⟩
      simp only [Bool.and_eq_true, decide_eq_true_eq] at he
      obtain rfl := honly l' hl' he.1
      exact he.2
    · intro he
      exact ⟨l, hl, by simp [he]⟩
  rw [hevicted]
  have hAI := inv_run hacts hnodup
  refine ⟨⟨fun he => ?_, fun hholder => ?_⟩, fun he => ?_⟩
  · obtain ⟨g, hg, -, hslot⟩ := hAI.lease l hl key hlk
    rw [AttachRegistry.isEvicted, hg] at he
    obtain ⟨n, hn⟩ := hslot he
    exact holder_eq_some.mpr ⟨_, hn, rfl⟩
  · obtain ⟨o, ho, hc⟩ := holder_eq_some.mp hholder
    obtain ⟨hmem, hf⟩ := hAI.slot key o ho
    obtain rfl := List.inj_on_of_nodup_map hI.leases_nodup hmem hl hc
    exact hf
  · obtain ⟨n, c', n', hreg, hreg', hne, hle⟩ := (caused_run hacts hnodup).evicted l hl he
    have harrival := (hregistered _ _ _ hreg).past _ (List.mem_of_getElem? hr) rfl
    refine ⟨c', n', hne, harrival.1.trans_le hle, ?_⟩
    rw [← hlk]
    exact (hregistered _ _ _ hreg').registers

theorem one_per_instance_takeover : ∃ s, Runs oneBackend (setUp 0 "a" ++ setUp 1 "b") s ∧
    ∃ c' arrival, c' ≠ "a" ∧ 0 ≤ arrival ∧
      Registers oneBackend (setUp 0 "a" ++ setUp 1 "b") (mainAttach 0).key c' arrival := by
  obtain ⟨s, hrun, hr, he⟩ : ∃ s, Runs oneBackend (setUp 0 "a" ++ setUp 1 "b") s ∧
      s.relays[0]? = some ⟨mainAttach 0, .attached "a" .running⟩ ∧ s.evicted "a" = true :=
    ⟨_, .cons (step_receive (attachOf_main 0)) (.cons rfl (.cons rfl (.cons rfl (.cons rfl
      (.cons (step_receive (attachOf_main 1)) (.cons rfl (.cons rfl (.cons rfl (.cons rfl
        (.nil _)))))))))), rfl, by decide +kernel⟩
  exact ⟨s, hrun, (one_per_instance hrun (by decide) hr rfl rfl).2 he⟩

end MuxrCore.Relay.Lifecycle
