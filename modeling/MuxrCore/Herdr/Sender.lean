import MuxrCore.Herdr.Registry
import MuxrCore.Herdr.Swap
import MuxrCore.Multiplexer.Layout

/-! # The terminal and the space of a herdr connection

A relay's herdr connection shows one terminal at a time, and its layout is the layout of one
workspace. Attaching picks a pane by a ladder of hints; afterwards `goToTab`, `focusPane` and
`switchSpace` re-attach the connection to another terminal. Each resolves its target in its own way:
in the tab of the recorded workspace, in the pane registry, which all workspaces share, and in the
workspace it is given.

`Renders` says that after a re-attach that succeeded the terminal belongs to the recorded workspace.
Attaching, `goToTab` and `switchSpace` see to it (`renders_step`), whatever fails on the way;
`focusPane` leaves the workspace as it is, so it holds as long as the panes focused belong to it
(`renders_iff`). -/

namespace MuxrCore.Herdr.Sender

open MuxrCore.Lib.Runs MuxrCore.Herdr.Registry MuxrCore.Multiplexer.Layout
open MuxrCore.Relay.Control (PaneRef)
open MuxrCore.Herdr.Swap (reconnectAttempts)

/-- A pane as herdr lists it. -/
structure PaneInfo where
  paneId : String
  terminalId : String
  tabId : String
  focused : Bool
  deriving DecidableEq, Repr

/-- What an answer of the control socket may be. -/
abbrev Listing := Except String (List PaneInfo)

inductive SenderError
  | listPanes (workspaceId cause : String)
  | noPanes (workspaceId : String)
  | tabNoPanes (herdrTabId workspaceId : String)
  | unknownTab (tabId : ℕ)
  | unknownPane (paneId : ℕ)
  | discover (cause : String)
  | connect
  /-- the relay's reader is gone, and cannot adopt the new connection -/
  | readerGone
  deriving DecidableEq, Repr

/-! ### Picking a pane -/

/-- The panes registered so far, and the first and the last focused pane among those that count. -/
structure Scan where
  panes : HerdrPaneRegistry
  first : Option (ℕ × String)
  focused : Option (ℕ × String)

/-- Register a pane, and note it if it counts. -/
def Scan.step (counts : PaneInfo → Bool) (acc : Scan) (pane : PaneInfo) : Scan :=
  let (panes, id) := acc.panes.assignOrGet pane.paneId pane.terminalId
  if counts pane then
    { panes
      first := acc.first.or (some (id, pane.terminalId))
      focused := if pane.focused then some (id, pane.terminalId) else acc.focused }
  else { acc with panes }

/-- Register all panes and pick the focused one, or else the first, of those that count. -/
def pick (counts : PaneInfo → Bool) (reg : HerdrPaneRegistry) (panes : List PaneInfo) :
    HerdrPaneRegistry × Option (ℕ × String) :=
  let acc := panes.foldl (Scan.step counts) ⟨reg, none, none⟩
  (acc.panes, acc.focused.or acc.first)

/-- The workspace's focused pane, or else its first. -/
def resolveFocusedTerminal (reg : HerdrPaneRegistry) (workspaceId : String) (listing : Listing) :
    HerdrPaneRegistry × Except SenderError (ℕ × String) :=
  match listing with
  | .error cause => (reg, .error (.listPanes workspaceId cause))
  | .ok panes =>
    let (reg, picked) := pick (fun _ => true) reg panes
    (reg, picked.elim (.error (.noPanes workspaceId)) .ok)

/-- The tab's focused pane, or else its first; all panes of the workspace are registered. -/
def pickTabPane (panes : List PaneInfo) (reg : HerdrPaneRegistry)
    (workspaceId herdrTabId : String) : HerdrPaneRegistry × Except SenderError (ℕ × String) :=
  let (reg, picked) := pick (fun pane => pane.tabId = herdrTabId) reg panes
  (reg, picked.elim (.error (.tabNoPanes herdrTabId workspaceId)) .ok)

def resolveTabFocusedPane (reg : HerdrPaneRegistry) (workspaceId herdrTabId : String)
    (listing : Listing) : HerdrPaneRegistry × Except SenderError (ℕ × String) :=
  match listing with
  | .error cause => (reg, .error (.listPanes workspaceId cause))
  | .ok panes => pickTabPane panes reg workspaceId herdrTabId

/-- The last focused pane, or else the first. -/
def focusedOrFirst (panes : List PaneInfo) : Option PaneInfo :=
  let acc := panes.foldl
    (fun acc pane => (acc.1.or (some pane), if pane.focused then some pane else acc.2)) (none, none)
  acc.2.or acc.1

/-! ### The attach ladder -/

/-- The pane an attach lands on. -/
structure AttachTarget where
  workspaceId : String
  tabId : ℕ
  paneId : ℕ
  terminalId : String
  deriving DecidableEq, Repr

/-- The shared registries. -/
structure Registries where
  panes : HerdrPaneRegistry
  tabs : HerdrTabRegistry

/-- The hinted pane if it is in the hinted tab, or else a pane of the hinted tab, or else one of the
workspace. -/
def choosePane (panes : List PaneInfo) (hintPane hintTab : Option String) : Option PaneInfo :=
  let corroborated := hintPane.bind fun hp => hintTab.bind fun ht =>
    panes.find? fun p => p.paneId = hp && p.tabId = ht
  (corroborated.or
    (hintTab.bind fun ht => focusedOrFirst (panes.filter fun p => p.tabId = ht))).or
    (focusedOrFirst panes)

/-- The hint's pane within one workspace; all its panes are registered. -/
def pickResumePane (panes : List PaneInfo) (reg : Registries) (workspaceId : String)
    (hintPane hintTab : Option String) : Registries × Except SenderError AttachTarget :=
  let paneReg := panes.foldl (fun r p => (r.assignOrGet p.paneId p.terminalId).1) reg.panes
  match choosePane panes hintPane hintTab with
  | none => (⟨paneReg, reg.tabs⟩, .error (.noPanes workspaceId))
  | some chosen =>
    let (tabs, tabId) := reg.tabs.assignOrGet chosen.tabId
    let (paneReg, paneId) := paneReg.assignOrGet chosen.paneId chosen.terminalId
    (⟨paneReg, tabs⟩, .ok ⟨workspaceId, tabId, paneId, chosen.terminalId⟩)

/-- The herdr ids of the numbers in a hint. -/
def hintIds (reg : Registries) (resume : ResumeTarget) : Option String × Option String :=
  (resume.paneId.bind reg.panes.herdrPaneId, resume.tabId.bind reg.tabs.herdrTabId)

/-- The hint within one workspace, which is listed first. -/
def resolveIn (listPanes : String → Listing) (reg : Registries)
    (hintPane hintTab : Option String) (workspaceId : String) :
    Registries × Except SenderError AttachTarget :=
  match listPanes workspaceId with
  | .error cause => (reg, .error (.listPanes workspaceId cause))
  | .ok panes => pickResumePane panes reg workspaceId hintPane hintTab

/-- The ladder: the hinted workspace if it is usable, or else the default one. -/
def resolveAttachTarget (listPanes : String → Listing) (reg : Registries)
    (defaultWorkspace : String) (resume : ResumeTarget) :
    Registries × Except SenderError AttachTarget :=
  let (hintPane, hintTab) := hintIds reg resume
  match resume.spaceId.filter (· ≠ defaultWorkspace) with
  | none => resolveIn listPanes reg hintPane hintTab defaultWorkspace
  | some space =>
    match resolveIn listPanes reg hintPane hintTab space with
    | (reg, .ok target) => (reg, .ok target)
    | (reg, .error _) => resolveIn listPanes reg hintPane hintTab defaultWorkspace

def resumedViewFor (resume : ResumeTarget) (target : AttachTarget) : Option ResumedView :=
  if resume.isEmpty then none
  else some ⟨target.workspaceId, target.tabId, ⟨target.paneId, false⟩⟩

/-! ### The sender -/

/-- Writer or viewer. -/
inductive AttachMode
  | control
  | observe
  deriving DecidableEq, Repr

def AttachMode.forReadOnly (readOnly : Bool) : AttachMode := if readOnly then .observe else .control

/-- The sender's record of its connection. -/
structure HerdrMuxSender where
  workspaceId : String
  currentTerminalId : String
  rows : ℕ
  cols : ℕ
  protocol : ℕ
  mode : AttachMode
  deriving DecidableEq, Repr

/-- A connection, the registries it shares with every other one, and whether its last attach or
re-attach succeeded. -/
structure Connection where
  sender : HerdrMuxSender
  registries : Registries
  attached : Bool

/-- Open a connection on the pane the ladder picks. -/
def openAttach (listPanes : String → Listing) (reg : Registries) (defaultWorkspace : String)
    (rows cols : ℕ) (readOnly : Bool) (resume : ResumeTarget) (ping : Except String ℕ)
    (connected : Bool) : Except SenderError (Connection × Option ResumedView) :=
  match resolveAttachTarget listPanes reg defaultWorkspace resume with
  | (_, .error e) => .error e
  | (reg, .ok target) =>
    match ping with
    | .error cause => .error (.discover cause)
    | .ok protocol =>
      if connected then
        .ok (⟨⟨target.workspaceId, target.terminalId, rows, cols, protocol,
          AttachMode.forReadOnly readOnly⟩, reg, true⟩, resumedViewFor resume target)
      else .error .connect

/-- One attempt of a re-attach: the protocol version herdr reports, if it answers, and whether the
connection and its handshake went through. -/
structure Attempt where
  ping : Option ℕ
  connected : Bool
  deriving DecidableEq, Repr

/-- How a re-attach fares. -/
structure Reconnect where
  attempt : ℕ → Attempt
  readerGone : Bool

/-- Some attempt goes through, and there is a reader to adopt the connection. -/
def Reconnect.succeeds (world : Reconnect) : Bool :=
  (List.range reconnectAttempts).any (fun i => (world.attempt i).connected) && !world.readerGone

namespace Connection

variable (c : Connection)

/-- The attempts of a re-attach, until one goes through. -/
def attempts (terminalId : String) (readerGone : Bool) :
    Connection → List Attempt → Connection × Except SenderError Unit
  | c, [] => ({ c with attached := false }, .error .connect)
  | c, a :: rest =>
    let sender := { c.sender with protocol := a.ping.getD c.sender.protocol }
    if a.connected then
      let sender := { sender with currentTerminalId := terminalId }
      if readerGone then ({ c with sender, attached := false }, .error .readerGone)
      else ({ c with sender, attached := true }, .ok ())
    else attempts terminalId readerGone { c with sender } rest

/-- Re-attach to a terminal. -/
def reattach (terminalId : String) (world : Reconnect) : Connection × Except SenderError Unit :=
  attempts terminalId world.readerGone c ((List.range reconnectAttempts).map world.attempt)

/-- Re-attach to a pane of a tab of the recorded workspace. -/
def goToTab (tabId : ℕ) (listing : Listing) (world : Reconnect) :
    Connection × Except SenderError Unit :=
  match c.registries.tabs.herdrTabId tabId with
  | none => (c, .error (.unknownTab tabId))
  | some herdrTab =>
    let (panes, picked) :=
      resolveTabFocusedPane c.registries.panes c.sender.workspaceId herdrTab listing
    let c := { c with registries := { c.registries with panes } }
    match picked with
    | .error e => (c, .error e)
    | .ok (_, terminalId) => c.reattach terminalId world

/-- Re-attach to a pane the registry knows. -/
def focusPane (pane : PaneRef) (world : Reconnect) : Connection × Except SenderError Unit :=
  match c.registries.panes.terminalId pane.id with
  | none => (c, .error (.unknownPane pane.id))
  | some terminalId => c.reattach terminalId world

/-- Re-attach to a pane of a workspace, and record the workspace. -/
def switchSpace (spaceId : String) (listing : Listing) (world : Reconnect) :
    Connection × Except SenderError Unit :=
  let (panes, picked) := resolveFocusedTerminal c.registries.panes spaceId listing
  let c := { c with registries := { c.registries with panes } }
  match picked with
  | .error e => (c, .error e)
  | .ok (_, terminalId) =>
    match c.reattach terminalId world with
    | (c, .error e) => (c, .error e)
    | (c, .ok ()) => ({ c with sender := { c.sender with workspaceId := spaceId } }, .ok ())

/-- The workspace whose layout a layout query of this connection asks for. -/
def layoutSpace : String := c.sender.workspaceId

end Connection

/-! ### What is picked is listed -/

/-- A fold that keeps what every step keeps. -/
theorem foldl_keeps {α β : Type*} {f : β → α → β} {P : β → Prop} {xs : List α} {b : β}
    (hstep : ∀ b, ∀ x ∈ xs, P b → P (f b x)) (hb : P b) : P (xs.foldl f b) := by
  induction xs generalizing b with
  | nil => exact hb
  | cons x xs ih =>
    have hx := hstep b x List.mem_cons_self hb
    exact ih (fun b y hy => hstep b y (List.mem_cons_of_mem _ hy)) hx

theorem pick_mem {counts : PaneInfo → Bool} {reg : HerdrPaneRegistry} {panes : List PaneInfo}
    {id : ℕ} {terminalId : String} (h : (pick counts reg panes).2 = some (id, terminalId)) :
    ∃ pane ∈ panes, counts pane = true ∧ pane.terminalId = terminalId := by
  let Listed : Option (ℕ × String) → Prop := fun found => ∀ id t, found = some (id, t) →
    ∃ pane ∈ panes, counts pane = true ∧ pane.terminalId = t
  have hstep : ∀ acc : Scan, ∀ pane ∈ panes, Listed acc.first ∧ Listed acc.focused →
      Listed (Scan.step counts acc pane).first ∧ Listed (Scan.step counts acc pane).focused := by
    rintro acc pane hmem ⟨hfirst, hfocused⟩
    unfold Scan.step
    rcases acc.panes.assignOrGet pane.paneId pane.terminalId with ⟨reg', id⟩
    dsimp only
    by_cases hc : counts pane = true
    · rw [if_pos hc]
      refine ⟨fun id t ht => ?_, fun id t ht => ?_⟩
      · rcases hf : acc.first with - | found
        · simp only [hf, Option.none_or, Option.some.injEq, Prod.mk.injEq] at ht
          exact ⟨pane, hmem, hc, ht.2⟩
        · simp only [hf, Option.some_or] at ht
          exact hfirst id t (hf.trans ht)
      · dsimp only at ht
        split_ifs at ht
        · simp only [Option.some.injEq, Prod.mk.injEq] at ht
          exact ⟨pane, hmem, hc, ht.2⟩
        · exact hfocused id t ht
    · rw [if_neg hc]
      exact ⟨hfirst, hfocused⟩
  have hnone : Listed none := fun id t ht => absurd ht (by simp)
  obtain ⟨hfirst, hfocused⟩ := foldl_keeps (b := Scan.mk reg none none) hstep ⟨hnone, hnone⟩
  rcases Option.or_eq_some_iff.mp h with h | ⟨-, h⟩
  · exact hfocused id terminalId h
  · exact hfirst id terminalId h

theorem focusedOrFirst_mem {panes : List PaneInfo} {pane : PaneInfo}
    (h : focusedOrFirst panes = some pane) : pane ∈ panes := by
  let Listed : Option PaneInfo → Prop := fun found => ∀ p, found = some p → p ∈ panes
  have hstep : ∀ acc : Option PaneInfo × Option PaneInfo, ∀ p ∈ panes,
      Listed acc.1 ∧ Listed acc.2 →
      Listed (acc.1.or (some p)) ∧ Listed (if p.focused then some p else acc.2) := by
    rintro acc p hmem ⟨hfirst, hfocused⟩
    refine ⟨fun q hq => ?_, fun q hq => ?_⟩
    · rcases Option.or_eq_some_iff.mp hq with hq | ⟨-, hq⟩
      · exact hfirst q hq
      · rwa [← Option.some.inj hq]
    · split_ifs at hq
      · rwa [← Option.some.inj hq]
      · exact hfocused q hq
  have hnone : Listed none := fun p hp => absurd hp (by simp)
  obtain ⟨hfirst, hfocused⟩ := foldl_keeps
    (f := fun acc p => (acc.1.or (some p), if p.focused then some p else acc.2))
    (P := fun acc => Listed acc.1 ∧ Listed acc.2) hstep (b := (none, none)) ⟨hnone, hnone⟩
  rcases Option.or_eq_some_iff.mp h with h | ⟨-, h⟩
  · exact hfocused pane h
  · exact hfirst pane h

theorem choosePane_mem {panes : List PaneInfo} {hintPane hintTab : Option String}
    {pane : PaneInfo} (h : choosePane panes hintPane hintTab = some pane) : pane ∈ panes := by
  unfold choosePane at h
  rcases Option.or_eq_some_iff.mp h with h | ⟨-, h⟩
  · rcases Option.or_eq_some_iff.mp h with h | ⟨-, h⟩
    · obtain ⟨hp, -, h⟩ := Option.bind_eq_some_iff.mp h
      obtain ⟨ht, -, h⟩ := Option.bind_eq_some_iff.mp h
      exact List.mem_of_find?_eq_some h
    · obtain ⟨ht, -, h⟩ := Option.bind_eq_some_iff.mp h
      exact (List.mem_filter.mp (focusedOrFirst_mem h)).1
  · exact focusedOrFirst_mem h

theorem resolveIn_ok {listPanes : String → Listing} {reg : Registries}
    {hintPane hintTab : Option String} {workspaceId : String} {target : AttachTarget}
    (h : (resolveIn listPanes reg hintPane hintTab workspaceId).2 = .ok target) :
    ∃ panes, listPanes target.workspaceId = .ok panes ∧
      ∃ pane ∈ panes, pane.terminalId = target.terminalId := by
  unfold resolveIn at h
  rcases hl : listPanes workspaceId with cause | panes
  · rw [hl] at h
    cases h
  · rw [hl] at h
    unfold pickResumePane at h
    rcases hc : choosePane panes hintPane hintTab with - | chosen
    · simp [hc] at h
    · simp only [hc, Except.ok.injEq] at h
      subst h
      exact ⟨panes, hl, chosen, choosePane_mem hc, rfl⟩

/-- Whatever the hints, the ladder lands on a pane that is listed for the workspace it records. -/
theorem resolveAttachTarget_ok {listPanes : String → Listing} {reg : Registries}
    {defaultWorkspace : String} {resume : ResumeTarget} {target : AttachTarget}
    (h : (resolveAttachTarget listPanes reg defaultWorkspace resume).2 = .ok target) :
    ∃ panes, listPanes target.workspaceId = .ok panes ∧
      ∃ pane ∈ panes, pane.terminalId = target.terminalId := by
  unfold resolveAttachTarget at h
  rcases hs : resume.spaceId.filter (· ≠ defaultWorkspace) with - | space
  · simp only [hs] at h
    exact resolveIn_ok h
  · simp only [hs] at h
    rcases hr : resolveIn listPanes reg (hintIds reg resume).1 (hintIds reg resume).2 space with
      ⟨reg', e | t⟩
    · simp only [hr] at h
      exact resolveIn_ok h
    · simp only [hr, Except.ok.injEq] at h
      subst h
      exact resolveIn_ok (congrArg Prod.snd hr)

/-! ### Where the panes are -/

/-- Which pane a terminal is of, which tab a pane is in, and which workspace a tab is in. -/
structure Assignment where
  terminalPane : String → String
  paneTab : String → String
  tabWorkspace : String → String

namespace Assignment

variable (L : Assignment)

/-- The workspace a terminal belongs to. -/
def space (terminalId : String) : String :=
  L.tabWorkspace (L.paneTab (L.terminalPane terminalId))

/-- The pane is as it would be listed for the workspace. -/
structure Lists (workspaceId : String) (pane : PaneInfo) : Prop where
  terminal : L.terminalPane pane.terminalId = pane.paneId
  tab : L.paneTab pane.paneId = pane.tabId
  workspace : L.tabWorkspace pane.tabId = workspaceId

/-- The panes listed for the workspace are its own. -/
def Honest (workspaceId : String) (listing : Listing) : Prop :=
  ∀ panes, listing = .ok panes → ∀ pane ∈ panes, L.Lists workspaceId pane

end Assignment

theorem Assignment.Lists.space {L : Assignment} {workspaceId : String} {pane : PaneInfo}
    (h : L.Lists workspaceId pane) : L.space pane.terminalId = workspaceId := by
  unfold Assignment.space
  rw [h.terminal, h.tab, h.workspace]

/-- **After a re-attach that succeeded, the terminal on the wire belongs to the workspace whose
layout the connection reports.** -/
def Renders (L : Assignment) (c : Connection) : Prop :=
  c.attached = true → L.space c.sender.currentTerminalId = c.layoutSpace

/-- A listed pane of a workspace is picked, and it belongs to the workspace. -/
theorem resolveFocusedTerminal_space {L : Assignment} {reg : HerdrPaneRegistry}
    {workspaceId : String} {listing : Listing} (hh : L.Honest workspaceId listing) {id : ℕ}
    {terminalId : String}
    (h : (resolveFocusedTerminal reg workspaceId listing).2 = .ok (id, terminalId)) :
    L.space terminalId = workspaceId := by
  unfold resolveFocusedTerminal at h
  rcases listing with cause | panes
  · cases h
  · dsimp only at h
    rcases hp : (pick (fun _ => true) reg panes).2 with - | found
    · simp [hp] at h
    · simp only [hp, Option.elim_some, Except.ok.injEq] at h
      obtain ⟨pane, hmem, -, rfl⟩ := pick_mem (hp.trans (congrArg some h))
      exact (hh panes rfl pane hmem).space

theorem resolveTabFocusedPane_space {L : Assignment} {reg : HerdrPaneRegistry}
    {workspaceId herdrTabId : String} {listing : Listing} (hh : L.Honest workspaceId listing)
    {id : ℕ} {terminalId : String}
    (h : (resolveTabFocusedPane reg workspaceId herdrTabId listing).2 = .ok (id, terminalId)) :
    L.space terminalId = workspaceId := by
  unfold resolveTabFocusedPane at h
  rcases listing with cause | panes
  · cases h
  · dsimp only [pickTabPane] at h
    rcases hp : (pick (fun pane => decide (pane.tabId = herdrTabId)) reg panes).2 with - | found
    · simp [hp] at h
    · simp only [hp, Option.elim_some, Except.ok.injEq] at h
      obtain ⟨pane, hmem, -, rfl⟩ := pick_mem (hp.trans (congrArg some h))
      exact (hh panes rfl pane hmem).space

/-! ### What a re-attach does -/

theorem attempts_spec (terminalId : String) (readerGone : Bool) (c : Connection)
    (as : List Attempt) :
    let r := Connection.attempts terminalId readerGone c as
    r.1.sender.workspaceId = c.sender.workspaceId ∧
      r.1.attached = (as.any (·.connected) && !readerGone) ∧
      (r.1.attached = true → r.1.sender.currentTerminalId = terminalId ∧ r.2 = .ok ()) ∧
      (r.1.attached = false → ∃ e, r.2 = .error e) := by
  induction as generalizing c with
  | nil => exact ⟨rfl, rfl, fun h => absurd h (by simp [Connection.attempts]), fun _ => ⟨_, rfl⟩⟩
  | cons a as ih =>
    rcases hc : a.connected with - | -
    · simp only [Connection.attempts, hc, Bool.false_eq_true, if_false, List.any_cons,
        Bool.false_or]
      exact ih _
    · rcases readerGone with - | - <;> simp [Connection.attempts, hc]

section
variable {c : Connection} {terminalId : String} {world : Reconnect}

theorem reattach_workspaceId :
    (c.reattach terminalId world).1.sender.workspaceId = c.sender.workspaceId :=
  (attempts_spec terminalId world.readerGone c _).1

theorem reattach_attached : (c.reattach terminalId world).1.attached = world.succeeds := by
  have h := (attempts_spec terminalId world.readerGone c
    ((List.range reconnectAttempts).map world.attempt)).2.1
  rwa [List.any_map] at h

/-- A re-attach that succeeds is at the terminal it was given. -/
theorem reattach_terminal (h : (c.reattach terminalId world).1.attached = true) :
    (c.reattach terminalId world).1.sender.currentTerminalId = terminalId ∧
      (c.reattach terminalId world).2 = .ok () :=
  (attempts_spec terminalId world.readerGone c _).2.2.1 h

theorem reattach_error (h : (c.reattach terminalId world).1.attached = false) :
    ∃ e, (c.reattach terminalId world).2 = .error e :=
  (attempts_spec terminalId world.readerGone c _).2.2.2 h

/-- A re-attach to a terminal of the recorded workspace renders that workspace. -/
theorem renders_reattach {L : Assignment} (h : L.space terminalId = c.sender.workspaceId) :
    Renders L (c.reattach terminalId world).1 := by
  intro ha
  unfold Connection.layoutSpace
  rw [(reattach_terminal ha).1, reattach_workspaceId, h]

end

/-! ### Runs of a connection -/

/-- What happens to a connection and the registries it shares: one of its three operations, or
another source registers a pane or a tab. -/
inductive Act
  | goToTab (tabId : ℕ) (listing : Listing) (world : Reconnect)
  | focusPane (pane : PaneRef) (world : Reconnect)
  | switchSpace (spaceId : String) (listing : Listing) (world : Reconnect)
  | registerPane (herdrPaneId terminalId : String) (refresh : Bool)
  | registerTab (herdrTabId : String)

def Connection.step (c : Connection) : Act → Connection
  | .goToTab tabId listing world => (c.goToTab tabId listing world).1
  | .focusPane pane world => (c.focusPane pane world).1
  | .switchSpace spaceId listing world => (c.switchSpace spaceId listing world).1
  | .registerPane pane terminal refresh =>
    { c with registries :=
      { c.registries with panes := (c.registries.panes.assignOrGetInner pane terminal refresh).1 } }
  | .registerTab tab =>
    { c with registries := { c.registries with tabs := (c.registries.tabs.assignOrGet tab).1 } }

/-- A step in which herdr lists the panes of the workspace it is asked for. -/
def Step (L : Assignment) (c : Connection) (a : Act) (c' : Connection) : Prop :=
  (∀ tabId listing world, a = .goToTab tabId listing world →
    L.Honest c.sender.workspaceId listing) ∧
  (∀ spaceId listing world, a = .switchSpace spaceId listing world → L.Honest spaceId listing) ∧
  c.step a = c'

/-- A pane that the connection focuses, and comes to, is of the recorded workspace, by the terminal
id the registry has for it. -/
def FocusesInside (L : Assignment) (c : Connection) (a : Act) : Prop :=
  ∀ pane world terminalId, a = .focusPane pane world →
    c.registries.panes.terminalId pane.id = some terminalId → world.succeeds = true →
    L.space terminalId = c.sender.workspaceId

section
variable {L : Assignment} {c c' : Connection}

theorem renders_goToTab {tabId : ℕ} {listing : Listing} {world : Reconnect} (h : Renders L c)
    (hh : L.Honest c.sender.workspaceId listing) : Renders L (c.goToTab tabId listing world).1 := by
  unfold Connection.goToTab
  rcases c.registries.tabs.herdrTabId tabId with - | herdrTab
  · exact h
  · dsimp only
    rcases hp : (resolveTabFocusedPane c.registries.panes c.sender.workspaceId herdrTab listing).2
      with e | ⟨id, terminalId⟩
    · exact h
    · exact renders_reattach (resolveTabFocusedPane_space hh hp)

theorem renders_switchSpace {spaceId : String} {listing : Listing} {world : Reconnect}
    (h : Renders L c) (hh : L.Honest spaceId listing) :
    Renders L (c.switchSpace spaceId listing world).1 := by
  unfold Connection.switchSpace
  dsimp only
  rcases hp : (resolveFocusedTerminal c.registries.panes spaceId listing).2 with
    e | ⟨id, terminalId⟩
  · exact h
  · dsimp only
    let d : Connection := { c with registries := { c.registries with
      panes := (resolveFocusedTerminal c.registries.panes spaceId listing).1 } }
    rcases ha : (d.reattach terminalId world).1.attached with - | -
    · obtain ⟨e, he⟩ := reattach_error ha
      have hd : d.reattach terminalId world = ((d.reattach terminalId world).1, .error e) :=
        Prod.ext rfl he
      rw [show _ = _ from hd]
      intro hatt
      rw [ha] at hatt
      exact absurd hatt (by simp)
    · obtain ⟨hterm, hok⟩ := reattach_terminal ha
      have hd : d.reattach terminalId world = ((d.reattach terminalId world).1, .ok ()) :=
        Prod.ext rfl hok
      rw [show _ = _ from hd]
      intro _
      show L.space (d.reattach terminalId world).1.sender.currentTerminalId = spaceId
      rw [hterm]
      exact resolveFocusedTerminal_space hh hp

/-- What a focus comes to is the terminal the registry has for the pane. -/
theorem renders_focusPane_iff {pane : PaneRef} {world : Reconnect} (h : Renders L c) :
    Renders L (c.focusPane pane world).1 ↔ FocusesInside L c (.focusPane pane world) := by
  unfold Connection.focusPane
  rcases ht : c.registries.panes.terminalId pane.id with - | terminalId
  · refine ⟨fun _ _ _ t he ht' _ => ?_, fun _ => h⟩
    cases he
    rw [ht] at ht'
    cases ht'
  · dsimp only
    constructor
    · rintro hr pane' world' t he ht' hs
      cases he
      rw [ht] at ht'
      cases ht'
      have ha : (c.reattach terminalId world).1.attached = true := reattach_attached.trans hs
      have hspace := hr ha
      unfold Connection.layoutSpace at hspace
      rwa [(reattach_terminal ha).1, reattach_workspaceId] at hspace
    · intro hC ha
      have hs : world.succeeds = true := reattach_attached.symm.trans ha
      exact renders_reattach (hC pane world terminalId rfl ht hs) ha

/-- One step keeps the terminal in the recorded workspace, if it focuses no pane outside of it. -/
theorem renders_step {a : Act} (h : Renders L c) (ht : Step L c a c')
    (hC : FocusesInside L c a) : Renders L c' := by
  obtain ⟨hgo, hswitch, rfl⟩ := ht
  rcases a with ⟨tabId, listing, world⟩ | ⟨pane, world⟩ | ⟨spaceId, listing, world⟩ | _ | _
  · exact renders_goToTab h (hgo tabId listing world rfl)
  · exact (renders_focusPane_iff h).mpr hC
  · exact renders_switchSpace h (hswitch spaceId listing world rfl)
  · exact h
  · exact h

end

/-- An attach renders the workspace it records. -/
theorem renders_openAttach {L : Assignment} {listPanes : String → Listing} {reg : Registries}
    {defaultWorkspace : String} {rows cols : ℕ} {readOnly : Bool} {resume : ResumeTarget}
    {ping : Except String ℕ} {connected : Bool} {c : Connection} {view : Option ResumedView}
    (hh : ∀ workspaceId, L.Honest workspaceId (listPanes workspaceId))
    (h : openAttach listPanes reg defaultWorkspace rows cols readOnly resume ping connected =
      .ok (c, view)) : Renders L c := by
  intro _
  unfold openAttach at h
  rcases hr : resolveAttachTarget listPanes reg defaultWorkspace resume with ⟨reg', e | target⟩
  · simp [hr] at h
  · rcases ping with cause | protocol
    · simp [hr] at h
    · simp only [hr] at h
      split_ifs at h
      cases h
      obtain ⟨panes, hl, pane, hmem, hterm⟩ := resolveAttachTarget_ok (congrArg Prod.snd hr)
      show L.space target.terminalId = target.workspaceId
      rw [← hterm]
      exact (hh _ panes hl pane hmem).space

/-- **The terminal on the wire stays in the recorded workspace in exactly the runs that focus no
pane outside of it.** -/
theorem renders_iff {L : Assignment} {listPanes : String → Listing} {reg : Registries}
    {defaultWorkspace : String} {rows cols : ℕ} {readOnly : Bool} {resume : ResumeTarget}
    {ping : Except String ℕ} {connected : Bool} {c₀ : Connection} {view : Option ResumedView}
    {as : List Act} (hh : ∀ workspaceId, L.Honest workspaceId (listPanes workspaceId))
    (h : openAttach listPanes reg defaultWorkspace rows cols readOnly resume ping connected =
      .ok (c₀, view)) :
    (∀ pre post u, as = pre ++ post → Run (Step L) c₀ pre u → Renders L u) ↔
      Along (Step L) (fun _ => FocusesInside L) c₀ as := by
  constructor
  · intro hren pre a post u he hu pane world terminalId ha ht hs
    subst ha
    have hu' := hren pre (.focusPane pane world :: post) u he hu
    have hstep : Step L u (.focusPane pane world) (u.focusPane pane world).1 :=
      ⟨by simp, by simp, rfl⟩
    have hnext := hren (pre ++ [.focusPane pane world]) post _ (by simp [he])
      (hu.concat hstep)
    exact (renders_focusPane_iff hu').mp hnext pane world terminalId rfl ht hs
  · rintro hC pre post u rfl hu
    have hstep : ∀ (_ : List Act) u a v, Renders L u → FocusesInside L u a → Step L u a v →
        Renders L v := fun _ _ _ _ hI hC ht => renders_step hI ht hC
    exact hu.invariant_along hstep (renders_openAttach hh h) hC.left

/-! ### A pane of another workspace -/

/-- Two workspaces of one tab and one pane each. -/
def twoSpaces : Assignment where
  terminalPane t := if t = "tB" then "pB" else "pA"
  paneTab p := if p = "pB" then "bB" else "bA"
  tabWorkspace b := if b = "bB" then "wB" else "wA"

def twoSpacesList (workspaceId : String) : Listing :=
  if workspaceId = "wA" then .ok [⟨"pA", "tA", "bA", true⟩]
  else if workspaceId = "wB" then .ok [⟨"pB", "tB", "bB", true⟩]
  else .error "no such workspace"

theorem twoSpaces_honest (workspaceId : String) :
    twoSpaces.Honest workspaceId (twoSpacesList workspaceId) := by
  intro panes hp pane hmem
  unfold twoSpacesList at hp
  split_ifs at hp with hA hB <;> cases hp <;> obtain rfl := List.mem_singleton.mp hmem
  · exact ⟨by decide, by decide, hA.symm ▸ by decide⟩
  · exact ⟨by decide, by decide, hB.symm ▸ by decide⟩

/-- A re-attach that goes through at once. -/
def promptly : Reconnect := ⟨fun _ => ⟨none, true⟩, false⟩

/-- The second workspace's pane is registered, for a layout query of another connection, and then
focused: its terminal is on the wire, and the recorded workspace is the first one. -/
theorem focus_leaves_space :
    ∃ c u view, openAttach twoSpacesList ⟨.empty, .empty⟩ "wA" 24 80 false ⟨none, none, none⟩
        (.ok 22) true = .ok (c, view) ∧
      Run (Step twoSpaces) c [.registerPane "pB" "tB" true, .focusPane ⟨2, false⟩ promptly] u ∧
      u.attached = true ∧ u.sender.currentTerminalId = "tB" ∧ twoSpaces.space "tB" = "wB" ∧
      u.layoutSpace = "wA" :=
  ⟨_, _, _, rfl, Run.cons ⟨by simp, by simp, rfl⟩ (Run.cons ⟨by simp, by simp, rfl⟩ (Run.nil _)),
    rfl, rfl, by decide, rfl⟩

theorem renders_iff_twoSpaces :
    ∃ c view, openAttach twoSpacesList ⟨.empty, .empty⟩ "wA" 24 80 false ⟨none, none, none⟩
        (.ok 22) true = .ok (c, view) ∧
      ((∀ pre post u, [Act.switchSpace "wB" (twoSpacesList "wB") promptly] = pre ++ post →
          Run (Step twoSpaces) c pre u → Renders twoSpaces u) ↔
        Along (Step twoSpaces) (fun _ => FocusesInside twoSpaces) c
          [.switchSpace "wB" (twoSpacesList "wB") promptly]) := by
  have h : ∃ c view, openAttach twoSpacesList ⟨.empty, .empty⟩ "wA" 24 80 false
      ⟨none, none, none⟩ (.ok 22) true = .ok (c, view) := ⟨_, _, rfl⟩
  obtain ⟨c, view, h⟩ := h
  exact ⟨c, view, h, renders_iff twoSpaces_honest h⟩

end MuxrCore.Herdr.Sender
