import MuxrCore.Lib.Runs
import MuxrCore.Relay.View

/-! # The inbound loop of a relay

A relay's inbound task takes the commands routed to it and the frames of its client, one at a time,
and calls its backend's sender for them, until something ends it. What a call answers, and how a
toggle's live read fares, is part of the event.

* `calls_permitted`: a read-only relay never types and never toggles, its mouse calls are wheel
  events, and in every relay mouse calls lie inside the grid of the last resize the sender accepted
  and every geometry is within the bounds.
* `views_agree_iff`: the tracked pane lies in the tracked tab in exactly the runs whose toggles stay
  in the tab; on a backend with tab ids, in all runs (`views_agree_tabbed`). -/

namespace MuxrCore.Relay.Inbound

open MuxrCore.Lib.Runs MuxrCore.Relay.Control MuxrCore.Relay.View MuxrCore.Multiplexer.Layout

/-! ### Geometry -/

def maxTerminalDim : ℕ := 1024

def minTerminalRows : ℕ := 4

def minTerminalCols : ℕ := 20

/-- A dimension the client asks for, within bounds; zero asks for the default. -/
def clampDim (v default min : ℕ) : ℕ := if v = 0 then default else max (Nat.min v maxTerminalDim) min

/-- The geometry of an attach or a resize. -/
def flooredResize (rows cols : ℕ) : ℕ × ℕ :=
  (clampDim rows 24 minTerminalRows, clampDim cols 80 minTerminalCols)

/-- Rows and columns within the bounds. -/
def InBounds (grid : ℕ × ℕ) : Prop :=
  minTerminalRows ≤ grid.1 ∧ grid.1 ≤ maxTerminalDim ∧
    minTerminalCols ≤ grid.2 ∧ grid.2 ≤ maxTerminalDim

theorem clampDim_bounds {v default min : ℕ} (hmin : min ≤ default)
    (hmax : default ≤ maxTerminalDim) :
    min ≤ clampDim v default min ∧ clampDim v default min ≤ maxTerminalDim := by
  unfold clampDim
  split_ifs
  · exact ⟨hmin, hmax⟩
  · have hle : Nat.min v maxTerminalDim ≤ maxTerminalDim := Nat.min_le_right _ _
    omega

theorem inBounds_flooredResize (rows cols : ℕ) : InBounds (flooredResize rows cols) := by
  have hrows := @clampDim_bounds rows 24 minTerminalRows (by decide) (by decide)
  have hcols := @clampDim_bounds cols 80 minTerminalCols (by decide) (by decide)
  exact ⟨hrows.1, hrows.2, hcols.1, hcols.2⟩

/-! ### Calls and events -/

/-- A mouse event the backends know. -/
inductive MuxMouseKind
  | wheelUp
  | wheelDown
  deriving DecidableEq, Repr

/-- The value of a mouse kind on the wire. -/
def MuxMouseKind.raw : MuxMouseKind → ℤ
  | .wheelUp => 0
  | .wheelDown => 1

/-- The mouse kind of a wire value; an unknown one reads as the default. -/
def mouseKind (raw : ℤ) : MuxMouseKind := if raw = 1 then .wheelDown else .wheelUp

/-- The wire value is a wheel event's. -/
def isWheelKind (raw : ℤ) : Bool := raw = MuxMouseKind.raw .wheelUp || raw = MuxMouseKind.raw .wheelDown

/-- A call on the backend's sender. -/
inductive SenderCall
  | goToTab (tabId : ℕ)
  | focusPane (pane : PaneRef)
  | switchSpace (spaceId : String)
  | toggleFullscreen (pane : PaneRef) (hint : FullscreenHint)
  | queryLayoutResult
  | queryLayout
  | sendInputChars (text : String)
  | sendInputBytes (bytes : List UInt8)
  | sendMouse (kind : MuxMouseKind) (col row : ℕ)
  | sendResize (rows cols : ℕ)
  | sendClientExited
  deriving DecidableEq

/-- How a blocking call on the sender ends; one that panics takes the sender with it. -/
inductive OpOutcome
  | ok
  | failed (cause : String)
  | panicked
  deriving DecidableEq, Repr

/-- What is found on the way of one command. -/
structure Answers where
  op : OpOutcome
  /-- the toggle's caller has given up before the resolution, and after it -/
  gaveUpBefore : Bool
  gaveUpAfter : Bool
  live : LiveQuery
  toggleSent : Bool
  syncLayout : Bool
  /-- the render thread is there to take a layout query -/
  rendering : Bool
  deriving DecidableEq, Repr

/-- A frame of the client. -/
inductive ClientFrame
  | input (bytes : List UInt8)
  | resize (rows cols : ℕ)
  | mouse (kind : ℤ) (col row : ℕ)
  | attach
  | empty
  deriving DecidableEq, Repr

/-- What the loop wakes up for. -/
inductive Event
  | readerFinished
  | evicted
  | tokenInvalid
  | control (cmd : Option RelayControl) (answers : Answers)
  /-- a frame, and whether the sender takes what is sent for it -/
  | frame (frame : ClientFrame) (accepted : Bool)
  | streamError
  | streamEnd
  deriving DecidableEq

/-- What is fixed when the relay attaches: its tier, and the geometry it attached with. -/
structure Attached where
  readOnly : Bool
  rows : ℕ
  cols : ℕ
  deriving DecidableEq, Repr

/-- A relay attached with the geometry a client asks for. -/
def Attached.of (readOnly : Bool) (rows cols : ℕ) : Attached :=
  ⟨readOnly, (flooredResize rows cols).1, (flooredResize rows cols).2⟩

/-- The loop: the relay's entry in the view registry, its grid, the number of the next layout query,
and whether the loop is still running. -/
structure Loop where
  view : Option RelayViewState
  gridRows : ℕ
  gridCols : ℕ
  nextQuerySeq : ℕ
  running : Bool
  deriving DecidableEq, Repr

/-- The loop as it starts. -/
def Loop.start (r : Attached) (view : RelayViewState) : Loop := ⟨some view, r.rows, r.cols, 0, true⟩

/-- What an event leads to: the next state, the sender's calls and the answers to commands. -/
structure Outcome where
  loop : Loop
  calls : List SenderCall
  replies : List (ReplyId × Except String Unit)

/-! ### The boundary of a read-only relay -/

/-- The name of a command a read-only relay does not apply. -/
def readOnlyDenies : RelayControl → Option String
  | .switchTab _ | .focusPane _ | .switchSpace _ _ | .queryLayout _ => none
  | .toggleFullscreen _ _ _ => some "ToggleFullscreen"

/-- The command to apply, if any. -/
def gateControl (cmd : Option RelayControl) (readOnly : Bool) : Option RelayControl :=
  cmd.bind fun c => if readOnly && (readOnlyDenies c).isSome then none else some c

/-! ### The loop -/

def maxInputFrameBytes : ℕ := 1024 * 1024

/-- The calls for an input frame. -/
def handleInputFrame (bytes : List UInt8) (readOnly : Bool) : List SenderCall :=
  if readOnly then []
  else if maxInputFrameBytes < bytes.length then []
  else match String.fromUTF8? ⟨bytes.toArray⟩ with
    | some text => [.sendInputChars text]
    | none => [.sendInputBytes bytes]

/-- The calls for a mouse frame. -/
def handleMouseFrame (kind : ℤ) (col row : ℕ) (readOnly : Bool) (gridRows gridCols : ℕ) :
    List SenderCall :=
  if readOnly && !isWheelKind kind then []
  else if gridCols ≤ col || gridRows ≤ row then []
  else [.sendMouse (mouseKind kind) col row]

/-- One toggle: its calls, and the toggle that was applied or the message of the refusal. -/
def toggleFullscreenOnce (pane : PaneRef) (hint : Option FloatingHint) (view : RelayTabView)
    (reply : Option ReplyId) (answers : Answers) :
    List SenderCall × Except String AppliedToggle :=
  if reply.isSome && answers.gaveUpBefore then ([], .error (abandonedMessage pane))
  else match resolveToggleTarget pane hint view answers.live with
    | .error refusal => ([], .error refusal)
    | .ok resolved =>
      if reply.isSome && answers.gaveUpAfter then ([], .error (abandonedMessage pane))
      else
        ([.toggleFullscreen resolved.pane resolved.hint],
          if answers.toggleSent then .ok resolved else .error (notSentMessage pane))

namespace Loop

variable (r : Attached) (s : Loop)

/-- Leave the loop: the relay is deregistered, and its reader woken up. -/
def close (calls : List SenderCall) (replies : List (ReplyId × Except String Unit)) : Outcome :=
  ⟨{ s with view := none, running := false },
    calls ++ [if r.readOnly then SenderCall.sendClientExited else .sendResize r.rows r.cols],
    replies⟩

/-- Update the relay's entry in the view registry. -/
def updateView (f : RelayViewState → RelayViewState) : Loop := { s with view := s.view.map f }

/-- What a toggle's resolution reads of the relay's entry. -/
def tabView : RelayTabView := (s.view.map RelayTabView.of).getD ⟨none, none⟩

/-- Apply a command. -/
def applyControl (answers : Answers) : RelayControl → Outcome
  | .switchTab tabId =>
    match answers.op with
    | .panicked => s.close r [.goToTab tabId] []
    | .failed _ => ⟨s, [.goToTab tabId], []⟩
    | .ok =>
      ⟨s.updateView fun v => { v with activeTab := some tabId, focusedPane := none },
        [.goToTab tabId], []⟩
  | .focusPane pane =>
    match answers.op with
    | .panicked => s.close r [.focusPane pane] []
    | .failed _ => ⟨s, [.focusPane pane], []⟩
    | .ok =>
      ⟨s.updateView fun v => { v with focusedPane := some pane, activeTab := none },
        [.focusPane pane], []⟩
  | .switchSpace workspaceId reply =>
    match answers.op with
    | .panicked =>
      s.close r [.switchSpace workspaceId]
        [(reply, .error "SwitchSpace op panicked; stream torn down")]
    | .failed cause => ⟨s, [.switchSpace workspaceId], [(reply, .error cause)]⟩
    | .ok =>
      ⟨s.updateView fun _ => ⟨none, none, some workspaceId⟩, [.switchSpace workspaceId],
        [(reply, .ok ())]⟩
  | .toggleFullscreen pane hint reply =>
    let (calls, outcome) := toggleFullscreenOnce pane hint s.tabView reply answers
    let s := match outcome with
      | .ok applied => s.updateView fun v => recordAppliedToggle v pane applied
      | .error _ => s
    ⟨s, calls, reply.toList.map fun id => (id, outcome.map fun _ => ())⟩
  | .queryLayout reply =>
    let s := { s with nextQuerySeq := (s.nextQuerySeq + 1) % 2 ^ 64 }
    if answers.syncLayout then ⟨s, [.queryLayoutResult], []⟩
    else if answers.rendering then ⟨s, [.queryLayout], []⟩
    else ⟨s, [], [(reply, .error "render thread not available")]⟩

/-- Handle a frame. -/
def applyFrame (frame : ClientFrame) (accepted : Bool) : Outcome :=
  match frame with
  | .input bytes => ⟨s, handleInputFrame bytes r.readOnly, []⟩
  | .resize rows cols =>
    let (rows, cols) := flooredResize rows cols
    ⟨if accepted then { s with gridRows := rows, gridCols := cols } else s,
      [.sendResize rows cols], []⟩
  | .mouse kind col row =>
    ⟨s, handleMouseFrame kind col row r.readOnly s.gridRows s.gridCols, []⟩
  | .attach => ⟨s, [], []⟩
  | .empty => ⟨s, [], []⟩

/-- Handle an event, while the loop runs. -/
def step (e : Event) : Option Outcome :=
  if s.running then
    match e with
    | .readerFinished | .evicted | .tokenInvalid | .streamError | .streamEnd =>
      some (s.close r [] [])
    | .control cmd answers =>
      match gateControl cmd r.readOnly with
      | some cmd => some (s.applyControl r answers cmd)
      | none => some ⟨s, [], []⟩
    | .frame frame accepted => some (s.applyFrame r frame accepted)
  else none

/-- The state an event leads to. -/
def next (e : Event) : Option Loop := (s.step r e).map (·.loop)

end Loop

/-! ### The boundary over whole runs -/

/-- The grid after an event: that of a resize the sender accepted. -/
def acceptGrid (grid : ℕ × ℕ) : Event → ℕ × ℕ
  | .frame (.resize rows cols) true => flooredResize rows cols
  | _ => grid

/-- The grid of the last resize the sender accepted, or else of the attach. -/
def lastGrid (r : Attached) (es : List Event) : ℕ × ℕ := es.foldl acceptGrid (r.rows, r.cols)

/-- A call that the loop may make for an event: typing and toggling are for writers; a mouse call is
for a mouse frame inside the grid, and for a viewer the frame is a wheel event; a geometry is within
the bounds. -/
def Permitted (r : Attached) (grid : ℕ × ℕ) (e : Event) : SenderCall → Prop
  | .sendInputChars _ | .sendInputBytes _ | .toggleFullscreen _ _ => r.readOnly = false
  | .sendMouse kind col row =>
    row < grid.1 ∧ col < grid.2 ∧ ∃ raw accepted, e = .frame (.mouse raw col row) accepted ∧
      (r.readOnly = true → raw = kind.raw)
  | .sendResize rows cols => InBounds (rows, cols)
  | _ => True

section
variable {r : Attached} {s t : Loop} {e : Event} {o : Outcome}

theorem close_permitted (hr : InBounds (r.rows, r.cols)) {grid : ℕ × ℕ}
    {calls : List SenderCall} {replies : List (ReplyId × Except String Unit)}
    (hcalls : ∀ call ∈ calls, Permitted r grid e call) :
    ∀ call ∈ (s.close r calls replies).calls, Permitted r grid e call := by
  intro call hmem
  rcases List.mem_append.mp hmem with hmem | hmem
  · exact hcalls call hmem
  · obtain rfl := List.mem_singleton.mp hmem
    split_ifs
    · trivial
    · exact hr

/-- A toggle sends nothing and answers a message, because it was given up or refused, or it sends
the toggle it resolved to. -/
theorem toggleFullscreenOnce_cases (pane : PaneRef) (hint : Option FloatingHint)
    (view : RelayTabView) (reply : Option ReplyId) (answers : Answers) :
    (∃ message, toggleFullscreenOnce pane hint view reply answers = ([], .error message) ∧
      ((reply.isSome && answers.gaveUpBefore) = true ∨
        (reply.isSome && answers.gaveUpAfter) = true ∨
        resolveToggleTarget pane hint view answers.live = .error message)) ∨
    ∃ resolved, resolveToggleTarget pane hint view answers.live = .ok resolved ∧
      (reply.isSome && answers.gaveUpBefore) = false ∧
      (reply.isSome && answers.gaveUpAfter) = false ∧
      toggleFullscreenOnce pane hint view reply answers =
        ([.toggleFullscreen resolved.pane resolved.hint],
          if answers.toggleSent then .ok resolved else .error (notSentMessage pane)) := by
  unfold toggleFullscreenOnce
  by_cases hbefore : (reply.isSome && answers.gaveUpBefore) = true
  · rw [if_pos hbefore]
    exact Or.inl ⟨_, rfl, Or.inl hbefore⟩
  · rw [if_neg hbefore]
    rcases hres : resolveToggleTarget pane hint view answers.live with refusal | resolved
    · exact Or.inl ⟨_, rfl, Or.inr (Or.inr rfl)⟩
    · by_cases hafter : (reply.isSome && answers.gaveUpAfter) = true
      · exact Or.inl ⟨_, if_pos hafter, Or.inr (Or.inl hafter)⟩
      · exact Or.inr ⟨resolved, rfl, by simpa using hbefore, by simpa using hafter, if_neg hafter⟩

theorem toggleFullscreenOnce_permitted {grid : ℕ × ℕ} {pane : PaneRef} {hint : Option FloatingHint}
    {view : RelayTabView} {reply : Option ReplyId} {answers : Answers} (hw : r.readOnly = false) :
    ∀ call ∈ (toggleFullscreenOnce pane hint view reply answers).1, Permitted r grid e call := by
  intro call hmem
  rcases toggleFullscreenOnce_cases pane hint view reply answers with
    ⟨message, h, -⟩ | ⟨resolved, -, -, -, h⟩
  · rw [h] at hmem
    exact absurd hmem (by simp)
  · rw [h] at hmem
    obtain rfl := List.mem_singleton.mp hmem
    exact hw

theorem applyControl_permitted (hr : InBounds (r.rows, r.cols)) {grid : ℕ × ℕ}
    {answers : Answers} {cmd : RelayControl}
    (hw : ∀ pane hint reply, cmd = .toggleFullscreen pane hint reply → r.readOnly = false) :
    ∀ call ∈ (s.applyControl r answers cmd).calls, Permitted r grid e call := by
  have hone : ∀ c : SenderCall, Permitted r grid e c → ∀ call ∈ [c], Permitted r grid e call :=
    fun c hc call hmem => (List.mem_singleton.mp hmem) ▸ hc
  rcases cmd with tabId | pane | ⟨workspaceId, reply⟩ | ⟨pane, hint, reply⟩ | reply
  · unfold Loop.applyControl
    rcases answers.op with _ | cause | _
    · exact hone _ trivial
    · exact hone _ trivial
    · exact close_permitted hr (hone _ trivial)
  · unfold Loop.applyControl
    rcases answers.op with _ | cause | _
    · exact hone _ trivial
    · exact hone _ trivial
    · exact close_permitted hr (hone _ trivial)
  · unfold Loop.applyControl
    rcases answers.op with _ | cause | _
    · exact hone _ trivial
    · exact hone _ trivial
    · exact close_permitted hr (hone _ trivial)
  · exact toggleFullscreenOnce_permitted (hw pane hint reply rfl)
  · unfold Loop.applyControl
    dsimp only
    split_ifs
    · exact hone _ trivial
    · exact hone _ trivial
    · simp

theorem applyFrame_permitted {frame : ClientFrame} {accepted : Bool}
    (he : e = .frame frame accepted) :
    ∀ call ∈ (s.applyFrame r frame accepted).calls,
      Permitted r (s.gridRows, s.gridCols) e call := by
  intro call hmem
  rcases frame with bytes | ⟨rows, cols⟩ | ⟨kind, col, row⟩ | _ | _
  · have hmem : call ∈ handleInputFrame bytes r.readOnly := hmem
    unfold handleInputFrame at hmem
    split_ifs at hmem with hro
    · simp at hmem
    · simp at hmem
    · have hw : r.readOnly = false := by simpa using hro
      split at hmem <;> obtain rfl := List.mem_singleton.mp hmem <;> exact hw
  · obtain rfl := List.mem_singleton.mp hmem
    exact inBounds_flooredResize rows cols
  · have hmem : call ∈ handleMouseFrame kind col row r.readOnly s.gridRows s.gridCols := hmem
    unfold handleMouseFrame at hmem
    split_ifs at hmem with hwheel hgrid
    · simp at hmem
    · simp at hmem
    · obtain rfl := List.mem_singleton.mp hmem
      have hin : ¬ (s.gridCols ≤ col ∨ s.gridRows ≤ row) := by simpa using hgrid
      refine ⟨by show row < s.gridRows; omega, by show col < s.gridCols; omega, kind, accepted, he,
        fun hro => ?_⟩
      have hk : isWheelKind kind = true := by simpa [hro] using hwheel
      unfold isWheelKind at hk
      rw [Bool.or_eq_true, decide_eq_true_eq, decide_eq_true_eq] at hk
      rcases hk with rfl | rfl <;> rfl
  · exact absurd hmem (by simp [Loop.applyFrame])
  · exact absurd hmem (by simp [Loop.applyFrame])

theorem gateControl_toggle {cmd : Option RelayControl} {readOnly : Bool} {pane : PaneRef}
    {hint : Option FloatingHint} {reply : Option ReplyId}
    (h : gateControl cmd readOnly = some (.toggleFullscreen pane hint reply)) :
    readOnly = false := by
  obtain ⟨c, -, h⟩ := Option.bind_eq_some_iff.mp h
  rcases readOnly with - | -
  · rfl
  · split_ifs at h with hd
    cases h
    exact absurd rfl hd

/-- What an event does: the loop ends, a command is denied or applied, or a frame is handled. -/
theorem step_cases (h : s.step r e = some o) :
    ((∀ cmd answers, e ≠ .control cmd answers) ∧ (∀ frame accepted, e ≠ .frame frame accepted) ∧
      o = s.close r [] []) ∨
    (∃ cmd answers, e = .control cmd answers ∧ gateControl cmd r.readOnly = none ∧
      o = ⟨s, [], []⟩) ∨
    (∃ cmd answers c, e = .control cmd answers ∧ gateControl cmd r.readOnly = some c ∧
      o = s.applyControl r answers c) ∨
    ∃ frame accepted, e = .frame frame accepted ∧ o = s.applyFrame r frame accepted := by
  unfold Loop.step at h
  split_ifs at h with hrun
  cases e with
  | control cmd answers =>
    rcases hg : gateControl cmd r.readOnly with - | c <;> simp only [hg] at h <;> cases h
    · exact Or.inr (Or.inl ⟨cmd, answers, rfl, hg, rfl⟩)
    · exact Or.inr (Or.inr (Or.inl ⟨cmd, answers, c, rfl, hg, rfl⟩))
  | frame frame accepted =>
    cases h
    exact Or.inr (Or.inr (Or.inr ⟨frame, accepted, rfl, rfl⟩))
  | _ =>
    cases h
    exact Or.inl ⟨by simp, by simp, rfl⟩

/-- One event: every call is permitted, in the grid the loop has. -/
theorem step_permitted (hr : InBounds (r.rows, r.cols)) (h : s.step r e = some o) :
    ∀ call ∈ o.calls, Permitted r (s.gridRows, s.gridCols) e call := by
  obtain ⟨-, -, rfl⟩ | ⟨cmd, answers, -, -, rfl⟩ | ⟨cmd, answers, c, rfl, hg, rfl⟩ |
    ⟨frame, accepted, rfl, rfl⟩ := step_cases h
  · exact close_permitted hr (by simp)
  · simp
  · refine applyControl_permitted hr fun pane hint reply hc => ?_
    rw [hc] at hg
    exact gateControl_toggle hg
  · exact applyFrame_permitted rfl

theorem applyControl_grid (answers : Answers) (cmd : RelayControl) :
    (s.applyControl r answers cmd).loop.gridRows = s.gridRows ∧
      (s.applyControl r answers cmd).loop.gridCols = s.gridCols := by
  rcases cmd with tabId | pane | ⟨workspaceId, reply⟩ | ⟨pane, hint, reply⟩ | reply
  · unfold Loop.applyControl
    rcases answers.op with _ | cause | _ <;> exact ⟨rfl, rfl⟩
  · unfold Loop.applyControl
    rcases answers.op with _ | cause | _ <;> exact ⟨rfl, rfl⟩
  · unfold Loop.applyControl
    rcases answers.op with _ | cause | _ <;> exact ⟨rfl, rfl⟩
  · unfold Loop.applyControl
    rcases h : (toggleFullscreenOnce pane hint s.tabView reply answers).2 with message | applied <;>
      simp [Loop.updateView, h]
  · unfold Loop.applyControl
    dsimp only
    split_ifs <;> exact ⟨rfl, rfl⟩

/-- One event: the grid changes with a resize the sender accepted, and with nothing else. -/
theorem step_grid (h : s.next r e = some t) :
    (t.gridRows, t.gridCols) = acceptGrid (s.gridRows, s.gridCols) e := by
  obtain ⟨o, ho, rfl⟩ := Option.map_eq_some_iff.mp h
  obtain ⟨-, hframe, rfl⟩ | ⟨cmd, answers, rfl, -, rfl⟩ | ⟨cmd, answers, c, rfl, -, rfl⟩ |
    ⟨frame, accepted, rfl, rfl⟩ := step_cases ho
  · cases e with
    | frame frame accepted => exact absurd rfl (hframe frame accepted)
    | _ => rfl
  · rfl
  · obtain ⟨hrows, hcols⟩ := @applyControl_grid r s answers c
    rw [hrows, hcols]
    rfl
  · rcases frame with bytes | ⟨rows, cols⟩ | ⟨kind, col, row⟩ | _ | _
    · rfl
    · rcases accepted with - | - <;> rfl
    · rfl
    · rfl
    · rfl

end

theorem grid_run {r : Attached} {view : RelayViewState} {es : List Event} {s : Loop}
    (hr : Run (ofFn (Loop.next r)) (Loop.start r view) es s) :
    (s.gridRows, s.gridCols) = lastGrid r es := by
  have hstep : ∀ pre s e t, Run (ofFn (Loop.next r)) (Loop.start r view) pre s →
      (s.gridRows, s.gridCols) = lastGrid r pre → ofFn (Loop.next r) s e t →
      (t.gridRows, t.gridCols) = lastGrid r (pre ++ [e]) := by
    intro pre s e t _ hI ht
    rw [step_grid ht, hI]
    unfold lastGrid
    rw [List.foldl_append]
    rfl
  exact @Run.history _ _ _ (fun es s => (s.gridRows, s.gridCols) = lastGrid r es) _ hstep _ _ hr rfl

/-- **The read-only boundary and the bounds, over whole runs.** For every geometry a client attaches
with, every run and every call of its next event: a viewer's relay does not type and does not
toggle; a mouse call lies inside the grid of the last resize the sender accepted, and is a wheel
event of the client's if it is a viewer's; and every geometry is within the bounds, that of the
attach included. -/
theorem calls_permitted {readOnly : Bool} {rows cols : ℕ} {view : RelayViewState}
    {es : List Event} {s : Loop} {e : Event} {o : Outcome}
    (hr : Run (ofFn (Loop.next (Attached.of readOnly rows cols)))
      (Loop.start (Attached.of readOnly rows cols) view) es s)
    (he : s.step (Attached.of readOnly rows cols) e = some o) :
    InBounds ((Attached.of readOnly rows cols).rows, (Attached.of readOnly rows cols).cols) ∧
      ∀ call ∈ o.calls, Permitted (Attached.of readOnly rows cols)
        (lastGrid (Attached.of readOnly rows cols) es) e call := by
  have hb : InBounds ((Attached.of readOnly rows cols).rows, (Attached.of readOnly rows cols).cols) :=
    inBounds_flooredResize rows cols
  refine ⟨hb, ?_⟩
  rw [← grid_run hr]
  exact step_permitted hb he

/-- A viewer that resizes, is told that the sender does not take it, and scrolls. -/
theorem calls_permitted_scroll :
    let r := Attached.of true 40 100
    ∃ s o, Run (ofFn (Loop.next r)) (Loop.start r .default) [.frame (.resize 10 20) false] s ∧
      s.step r (.frame (.mouse 1 99 39) true) = some o ∧
      o.calls = [.sendMouse .wheelDown 99 39] ∧
      ∀ call ∈ o.calls, Permitted r (lastGrid r [.frame (.resize 10 20) false])
        (.frame (.mouse 1 99 39) true) call := by
  have hr : ∃ s o, Run (ofFn (Loop.next (Attached.of true 40 100)))
      (Loop.start (Attached.of true 40 100) .default) [.frame (.resize 10 20) false] s ∧
      s.step (Attached.of true 40 100) (.frame (.mouse 1 99 39) true) = some o ∧
      o.calls = [.sendMouse .wheelDown 99 39] :=
    ⟨_, _, Run.cons rfl (Run.nil _), rfl, rfl⟩
  obtain ⟨s, o, hr, ho, hcalls⟩ := hr
  exact ⟨s, o, hr, ho, hcalls, (calls_permitted hr ho).2⟩

/-! ### The tracked view over whole runs -/

/-- The live read of a toggle is one of the backend's, of the fixed layout. -/
def Honest (tabOfPane : PaneRef → ℕ) (tabIds : Bool) (s : Loop) (e : Event) : Prop :=
  ∀ pane hint reply answers view, e = .control (some (.toggleFullscreen pane hint reply)) answers →
    s.view = some view → Reads tabOfPane tabIds pane view.focusedPane answers.live

/-- A toggle that is applied stays in the tracked tab: if it is resolved by a live read without tab
ids and moves the focus, the tracked tab is unknown or the target's. -/
def Local (tabOfPane : PaneRef → ℕ) (r : Attached) (s : Loop) (e : Event) : Prop :=
  ∀ pane hint reply answers view, e = .control (some (.toggleFullscreen pane hint reply)) answers →
    s.view = some view → r.readOnly = false → (reply.isSome && answers.gaveUpBefore) = false →
    (reply.isSome && answers.gaveUpAfter) = false → answers.toggleSent = true →
    StaysInTab tabOfPane view pane hint answers.live

/-- The relay's entry agrees with the layout. -/
def Loop.Agrees (tabOfPane : PaneRef → ℕ) (s : Loop) : Prop :=
  ∀ view, s.view = some view → View.Agrees tabOfPane view

/-- A view an attach may start with: the one it was resumed at, one read live, or none. -/
inductive Seeded (tabOfPane : PaneRef → ℕ) : RelayViewState → Prop
  | resumed {view : ResumedView} (h : tabOfPane view.pane = view.tabId) :
      Seeded tabOfPane (viewStateFromResumed view)
  | live {snapshot : LayoutSnapshot} (h : Of tabOfPane snapshot) :
      Seeded tabOfPane (initRelayViewState snapshot)
  | unknown : Seeded tabOfPane .default

section
variable {tabOfPane : PaneRef → ℕ} {tabIds : Bool} {r : Attached} {s t : Loop} {e : Event}

theorem agrees_start {view : RelayViewState} (h : Seeded tabOfPane view) :
    (Loop.start r view).Agrees tabOfPane := by
  rintro _ ⟨⟩
  rcases h with h | h | -
  · exact agrees_viewStateFromResumed h
  · exact agrees_initRelayViewState h
  · exact agrees_of_focusedPane rfl

theorem agrees_close {calls : List SenderCall} {replies : List (ReplyId × Except String Unit)} :
    (s.close r calls replies).loop.Agrees tabOfPane := by
  rintro view ⟨⟩

theorem agrees_updateView {f : RelayViewState → RelayViewState}
    (h : ∀ view, s.view = some view → View.Agrees tabOfPane (f view)) :
    (s.updateView f).Agrees tabOfPane := by
  intro view hv
  obtain ⟨v, hs, rfl⟩ := Option.map_eq_some_iff.mp hv
  exact h v hs

/-- A toggle that is refused would not have moved the focus in a read without tab ids. -/
theorem staysInTab_of_refused {view : RelayViewState} {pane : PaneRef} {hint : Option FloatingHint}
    {live : LiveQuery} {message : String}
    (h : resolveToggleTarget pane hint (RelayTabView.of view) live = .error message) :
    StaysInTab tabOfPane view pane hint live := by
  rintro ctx hhide rfl ht hm
  obtain ⟨applied, hres, -⟩ := resolveLiveContext_untabbed (RelayTabView.of view) ht hm
  have hlive : resolveToggleTarget pane hint (RelayTabView.of view) (.answered ctx) =
      .ok applied := by
    unfold resolveToggleTarget
    rcases hint with - | hint
    · exact hres
    · simp only [hhide hint rfl, if_true]
      exact hres
  rw [h] at hlive
  cases hlive

/-- A toggle keeps the agreement exactly if it is local. -/
theorem agrees_toggle_iff {pane : PaneRef} {hint : Option FloatingHint} {reply : Option ReplyId}
    {answers : Answers} (h : s.Agrees tabOfPane) (hw : r.readOnly = false)
    (hh : Honest tabOfPane tabIds s (.control (some (.toggleFullscreen pane hint reply)) answers)) :
    (s.applyControl r answers (.toggleFullscreen pane hint reply)).loop.Agrees tabOfPane ↔
      Local tabOfPane r s (.control (some (.toggleFullscreen pane hint reply)) answers) := by
  rcases hv : s.view with - | view
  · have hnone : ∀ f : RelayViewState → RelayViewState, (s.updateView f).Agrees tabOfPane := by
      intro f
      exact agrees_updateView fun view hview => absurd (hv.symm.trans hview) (by simp)
    refine ⟨fun _ _ _ _ _ view _ hview => absurd (hv.symm.trans hview) (by simp), fun _ => ?_⟩
    unfold Loop.applyControl
    dsimp only
    split
    · exact hnone _
    · exact h
  · have htab : s.tabView = RelayTabView.of view := by simp [Loop.tabView, hv]
    have hA : View.Agrees tabOfPane view := h view hv
    rcases toggleFullscreenOnce_cases pane hint s.tabView reply answers with
      ⟨message, honce, hwhy⟩ | ⟨resolved, hres, hbefore, hafter, honce⟩
    · have hloop : (s.applyControl r answers (.toggleFullscreen pane hint reply)).loop = s := by
        simp [Loop.applyControl, honce]
      rw [hloop]
      refine ⟨fun _ => ?_, fun _ => h⟩
      rintro pane' hint' reply' answers' view' ⟨⟩ hview - hb ha -
      cases hv.symm.trans hview
      rcases hwhy with hwhy | hwhy | hwhy
      · rw [hb] at hwhy
        exact absurd hwhy (by simp)
      · rw [ha] at hwhy
        exact absurd hwhy (by simp)
      · rw [htab] at hwhy
        exact staysInTab_of_refused hwhy
    · rcases hsent : answers.toggleSent with - | -
      · have hloop : (s.applyControl r answers (.toggleFullscreen pane hint reply)).loop = s := by
          simp [Loop.applyControl, honce, hsent]
        rw [hloop]
        refine ⟨fun _ => ?_, fun _ => h⟩
        rintro pane' hint' reply' answers' view' ⟨⟩ - - - - hs
        rw [hsent] at hs
        exact absurd hs (by simp)
      · have hloop : (s.applyControl r answers (.toggleFullscreen pane hint reply)).loop =
            s.updateView fun v => recordAppliedToggle v pane resolved := by
          simp [Loop.applyControl, honce, hsent]
        rw [hloop]
        rw [htab] at hres
        have hiff := agrees_recordAppliedToggle_iff hA (hh pane hint reply answers view rfl hv) hres
        constructor
        · intro hagree pane' hint' reply' answers' view' he hview _ _ _ _
          cases he
          cases hv.symm.trans hview
          refine hiff.mp (hagree _ ?_)
          simp [Loop.updateView, hv]
        · intro hlocal
          refine agrees_updateView fun view' hview => ?_
          cases hv.symm.trans hview
          exact hiff.mpr (hlocal pane hint reply answers view rfl hv hw hbefore hafter hsent)

/-- Every other event keeps it. -/
theorem agrees_applyControl {answers : Answers} {cmd : RelayControl} (h : s.Agrees tabOfPane)
    (hc : ∀ pane hint reply, cmd ≠ .toggleFullscreen pane hint reply) :
    (s.applyControl r answers cmd).loop.Agrees tabOfPane := by
  rcases cmd with tabId | pane | ⟨workspaceId, reply⟩ | ⟨pane, hint, reply⟩ | reply
  · unfold Loop.applyControl
    rcases answers.op with _ | cause | _
    · exact agrees_updateView fun _ _ => agrees_of_focusedPane rfl
    · exact h
    · exact agrees_close
  · unfold Loop.applyControl
    rcases answers.op with _ | cause | _
    · exact agrees_updateView fun _ _ => agrees_of_activeTab rfl
    · exact h
    · exact agrees_close
  · unfold Loop.applyControl
    rcases answers.op with _ | cause | _
    · exact agrees_updateView fun _ _ => agrees_of_activeTab rfl
    · exact h
    · exact agrees_close
  · exact absurd rfl (hc pane hint reply)
  · unfold Loop.applyControl
    dsimp only
    split_ifs <;> exact h

theorem agrees_applyFrame {frame : ClientFrame} {accepted : Bool} (h : s.Agrees tabOfPane) :
    (s.applyFrame r frame accepted).loop.Agrees tabOfPane := by
  rcases frame with bytes | ⟨rows, cols⟩ | ⟨kind, col, row⟩ | _ | _
  · exact h
  · rcases accepted with - | - <;> exact h
  · exact h
  · exact h
  · exact h

/-- One event keeps the agreement exactly if it is local. -/
theorem agrees_step_iff (h : s.Agrees tabOfPane) (hh : Honest tabOfPane tabIds s e)
    (ht : s.next r e = some t) : t.Agrees tabOfPane ↔ Local tabOfPane r s e := by
  obtain ⟨o, ho, rfl⟩ := Option.map_eq_some_iff.mp ht
  obtain ⟨hcontrol, -, rfl⟩ | ⟨cmd, answers, rfl, hg, rfl⟩ | ⟨cmd, answers, c, rfl, hg, rfl⟩ |
    ⟨frame, accepted, rfl, rfl⟩ := step_cases ho
  · refine ⟨fun _ => ?_, fun _ => agrees_close⟩
    rintro pane hint reply answers view he
    exact absurd he (hcontrol _ _)
  · refine ⟨fun _ => ?_, fun _ => h⟩
    -- the command was denied, so the relay is a viewer's
    rintro pane hint reply answers view ⟨⟩ - hw
    simp [gateControl, hw] at hg
  · obtain ⟨c', rfl, hc⟩ := Option.bind_eq_some_iff.mp hg
    have hcc : c' = c := by
      split_ifs at hc with hd
      exact Option.some.inj hc
    subst hcc
    by_cases htoggle : ∃ pane hint reply, c' = .toggleFullscreen pane hint reply
    · obtain ⟨pane, hint, reply, rfl⟩ := htoggle
      exact agrees_toggle_iff h (gateControl_toggle hg) hh
    · push Not at htoggle
      refine ⟨fun _ => ?_, fun _ => agrees_applyControl h htoggle⟩
      rintro pane hint reply answers view ⟨⟩
      exact absurd rfl (htoggle pane hint reply)
  · refine ⟨fun _ => ?_, fun _ => agrees_applyFrame h⟩
    rintro pane hint reply answers view he
    cases he

end

/-- **The tracked pane lies in the tracked tab in exactly the runs whose toggles are local.** -/
theorem views_agree_iff {tabOfPane : PaneRef → ℕ} {tabIds : Bool} {r : Attached}
    {view : RelayViewState} {es : List Event} {s : Loop} (hv : Seeded tabOfPane view)
    (hr : Run (ofFn (Loop.next r)) (Loop.start r view) es s)
    (hh : Along (ofFn (Loop.next r)) (fun _ => Honest tabOfPane tabIds) (Loop.start r view) es) :
    (∀ pre post u, es = pre ++ post → Run (ofFn (Loop.next r)) (Loop.start r view) pre u →
      u.Agrees tabOfPane) ↔
      Along (ofFn (Loop.next r)) (fun _ => Local tabOfPane r) (Loop.start r view) es := by
  refine hr.always_iff ofFn_unique (fun pre e post u v he hu hA huv => ?_) (agrees_start hv)
  exact agrees_step_iff hA (hh pre e post u he hu) huv

/-- A toggle of a backend with tab ids is local. -/
theorem local_of_tabbed {tabOfPane : PaneRef → ℕ} {r : Attached} {s : Loop} {e : Event}
    (h : Honest tabOfPane true s e) : Local tabOfPane r s e := by
  rintro pane hint reply answers view he hv - - - - ctx - hlive ht hm
  have hw : Within tabOfPane pane view.focusedPane ctx :=
    h pane hint reply answers view he hv ctx hlive
  have hexist : ctx.exist = true := by
    unfold movesFocus at hm
    rw [Bool.and_eq_true] at hm
    exact hm.1
  rw [hw.tab hexist] at ht
  exact absurd ht (by simp)

/-- On a backend with tab ids the tracked pane lies in the tracked tab in every run. -/
theorem views_agree_tabbed {tabOfPane : PaneRef → ℕ} {r : Attached} {view : RelayViewState}
    {es : List Event} {s : Loop} (hv : Seeded tabOfPane view)
    (hr : Run (ofFn (Loop.next r)) (Loop.start r view) es s)
    (hh : Along (ofFn (Loop.next r)) (fun _ => Honest tabOfPane true) (Loop.start r view) es) :
    s.Agrees tabOfPane := by
  have hstep : ∀ (_ : List Event) s e t, s.Agrees tabOfPane → Honest tabOfPane true s e →
      ofFn (Loop.next r) s e t → t.Agrees tabOfPane :=
    fun _ _ _ _ hA hc ht => (agrees_step_iff hA hc ht).mpr (local_of_tabbed hc)
  exact hr.invariant_along hstep (agrees_start hv) hh

/-! ### A toggle in another tab -/

/-- Panes 1 and 2 are in tabs 1 and 2. -/
def paneOfTab (pane : PaneRef) : ℕ := pane.id

/-- A toggle that nothing holds up, read live from a backend without tab ids. -/
def promptToggle : Answers :=
  ⟨.ok, false, false, .answered (.untabbed false false none), true, true, true⟩

theorem honest_promptToggle (s : Loop) (pane : PaneRef) (hint : Option FloatingHint)
    (reply : Option ReplyId) :
    Honest paneOfTab false s (.control (some (.toggleFullscreen pane hint reply)) promptToggle) := by
  rintro _ _ _ _ view ⟨⟩ - ctx ⟨⟩
  rfl

/-- A writer resumed on pane 1 toggles pane 2: the relay tracks pane 2, in tab 1. -/
theorem toggle_leaves_tab :
    let r := Attached.of false 24 80
    let view := viewStateFromResumed ⟨"ws", 1, ⟨1, false⟩⟩
    let e : Event := .control (some (.toggleFullscreen ⟨2, false⟩ none (some 0))) promptToggle
    ∃ s, Seeded paneOfTab view ∧ Run (ofFn (Loop.next r)) (Loop.start r view) [e] s ∧
      Honest paneOfTab false (Loop.start r view) e ∧
      s.view = some ⟨some 1, some ⟨2, false⟩, some "ws"⟩ ∧ ¬ s.Agrees paneOfTab := by
  intro r view e
  refine ⟨_, .resumed rfl, Run.cons rfl (Run.nil _), honest_promptToggle _ _ _ _, rfl,
    fun h => ?_⟩
  exact absurd (h _ rfl ⟨2, false⟩ 1 rfl rfl) (by decide)

theorem views_agree_iff_toggle :
    let r := Attached.of false 24 80
    let view := viewStateFromResumed ⟨"ws", 1, ⟨1, false⟩⟩
    let e : Event := .control (some (.toggleFullscreen ⟨2, false⟩ none (some 0))) promptToggle
    (∀ pre post u, [e] = pre ++ post → Run (ofFn (Loop.next r)) (Loop.start r view) pre u →
      u.Agrees paneOfTab) ↔
      Along (ofFn (Loop.next r)) (fun _ => Local paneOfTab r) (Loop.start r view) [e] := by
  intro r view e
  have hr : ∃ s, Run (ofFn (Loop.next r)) (Loop.start r view) [e] s :=
    ⟨_, Run.cons rfl (Run.nil _)⟩
  obtain ⟨s, hr⟩ := hr
  have hh : Along (ofFn (Loop.next r)) (fun _ => Honest paneOfTab false) (Loop.start r view)
      [e] :=
    along_cons_iff.mpr ⟨honest_promptToggle _ _ _ _, fun t _ => along_nil _ t⟩
  exact views_agree_iff (.resumed rfl) hr hh

end MuxrCore.Relay.Inbound
