import MuxrCore.Relay.Reader

/-! # What the client is shown

One run of the render loop, over all messages that the backend sends. In each round the thread looks
at the layout queries twice, and it may find any queries handed over and any receivers gone; a Log
may have any contents. The frames sent are the same whatever it finds (`frames_congr`): they are
those of the messages up to the first exit (`render_transparent`). -/

namespace MuxrCore.Relay.Render

open MuxrCore.Multiplexer.Layout MuxrCore.Relay.Reader

variable {L : Type}

/-- What the thread finds when it looks at the queries: those handed over, and whose receiver is
gone. -/
structure Glimpse (L : Type) where
  queued : List (InFlightQuery L)
  closed : ℕ → Bool

/-- What the thread finds in one round: the stop flag and the queries, before it waits for a message
and after; whose receiver is gone when a Log is captured; and whether the client takes a frame. -/
structure Round (L : Type) where
  stopTop : Bool
  before : Glimpse L
  stopWoken : Bool
  after : Glimpse L
  closed : ℕ → Bool
  delivered : Bool

/-- What a run leads to: the frames sent, the number of renders among them, and the queries that
were answered. -/
structure Rendered (L : Type) where
  frames : List ServerFrame
  renders : ℕ
  fulfilled : List (Fulfilled L)

/-- The thread ends. -/
def Rendered.exited : Rendered L := ⟨[], 0, []⟩

/-- A control frame goes first. -/
def Rendered.control (frame : ServerFrame) (r : Rendered L) : Rendered L :=
  { r with frames := frame :: r.frames }

/-- A render goes first. -/
def Rendered.render (bytes : List UInt8) (r : Rendered L) : Rendered L :=
  { r with frames := .render bytes :: r.frames, renders := r.renders + 1 }

/-- A query may have been answered first. -/
def Rendered.answered (answer : Option (Fulfilled L)) (r : Rendered L) : Rendered L :=
  { r with fulfilled := answer.toList ++ r.fulfilled }

def Glimpse.drain (g : Glimpse L) (inFlight : Option (InFlightQuery L)) :
    Option (InFlightQuery L) :=
  drainQueries g.closed g.queued inFlight

section
variable (json : L → String) (parse : String → String → Except String LayoutSnapshot)
  (rounds : ℕ → Round L)

/-- The loop from its `n`-th round on, until the backend has sent its last message. -/
def renderLoop (n : ℕ) (inFlight : Option (InFlightQuery L)) (msgs : List (MuxServerMsg L)) :
    Rendered L :=
  if (rounds n).stopTop then .exited
  else
    let inFlight := (rounds n).before.drain inFlight
    match msgs with
    | [] => .exited
    | msg :: msgs =>
      if (rounds n).stopWoken then .exited
      else
        let inFlight := (rounds n).after.drain inFlight
        match msg with
        | .render content =>
          if (rounds n).delivered then (renderLoop (n + 1) inFlight msgs).render content
          else .exited
        | .log log =>
          let (inFlight, answer) := captureQueryLog (rounds n).closed json parse inFlight log
          (renderLoop (n + 1) inFlight msgs).answered answer
        | .event (.exit reason) =>
          if (rounds n).delivered then Rendered.exited.control (MuxEvent.exit reason).frame
          else .exited
        | .event event =>
          if (rounds n).delivered then (renderLoop (n + 1) inFlight msgs).control event.frame
          else .exited
        | .other => renderLoop (n + 1) inFlight msgs

end

/-! ### The messages that are shown -/

/-- The session has ended. -/
def IsExit : MuxServerMsg L → Bool
  | .event (.exit _) => true
  | _ => false

def IsRender : MuxServerMsg L → Bool
  | .render _ => true
  | _ => false

/-- The frame of a message. -/
def frameOf : MuxServerMsg L → Option ServerFrame
  | .render bytes => some (.render bytes)
  | .event event => some event.frame
  | _ => none

/-- The messages up to the first exit, and that exit. -/
def upToExit (msgs : List (MuxServerMsg L)) : List (MuxServerMsg L) :=
  msgs.takeWhile (fun msg => !IsExit msg) ++ (msgs.dropWhile fun msg => !IsExit msg).take 1

/-- The stop flag is not set, and the client takes all frames. -/
def Clear (rounds : ℕ → Round L) : Prop :=
  ∀ n, (rounds n).stopTop = false ∧ (rounds n).stopWoken = false ∧ (rounds n).delivered = true

/-- The stop flag and the client are the same; the queries may differ. -/
def SameOutlet (rounds rounds' : ℕ → Round L) : Prop :=
  ∀ n, (rounds n).stopTop = (rounds' n).stopTop ∧ (rounds n).stopWoken = (rounds' n).stopWoken ∧
    (rounds n).delivered = (rounds' n).delivered

theorem Clear.sameOutlet {rounds rounds' : ℕ → Round L} (h : Clear rounds) (h' : Clear rounds') :
    SameOutlet rounds rounds' := by
  intro n
  obtain ⟨htop, hwoken, hdelivered⟩ := h n
  obtain ⟨htop', hwoken', hdelivered'⟩ := h' n
  exact ⟨htop.trans htop'.symm, hwoken.trans hwoken'.symm, hdelivered.trans hdelivered'.symm⟩

theorem upToExit_of_exit {msg : MuxServerMsg L} (h : IsExit msg = true)
    (msgs : List (MuxServerMsg L)) : upToExit (msg :: msgs) = [msg] := by
  simp [upToExit, h]

theorem upToExit_cons {msg : MuxServerMsg L} (h : IsExit msg = false)
    (msgs : List (MuxServerMsg L)) : upToExit (msg :: msgs) = msg :: upToExit msgs := by
  simp [upToExit, h]

/-! ### The frames of a run -/

section
variable {json : L → String} {parse : String → String → Except String LayoutSnapshot}
  {rounds rounds' : ℕ → Round L}

/-- **The queries do not show**: with the same stop flags and the same client, the same frames are
sent. -/
theorem frames_congr (h : SameOutlet rounds rounds') (n : ℕ)
    (held held' : Option (InFlightQuery L)) (msgs : List (MuxServerMsg L)) :
    (renderLoop json parse rounds n held msgs).frames =
        (renderLoop json parse rounds' n held' msgs).frames ∧
      (renderLoop json parse rounds n held msgs).renders =
        (renderLoop json parse rounds' n held' msgs).renders := by
  induction msgs generalizing n held held' with
  | nil =>
    rw [renderLoop, renderLoop, (h n).1]
    split <;> exact ⟨rfl, rfl⟩
  | cons msg msgs ih =>
    obtain ⟨htop, hwoken, hdelivered⟩ := h n
    rw [renderLoop, renderLoop, htop, hwoken]
    split
    · exact ⟨rfl, rfl⟩
    dsimp only
    split
    · exact ⟨rfl, rfl⟩
    rcases msg with bytes | log | event | _
    · dsimp only
      rw [hdelivered]
      split
      · obtain ⟨hframes, hrenders⟩ := ih _ _ _
        exact ⟨congrArg (_ :: ·) hframes, congrArg (· + 1) hrenders⟩
      · exact ⟨rfl, rfl⟩
    · exact ih _ _ _
    · rcases event with reason | name | _ | name
      · dsimp only
        rw [hdelivered]
        split <;> exact ⟨rfl, rfl⟩
      all_goals
        dsimp only
        rw [hdelivered]
        split
        · obtain ⟨hframes, hrenders⟩ := ih _ _ _
          exact ⟨congrArg (_ :: ·) hframes, hrenders⟩
        · exact ⟨rfl, rfl⟩
    · exact ih _ _ _

/-- With nothing in the way, the frames are those of the messages up to the first exit. -/
theorem frames_of_clear (h : Clear rounds) (n : ℕ) (held : Option (InFlightQuery L))
    (msgs : List (MuxServerMsg L)) :
    (renderLoop json parse rounds n held msgs).frames = (upToExit msgs).filterMap frameOf ∧
      (renderLoop json parse rounds n held msgs).renders = (upToExit msgs).countP IsRender := by
  induction msgs generalizing n held with
  | nil =>
    rw [renderLoop, (h n).1]
    exact ⟨rfl, rfl⟩
  | cons msg msgs ih =>
    obtain ⟨htop, hwoken, hdelivered⟩ := h n
    rw [renderLoop, htop, hwoken]
    dsimp only
    rcases msg with bytes | log | event | _
    · rw [hdelivered, upToExit_cons rfl]
      obtain ⟨hframes, hrenders⟩ := ih (n + 1) _
      refine ⟨congrArg (_ :: ·) hframes, ?_⟩
      rw [List.countP_cons_of_pos rfl]
      exact congrArg (· + 1) hrenders
    · rw [upToExit_cons rfl]
      exact ih _ _
    · rw [hdelivered]
      rcases event with reason | name | _ | name
      · rw [upToExit_of_exit rfl]
        exact ⟨rfl, rfl⟩
      all_goals
        rw [upToExit_cons rfl]
        obtain ⟨hframes, hrenders⟩ := ih (n + 1) _
        exact ⟨congrArg (_ :: ·) hframes, hrenders⟩
    · rw [upToExit_cons rfl]
      exact ih _ _

/-- **Render transparency: two runs over the same messages send the same frames, whatever queries
they find, and these are the frames of the messages up to the first exit.** -/
theorem render_transparent (h : Clear rounds) (h' : Clear rounds')
    (msgs : List (MuxServerMsg L)) :
    (renderLoop json parse rounds 0 none msgs).frames =
        (renderLoop json parse rounds' 0 none msgs).frames ∧
      (renderLoop json parse rounds 0 none msgs).frames = (upToExit msgs).filterMap frameOf ∧
      (renderLoop json parse rounds 0 none msgs).renders = (upToExit msgs).countP IsRender :=
  ⟨(frames_congr (h.sameOutlet h') 0 none none msgs).1, frames_of_clear h 0 none msgs⟩

end

/-! ### A query among the messages -/

/-- A round in which nothing is handed over, or one query. -/
def roundOf (queued : List (InFlightQuery String)) : Round String :=
  ⟨false, ⟨queued, fun _ => false⟩, false, ⟨[], fun _ => false⟩, fun _ => false, true⟩

/-- A query is handed over in the first round, and its Logs arrive around a render. -/
def asking (n : ℕ) : Round String := if n = 0 then roundOf [⟨3, none⟩] else roundOf []

def quiet (_ : ℕ) : Round String := roundOf []

def someMessages : List (MuxServerMsg String) :=
  [.log "tabs", .render [104, 105], .log "panes", .event (.exit "bye"), .render [0]]

theorem render_transparent_asking :
    (renderLoop id (fun _ _ => .ok ⟨[]⟩) asking 0 none someMessages).frames =
        (renderLoop id (fun _ _ => .ok ⟨[]⟩) quiet 0 none someMessages).frames ∧
      (renderLoop id (fun _ _ => .ok ⟨[]⟩) asking 0 none someMessages).frames =
        (upToExit someMessages).filterMap frameOf ∧
      (renderLoop id (fun _ _ => .ok ⟨[]⟩) asking 0 none someMessages).renders =
        (upToExit someMessages).countP IsRender := by
  refine render_transparent (fun n => ?_) (fun n => ⟨rfl, rfl, rfl⟩) someMessages
  unfold asking
  split <;> exact ⟨rfl, rfl, rfl⟩

/-- There the query is answered as well. -/
example : (renderLoop id (fun _ _ => .ok ⟨[]⟩) asking 0 none someMessages).fulfilled.map
    (fun f => (f.tabs, f.panes)) = [("tabs", "panes")] := by decide

end MuxrCore.Relay.Render
