import MuxrCore.Notify.Sender

/-! # When the notifier sends

`handleEvent` handles one event of the bus, with what the registry, the clock and the push relay
answer in the meantime: the table of the recent sends and the effects. `Debouncer.shouldSend` prunes
the table on each decision. A line of the log may panic, and then the task is gone with its table.

* `run_handleEvent`: the steps of the notifier do what `handleEvent` computes.
* `send_discipline_iff`: an event sends exactly if it is due by the events that sent before it, and
  then every device has its attempts and a handle is removed exactly if its last attempt found it
  gone; provided that no line about a handle with a character across its eighth byte comes before
  the last that is to be done.
* `gone_stays`: such a handle is not removed, and the devices after it get nothing. -/

namespace MuxrCore.Notify.Debounce

open MuxrCore.Lib.Runs MuxrCore.Lib.Slice MuxrCore.Multiplexer.Agents MuxrCore.Grpc.PushOps
  MuxrCore.Notify.Devices MuxrCore.Notify.Sender

/-- What the notifier does outside: an attempt with its outcome, or a removal. -/
inductive Effect
  | send (handle : String) (content : NotifyContent) (outcome : SendOutcome)
  | removeByHandle (handle : String)
  deriving DecidableEq, Repr

/-- Send to one handle, once more if the failure is transient. The relay answers the `n`-th attempt
of an event with `relay n`; the outcomes of the attempts, and the last of them. -/
def sendWithRetry (relay : ℕ → SendOutcome) (n : ℕ) : List SendOutcome × SendOutcome :=
  match relay n with
  | .transient => ([.transient, relay (n + 1)], relay (n + 1))
  | other => ([other], other)

/-- Send to each of the devices, and log how it went; a handle that is gone is removed. The effects,
and whether a line panics. -/
def fanOut (maxLevel : Option Level) (content : NotifyContent) (relay : ℕ → SendOutcome) :
    ℕ → List PushDevice → List Effect × Bool
  | _, [] => ([], false)
  | n, device :: rest =>
    let (attempts, outcome) := sendWithRetry relay n
    let sends := attempts.map (Effect.send device.pushHandle content)
    -- the line comes first, whatever the outcome
    if panics maxLevel outcome device.pushHandle then (sends, true)
    else
      let (effects, panicked) := fanOut maxLevel content relay (n + attempts.length) rest
      match outcome with
      | .gone => (sends ++ Effect.removeByHandle device.pushHandle :: effects, panicked)
      | .ok => (sends ++ effects, panicked)
      | .rateLimited => (sends ++ effects, panicked)
      | .transient => (sends ++ effects, panicked)

/-- An event, and what is read and answered while it is handled. -/
structure Visit where
  ev : AgentStatusChanged
  registry : Except String (List PushDevice)
  now : ℕ
  relay : ℕ → SendOutcome

/-- Handle one event; the table is gone if a line panics. -/
def handleEvent (maxLevel : Option Level) (verbosity : String) (d : Debouncer) (v : Visit) :
    Option Debouncer × List Effect :=
  match triggerKind v.ev.status with
  | none => (some d, [])
  | some kind =>
    if v.ev.synthetic && kind = .done then (some d, [])
    else match v.registry with
      | .error _ => (some d, [])
      | .ok [] => (some d, [])
      | .ok (device :: rest) =>
        match d.shouldSend v.ev.pane kind v.now with
        | (d, false) => (some d, [])
        | (d, true) =>
          let (effects, panicked) :=
            fanOut maxLevel (contentFor kind v.ev verbosity) v.relay 0 (device :: rest)
          (if panicked then none else some d, effects)

/-- What the task does on an event; one that has panicked does nothing any more. -/
def notify (maxLevel : Option Level) (verbosity : String) (task : Option Debouncer) (v : Visit) :
    Option Debouncer × List Effect :=
  match task with
  | none => (none, [])
  | some d => handleEvent maxLevel verbosity d v

/-- The task after the events. -/
def after (maxLevel : Option Level) (verbosity : String) (task : Option Debouncer)
    (vs : List Visit) : Option Debouncer :=
  vs.foldl (fun task v => (notify maxLevel verbosity task v).1) task

/-! ### The discipline -/

/-- The events that sent. -/
def sent (maxLevel : Option Level) (verbosity : String) :
    Option Debouncer → List Visit → List Visit
  | _, [] => []
  | task, v :: vs =>
    let (task, effects) := notify maxLevel verbosity task v
    if effects = [] then sent maxLevel verbosity task vs
    else v :: sent maxLevel verbosity task vs

/-- When the last of the events of a pane and kind happened. -/
def lastOf (pane : ℕ) (kind : TriggerKind) (vs : List Visit) : Option ℕ :=
  ((vs.filter fun v => v.ev.pane = pane ∧ triggerKind v.ev.status = some kind).getLast?).map
    Visit.now

/-- An agent waits for input, or has finished and this is not observed again. -/
inductive Triggers (ev : AgentStatusChanged) : TriggerKind → Prop
  | blocked (h : ev.status = .blocked) : Triggers ev .blocked
  | done (h : ev.status = .done) (hs : ev.synthetic = false) : Triggers ev .done

/-- The event is to be sent to the devices, given the events that sent before it. -/
structure Due (before : List Visit) (v : Visit) (kind : TriggerKind) (devices : List PushDevice) :
    Prop where
  triggers : Triggers v.ev kind
  registry : v.registry = .ok devices
  nonempty : devices ≠ []
  elapsed : ∀ t, lastOf v.ev.pane kind before = some t → t + debounceWindow ≤ v.now

/-- What the attempts at a device come to: one, or two if the first failure is transient. -/
def Attempts : List SendOutcome → Prop
  | [o] => o ≠ .transient
  | [o, _] => o = .transient
  | _ => False

/-- The effects at a device. -/
def effectsAt (content : NotifyContent) (device : PushDevice) (attempts : List SendOutcome) :
    List Effect :=
  attempts.map (Effect.send device.pushHandle content) ++
    if attempts.getLast? = some .gone then [Effect.removeByHandle device.pushHandle] else []

/-- **What the notifier is to do** on an event after others. -/
structure Disciplined (maxLevel : Option Level) (verbosity : String) (before : List Visit)
    (v : Visit) : Prop where
  sends : (notify maxLevel verbosity (after maxLevel verbosity (some .new) before) v).2 ≠ [] ↔
    ∃ kind devices, Due (sent maxLevel verbosity (some .new) before) v kind devices
  complete : ∀ kind devices, Due (sent maxLevel verbosity (some .new) before) v kind devices →
    ∃ attempts : List (List SendOutcome), attempts.length = devices.length ∧
      (∀ a ∈ attempts, Attempts a) ∧
      attempts.flatten = (List.range attempts.flatten.length).map v.relay ∧
      (notify maxLevel verbosity (after maxLevel verbosity (some .new) before) v).2 =
        (List.zipWith (effectsAt (contentFor kind v.ev verbosity)) devices attempts).flatten

/-! ### The lines that panic -/

/-- The devices, each with the outcome of its last attempt when each has its attempts. -/
def outcomes (relay : ℕ → SendOutcome) : ℕ → List PushDevice → List (PushDevice × SendOutcome)
  | _, [] => []
  | n, device :: rest =>
    (device, (sendWithRetry relay n).2) ::
      outcomes relay (n + (sendWithRetry relay n).1.length) rest

/-- The log takes the line about a device, and a character of its handle is cut. -/
def Splits (maxLevel : Option Level) (p : PushDevice × SendOutcome) : Prop :=
  logs maxLevel p.2.level = true ∧ Cut handlePrefixLen p.1.pushHandle

/-- No line has a cut handle before the last that is to be done for the devices. -/
def Through (maxLevel : Option Level) (relay : ℕ → SendOutcome) (n : ℕ)
    (devices : List PushDevice) : Prop :=
  ∀ pre p post, outcomes relay n devices = pre ++ p :: post → Splits maxLevel p →
    post = [] ∧ p.2 ≠ .gone

/-- A line of the event has a cut handle. -/
def Breaks (maxLevel : Option Level) (v : Visit) : Prop :=
  ∃ devices, v.registry = .ok devices ∧ ∃ p ∈ outcomes v.relay 0 devices, Splits maxLevel p

open Classical in
/-- The events that are due, each by those before it that are. -/
noncomputable def dues (vs : List Visit) : List Visit :=
  vs.foldl (fun before v =>
    if ∃ kind devices, Due before v kind devices then before ++ [v] else before) []

/-- Only the last event that is due has a line with a cut handle, and no such line before the last
that is to be done for its devices. -/
def Unbroken (maxLevel : Option Level) (vs : List Visit) : Prop :=
  ∀ before v later, dues vs = before ++ v :: later → Breaks maxLevel v →
    later = [] ∧ ∀ devices, v.registry = .ok devices → Through maxLevel v.relay 0 devices

variable {maxLevel : Option Level} {verbosity : String} {d : Debouncer} {v : Visit}
  {kind : TriggerKind} {content : NotifyContent} {relay : ℕ → SendOutcome} {n : ℕ}
  {devices : List PushDevice}

/-! ### One round -/

theorem attempts_sendWithRetry (relay : ℕ → SendOutcome) (n : ℕ) :
    Attempts (sendWithRetry relay n).1 ∧
      (sendWithRetry relay n).1.getLast? = some (sendWithRetry relay n).2 ∧
      (sendWithRetry relay n).1 =
        (List.range (sendWithRetry relay n).1.length).map fun i => relay (n + i) := by
  unfold sendWithRetry
  split
  · rename_i h
    exact ⟨rfl, rfl, by simp [List.range_succ, h]⟩
  · rename_i h
    exact ⟨h, rfl, by simp [List.range_succ]⟩

/-- The answers of the relay leave no choice of the attempts. -/
theorem eq_sendWithRetry {attempts : List SendOutcome} (ha : Attempts attempts)
    (hrelay : attempts = (List.range attempts.length).map fun i => relay (n + i)) :
    attempts = (sendWithRetry relay n).1 := by
  unfold sendWithRetry
  match attempts, ha with
  | [o], ho =>
    obtain rfl : o = relay n := by simpa [List.range_succ] using hrelay
    split
    · rename_i hn
      exact absurd hn ho
    · rfl
  | [o, o'], ho =>
    obtain ⟨h, rfl⟩ : o = relay n ∧ o' = relay (n + 1) := by
      simpa [List.range_succ] using hrelay
    have hn : relay n = .transient := h.symm.trans ho
    rw [hn, h, hn]

theorem ne_nil_of_attempts : (sendWithRetry relay n).1 ≠ [] := by
  obtain ⟨-, hlast, -⟩ := attempts_sendWithRetry relay n
  intro hnil
  rw [hnil] at hlast
  cases hlast

/-- What is done for the devices if no line panics. -/
def wholeRound (content : NotifyContent) (relay : ℕ → SendOutcome) :
    ℕ → List PushDevice → List Effect
  | _, [] => []
  | n, device :: rest =>
    effectsAt content device (sendWithRetry relay n).1 ++
      wholeRound content relay (n + (sendWithRetry relay n).1.length) rest

theorem wholeRound_ne_nil (h : devices ≠ []) : wholeRound content relay n devices ≠ [] := by
  obtain ⟨device, rest, rfl⟩ := List.exists_cons_of_ne_nil h
  simp [wholeRound, effectsAt, ne_nil_of_attempts]

/-- **The effects of a whole round** are those of some attempts at each device that the relay
answers in turn, and no others. -/
theorem exists_attempts_iff {effects : List Effect} :
    (∃ attempts : List (List SendOutcome), attempts.length = devices.length ∧
      (∀ a ∈ attempts, Attempts a) ∧
      attempts.flatten = ((List.range attempts.flatten.length).map fun i => relay (n + i)) ∧
      effects = (List.zipWith (effectsAt content) devices attempts).flatten) ↔
      effects = wholeRound content relay n devices := by
  induction devices generalizing n effects with
  | nil =>
    constructor
    · rintro ⟨attempts, hlen, -, -, rfl⟩
      rfl
    · rintro rfl
      exact ⟨[], rfl, by simp, rfl, rfl⟩
  | cons device rest ih =>
    constructor
    · rintro ⟨_ | ⟨a, attempts⟩, hlen, hall, hflat, rfl⟩
      · cases hlen
      obtain ⟨ha, hrest⟩ := List.forall_mem_cons.mp hall
      rw [List.flatten_cons, List.length_append, List.range_add, List.map_append,
        List.map_map] at hflat
      have hparts := List.append_inj hflat (by simp)
      have hfirst : a = (sendWithRetry relay n).1 := eq_sendWithRetry ha hparts.1
      have hothers : attempts.flatten =
          (List.range attempts.flatten.length).map fun i => relay (n + a.length + i) := by
        refine hparts.2.trans (List.map_congr_left fun i _ => ?_)
        simp [Nat.add_assoc]
      rw [wholeRound, ← hfirst, ← ih.mp ⟨attempts, by simpa using hlen, hrest, hothers, rfl⟩]
      rfl
    · rintro rfl
      obtain ⟨ha, -, hfirst⟩ := attempts_sendWithRetry relay n
      obtain ⟨attempts, hlen, hall, hflat, heq⟩ :=
        (ih (n := n + (sendWithRetry relay n).1.length)).mpr rfl
      refine ⟨(sendWithRetry relay n).1 :: attempts, by simp [hlen], ?_, ?_, ?_⟩
      · exact List.forall_mem_cons.mpr ⟨ha, hall⟩
      · rw [List.flatten_cons, List.length_append, List.range_add, List.map_append, List.map_map,
          ← hfirst]
        congr 1
        refine hflat.trans (List.map_congr_left fun i _ => ?_)
        simp [Nat.add_assoc]
      · rw [wholeRound, heq]
        rfl

theorem splits_iff {p : PushDevice × SendOutcome} :
    Splits maxLevel p ↔ panics maxLevel p.2 p.1.pushHandle = true :=
  panics_iff_cut.symm

/-- A round stops at the first device whose line panics, before anything is removed. -/
theorem fanOut_cons (device : PushDevice) (rest : List PushDevice) :
    fanOut maxLevel content relay n (device :: rest) =
      if panics maxLevel (sendWithRetry relay n).2 device.pushHandle then
        ((sendWithRetry relay n).1.map (Effect.send device.pushHandle content), true)
      else
        (effectsAt content device (sendWithRetry relay n).1 ++
          (fanOut maxLevel content relay (n + (sendWithRetry relay n).1.length) rest).1,
        (fanOut maxLevel content relay (n + (sendWithRetry relay n).1.length) rest).2) := by
  obtain ⟨-, hlast, -⟩ := attempts_sendWithRetry relay n
  simp only [fanOut, effectsAt, hlast]
  by_cases hp : panics maxLevel (sendWithRetry relay n).2 device.pushHandle = true
  · rw [if_pos hp, if_pos hp]
  · rw [if_neg hp, if_neg hp]
    cases (sendWithRetry relay n).2 <;> simp

theorem fanOut_ne_nil (h : devices ≠ []) : (fanOut maxLevel content relay n devices).1 ≠ [] := by
  obtain ⟨device, rest, rfl⟩ := List.exists_cons_of_ne_nil h
  rw [fanOut_cons]
  split_ifs
  · simp [ne_nil_of_attempts]
  · simp [effectsAt, ne_nil_of_attempts]

/-- A round panics exactly if a line has a cut handle. -/
theorem fanOut_panics_iff : (fanOut maxLevel content relay n devices).2 = true ↔
    ∃ p ∈ outcomes relay n devices, Splits maxLevel p := by
  induction devices generalizing n with
  | nil => simp [fanOut, outcomes]
  | cons device rest ih =>
    rw [fanOut_cons, outcomes, List.exists_mem_cons_iff, splits_iff, ← ih]
    split_ifs with hp
    · exact iff_of_true rfl (Or.inl hp)
    · exact ⟨Or.inr, fun h => h.resolve_left hp⟩

theorem through_cons {device : PushDevice} {rest : List PushDevice} :
    Through maxLevel relay n (device :: rest) ↔
      (Splits maxLevel (device, (sendWithRetry relay n).2) →
        rest = [] ∧ (sendWithRetry relay n).2 ≠ .gone) ∧
      Through maxLevel relay (n + (sendWithRetry relay n).1.length) rest := by
  have hnil : ∀ m, outcomes relay m rest = [] ↔ rest = [] := by
    intro m
    cases rest with
    | nil => exact ⟨fun _ => rfl, fun _ => rfl⟩
    | cons => simp [outcomes]
  constructor
  · intro h
    constructor
    · intro hs
      obtain ⟨hrest, hgone⟩ := h [] _ _ rfl hs
      exact ⟨(hnil _).mp hrest, hgone⟩
    · intro pre p post he hs
      exact h (_ :: pre) p post (congrArg (_ :: ·) he) hs
  · rintro ⟨hfirst, hothers⟩ pre p post he hs
    rcases pre with - | ⟨q, pre⟩
    · obtain ⟨rfl, rfl⟩ := List.cons.inj he
      obtain ⟨hrest, hgone⟩ := hfirst hs
      exact ⟨(hnil _).mpr hrest, hgone⟩
    · exact hothers pre p post (List.cons.inj he).2 hs

/-- **A round is whole** exactly if no line has a cut handle before the last that is to be done. -/
theorem fanOut_eq_wholeRound_iff (content : NotifyContent) :
    (fanOut maxLevel content relay n devices).1 = wholeRound content relay n devices ↔
      Through maxLevel relay n devices := by
  induction devices generalizing n with
  | nil =>
    refine iff_of_true rfl ?_
    intro pre p post he
    simp [outcomes] at he
  | cons device rest ih =>
    obtain ⟨-, hlast, -⟩ := attempts_sendWithRetry relay n
    rw [through_cons, fanOut_cons, wholeRound, splits_iff]
    split_ifs with hp
    · -- the line panics: the removal and the other devices are left
      have hrest : wholeRound content relay (n + (sendWithRetry relay n).1.length) rest = [] ↔
          rest = [] := by
        refine ⟨fun h => ?_, fun h => h ▸ rfl⟩
        by_contra hne
        exact wholeRound_ne_nil hne h
      constructor
      · intro h
        simp only [effectsAt, List.append_assoc, List.self_eq_append_right, List.append_eq_nil_iff,
          hlast, hrest, ite_eq_right_iff, Option.some.injEq] at h
        obtain ⟨hgone, rfl⟩ := h
        refine ⟨fun _ => ⟨rfl, fun hg => absurd (hgone hg) (by simp)⟩, ?_⟩
        exact ih.mp rfl
      · rintro ⟨h, -⟩
        obtain ⟨rfl, hgone⟩ := h hp
        simp [effectsAt, hlast, hgone, wholeRound]
    · rw [List.append_cancel_left_eq, ih]
      exact ⟨fun h => ⟨fun hs => absurd hs hp, h⟩, fun h => h.2⟩

theorem triggers_iff : Triggers v.ev kind ↔
    triggerKind v.ev.status = some kind ∧ (v.ev.synthetic && kind = .done) = false := by
  constructor
  · rintro (h | ⟨h, hs⟩)
    · simp [triggerKind, h]
    · simp [triggerKind, h, hs]
  · rintro ⟨hk, hs⟩
    cases hst : v.ev.status <;> simp only [triggerKind, hst, reduceCtorEq, Option.some.injEq] at hk
    · subst hk
      exact .blocked hst
    · subst hk
      exact .done hst (by simpa using hs)

/-! ### The notifier's steps -/

/-- The steps of an effect. -/
def Effect.acts : Effect → List Act
  | .send _ _ outcome => [Act.send, .outcome outcome]
  | .removeByHandle _ => [Act.prune none]

/-- The steps of an event; the registry is read only for an event that triggers. -/
def Visit.acts (maxLevel : Option Level) (verbosity : String) (d : Debouncer) (v : Visit)
    (failed : Option String) : List Act :=
  Act.recv (.ok (.agentStatusChanged v.ev)) ::
    match Phase.received (.ok (.agentStatusChanged v.ev)) with
    | .list _ _ =>
      Act.list v.now failed :: (handleEvent maxLevel verbosity d v).2.flatMap Effect.acts
    | _ => []

/-- The task has panicked, or is back at the bus with its table. -/
def Handled (task : Option Debouncer) (t : State) : Prop :=
  match task with
  | none => t.phase = .panicked
  | some d => t.phase = .recv ∧ t.debouncer = d

variable {svc : MuxrService} {s : State} {device : PushDevice} {rest : List PushDevice}

/-- The attempts at one device lead to its line. -/
theorem run_attempts (relay : ℕ → SendOutcome) (n : ℕ)
    (hs : s.phase = .send content device rest false) :
    ∃ t, Run (ofFn (State.step svc verbosity maxLevel)) s
        (((sendWithRetry relay n).1.map (Effect.send device.pushHandle content)).flatMap
          Effect.acts) t ∧
      t.phase = .settled maxLevel content device rest (sendWithRetry relay n).2 ∧
      t.debouncer = s.debouncer := by
  obtain ⟨file, d, phase, renewed⟩ := s
  obtain rfl : phase = .send content device rest false := hs
  unfold sendWithRetry
  cases relay n with
  | transient =>
    cases relay (n + 1) <;>
      exact ⟨_, .cons rfl <| .cons rfl <| .cons rfl <| .cons rfl <| .nil _, rfl, rfl⟩
  | _ => exact ⟨_, .cons rfl <| .cons rfl <| .nil _, rfl, rfl⟩

/-- After a line that does not panic, a handle that is gone is removed. -/
theorem run_settled {outcome : SendOutcome} (hp : panics maxLevel outcome device.pushHandle = false)
    (hs : s.phase = .settled maxLevel content device rest outcome) :
    ∃ t, Run (ofFn (State.step svc verbosity maxLevel)) s
        ((if outcome = .gone then [Effect.removeByHandle device.pushHandle] else []).flatMap
          Effect.acts) t ∧
      t.phase = .next content rest ∧ t.debouncer = s.debouncer := by
  obtain ⟨file, d, phase, renewed⟩ := s
  simp only [Phase.settled, hp, Bool.false_eq_true, if_false] at hs
  subst hs
  cases outcome with
  | gone => exact ⟨_, .cons rfl <| .nil _, rfl, rfl⟩
  | _ => exact ⟨_, .nil _, rfl, rfl⟩

theorem run_fanOut (relay : ℕ → SendOutcome) (n : ℕ) (hs : s.phase = .next content devices) :
    ∃ t, Run (ofFn (State.step svc verbosity maxLevel)) s
        ((fanOut maxLevel content relay n devices).1.flatMap Effect.acts) t ∧
      Handled (if (fanOut maxLevel content relay n devices).2 then none else some s.debouncer)
        t := by
  induction devices generalizing n s with
  | nil => exact ⟨s, .nil s, hs, rfl⟩
  | cons device rest ih =>
    obtain ⟨-, hlast, -⟩ := attempts_sendWithRetry relay n
    obtain ⟨t, ht, hline, hd⟩ : ∃ t, Run (ofFn (State.step svc verbosity maxLevel)) s _ t ∧ _ :=
      run_attempts relay n hs
    rw [fanOut_cons]
    by_cases hp : panics maxLevel (sendWithRetry relay n).2 device.pushHandle = true
    · rw [if_pos hp]
      exact ⟨t, ht, hline.trans (if_pos hp)⟩
    · rw [if_neg hp, effectsAt, List.flatMap_append, List.flatMap_append]
      obtain ⟨u, hu, hnext, hd'⟩ : ∃ u, Run (ofFn (State.step svc verbosity maxLevel)) t _ u ∧ _ :=
        run_settled (by simpa using hp) hline
      obtain ⟨w, hw, hhandled⟩ := ih (n + (sendWithRetry relay n).1.length) hnext
      simp only [hlast, Option.some.injEq]
      refine ⟨w, run_append_iff.mpr ⟨u, run_append_iff.mpr ⟨t, ht, hu⟩, hw⟩, ?_⟩
      rwa [hd', hd] at hhandled

/-- **The notifier's steps do what `handleEvent` computes**: they bring it back to the bus, with the
table and the effects that are computed, or the task is gone. -/
theorem run_handleEvent {failed : Option String} (hs : s.phase = .recv)
    (hreg : list s.file failed = v.registry) :
    ∃ t, Run (ofFn (State.step svc verbosity maxLevel)) s
        (v.acts maxLevel verbosity s.debouncer failed) t ∧
      Handled (handleEvent maxLevel verbosity s.debouncer v).1 t := by
  have hrecv : ofFn (State.step svc verbosity maxLevel) s (.recv (.ok (.agentStatusChanged v.ev)))
      { s with phase := .received (.ok (.agentStatusChanged v.ev)) } := by
    simp [ofFn, State.step, hs]
  unfold Visit.acts
  rcases hk : triggerKind v.ev.status with _ | kind
  · have hd : handleEvent maxLevel verbosity s.debouncer v = (some s.debouncer, []) := by
      simp [handleEvent, hk]
    simp only [Phase.received, hk] at hrecv ⊢
    rw [hd]
    exact ⟨_, .cons hrecv (.nil _), rfl, rfl⟩
  by_cases hsyn : (v.ev.synthetic && kind = .done) = true
  · have hd : handleEvent maxLevel verbosity s.debouncer v = (some s.debouncer, []) := by
      simp [handleEvent, hk, hsyn]
    simp only [Phase.received, hk, hsyn, if_true] at hrecv ⊢
    rw [hd]
    exact ⟨_, .cons hrecv (.nil _), rfl, rfl⟩
  simp only [Phase.received, hk, hsyn, Bool.false_eq_true, if_false] at hrecv ⊢
  have hlist : ofFn (State.step svc verbosity maxLevel) { s with phase := .list v.ev kind }
      (.list v.now failed)
      (State.listed { s with phase := .list v.ev kind } verbosity v.ev kind v.now v.registry) := by
    simp [ofFn, State.step, hreg]
  suffices hsuff : ∃ t, Run (ofFn (State.step svc verbosity maxLevel))
      (State.listed { s with phase := .list v.ev kind } verbosity v.ev kind v.now v.registry)
      ((handleEvent maxLevel verbosity s.debouncer v).2.flatMap Effect.acts) t ∧
      Handled (handleEvent maxLevel verbosity s.debouncer v).1 t by
    obtain ⟨t, ht, hhandled⟩ := hsuff
    exact ⟨t, .cons hrecv (.cons hlist ht), hhandled⟩
  simp only [handleEvent, hk, hsyn, Bool.false_eq_true, if_false]
  rcases v.registry with e | _ | ⟨device, rest⟩
  · exact ⟨_, .nil _, rfl, rfl⟩
  · exact ⟨_, .nil _, rfl, rfl⟩
  simp only [State.listed]
  rcases s.debouncer.shouldSend v.ev.pane kind v.now with ⟨d, _ | _⟩
  · exact ⟨_, .nil _, rfl, rfl⟩
  · exact run_fanOut v.relay 0 rfl

/-! ### The pruned table -/

/-- The table after a decision at `now` has the sends of the last window. -/
def Within (d : Debouncer) (before : List Visit) (now : ℕ) : Prop :=
  ∀ pane kind, d.lastSent pane kind =
    (lastOf pane kind before).filter fun t => now - t < debounceWindow

/-- Pruning again, later, is pruning then. -/
theorem Within.retain {before : List Visit} {r now : ℕ} (h : Within d before r) (hle : r ≤ now) :
    Within (d.retain now) before now := by
  intro pane kind
  change (d.lastSent pane kind).filter _ = _
  rw [h pane kind, Option.filter_filter]
  congr 1
  funext t
  have himp : now - t < debounceWindow → r - t < debounceWindow := by omega
  by_cases ht : now - t < debounceWindow
  · simp [ht, himp ht]
  · simp [ht]

/-- A decision: nothing has been sent in the last window. -/
theorem Within.shouldSend_iff {before : List Visit} {r now pane : ℕ} (h : Within d before r)
    (hle : r ≤ now) : (d.shouldSend pane kind now).2 = true ↔
      ∀ t, lastOf pane kind before = some t → t + debounceWindow ≤ now := by
  have hpos : 0 < debounceWindow := by decide
  have hr := h.retain hle pane kind
  unfold Debouncer.shouldSend
  rcases hl : lastOf pane kind before with _ | t
  · rw [hl, Option.filter_none] at hr
    simp [hr]
  · rw [hl] at hr
    by_cases ht : now - t < debounceWindow
    · rw [Option.filter_some, if_pos (by simpa using ht)] at hr
      simp only [hr, if_pos ht, Option.some.injEq, forall_eq', Bool.false_eq_true, false_iff]
      omega
    · rw [Option.filter_some, if_neg (by simpa using ht)] at hr
      simp only [hr, Option.some.injEq, forall_eq', true_iff]
      omega

theorem shouldSend_false {pane now : ℕ} (h : (d.shouldSend pane kind now).2 = false) :
    (d.shouldSend pane kind now).1 = d.retain now := by
  unfold Debouncer.shouldSend at h ⊢
  split at h
  · split_ifs at h with hlt
    simp [hlt]
  · cases h

theorem shouldSend_true {pane now : ℕ} (h : (d.shouldSend pane kind now).2 = true) :
    (d.shouldSend pane kind now).1 = (d.retain now).note pane kind now := by
  unfold Debouncer.shouldSend at h ⊢
  split at h
  · split_ifs at h with hlt
    simp [hlt]
  · rfl

/-- A round for a trigger of the event. -/
def sendRound (maxLevel : Option Level) (verbosity : String) (v : Visit) (kind : TriggerKind)
    (devices : List PushDevice) : List Effect × Bool :=
  fanOut maxLevel (contentFor kind v.ev verbosity) v.relay 0 devices

/-- What handling an event comes to: nothing, a decision not to send, or a round of sends. -/
theorem handleEvent_cases (maxLevel : Option Level) (verbosity : String) (d : Debouncer)
    (v : Visit) :
    (handleEvent maxLevel verbosity d v = (some d, []) ∧
      ∀ kind devices, Triggers v.ev kind → v.registry = .ok devices → devices = []) ∨
    ∃ kind devices, Triggers v.ev kind ∧ v.registry = .ok devices ∧ devices ≠ [] ∧
      handleEvent maxLevel verbosity d v =
        if (d.shouldSend v.ev.pane kind v.now).2 then
          (if (sendRound maxLevel verbosity v kind devices).2 then none
            else some (d.shouldSend v.ev.pane kind v.now).1,
          (sendRound maxLevel verbosity v kind devices).1)
        else (some (d.shouldSend v.ev.pane kind v.now).1, []) := by
  unfold handleEvent
  rcases hk : triggerKind v.ev.status with _ | kind
  · exact .inl ⟨rfl, fun kind _ ht => absurd (triggers_iff.mp ht).1 (by simp [hk])⟩
  by_cases hs : (v.ev.synthetic && kind = .done) = true
  · refine .inl ⟨by simp [hs], fun kind' _ ht => ?_⟩
    obtain ⟨hk', hs'⟩ := triggers_iff.mp ht
    obtain rfl : kind = kind' := Option.some.inj (hk.symm.trans hk')
    exact absurd hs (by simp [hs'])
  have ht : Triggers v.ev kind := triggers_iff.mpr ⟨hk, by simpa using hs⟩
  simp only [hs, Bool.false_eq_true, if_false]
  rcases hr : v.registry with e | _ | ⟨device, rest⟩
  · exact .inl ⟨rfl, fun _ _ _ h => by cases h⟩
  · exact .inl ⟨rfl, fun _ _ _ h => (Except.ok.inj h).symm⟩
  · refine .inr ⟨kind, device :: rest, ht, rfl, by simp, ?_⟩
    rcases d.shouldSend v.ev.pane kind v.now with ⟨d', _ | _⟩ <;> rfl

theorem Triggers.unique {ev : AgentStatusChanged} {kind kind' : TriggerKind}
    (h : Triggers ev kind) (h' : Triggers ev kind') : kind = kind' := by
  rcases h with h | ⟨h, -⟩ <;> rcases h' with h' | ⟨h', -⟩ <;> simp_all

/-! ### The events that sent -/

variable {task : Option Debouncer}

theorem sent_append (vs ws : List Visit) :
    sent maxLevel verbosity task (vs ++ ws) =
      sent maxLevel verbosity task vs ++
        sent maxLevel verbosity (after maxLevel verbosity task vs) ws := by
  induction vs generalizing task with
  | nil => rfl
  | cons v vs ih =>
    simp only [List.cons_append, sent, after, List.foldl_cons]
    split_ifs
    · exact ih
    · rw [List.cons_append, ih]
      rfl

theorem after_concat (vs : List Visit) (v : Visit) :
    after maxLevel verbosity task (vs ++ [v]) =
      (notify maxLevel verbosity (after maxLevel verbosity task vs) v).1 :=
  List.foldl_append

theorem lastOf_concat (pane : ℕ) (kind : TriggerKind) (vs : List Visit) (v : Visit) :
    lastOf pane kind (vs ++ [v]) =
      if v.ev.pane = pane ∧ triggerKind v.ev.status = some kind then some v.now
      else lastOf pane kind vs := by
  unfold lastOf
  split_ifs with h <;> simp [List.filter_append, h]

/-- The table after a decision to send has the send. -/
theorem Within.note {before : List Visit} {r : ℕ} (h : Within d before r) (hle : r ≤ v.now)
    (ht : Triggers v.ev kind) :
    Within ((d.retain v.now).note v.ev.pane kind v.now) (before ++ [v]) v.now := by
  intro pane kind'
  rw [lastOf_concat, (triggers_iff.mp ht).1]
  have hw : debounceWindow ≠ 0 := by decide
  by_cases hp : v.ev.pane = pane
  · subst hp
    by_cases hk : kind = kind'
    · subst hk
      simp [Debouncer.note, Option.filter_some, hw]
    · have hret := h.retain hle v.ev.pane kind'
      simp [Debouncer.note, Function.update_of_ne (Ne.symm hk), hk, hret]
  · have hret := h.retain hle pane kind'
    simp [Debouncer.note, Function.update_of_ne (Ne.symm hp), hp, hret]

/-- A round panics exactly if a line of its event has a cut handle. -/
theorem sendRound_panics_iff (hreg : v.registry = .ok devices) :
    (sendRound maxLevel verbosity v kind devices).2 = true ↔ Breaks maxLevel v := by
  rw [sendRound, fanOut_panics_iff, Breaks]
  simp [hreg]

/-- What one event does to the task: the table stays what the unpruned one is within the window, or
a line of the event has a cut handle. -/
theorem Within.event (maxLevel : Option Level) (verbosity : String) {before : List Visit} {r : ℕ}
    (h : Within d before r) (hle : r ≤ v.now) :
    (∃ d', (handleEvent maxLevel verbosity d v).1 = some d' ∧
      (Within d' (before ++ sent maxLevel verbosity (some d) [v]) v.now ∨
        (d' = d ∧ sent maxLevel verbosity (some d) [v] = [])) ∧
      ∀ w ∈ sent maxLevel verbosity (some d) [v], ¬ Breaks maxLevel w) ∨
    ((handleEvent maxLevel verbosity d v).1 = none ∧
      ∃ w ∈ sent maxLevel verbosity (some d) [v], Breaks maxLevel w) := by
  have hsent : sent maxLevel verbosity (some d) [v] =
      if (handleEvent maxLevel verbosity d v).2 = [] then [] else [v] := rfl
  rcases handleEvent_cases maxLevel verbosity d v with
    ⟨heq, -⟩ | ⟨kind, devices, ht, hreg, hne, heq⟩
  · left
    rw [heq] at hsent ⊢
    rw [hsent]
    exact ⟨d, rfl, .inr ⟨rfl, rfl⟩, by simp⟩
  by_cases hb : (d.shouldSend v.ev.pane kind v.now).2 = true
  · -- a round of sends, which panics or goes through
    have hround : (sendRound maxLevel verbosity v kind devices).1 ≠ [] := fanOut_ne_nil hne
    rw [if_pos hb] at heq
    simp only [heq, hround, if_false] at hsent
    rw [hsent, heq]
    by_cases hp : (sendRound maxLevel verbosity v kind devices).2 = true
    · exact .inr ⟨if_pos hp, v, List.mem_singleton_self v, (sendRound_panics_iff hreg).mp hp⟩
    · refine .inl ⟨_, if_neg hp, .inl (shouldSend_true hb ▸ h.note hle ht), fun w hw => ?_⟩
      obtain rfl := List.mem_singleton.mp hw
      exact fun hbreaks => hp ((sendRound_panics_iff hreg).mpr hbreaks)
  · rw [if_neg hb] at heq
    rw [heq, if_pos rfl] at hsent
    left
    rw [hsent, heq]
    refine ⟨_, rfl, .inl ?_, by simp⟩
    rw [List.append_nil, shouldSend_false (by simpa using hb)]
    exact h.retain hle

/-- **The task after a history**: its table has the last sends within the window of the last
decision, or it has panicked, in a line of an event that sent. -/
theorem within_after (maxLevel : Option Level) (verbosity : String) {before : List Visit}
    (hclock : (before.map Visit.now).Pairwise (· ≤ ·)) :
    (∃ d r, after maxLevel verbosity (some .new) before = some d ∧
      (∀ now, (∀ w ∈ before, w.now ≤ now) → r ≤ now) ∧
      Within d (sent maxLevel verbosity (some .new) before) r ∧
      ∀ w ∈ sent maxLevel verbosity (some .new) before, ¬ Breaks maxLevel w) ∨
    (after maxLevel verbosity (some .new) before = none ∧
      ∃ w ∈ sent maxLevel verbosity (some .new) before, Breaks maxLevel w) := by
  induction before using List.reverseRecOn with
  | nil => exact .inl ⟨.new, 0, rfl, fun _ _ => Nat.zero_le _, fun _ _ => rfl, by simp [sent]⟩
  | append_singleton before v ih =>
    rw [List.map_append, List.pairwise_append] at hclock
    obtain ⟨hbefore, -, hv⟩ := hclock
    rw [sent_append, after_concat]
    rcases ih hbefore with ⟨d, r, hd, hr, hw, hnone⟩ | ⟨hd, w, hw, hbreaks⟩
    · rw [hd]
      have hle : r ≤ v.now := hr v.now fun w hmem => hv _ (List.mem_map_of_mem hmem) _ (by simp)
      rcases hw.event maxLevel verbosity hle with
        ⟨d', hd', htable, hnew⟩ | ⟨hgone, w, hmem, hbreaks⟩
      · left
        have hall : ∀ w ∈ sent maxLevel verbosity (some .new) before ++
            sent maxLevel verbosity (some d) [v], ¬ Breaks maxLevel w := fun w hmem =>
          (List.mem_append.mp hmem).elim (hnone w) (hnew w)
        rcases htable with hwithin | ⟨rfl, hs⟩
        · exact ⟨d', v.now, hd', fun now h' => h' v (by simp), hwithin, hall⟩
        · refine ⟨d', r, hd', fun now h' => hr now fun w hmem => h' w (by simp [hmem]), ?_, hall⟩
          rw [hs, List.append_nil]
          exact hw
      · exact .inr ⟨hgone, w, List.mem_append_right _ hmem, hbreaks⟩
    · exact .inr ⟨by rw [hd]; rfl, w, List.mem_append_left _ hw, hbreaks⟩
/-! ### When the discipline is kept -/

/-- An event that is due, while the task is there, has its round. -/
theorem effects_of_due {before : List Visit} {r : ℕ} (hw : Within d before r) (hle : r ≤ v.now)
    (h : Due before v kind devices) :
    (handleEvent maxLevel verbosity d v).2 = (sendRound maxLevel verbosity v kind devices).1 := by
  obtain ⟨ht, hreg, hne, hel⟩ := h
  rcases handleEvent_cases maxLevel verbosity d v with
    ⟨-, hnone⟩ | ⟨kind', devices', ht', hreg', -, heq⟩
  · exact absurd (hnone kind devices ht hreg) hne
  obtain rfl := ht.unique ht'
  obtain rfl : devices = devices' := Except.ok.inj (hreg.symm.trans hreg')
  rw [heq, if_pos ((hw.shouldSend_iff hle).mpr hel)]

/-- While the task is there, it sends exactly if the event is due. -/
theorem sends_iff {before : List Visit} {r : ℕ} (hw : Within d before r) (hle : r ≤ v.now) :
    (handleEvent maxLevel verbosity d v).2 ≠ [] ↔ ∃ kind devices, Due before v kind devices := by
  constructor
  · intro hne
    rcases handleEvent_cases maxLevel verbosity d v with
      ⟨heq, -⟩ | ⟨kind, devices, ht, hreg, hdev, heq⟩
    · exact absurd (by rw [heq]) hne
    refine ⟨kind, devices, ht, hreg, hdev, (hw.shouldSend_iff hle).mp ?_⟩
    by_contra hb
    exact hne (by rw [heq, if_neg hb])
  · rintro ⟨kind, devices, h⟩
    rw [effects_of_due hw hle h]
    exact fanOut_ne_nil h.nonempty

/-- What is done for the devices is complete exactly if no line has a cut handle before the last
that is to be done. -/
theorem complete_iff : (∃ attempts : List (List SendOutcome), attempts.length = devices.length ∧
      (∀ a ∈ attempts, Attempts a) ∧
      attempts.flatten = (List.range attempts.flatten.length).map v.relay ∧
      (sendRound maxLevel verbosity v kind devices).1 =
        (List.zipWith (effectsAt (contentFor kind v.ev verbosity)) devices attempts).flatten) ↔
    Through maxLevel v.relay 0 devices := by
  rw [← fanOut_eq_wholeRound_iff (contentFor kind v.ev verbosity), ← exists_attempts_iff]
  simp only [Nat.zero_add, sendRound]

/-- One event keeps the discipline, exactly if it is not due, or no line of those that sent has had
a cut handle and its own have none before the last that is to be done. -/
theorem disciplined_iff {before : List Visit}
    (hclock : ((before ++ [v]).map Visit.now).Pairwise (· ≤ ·)) :
    Disciplined maxLevel verbosity before v ↔
      ∀ kind devices, Due (sent maxLevel verbosity (some .new) before) v kind devices →
        (∀ w ∈ sent maxLevel verbosity (some .new) before, ¬ Breaks maxLevel w) ∧
          Through maxLevel v.relay 0 devices := by
  rw [List.map_append, List.pairwise_append] at hclock
  obtain ⟨hbefore, -, hv⟩ := hclock
  rcases within_after maxLevel verbosity hbefore with
    ⟨d, r, hd, hr, hw, hnone⟩ | ⟨hd, w, hmem, hbreaks⟩
  · have hle : r ≤ v.now := hr v.now fun w hmem => hv _ (List.mem_map_of_mem hmem) _ (by simp)
    constructor
    · intro h kind devices hdue
      have hcomplete := h.complete kind devices hdue
      rw [hd] at hcomplete
      change ∃ attempts, _ ∧ _ ∧ _ ∧ (handleEvent maxLevel verbosity d v).2 = _ at hcomplete
      rw [effects_of_due hw hle hdue] at hcomplete
      exact ⟨hnone, complete_iff.mp hcomplete⟩
    · intro h
      refine ⟨?_, fun kind devices hdue => ?_⟩
      · rw [hd]
        exact sends_iff hw hle
      · rw [hd]
        change ∃ attempts, _ ∧ _ ∧ _ ∧ (handleEvent maxLevel verbosity d v).2 = _
        rw [effects_of_due hw hle hdue]
        exact complete_iff.mpr (h kind devices hdue).2
  · -- the task is gone: nothing may be due
    have hnil :
        (notify maxLevel verbosity (after maxLevel verbosity (some .new) before) v).2 = [] := by
      rw [hd]
      rfl
    constructor
    · intro h kind devices hdue
      exact absurd hnil (h.sends.mpr ⟨kind, devices, hdue⟩)
    · intro h
      have hnot : ∀ kind devices,
          ¬ Due (sent maxLevel verbosity (some .new) before) v kind devices :=
        fun kind devices hdue => (h kind devices hdue).1 w hmem hbreaks
      refine ⟨iff_of_false (fun hne => hne hnil) ?_, fun kind devices hdue => ?_⟩
      · rintro ⟨kind, devices, hdue⟩
        exact hnot kind devices hdue
      · exact absurd hdue (hnot kind devices)

open Classical in
theorem dues_concat (vs : List Visit) (v : Visit) :
    dues (vs ++ [v]) =
      if ∃ kind devices, Due (dues vs) v kind devices then dues vs ++ [v] else dues vs :=
  List.foldl_append

theorem mem_of_mem_dues {vs : List Visit} (h : v ∈ dues vs) : v ∈ vs := by
  induction vs using List.reverseRecOn with
  | nil => exact h
  | append_singleton vs w ih =>
    rw [dues_concat] at h
    split_ifs at h
    · exact (List.mem_append.mp h).elim (fun h => List.mem_append_left _ (ih h))
        (List.mem_append_right _)
    · exact List.mem_append_left _ (ih h)

/-- One event more: if it is due, no line before its own may have a cut handle. -/
theorem unbroken_concat {vs : List Visit} : Unbroken maxLevel (vs ++ [v]) ↔
    Unbroken maxLevel vs ∧ ∀ kind devices, Due (dues vs) v kind devices →
      (∀ w ∈ dues vs, ¬ Breaks maxLevel w) ∧ Through maxLevel v.relay 0 devices := by
  have hthrough : ∀ {devices}, v.registry = .ok devices →
      (¬ Breaks maxLevel v → Through maxLevel v.relay 0 devices) := by
    intro devices hreg hb pre p post he hs
    exact absurd ⟨devices, hreg, p, by simp [he], hs⟩ hb
  by_cases hdue : ∃ kind devices, Due (dues vs) v kind devices
  · rw [Unbroken, dues_concat, if_pos hdue]
    constructor
    · intro h
      have hnone : ∀ w ∈ dues vs, ¬ Breaks maxLevel w := by
        intro w hw hb
        obtain ⟨before, later, he⟩ := List.append_of_mem hw
        obtain ⟨hnil, -⟩ := h before w (later ++ [v]) (by simp [he]) hb
        simp at hnil
      refine ⟨fun before w later he hb => ?_, fun kind devices hd => ⟨hnone, ?_⟩⟩
      · exact absurd hb (hnone w (by simp [he]))
      · by_cases hb : Breaks maxLevel v
        · exact (h (dues vs) v [] rfl hb).2 devices hd.registry
        · exact hthrough hd.registry hb
    · rintro ⟨-, h⟩ before w later he hb
      obtain ⟨kind, devices, hd⟩ := hdue
      obtain ⟨hnone, ht⟩ := h kind devices hd
      rcases List.eq_nil_or_concat later with rfl | ⟨later, u, rfl⟩
      · obtain ⟨-, hw⟩ := List.append_inj' he rfl
        obtain rfl := List.singleton_inj.mp hw
        refine ⟨rfl, fun devices' hreg => ?_⟩
        obtain rfl : devices = devices' := Except.ok.inj (hd.registry.symm.trans hreg)
        exact ht
      · have hbefore : dues vs = before ++ w :: later := by
          rw [List.concat_eq_append, ← List.cons_append, ← List.append_assoc] at he
          exact (List.append_inj' he rfl).1
        exact absurd hb (hnone w (by simp [hbefore]))
  · rw [Unbroken, dues_concat, if_neg hdue]
    exact ⟨fun h => ⟨h, fun kind devices hd => absurd ⟨kind, devices, hd⟩ hdue⟩, fun h => h.1⟩

theorem clock_before {vs : List Visit} (hclock : ((vs ++ [v]).map Visit.now).Pairwise (· ≤ ·)) :
    (vs.map Visit.now).Pairwise (· ≤ ·) := by
  rw [List.map_append, List.pairwise_append] at hclock
  exact hclock.1

/-- Up to the line that has a cut handle, the events that are due are those that sent. -/
theorem sent_eq_dues {vs : List Visit} (hclock : (vs.map Visit.now).Pairwise (· ≤ ·))
    (h : Unbroken maxLevel vs) : sent maxLevel verbosity (some .new) vs = dues vs := by
  induction vs using List.reverseRecOn with
  | nil => rfl
  | append_singleton vs v ih =>
    obtain ⟨hvs, hv⟩ := unbroken_concat.mp h
    have heq := ih (clock_before hclock) hvs
    rw [← heq] at hv
    have hdisc : Disciplined maxLevel verbosity vs v := (disciplined_iff hclock).mpr hv
    have hsends := hdisc.sends
    rw [sent_append, dues_concat, ← heq]
    by_cases hdue : ∃ kind devices, Due (sent maxLevel verbosity (some .new) vs) v kind devices
    · rw [if_pos hdue, sent]
      simp only [hsends.mpr hdue, if_false]
      rfl
    · rw [if_neg hdue, sent]
      have hnil := not_not.mp (mt hsends.mp hdue)
      simp only [hnil, if_true]
      exact List.append_nil _

/-- **When the notifier keeps its discipline**: in a history it does on each event, exactly if no
line about a handle with a character across its eighth byte comes before the last that is to be
done. -/
theorem send_discipline_iff {vs : List Visit} (hclock : (vs.map Visit.now).Pairwise (· ≤ ·)) :
    (∀ before v later, vs = before ++ v :: later → Disciplined maxLevel verbosity before v) ↔
      Unbroken maxLevel vs := by
  induction vs using List.reverseRecOn with
  | nil => simp [Unbroken, dues]
  | append_singleton vs v ih =>
    have hsplits : (∀ before w later, vs ++ [v] = before ++ w :: later →
        Disciplined maxLevel verbosity before w) ↔
        (∀ before w later, vs = before ++ w :: later → Disciplined maxLevel verbosity before w) ∧
          Disciplined maxLevel verbosity vs v := by
      constructor
      · intro h
        exact ⟨fun before w later he => h before w (later ++ [v]) (by simp [he]), h vs v [] rfl⟩
      · rintro ⟨h, hv⟩ before w later he
        rcases List.eq_nil_or_concat later with rfl | ⟨later, u, rfl⟩
        · obtain ⟨rfl, hw⟩ := List.append_inj' he rfl
          obtain rfl := List.singleton_inj.mp hw
          exact hv
        · rw [List.concat_eq_append, ← List.cons_append, ← List.append_assoc] at he
          exact h before w later (List.append_inj' he rfl).1
    rw [hsplits, ih (clock_before hclock), unbroken_concat]
    refine and_congr_right fun hvs => ?_
    rw [disciplined_iff hclock, sent_eq_dues (clock_before hclock) hvs]

/-! ### Runs -/

/-- The agent waits, at a time, and the registry has the phone. -/
def waitingAt (now : ℕ) (relay : ℕ → SendOutcome) : Visit :=
  ⟨waiting, .ok [phone], now, relay⟩

theorem not_breaks_waitingAt (now : ℕ) : ¬ Breaks maxLevel (waitingAt now relay) := by
  rintro ⟨devices, hreg, p, hp, hs⟩
  obtain rfl := Except.ok.inj hreg
  obtain rfl := List.mem_singleton.mp hp
  rw [splits_iff, panics_phone] at hs
  cases hs

/-- The phone's handle is not cut: an agent that waits is announced, 20 s later it is not, and again
after a whole window. -/
theorem send_discipline_iff_again :
    Disciplined (some .info) "normal"
      [waitingAt 0 fun _ => .ok, waitingAt (20 * 10 ^ 9) fun _ => .ok]
      (waitingAt debounceWindow fun _ => .gone) := by
  let vs := [waitingAt 0 fun _ => .ok, waitingAt (20 * 10 ^ 9) fun _ => .ok,
    waitingAt debounceWindow fun _ => .gone]
  have hunbroken : Unbroken (some .info) vs := by
    intro before v later he hb
    have hv : v ∈ vs := mem_of_mem_dues (by simp [he])
    simp only [vs, List.mem_cons, List.not_mem_nil, or_false] at hv
    rcases hv with rfl | rfl | rfl <;> exact absurd hb (not_breaks_waitingAt _)
  exact (send_discipline_iff (by decide)).mpr hunbroken _ _ [] rfl

/-- A device whose handle has been written by hand, with a character across its eighth byte. -/
def oldPhone : PushDevice := ⟨"old phone", "0123456éabcdef", "android", 50⟩

theorem cut_oldPhone : Cut handlePrefixLen oldPhone.pushHandle :=
  ⟨"0123456".toList, 'é', "abcdef".toList, by simp [oldPhone],
    by simp [byteLen, Char.utf8Size, handlePrefixLen],
    by simp [byteLen, Char.utf8Size, handlePrefixLen]⟩

/-- **A handle that is gone stays**, and the next device gets nothing: the line about it panics. -/
theorem gone_stays :
    ¬ ∀ (maxLevel : Option Level) (verbosity : String) (vs : List Visit),
      (vs.map Visit.now).Pairwise (· ≤ ·) →
        ∀ before v later, vs = before ++ v :: later → Disciplined maxLevel verbosity before v := by
  intro h
  let v : Visit := ⟨waiting, .ok [oldPhone, phone], 0, fun _ => .gone⟩
  have hkept := h (some .info) "normal" [v] (by simp) [] v [] rfl
  have hdue : Due [] v .blocked [oldPhone, phone] := ⟨.blocked rfl, rfl, by simp, by simp [lastOf]⟩
  obtain ⟨-, hthrough⟩ := (disciplined_iff (by simp)).mp hkept .blocked [oldPhone, phone] hdue
  exact (hthrough [] (oldPhone, .gone) _ rfl ⟨rfl, cut_oldPhone⟩).2 rfl

end MuxrCore.Notify.Debounce
