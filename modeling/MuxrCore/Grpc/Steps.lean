import MuxrCore.Grpc.Service

/-! # The steps of a request

Every handler is a chain of the same few steps: checks, operations, log lines, and parts that other
handlers have too. `Mediated` says that whatever it does next is `Allowed` and what it comes to is
`Explained`; there is a rule for each step, which says what the step needs. -/

namespace MuxrCore.Grpc.Steps

open MuxrCore.Lib.Program MuxrCore.Lib.Rpc MuxrCore.Lib.Slice MuxrCore.Multiplexer.Routing
open MuxrCore.Relay.Control
open MuxrCore.Grpc.Operation MuxrCore.Grpc.Handlers MuxrCore.Grpc.Service MuxrCore.Grpc.Route
open MuxrCore.Grpc.SpaceOps MuxrCore.Muxrd.Auth
open MuxrCore.Grpc.PushOps (rejectIfReadOnly)

variable {α β : Type} {svc : MuxrService} {header : Header} {rpc : Rpc} {h : History}
  {ext : Extensions}

/-! ### The checks of texts -/

theorem bareName_of_validateSession {env : Externs} {name : String}
    (hv : validateSession env name = .ok ()) : BareName name := by
  unfold validateSession validateSessionName at hv
  rcases he : env.validateSessionName name with e | ⟨⟩
  · simp [he] at hv
  · simp only [he] at hv
    split at hv
    · cases hv
    · rename_i hname
      split_ifs at hname with hbad
      simp only [Bool.or_eq_true, not_or, Bool.not_eq_true', Bool.not_eq_false, List.all_eq_true,
        beq_iff_eq] at hbad
      exact ⟨fun hnil => hbad.1 (by simp [hnil]), fun c hc => by simpa [or_assoc] using hbad.2 c hc⟩

theorem bareName_of_validateLayoutName {env : Externs} {layout : String}
    (hv : validateLayoutName env layout = .ok ()) : BareName layout := by
  unfold validateLayoutName at hv
  split_ifs at hv with hbad
  simp only [Bool.or_eq_true, not_or, Bool.not_eq_true', Bool.not_eq_false, List.all_eq_true,
    beq_iff_eq] at hbad
  exact ⟨fun hnil => hbad.1 (by simp [hnil]), fun c hc => by simpa [or_assoc] using hbad.2 c hc⟩

theorem displayable_of_validate {name kind : String}
    (hv : validateDisplayName name kind = .ok ()) : Displayable name := by
  unfold validateDisplayName at hv
  split_ifs at hv with hempty hlen hbad
  refine ⟨fun hnil => hempty (by simp [hnil]), by omega, fun c hc => ?_⟩
  simp only [Bool.not_eq_true, List.any_eq_false] at hbad
  simpa using hbad c hc

theorem label_of_validate {label : String} (hv : validateSpaceLabel label = .ok ()) :
    Label label := by
  unfold validateSpaceLabel at hv
  split_ifs at hv with hempty hlen hbad
  refine ⟨fun hnil => hempty (by simp [hnil]), by omega, fun c hc => ?_⟩
  simp only [Bool.not_eq_true', Bool.not_eq_false, List.all_eq_true, Bool.or_eq_true,
    beq_iff_eq] at hbad
  simpa [or_assoc] using hbad c hc

theorem spaceId_of_validate {spaceId : String} (hv : validateSpaceId spaceId = .ok ()) :
    SpaceId spaceId := by
  unfold validateSpaceId at hv
  split_ifs at hv with hempty hlen hbad
  refine ⟨fun hnil => hempty (by simp [hnil]), by omega, fun c hc => ?_⟩
  simp only [Bool.not_eq_true', Bool.not_eq_false, List.all_eq_true, Bool.or_eq_true,
    beq_iff_eq] at hbad
  simpa [or_assoc] using hbad c hc

/-- A name that may be left out is displayable if it is there. -/
theorem optionalName_eq_ok {name kind : String} {n : Option String}
    (hv : optionalName name kind = .ok n) : (n = none ∧ name = "") ∨
      (n = some name ∧ Displayable name) := by
  unfold optionalName at hv
  split_ifs at hv with hempty
  · cases hv
    exact Or.inl ⟨rfl, by simpa using hempty⟩
  · rcases hd : validateDisplayName name kind with e | ⟨⟩
    · simp [hd, Except.map] at hv
    · simp only [hd, Except.map, Except.ok.injEq] at hv
      exact Or.inr ⟨hv.symm, displayable_of_validate hd⟩

theorem displayable_of_optionalName {name kind n : String}
    (hv : optionalName name kind = .ok (some n)) : Displayable n := by
  rcases optionalName_eq_ok hv with ⟨hn, -⟩ | ⟨hn, hd⟩
  · cases hn
  · obtain rfl := Option.some.inj hn
    exact hd

/-- The bare name of a resolved session is one. -/
theorem bareName_of_resolve {id : String} {kind : BackendKind} {b : Backend} {bare : String}
    (hr : resolveSessionKind svc.env svc.backends id = .ok (kind, b, bare)) : BareName bare := by
  rcases hs : MuxrCore.Lib.Text.splitOnce id ':' with - | ⟨pre, rest⟩
  · obtain ⟨-, rfl⟩ := resolve_bare hs hr
    unfold resolveSessionKind at hr
    rw [hs] at hr
    by_cases hl : svc.backends.len = 1
    · rcases hv : validateSession svc.env bare with e | ⟨⟩
      · simp [hl, hv] at hr
      · exact bareName_of_validateSession hv
    · simp [hl] at hr
  · obtain ⟨-, -, rfl, hv⟩ := (resolve_qualified hs).mp hr
    exact bareName_of_validateSession hv

/-! ### Checks in a row -/

theorem bind_eq_ok {ε : Type} {x : Except ε α} {f : α → Except ε β} {b : β} :
    (x >>= f) = .ok b ↔ ∃ a, x = .ok a ∧ f a = .ok b := by
  rcases x with e | a
  · exact ⟨nofun, nofun⟩
  · exact ⟨fun hf => ⟨a, rfl, hf⟩, by rintro ⟨_, ⟨⟩, hf⟩; exact hf⟩

theorem rejectIfReadOnly_eq_ok {readOnly : Option Bool} (hok : rejectIfReadOnly readOnly = .ok ()) :
    readOnly = some false := by
  rcases readOnly with - | - | -
  · cases hok
  · rfl
  · cases hok

/-! ### Steps of a handler -/

/-- Whatever the handler does next is allowed, and what it comes to is explained. -/
def Mediated (svc : MuxrService) (header : Header) (rpc : Rpc) (h : History) (x : Handle α) :
    Prop :=
  Handler.Meets (Allowed svc header rpc) (Explained svc rpc) h x

/-- The marks of a request that the layer has let through with a token. -/
structure Marked (header : Header) (h : History) (ext : Extensions) : Prop where
  valid : ∃ token, ext.sessionToken = some token ∧ Valid header token h ∧
    (ext.sessionReadOnly = some false → Writable token h)
  tier : ext.sessionReadOnly ≠ none

theorem Marked.append (hm : Marked header h ext) (es : History) :
    Marked header (h ++ es) ext := by
  obtain ⟨token, ht, hv, hw⟩ := hm.valid
  exact ⟨⟨token, ht, hv.append es, fun hro => List.mem_append_left es (hw hro)⟩, hm.tier⟩

theorem Marked.viewer (hm : Marked header h ext) : Proven header h .viewer := by
  obtain ⟨token, -, hv, -⟩ := hm.valid
  exact ⟨token, hv⟩

theorem Marked.writer (hm : Marked header h ext) (hro : ext.sessionReadOnly = some false) :
    Proven header h .writer := by
  obtain ⟨token, -, hv, hw⟩ := hm.valid
  exact ⟨token, hv, hw hro⟩

/-- A marked request that is not read-only has been found to be a writer's. -/
theorem Marked.writer_of_not (hm : Marked header h ext) (hro : sessionIsReadOnly ext = false) :
    Proven header h .writer := by
  apply hm.writer
  rcases hs : ext.sessionReadOnly with - | b
  · exact absurd hs hm.tier
  · simpa [sessionIsReadOnly, hs] using hro

theorem mediated_pure {a : α} : Mediated svc header rpc h (pure a : Handle α) :=
  fun _ he => by cases he

theorem mediated_ensure {r : Except Status α} : Mediated svc header rpc h (ensure r) := by
  intro _ he
  rcases r with e | a <;> cases he

/-- After a check, with what it gives. -/
theorem mediated_check {r : Except Status α} {f : α → Handle β}
    (hok : ∀ a, r = .ok a → Mediated svc header rpc h (f a)) :
    Mediated svc header rpc h (ensure r >>= f) := by
  refine Handler.meets_bind.mpr ?_
  rcases r with e | a
  · exact fun _ he => by cases he
  · exact hok a rfl

/-- After an operation, with its answer. -/
theorem mediated_perform {op : Op} {f : op.Answer → Handle β}
    (hop : Allowed svc header rpc h op)
    (hnext : ∀ a, Mediated svc header rpc (h ++ [⟨op, a⟩]) (f a)) :
    Mediated svc header rpc h (perform op >>= f) :=
  Handler.meets_op_bind.mpr ⟨hop, hnext⟩

theorem mediated_map {g : α → β} {x : Handle α} (hx : Mediated svc header rpc h x) :
    Mediated svc header rpc h (g <$> x) := by
  refine Handler.meets_map.mpr (hx.mono (fun _ _ hop => hop) fun h' r hr hs he => hr hs ?_)
  rcases r with e | a
  · simpa [Except.map] using he
  · cases he

/-- A part of a handler does what is allowed, and ends with a result or a status. -/
def Passes (svc : MuxrService) (header : Header) (rpc : Rpc) (h : History) (x : Handle α) : Prop :=
  ∀ Q : History → Except Fault α → Prop, (∀ es a, Q (h ++ es) (.ok a)) →
    (∀ es s, Q (h ++ es) (.error (.status s))) → Handler.Meets (Allowed svc header rpc) Q h x

theorem Passes.mediated {x : Handle α} (hx : Passes svc header rpc h x) :
    Mediated svc header rpc h x :=
  hx _ (fun _ _ _ he => by cases he) fun _ _ _ he => by cases he

theorem Passes.then {x : Handle α} {f : α → Handle β} (hx : Passes svc header rpc h x)
    (hf : ∀ es a, Mediated svc header rpc (h ++ es) (f a)) :
    Mediated svc header rpc h (x >>= f) :=
  Handler.meets_bind.mpr (hx _ hf fun _ _ _ he => by cases he)

theorem passes_pure {a : α} : Passes svc header rpc h (pure a : Handle α) := by
  intro Q hQ _
  simpa using hQ [] a

theorem passes_ensure {r : Except Status α} : Passes svc header rpc h (ensure r) := by
  intro Q hQ hstatus
  rcases r with s | a
  · have hs := hstatus [] s
    rwa [List.append_nil] at hs
  · have ha := hQ [] a
    rwa [List.append_nil] at ha

theorem passes_status {s : Status} : Passes svc header rpc h (throw (.status s) : Handle α) := by
  intro Q _ hstatus
  have hs := hstatus [] s
  rwa [List.append_nil] at hs

theorem passes_bind {x : Handle α} {f : α → Handle β} (hx : Passes svc header rpc h x)
    (hf : ∀ es a, Passes svc header rpc (h ++ es) (f a)) : Passes svc header rpc h (x >>= f) := by
  intro Q hQ hstatus
  refine Handler.meets_bind.mpr (hx _ (fun es a => hf es a Q ?_ ?_) hstatus)
  · intro es' b
    rw [List.append_assoc]
    exact hQ _ b
  · intro es' b
    rw [List.append_assoc]
    exact hstatus _ b

/-- After an operation, with its answer. -/
theorem passes_answer {op : Op} {f : op.Answer → Handle β} (hop : Allowed svc header rpc h op)
    (hf : ∀ a, Passes svc header rpc (h ++ [⟨op, a⟩]) (f a)) :
    Passes svc header rpc h (perform op >>= f) := by
  intro Q hQ hstatus
  refine Handler.meets_op_bind.mpr ⟨hop, fun a => hf a Q ?_ ?_⟩
  · intro es b
    rw [List.append_assoc]
    exact hQ _ b
  · intro es b
    rw [List.append_assoc]
    exact hstatus _ b

theorem passes_perform {op : Op} (hop : Allowed svc header rpc h op) :
    Passes svc header rpc h (perform op) :=
  fun _ hQ _ => ⟨hop, fun _ => hQ _ _⟩

/-- After the check of the tier. -/
theorem mediated_gate {f : Unit → Handle β}
    (hnext : ext.sessionReadOnly = some false → Mediated svc header rpc h (f ())) :
    Mediated svc header rpc h (ensure (rejectIfReadOnly ext.sessionReadOnly) >>= f) :=
  mediated_check fun _ hok => hnext (rejectIfReadOnly_eq_ok hok)

/-- After a line is logged. -/
theorem mediated_log {id : String} {f : Unit → Handle β}
    (hcut : svc.logsInfo = true → Cut 8 id → Sound h → LogsCut svc rpc)
    (hnext : Mediated svc header rpc h (f ())) :
    Mediated svc header rpc h (logConn svc id >>= f) := by
  refine Handler.meets_bind.mpr ?_
  unfold logConn
  split_ifs with hlogs
  · refine Handler.meets_bind.mpr ?_
    unfold shortConn slice
    rcases ht : takeBytes (min 8 id.utf8ByteSize) id.toList with - | cs
    · exact fun hs _ => hcut hlogs (takeBytes_min_eq_none_iff.mp ht) hs
    · exact hnext
  · exact hnext

/-! ### Operations -/

/-- An operation that touches no relay and no backend. -/
def plain : Op → Bool
  | .send _ _ | .action _ _ | .read _ _ | .timedRead _ _ | .attachRelay _ _ => false
  | _ => true

theorem allowed_plain {op : Op} (hp : Proven header h (Op.tier op))
    (hop : plain op = true) : Allowed svc header rpc h op where
  proven := hp
  confined := by rintro tx cmd rfl; cases hop
  acts := by rintro kind call rfl; cases hop
  reads := by rintro kind call (rfl | rfl) <;> cases hop
  marked := by rintro readOnly token rfl; cases hop

theorem allowed_action {kind : BackendKind} {call : ActionCall}
    (hp : Proven header h (actionTier call)) (ht : OnTarget svc rpc kind call) :
    Allowed svc header rpc h (.action kind call) where
  proven := hp
  confined := nofun
  acts := by rintro kind call ⟨⟩; exact ht
  reads := by simp
  marked := nofun

theorem allowed_read {op : Op} {kind : BackendKind} {call : ReadCall}
    (hp : Proven header h .viewer) (hop : op = .read kind call ∨ op = .timedRead kind call)
    (ht : ReadOnTarget svc rpc kind call) : Allowed svc header rpc h op := by
  rcases hop with rfl | rfl
  all_goals
    refine ⟨hp, nofun, nofun, fun kind' call' he => ?_, nofun⟩
    simp only [reduceCtorEq, Op.read.injEq, Op.timedRead.injEq, or_false, false_or] at he
    obtain ⟨rfl, rfl⟩ := he
    exact ht

theorem allowed_send {tx : ChannelId} {cmd : RelayControl} (hp : Proven header h (commandTier cmd))
    (hc : Confined header rpc h tx cmd) : Allowed svc header rpc h (.send tx cmd) where
  proven := hp
  confined := by rintro tx cmd ⟨⟩; exact hc
  acts := nofun
  reads := by simp
  marked := nofun

theorem mediated_runAction {name : String} {kind : BackendKind} {call : ActionCall}
    (hp : Proven header h (actionTier call)) (ht : OnTarget svc rpc kind call) :
    Mediated svc header rpc h (runAction name kind call) :=
  mediated_perform (allowed_action hp ht) fun _ => mediated_ensure

theorem mediated_runSpaceAction {name : String} {kind : BackendKind} {call : ActionCall}
    (hp : Proven header h (actionTier call)) (ht : OnTarget svc rpc kind call) :
    Mediated svc header rpc h (runSpaceAction name kind call) :=
  mediated_perform (allowed_action hp ht) fun _ => mediated_ensure

/-- An action on the session that the request names, or on its spaces. -/
theorem onTarget_of_resolve {id : String} {kind : BackendKind} {b : Backend} {bare : String}
    {call : ActionCall} (hid : rpc.session = some id)
    (hr : resolveSessionKind svc.env svc.backends id = .ok (kind, b, bare))
    (hs : ∀ s, call.session = some s → s = bare) (hclean : Clean call) :
    OnTarget svc rpc kind call :=
  ⟨hclean, Or.inl ⟨bare, ⟨id, b, hid, hr⟩, bareName_of_resolve hr, hs⟩⟩

theorem readOnTarget_of_resolve {id : String} {kind : BackendKind} {b : Backend} {bare : String}
    {call : ReadCall} (hid : rpc.session = some id)
    (hr : resolveSessionKind svc.env svc.backends id = .ok (kind, b, bare))
    (hs : ∀ s, call.session = some s → s = bare) : ReadOnTarget svc rpc kind call :=
  Or.inr ⟨bare, ⟨id, b, hid, hr⟩, bareName_of_resolve hr, hs⟩

/-! ### Runs -/

/-- The layer lets a request through whose token the database takes, and marks it with the tier that
the database gives. -/
theorem does_serve {token : String} {readOnly : Bool} {es : History} {s : Stage Op _}
    (hpath : rpc.path ∉ publicPaths) (ht : bearerToken header = .ok token)
    (hd : Prog.Does (dispatch svc ⟨some readOnly, some token⟩ rpc).run es s) :
    Prog.Does (serve svc header rpc).run
      (⟨.validateSessionToken token, .ok true⟩ :: ⟨.isSessionTokenReadOnly token, .ok readOnly⟩ ::
        es) s := by
  unfold serve bearerAuth checkBearer
  rw [if_neg hpath, ht]
  exact .answered _ (.answered _ hd)

end MuxrCore.Grpc.Steps
