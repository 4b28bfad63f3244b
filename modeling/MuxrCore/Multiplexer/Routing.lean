import MuxrCore.Lib.Rpc
import MuxrCore.Lib.Text

/-! # Session ids: which backend owns one, and which sessions are collapsed

A client names a session by an id, `<backend>:<bare>`, or by a legacy bare name that only a server
with one backend accepts. `resolveSessionKind` maps an id to the backend that owns it;
`isCollapsedBackendSession` reads the id alone, and is what the control routing asks before it lets
a command fall back from the caller's own connection to another one of the session.

* `resolve_qualified`, `resolve_bare`: what a successful resolution says, with and without a colon.
* `collapsed_iff`: the id test, as a property of the id.
* `collapsed_agrees_iff`: the two agree except on a bare name at a server whose only backend is
  herdr.
* `resolve_makeId`: an id minted for a running backend resolves to that backend. -/

namespace MuxrCore.Multiplexer.Routing

open MuxrCore.Lib.Rpc MuxrCore.Lib.Text

/-- The terminal multiplexers a server can drive. -/
inductive BackendKind
  | zellij | herdr
  deriving DecidableEq, Repr

/-- The lowercase name of a backend, as its ids carry it. -/
def BackendKind.display : BackendKind → String
  | .zellij => "zellij"
  | .herdr => "herdr"

/-- The backends a server runs, in detection order; there is at least one. -/
structure BackendSet (β : Type) where
  backends : List (BackendKind × β)
  ne : backends ≠ []

namespace BackendSet

variable {β : Type} (bs : BackendSet β)

/-- The backend registered for a kind. -/
def get (kind : BackendKind) : Option β := (bs.backends.find? fun p => p.1 = kind).map Prod.snd

def kinds : List BackendKind := bs.backends.map Prod.fst

def len : ℕ := bs.backends.length

/-- The backend of highest priority. -/
def primary : β := (bs.backends.head bs.ne).2

theorem kinds_ne : bs.kinds ≠ [] := by simp [kinds, bs.ne]

theorem kinds_of_len_one (h : bs.len = 1) : bs.kinds = [bs.kinds.head bs.kinds_ne] := by
  obtain ⟨p, hp⟩ := List.length_eq_one_iff.mp h
  simp [kinds, hp]

end BackendSet

/-- What routing takes from outside the repository: zellij's own check of a session name, and the
debug rendering of a string in an error message. -/
structure Externs where
  validateSessionName : String → Except String Unit
  debug : String → String

/-- The kind a prefix names. -/
def parseBackendKind (s : String) : Option BackendKind :=
  if s = "zellij" then some .zellij else if s = "herdr" then some .herdr else none

/-- The session-name guard: zellij's own check, then the allowlist `[A-Za-z0-9_-]`. -/
def validateSessionName (env : Externs) (name : String) : Except String Unit :=
  match env.validateSessionName name with
  | .error e => .error e
  | .ok () =>
    if name.isEmpty || !name.toList.all fun c => c.isAlphanum || c == '_' || c == '-' then
      .error s!"invalid session name {env.debug name}: only [A-Za-z0-9_-] characters are allowed"
    else .ok ()

/-- The guard at an RPC boundary. -/
def validateSession (env : Externs) (session : String) : Except Status Unit :=
  match validateSessionName env session with
  | .error e => .error (.invalidArgument e)
  | .ok () => .ok ()

/-- The id names a backend whose sessions collapse to one shared id. -/
def isCollapsedBackendSession (id : String) : Bool :=
  match splitOnce id ':' with
  | some (pre, _) => pre == "herdr"
  | none => false

/-- The id of a session: `<backend>:<bare>`. -/
def makeId (kind : BackendKind) (bare : String) : String := kind.display ++ ":" ++ bare

variable {β : Type}

/-- The backend that owns a session id, its kind, and the bare name to hand it. -/
def resolveSessionKind (env : Externs) (bs : BackendSet β) (id : String) :
    Except Status (BackendKind × β × String) :=
  let owner : Except Status (BackendKind × β × String) :=
    match splitOnce id ':' with
    | some (kindStr, bare) =>
      match parseBackendKind kindStr with
      | none => .error (.invalidArgument
          (s!"session id {env.debug id} names an unknown backend {env.debug kindStr} " ++
            "(expected one of: zellij, herdr)"))
      | some kind =>
        match bs.get kind with
        | none => .error (.notFound
            (s!"session id {env.debug id} targets the '{kind.display}' backend, which is not " ++
              "running on this server — re-list sessions"))
        | some backend => .ok (kind, backend, bare)
    | none =>
      if bs.len = 1 then .ok (bs.kinds.head bs.kinds_ne, bs.primary, id)
      else .error (.invalidArgument
        (s!"session {env.debug id} is missing a '<backend>:' prefix and this server runs " ++
          "multiple backends — re-list sessions to obtain a backend-qualified id"))
  match owner with
  | .error e => .error e
  | .ok (kind, backend, bare) =>
    -- only the bare name is checked, never the full id
    match validateSession env bare with
    | .error e => .error e
    | .ok () => .ok (kind, backend, bare)

/-! ### What a successful resolution says -/

theorem parseBackendKind_eq_some {s : String} {kind : BackendKind}
    (h : parseBackendKind s = some kind) : s = kind.display := by
  unfold parseBackendKind at h
  split_ifs at h with h1 h2
  · cases h; exact h1
  · cases h; exact h2

theorem parseBackendKind_display (kind : BackendKind) :
    parseBackendKind kind.display = some kind := by
  cases kind <;> decide

/-- A qualified id resolves to the running backend its prefix names, with a valid bare name. -/
theorem resolve_qualified {env : Externs} {bs : BackendSet β} {id pre bare : String}
    (hs : splitOnce id ':' = some (pre, bare)) {kind : BackendKind} {b : β} {bare' : String} :
    resolveSessionKind env bs id = .ok (kind, b, bare') ↔
      pre = kind.display ∧ bs.get kind = some b ∧ bare' = bare ∧
        validateSession env bare = .ok () := by
  unfold resolveSessionKind
  rw [hs]
  constructor
  · intro h
    cases hk : parseBackendKind pre with
    | none => simp [hk] at h
    | some kind' =>
      cases hb : bs.get kind' with
      | none => simp [hk, hb] at h
      | some b' =>
        cases hv : validateSession env bare with
        | error e => simp [hk, hb, hv] at h
        | ok u =>
          simp only [hk, hb, hv, Except.ok.injEq, Prod.mk.injEq] at h
          obtain ⟨rfl, rfl, rfl⟩ := h
          exact ⟨parseBackendKind_eq_some hk, hb, rfl, rfl⟩
  · rintro ⟨rfl, hb, rfl, hv⟩
    simp only [parseBackendKind_display, hb, hv]

/-- A bare name resolves only at a server with one backend, and to that backend. -/
theorem resolve_bare {env : Externs} {bs : BackendSet β} {id : String}
    (hs : splitOnce id ':' = none) {kind : BackendKind} {b : β} {bare : String}
    (h : resolveSessionKind env bs id = .ok (kind, b, bare)) : bs.kinds = [kind] ∧ bare = id := by
  unfold resolveSessionKind at h
  rw [hs] at h
  by_cases hl : bs.len = 1
  · cases hv : validateSession env id with
    | error e => simp [hl, hv] at h
    | ok u =>
      simp only [hl, if_true, hv, Except.ok.injEq, Prod.mk.injEq] at h
      obtain ⟨rfl, -, rfl⟩ := h
      exact ⟨bs.kinds_of_len_one hl, rfl⟩
  · simp [hl] at h

/-- **An id minted for a running backend resolves to it**, with the bare name it was minted from. -/
theorem resolve_makeId {env : Externs} {bs : BackendSet β} {kind : BackendKind} {b : β}
    {bare : String} (hb : bs.get kind = some b) (hv : validateSession env bare = .ok ()) :
    resolveSessionKind env bs (makeId kind bare) = .ok (kind, b, bare) := by
  have hs : splitOnce (makeId kind bare) ':' = some (kind.display, bare) := by
    refine splitOnce_eq_some_iff.mpr ⟨by cases kind <;> decide, ?_⟩
    simp [makeId, String.toList_append]
  exact (resolve_qualified hs).mpr ⟨rfl, hb, rfl, hv⟩

/-! ### The two readings of an id -/

theorem collapsed_iff {id : String} :
    isCollapsedBackendSession id = true ↔ ∃ bare, splitOnce id ':' = some ("herdr", bare) := by
  unfold isCollapsedBackendSession
  cases h : splitOnce id ':' with
  | none => simp
  | some p =>
    obtain ⟨pre, bare⟩ := p
    simp only [beq_iff_eq, Option.some.injEq, Prod.mk.injEq]
    exact ⟨fun he => ⟨bare, he, rfl⟩, fun ⟨_, he, _⟩ => he⟩

/-- **The id test agrees with the resolution** exactly when the id is not a bare name at a server
that runs herdr alone. -/
theorem collapsed_agrees_iff {env : Externs} {bs : BackendSet β} {id : String} {kind : BackendKind}
    {b : β} {bare : String} (h : resolveSessionKind env bs id = .ok (kind, b, bare)) :
    (isCollapsedBackendSession id = true ↔ kind = .herdr) ↔
      ¬ (':' ∉ id.toList ∧ bs.kinds = [.herdr]) := by
  cases hs : splitOnce id ':' with
  | none =>
    have hc : isCollapsedBackendSession id = false := by simp [isCollapsedBackendSession, hs]
    have hn : ':' ∉ id.toList := splitOnce_eq_none_iff.mp hs
    rw [(resolve_bare hs h).1, hc]
    simp [hn]
  | some p =>
    obtain ⟨pre, bare'⟩ := p
    have hn : ¬ ':' ∉ id.toList := fun hn => by
      rw [splitOnce_eq_none_iff.mpr hn] at hs
      cases hs
    obtain ⟨rfl, -, -, -⟩ := (resolve_qualified hs).mp h
    have hd : kind.display = "herdr" ↔ kind = .herdr := by cases kind <;> decide
    simp only [hn, false_and, not_false_eq_true, iff_true]
    rw [collapsed_iff, hs, ← hd]
    simp

/-- zellij's check as it is documented: it rejects the empty name, `.`, `..` and any `/`. -/
def zellijExterns : Externs where
  validateSessionName name :=
    if name = "" ∨ name = "." ∨ name = ".." ∨ '/' ∈ name.toList then .error "invalid" else .ok ()
  debug s := "\"" ++ s ++ "\""

/-- A server that runs herdr and zellij, and one that runs herdr alone. -/
def bothBackends : BackendSet Unit := ⟨[(.zellij, ()), (.herdr, ())], by simp⟩

def herdrOnly : BackendSet Unit := ⟨[(.herdr, ())], by simp⟩

theorem collapsed_agrees_both :
    (isCollapsedBackendSession "herdr:herdr" = true ↔ BackendKind.herdr = .herdr) ↔
      ¬ (':' ∉ "herdr:herdr".toList ∧ bothBackends.kinds = [.herdr]) :=
  @collapsed_agrees_iff _ zellijExterns bothBackends "herdr:herdr" .herdr () "herdr" (by rfl)

/-- The legacy name `herdr` resolves to the only backend, herdr, and is not seen as collapsed. -/
theorem bare_herdr_not_collapsed :
    ¬ ∀ (env : Externs) (bs : BackendSet Unit) (id : String) (kind : BackendKind) (b : Unit)
      (bare : String), resolveSessionKind env bs id = .ok (kind, b, bare) →
        (isCollapsedBackendSession id = true ↔ kind = .herdr) := by
  intro h
  have := (h zellijExterns herdrOnly "herdr" .herdr () "herdr" (by rfl)).mpr rfl
  exact absurd this (by decide)

end MuxrCore.Multiplexer.Routing
