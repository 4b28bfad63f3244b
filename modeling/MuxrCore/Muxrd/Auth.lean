import MuxrCore.Grpc.Operation

/-! # The bearer layer

The layer stands before every handler. A path that is not public needs an `authorization` header
with a session token that the token database takes for valid; the layer then marks the request with
the token and with its tier, which is read-only where the database cannot say. A public path is let
through unmarked, whatever its headers. -/

namespace MuxrCore.Muxrd.Auth

open MuxrCore.Lib.Program MuxrCore.Lib.Rpc MuxrCore.Grpc.Operation

/-- The paths that need no token. -/
def publicPaths : List String := ["/muxr.v1.Muxr/GetVersion", "/muxr.v1.Muxr/Login"]

/-- The marks of a request: its tier, and its token. -/
structure Extensions where
  sessionReadOnly : Option Bool
  sessionToken : Option String
  deriving DecidableEq, Repr

/-- The `authorization` header of a request, if it has one; its value, if that is visible ASCII. -/
abbrev Header := Option (Option String)

/-- What follows `lead`, if the text begins with it. -/
def stripStart (lead s : String) : Option String :=
  if lead.toList <+: s.toList then some (String.ofList (s.toList.drop lead.toList.length))
  else none

/-- The token of a header. -/
def bearerToken (header : Header) : Except Status String :=
  match header with
  | none => .error (.unauthenticated "missing authorization header")
  | some none => .error (.unauthenticated "authorization header is not valid ASCII")
  | some (some value) =>
    match stripStart "Bearer " value with
    | none => .error (.unauthenticated "authorization header must use Bearer scheme")
    | some token =>
      if token.isEmpty then .error (.unauthenticated "bearer token must not be empty")
      else .ok token

/-- Whether the database takes the token. -/
def validAnswer : Except String Bool → Except Status Unit
  | .error _ => .error (.unauthenticated "authentication error")
  | .ok false =>
    .error (.unauthenticated "invalid or expired session token — call Login first")
  | .ok true => .ok ()

/-- The tier of a token; where the database fails, it is read-only. -/
def tier : Except String Bool → Bool
  | .ok readOnly => readOnly
  | .error _ => true

/-- The tier of a request, and its token. -/
def checkBearer (header : Header) : Handle (Bool × String) := do
  let token ← ensure (bearerToken header)
  let valid ← perform (.validateSessionToken token)
  ensure (validAnswer valid)
  let readOnly ← perform (.isSessionTokenReadOnly token)
  return (tier readOnly, token)

/-- The layer: the marks of a request that it lets through. -/
def bearerAuth (path : String) (header : Header) : Handle Extensions :=
  if path ∈ publicPaths then return ⟨none, none⟩
  else do
    let (readOnly, token) ← checkBearer header
    return ⟨some readOnly, some token⟩

theorem stripStart_eq_some_iff {lead s rest : String} :
    stripStart lead s = some rest ↔ s = lead ++ rest := by
  unfold stripStart
  constructor
  · intro h
    split_ifs at h with hlead
    obtain ⟨tail, htail⟩ := hlead
    rw [← htail, List.drop_left, Option.some.injEq] at h
    rw [← h, ← String.toList_inj, String.toList_append, String.toList_ofList, htail]
  · rintro rfl
    simp [String.toList_append]

/-- A token that is looked up is the whole of the header after its scheme, and is not empty. -/
theorem bearerToken_eq_ok {header : Header} {token : String} (h : bearerToken header = .ok token) :
    header = some (some ("Bearer " ++ token)) ∧ token ≠ "" := by
  unfold bearerToken at h
  rcases header with - | - | value
  · cases h
  · cases h
  rcases hs : stripStart "Bearer " value with - | rest
  · simp [hs] at h
  by_cases hempty : rest.isEmpty
  · simp [hs, hempty] at h
  · have hrest : rest = token := by simpa [hs, hempty] using h
    obtain rfl := hrest
    rw [stripStart_eq_some_iff.mp hs]
    exact ⟨rfl, fun hnil => hempty (by simp [hnil])⟩

end MuxrCore.Muxrd.Auth
