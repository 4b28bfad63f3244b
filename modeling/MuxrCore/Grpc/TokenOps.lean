import MuxrCore.Lib.Rpc
import MuxrCore.TokenExpiry.Sidecar

/-! # Login

`Login` exchanges an auth token for a session token. The exchange itself is the token database's
(`TokenDb`); before it, a token whose deadline has passed is refused (`login_expired`). -/

namespace MuxrCore.Grpc.TokenOps

open MuxrCore.Lib.Rpc MuxrCore.TokenExpiry.Sidecar

structure LoginRequest where
  authToken : String
  rememberMe : Bool
  deriving DecidableEq, Repr

structure LoginResponse where
  sessionToken : String
  isReadOnly : Bool
  deriving DecidableEq, Repr

/-- Why the blocking half of a login fails. -/
inductive LoginErr
  | expired
  | invalid (cause : String)
  deriving DecidableEq, Repr

/-- The token database: minting a session token for an auth token, and the scope of a session
token. -/
structure TokenDb where
  createSessionToken : String → Bool → Except String String
  isSessionTokenReadOnly : String → Except String Bool

/-- The blocking half of a login, at a reading of the clock. -/
def loginBlocking (db : TokenDb) (sha256 : List UInt8 → List UInt8) (file : File) (now : ℤ)
    (req : LoginRequest) : Except LoginErr (String × Bool) :=
  if isExpired sha256 file req.authToken now then .error .expired
  else
    match db.createSessionToken req.authToken req.rememberMe with
    | .error e => .error (.invalid e)
    | .ok sessionToken =>
      .ok (sessionToken, match db.isSessionTokenReadOnly sessionToken with
        | .ok isReadOnly => isReadOnly
        | .error _ => true)

/-- A login. `joined` is how the blocking task ended: with an error if it panicked. -/
def loginImpl (db : TokenDb) (sha256 : List UInt8 → List UInt8) (file : File) (now : ℤ)
    (joined : Except String Unit) (req : LoginRequest) : Except Status LoginResponse :=
  match joined with
  | .error e => .error (.internal ("Login task panicked: " ++ e))
  | .ok () =>
    match loginBlocking db sha256 file now req with
    | .ok (sessionToken, isReadOnly) => .ok ⟨sessionToken, isReadOnly⟩
    | .error .expired =>
      .error (.unauthenticated "pairing token expired — request a fresh pairing QR")
    | .error (.invalid _) => .error (.unauthenticated "invalid auth token")

/-- **A token whose deadline has passed gets no session token**, whatever the database says: the
login says that the token has expired. -/
theorem login_expired {db : TokenDb} {sha256 : List UInt8 → List UInt8} {file : File} {now : ℤ}
    {req : LoginRequest} (h : isExpired sha256 file req.authToken now = true)
    (joined : Except String Unit) :
    ∃ status, loginImpl db sha256 file now joined req = .error status ∧
      (joined.isOk = true →
        status = .unauthenticated "pairing token expired — request a fresh pairing QR") := by
  rcases joined with e | ⟨⟩
  · exact ⟨_, rfl, fun hok => by simp [Except.isOk, Except.toBool] at hok⟩
  · refine ⟨_, ?_, fun _ => rfl⟩
    simp [loginImpl, loginBlocking, h]

end MuxrCore.Grpc.TokenOps
