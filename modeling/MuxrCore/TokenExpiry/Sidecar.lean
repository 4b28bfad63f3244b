import Mathlib.Algebra.Group.Nat.Defs
import Mathlib.Data.Int.Init
import Mathlib.Logic.Function.Basic
import Mathlib.Tactic.SplitIfs

/-! # The token expiry sidecar

An auth token may be given a deadline. The sidecar file maps the hash of a token to its deadline,
in seconds of the Unix epoch; a token without an entry is long-lived. Every write starts from the
map without the entries whose deadline has passed (`loadPruned`), while `isExpired` reads the map
as it is.

A function that reads the clock takes its reading as an argument (`now`), and one that writes the
file takes what the file system answered (`io`): the error of the first step that failed, if one
did. The file is replaced by a rename, so a write that fails leaves it as it was. -/

namespace MuxrCore.TokenExpiry.Sidecar

/-- The map the file holds, from hashes to deadlines. -/
abbrev Deadlines := String → Option ℤ

/-- The sidecar file: absent or not readable, not a map, or a map. -/
inductive File
  | unreadable
  | malformed
  | entries (map : Deadlines)

/-- What the file system answered to a write. -/
abbrev Io := Except String Unit

/-! ### The token's hash -/

def hexDigit (n : ℕ) : Char := "0123456789abcdef".toList.getD n '0'

def hexByte (b : UInt8) : List Char := [hexDigit (b.toNat / 16), hexDigit (b.toNat % 16)]

/-- The hash of a token under a digest function: the digest of its text in lower-case hex. -/
def tokenHash (sha256 : List UInt8 → List UInt8) (plaintext : String) : String :=
  String.ofList ((sha256 plaintext.toUTF8.data.toList).flatMap hexByte)

/-! ### Reading and writing the file -/

/-- The map with the entries that expire after `now`, empty where the file cannot be read. -/
def loadPruned (file : File) (now : ℤ) : Deadlines :=
  match file with
  | .unreadable => fun _ => none
  | .malformed => fun _ => none
  | .entries map => fun hash => (map hash).filter (now < ·)

/-- Replace the file. -/
def store (file : File) (map : Deadlines) (io : Io) : File × Io :=
  match io with
  | .ok () => (.entries map, .ok ())
  | .error e => (file, .error e)

/-- Deadlines are 64-bit signed integers. -/
def toI64 (n : ℤ) : ℤ := n.bmod (2 ^ 64)

variable (sha256 : List UInt8 → List UInt8)

/-- Record that a token expires at a given time. -/
def setExpiry (file : File) (plaintext : String) (expiresAt now : ℤ) (io : Io) : File × Io :=
  let map := Function.update (loadPruned file now) (tokenHash sha256 plaintext) (some expiresAt)
  store file map io

/-- Record that a token expires `ttlSecs` seconds after the first reading of the clock. -/
def setExpiryIn (file : File) (plaintext : String) (ttlSecs now₁ now₂ : ℤ) (io : Io) : File × Io :=
  setExpiry sha256 file plaintext (toI64 (now₁ + ttlSecs)) now₂ io

/-- The token has a recorded deadline that has passed. -/
def isExpired (file : File) (plaintext : String) (now : ℤ) : Bool :=
  match file with
  | .unreadable => false
  | .malformed => false
  | .entries map =>
    match map (tokenHash sha256 plaintext) with
    | some exp => exp ≤ now
    | none => false

/-- Remove a token's entry. -/
def forget (file : File) (plaintext : String) (now : ℤ) (io : Io) : File :=
  let map := loadPruned file now
  let hash := tokenHash sha256 plaintext
  if (map hash).isSome then (store file (Function.update map hash none) io).1 else file

/-! ### The recorded deadline -/

/-- The deadline the file records for a hash. -/
def File.deadline (file : File) (hash : String) : Option ℤ :=
  match file with
  | .unreadable => none
  | .malformed => none
  | .entries map => map hash

variable {sha256}

theorem isExpired_iff {file : File} {plaintext : String} {now : ℤ} :
    isExpired sha256 file plaintext now = true ↔
      ∃ exp, file.deadline (tokenHash sha256 plaintext) = some exp ∧ exp ≤ now := by
  rcases file with - | - | map
  · simp [isExpired, File.deadline]
  · simp [isExpired, File.deadline]
  · rcases h : map (tokenHash sha256 plaintext) with - | exp <;>
      simp [isExpired, File.deadline, h]

theorem loadPruned_eq (file : File) (now : ℤ) (hash : String) :
    loadPruned file now hash = (file.deadline hash).filter (now < ·) := by
  rcases file with - | - | map <;> rfl

/-- A write keeps another hash's deadline if it fails, and otherwise if that is still to come. -/
theorem setExpiry_deadline {file : File} {plaintext hash : String} {expiresAt now : ℤ} {io : Io}
    (h : io.isOk = true → tokenHash sha256 plaintext ≠ hash) :
    (setExpiry sha256 file plaintext expiresAt now io).1.deadline hash =
      if io.isOk then (file.deadline hash).filter (now < ·) else file.deadline hash := by
  rcases io with e | ⟨⟩
  · rfl
  · show Function.update _ _ _ hash = _
    rw [Function.update_of_ne (Ne.symm (h rfl)), loadPruned_eq]
    rfl

theorem setExpiryIn_deadline {file : File} {plaintext hash : String} {ttlSecs now₁ now₂ : ℤ}
    {io : Io} (h : io.isOk = true → tokenHash sha256 plaintext ≠ hash) :
    (setExpiryIn sha256 file plaintext ttlSecs now₁ now₂ io).1.deadline hash =
      if io.isOk then (file.deadline hash).filter (now₂ < ·) else file.deadline hash :=
  setExpiry_deadline h

/-- Forgetting a token writes only where its own deadline is still to come. -/
theorem forget_deadline {file : File} {plaintext hash : String} {now : ℤ} {io : Io}
    (h : io.isOk = true → tokenHash sha256 plaintext ≠ hash) :
    (forget sha256 file plaintext now io).deadline hash =
      if io.isOk ∧ (loadPruned file now (tokenHash sha256 plaintext)).isSome then
        (file.deadline hash).filter (now < ·)
      else file.deadline hash := by
  unfold forget
  by_cases hsome : (loadPruned file now (tokenHash sha256 plaintext)).isSome = true
  · rw [if_pos hsome]
    rcases io with e | ⟨⟩
    · simp [store, Except.isOk, Except.toBool]
    · rw [if_pos ⟨rfl, hsome⟩]
      show Function.update _ _ _ hash = _
      rw [Function.update_of_ne (Ne.symm (h rfl)), loadPruned_eq]
  · rw [if_neg hsome, if_neg fun hc => hsome hc.2]

end MuxrCore.TokenExpiry.Sidecar
