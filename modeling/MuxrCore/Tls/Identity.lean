import Mathlib.Algebra.Group.Nat.Defs
import Mathlib.Data.List.Basic

/-! # The server's identity

The server has a certificate and its private key, and next to them a sidecar with the names that the
certificate was made for. A call loads the identity if the sidecar covers the names it is asked for,
and otherwise generates another one.

A certificate is known by its key, as every generation draws a fresh one. -/

namespace MuxrCore.Tls.Identity

/-- An IP address. -/
inductive IpAddr
  | v4 (bits : BitVec 32)
  | v6 (bits : BitVec 128)
  deriving DecidableEq, Repr

/-- A name that a certificate is made for. -/
inductive SanEntry
  | ip (addr : IpAddr)
  | dns (name : String)
  deriving DecidableEq, Repr

/-- What is under the name of a file. -/
inductive Stored (α : Type*)
  | absent
  | garbled
  | value (a : α)
  deriving DecidableEq, Repr

/-- There is a file. -/
def Stored.exists {α : Type*} : Stored α → Bool
  | .absent => false
  | _ => true

/-- A certificate: its private key, and the names it was made for besides the built-in ones. -/
structure Cert where
  key : ℕ
  sans : List SanEntry
  deriving DecidableEq, Repr

/-- The files of the certificate directory. -/
structure Dir where
  cert : Stored Cert
  key : Stored ℕ
  sidecar : Stored (List SanEntry)
  deriving DecidableEq, Repr

/-- The names in the sidecar; none, if there is none that can be read. -/
def readSanSidecar (dir : Dir) : List SanEntry :=
  match dir.sidecar with
  | .value sans => sans
  | _ => []

/-- The stored names cover the requested ones. -/
def sidecarCovers (stored requested : List SanEntry) : Bool :=
  requested.all fun r => stored.contains r

theorem sidecarCovers_iff {stored requested : List SanEntry} :
    sidecarCovers stored requested = true ↔ ∀ r ∈ requested, r ∈ stored := by
  simp [sidecarCovers]

/-- The files with a new identity for the names. -/
def Dir.generated (key : ℕ) (sans : List SanEntry) : Dir :=
  ⟨.value ⟨key, sans⟩, .value key, .value sans⟩

/-- The files have an identity that is to be loaded. -/
def Dir.covers (dir : Dir) (sans : List SanEntry) : Bool :=
  dir.cert.exists && dir.key.exists && sidecarCovers (readSanSidecar dir) sans

/-- Load the identity, or generate one with the key drawn. -/
def loadOrGenerateIdentity (dir : Dir) (key : ℕ) (extraSans : List SanEntry) :
    Dir × Stored Cert × Stored ℕ :=
  if dir.covers extraSans then (dir, dir.cert, dir.key)
  else (.generated key extraSans, .value ⟨key, extraSans⟩, .value key)

/-- The certificate that a call returns is the one that is there afterwards. -/
theorem loadOrGenerateIdentity_cert (dir : Dir) (key : ℕ) (sans : List SanEntry) :
    (loadOrGenerateIdentity dir key sans).1.cert = (loadOrGenerateIdentity dir key sans).2.1 := by
  unfold loadOrGenerateIdentity
  split <;> rfl

/-- A call that loads leaves the files alone. -/
theorem loadOrGenerateIdentity_of_covers {dir : Dir} {sans : List SanEntry}
    (h : dir.covers sans = true) (key : ℕ) : (loadOrGenerateIdentity dir key sans).1 = dir := by
  rw [loadOrGenerateIdentity, if_pos h]

end MuxrCore.Tls.Identity
