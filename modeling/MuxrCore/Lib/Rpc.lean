import Mathlib.Init

/-! # gRPC statuses

The error half of an RPC answer: a code and a message. -/

namespace MuxrCore.Lib.Rpc

/-- The gRPC status codes. -/
inductive Code
  | ok | cancelled | unknown | invalidArgument | deadlineExceeded | notFound | alreadyExists
  | permissionDenied | resourceExhausted | failedPrecondition | aborted | outOfRange
  | unimplemented | internal | unavailable | dataLoss | unauthenticated
  deriving DecidableEq, Repr

/-- A status: why an RPC did not answer. -/
structure Status where
  code : Code
  message : String
  deriving DecidableEq, Repr

namespace Status

def invalidArgument (message : String) : Status := ⟨.invalidArgument, message⟩

def notFound (message : String) : Status := ⟨.notFound, message⟩

def internal (message : String) : Status := ⟨.internal, message⟩

def unauthenticated (message : String) : Status := ⟨.unauthenticated, message⟩

end Status

end MuxrCore.Lib.Rpc
