import MuxrCore.Grpc.Route
import MuxrCore.Lib.Text
import MuxrCore.Notify.Devices

/-! # Registering a device

The calls by which a client registers a device for notifications, and removes one. What they do to
the registry is done by `Notify.Devices`. -/

namespace MuxrCore.Grpc.PushOps

open MuxrCore.Lib.Rpc MuxrCore.Grpc.Route MuxrCore.Notify.Devices

/-- A read-only token changes nothing; a request without the mark is refused too. -/
def rejectIfReadOnly : Option Bool → Except Status Unit
  | some true => .error ⟨.permissionDenied,
      "session token is read-only — mutating operations are not allowed"⟩
  | some false => .ok ()
  | none => .error ⟨.permissionDenied,
      "internal auth error: read-only flag not set — request denied (fail-closed)"⟩

/-- What the calls read of the service. -/
structure MuxrService where
  notifyRelayUrl : Option String
  herdr : Bool
  deriving DecidableEq, Repr

structure RegisterPushTargetReq where
  deviceName : String
  pushHandle : String
  platform : String
  deriving DecidableEq, Repr

/-- The device of a request. -/
def RegisterPushTargetReq.device (req : RegisterPushTargetReq) (registeredAt : ℕ) : PushDevice :=
  ⟨req.deviceName, req.pushHandle, req.platform, registeredAt⟩

/-- Whether a registration is let through. -/
def admitRegister (svc : MuxrService) (readOnly : Option Bool) (req : RegisterPushTargetReq) :
    Except Status Unit := do
  rejectIfReadOnly readOnly
  if svc.notifyRelayUrl.isNone then
    throw ⟨.failedPrecondition,
      "RegisterPushTarget: server has no push-notification relay configured"⟩
  if !svc.herdr then
    throw ⟨.failedPrecondition, "push notifications require the herdr backend"⟩
  (validatePushHandle req.pushHandle).mapError fun e => .invalidArgument s!"push_handle: {e}"
  (validateDeviceName req.deviceName).mapError fun e => .invalidArgument s!"device_name: {e}"

/-- Register a device, or refresh it. -/
def registerPushTargetImpl (svc : MuxrService) (file : File) (readOnly : Option Bool)
    (req : RegisterPushTargetReq) (registeredAt : ℕ) (failed : Option String) :
    File × Except Status ProtoAck :=
  match admitRegister svc readOnly req with
  | .error e => (file, .error e)
  | .ok () =>
    match upsert file failed (req.device registeredAt) with
    | (file, .error e) => (file, .error (.internal s!"failed to persist device: {e}"))
    | (file, .ok ()) => (file, .ok ⟨true, "", ""⟩)

/-- Whether a removal is let through. -/
def admitRemove (readOnly : Option Bool) (deviceName : String) : Except Status Unit := do
  rejectIfReadOnly readOnly
  if Lib.Text.isBlank deviceName then
    throw (.invalidArgument "RemovePushTarget: device_name must not be empty")

/-- Remove a device by its name. -/
def removePushTargetImpl (file : File) (readOnly : Option Bool) (deviceName : String)
    (failed : Option String) : File × Except Status ProtoAck :=
  match admitRemove readOnly deviceName with
  | .error e => (file, .error e)
  | .ok () =>
    match removeByName file failed deviceName with
    | (file, .error e) => (file, .error (.internal s!"failed to remove device: {e}"))
    | (file, .ok true) => (file, .ok ⟨true, "", ""⟩)
    | (file, .ok false) => (file, .ok ⟨false, s!"device '{deviceName}' not found", ""⟩)

end MuxrCore.Grpc.PushOps
