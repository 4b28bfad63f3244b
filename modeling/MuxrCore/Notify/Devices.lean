import Mathlib.Algebra.Group.Nat.Defs
import Mathlib.Data.List.Basic

/-! # The push devices

The registry of the devices that want notifications is one file. Each operation takes the file's
lock, reads the file, and replaces it by a rename, so that it is one step; an operation that fails
leaves the file as it was.

* `mem_insert_self`, `mem_removeHandle`: what is there after an insertion and a removal. -/

namespace MuxrCore.Notify.Devices

/-- Bounds on the length of a handle. -/
def minHandleLen : ℕ := 32

def maxHandleLen : ℕ := 128

/-- Bounds on the length of a device name. -/
def minNameLen : ℕ := 1

def maxNameLen : ℕ := 64

/-- A registered device. -/
structure PushDevice where
  deviceName : String
  pushHandle : String
  platform : String
  registeredAt : ℕ
  deriving DecidableEq, Repr

/-- What is under the registry's name. -/
inductive File
  | missing
  | present (devices : List PushDevice)
  | unreadable (error : String)
  deriving DecidableEq, Repr

/-- The devices of a file; a missing one has none. -/
def File.load : File → Except String (List PushDevice)
  | .missing => .ok []
  | .present devices => .ok devices
  | .unreadable error => .error error

/-- The devices in the registry, if it can be read. -/
def File.entries (file : File) : List PushDevice := file.load.toOption.getD []

/-! ### The operations -/

/-- Replace the device of the same name, or add the device. -/
def insert (devices : List PushDevice) (device : PushDevice) : List PushDevice :=
  match devices.findIdx? (·.deviceName = device.deviceName) with
  | some i => devices.set i device
  | none => devices ++ [device]

/-- All but the devices of a name. -/
def removeName (devices : List PushDevice) (name : String) : List PushDevice :=
  devices.filter (·.deviceName ≠ name)

/-- All but the devices of a handle. -/
def removeHandle (devices : List PushDevice) (handle : String) : List PushDevice :=
  devices.filter (·.pushHandle ≠ handle)

/-- The devices; `failed` is why the lock could not be taken. -/
def list (file : File) (failed : Option String) : Except String (List PushDevice) :=
  match failed with
  | some e => .error e
  | none => file.load

/-- Register a device; `failed` is why the lock could not be taken or the file not be replaced. -/
def upsert (file : File) (failed : Option String) (device : PushDevice) :
    File × Except String Unit :=
  match file.load, failed with
  | .error e, _ => (file, .error e)
  | .ok _, some e => (file, .error e)
  | .ok devices, none => (.present (insert devices device), .ok ())

/-- Write back what a removal leaves; the file is not replaced if nothing has been removed. -/
def remove (file : File) (failed : Option String) (kept : List PushDevice → List PushDevice) :
    File × Except String Bool :=
  match file.load, failed with
  | .error e, _ => (file, .error e)
  | .ok devices, failed =>
    if (kept devices).length = devices.length then (file, failed.elim (.ok false) .error)
    else match failed with
      | some e => (file, .error e)
      | none => (.present (kept devices), .ok true)

def removeByName (file : File) (failed : Option String) (name : String) :
    File × Except String Bool :=
  remove file failed (removeName · name)

def removeByHandle (file : File) (failed : Option String) (handle : String) :
    File × Except String Bool :=
  remove file failed (removeHandle · handle)

/-! ### Checks -/

/-- A handle is a bounded lowercase hex string. -/
def validatePushHandle (handle : String) : Except String Unit :=
  if handle.utf8ByteSize < minHandleLen || handle.utf8ByteSize > maxHandleLen then
    .error s!"must be {minHandleLen}-{maxHandleLen} characters (got {handle.utf8ByteSize})"
  else if !handle.toList.all fun c => c.isDigit || ('a' ≤ c && c ≤ 'f') then
    .error "must be lowercase hex ([0-9a-f])"
  else .ok ()

/-- A device name is a bounded string of a few characters. -/
def validateDeviceName (name : String) : Except String Unit :=
  if name.utf8ByteSize < minNameLen || name.utf8ByteSize > maxNameLen then
    .error s!"must be {minNameLen}-{maxNameLen} characters (got {name.utf8ByteSize})"
  else if !name.toList.all fun c =>
      c.isAlphanum || c == ' ' || c == '_' || c == '.' || c == '-' then
    .error "must contain only [A-Za-z0-9 _.-]"
  else .ok ()

/-! ### What is kept -/

variable {devices : List PushDevice} {d device : PushDevice}

/-- The device is there afterwards. -/
theorem mem_insert_self : device ∈ insert devices device := by
  unfold insert
  split
  · obtain ⟨hi, -⟩ := List.findIdx?_eq_some_iff_getElem.mp ‹_›
    exact List.mem_set hi device
  · simp

theorem mem_removeHandle {handle : String} :
    d ∈ removeHandle devices handle ↔ d ∈ devices ∧ d.pushHandle ≠ handle := by
  simp [removeHandle]

/-- The entries after a removal that has gone through are the ones to keep. -/
theorem entries_remove (file : File) {kept : List PushDevice → List PushDevice}
    (hkept : ∀ devices, (kept devices).Sublist devices) :
    (remove file none kept).1.entries = kept file.entries := by
  have hnil : kept [] = [] := List.sublist_nil.mp (hkept [])
  unfold remove
  rcases file with _ | devices | e
  · simp [File.load, File.entries, hnil, Except.toOption]
  · simp only [File.load]
    split_ifs with h
    · exact ((hkept devices).eq_of_length h).symm
    · rfl
  · simp [File.load, File.entries, hnil, Except.toOption]

theorem entries_removeByHandle (file : File) (handle : String) :
    (removeByHandle file none handle).1.entries = removeHandle file.entries handle :=
  entries_remove file fun _ => List.filter_sublist

/-- A removal that fails keeps the entries. -/
theorem entries_removeByHandle_failed (file : File) (handle e : String) :
    (removeByHandle file (some e) handle).1.entries = file.entries := by
  unfold removeByHandle remove
  split
  · rfl
  · split_ifs <;> rfl

end MuxrCore.Notify.Devices
