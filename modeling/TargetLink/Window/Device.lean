import TargetLink.Action
import TargetLink.Memory
import TargetLink.Window.Basic

/-!
# Device windows

A window that maps a device file. The mapping is shared: what the host stores through the window is
in the file, and what the target stores in the file is in the window, so window and file are one
memory here. A window holds a mapping and a handle until it is closed, and closing it twice does
nothing.

A file may be shorter than its mapping. The system ends a process that touches a byte of a mapping
with no memory behind it.
-/

namespace TargetLink

/-- The number under which the system knows a file. -/
abbrev FileId := Nat

/-- The contents of a file: the first `size` bytes of a memory. -/
structure FileData where
  /-- The number of bytes. -/
  size : Nat
  /-- The bytes. -/
  memory : Memory

namespace FileData

/-- A file of zeros. -/
def zeros (size : Nat) : FileData where
  size := size
  memory := .empty

/-- A file of given bytes. -/
def ofBytes (bytes : List UInt8) : FileData where
  size := bytes.length
  memory := .ofBytes bytes

/-- All bytes of the file. -/
def bytes (f : FileData) : List UInt8 :=
  f.memory.read 0 f.size

/-- The file with bytes stored into it, longer if they reach past its end. Where there is nothing to
store, the file stays as it is, wherever the store would begin. -/
def write (f : FileData) (start : Nat) (bytes : List UInt8) : FileData :=
  if bytes = [] then f
  else { f with size := max f.size (start + bytes.length), memory := f.memory.write start bytes }

end FileData

/-- How much of a mapping has memory behind it. -/
structure Reach where
  /-- The number of bytes from the first one on, by the size of the file. -/
  bytes : Nat → Nat
  /-- The bytes of the file are among them. -/
  le_bytes : ∀ size, size ≤ bytes size

/-- The first bytes of a file in the memory of the process. -/
structure Mapping where
  /-- The number of bytes. -/
  size : UInt64
  /-- How much of it has memory behind it. -/
  reach : Reach

/-- A window onto a device file. -/
structure DeviceWindow where
  /-- The path under which the device was opened. -/
  path : OsString
  /-- The device's bytes, which file and mapping share. -/
  device : FileData
  /-- The mapping while there is one. -/
  mapping : Option Mapping
  /-- The open file while there is one. -/
  handle : Option FileId

namespace DeviceWindow

/-- The window is not closed. -/
def isMapped (w : DeviceWindow) : Bool :=
  w.mapping.isSome

/-- The number of bytes, 0 once the window is closed. -/
def size (w : DeviceWindow) : UInt64 :=
  (w.mapping.map Mapping.size).getD 0

/-- Unmaps the window and closes its handle, each of them if it is there. -/
def closing {ε : Type} : Action ε DeviceWindow Unit := do
  if (← Action.current).mapping.isSome then
    Action.update fun w => { w with mapping := none }
    Action.emit (.windowUnmapped (← Action.current).path)
  if (← Action.current).handle.isSome then
    Action.update fun w => { w with handle := none }
    Action.emit (.deviceClosed (← Action.current).path)

/-- The window and the log that closing it leaves. -/
def closed (s : Logged DeviceWindow) : Logged DeviceWindow :=
  ((closing (ε := Empty)).result s).2

/-- The closed window. -/
def close (w : DeviceWindow) : DeviceWindow :=
  (closed (Logged.start w)).state

/-- What closing the window reports. -/
def closeEvents (w : DeviceWindow) : List Event :=
  (closed (Logged.start w)).log.toList

/-- The window after the target stored bytes on its own. -/
def poke (w : DeviceWindow) (start : Nat) (bytes : List UInt8) : DeviceWindow :=
  { w with device := w.device.write start bytes }

/-- The window as a record, for debugging. -/
def debugText (w : DeviceWindow) : String :=
  "MappedWindow \x7b path: " ++ w.path.quoted ++ ", size: " ++ toString w.size.toNat ++
    ", mapped: " ++ toString w.isMapped ++ " \x7d"

/-- Refuses a range that does not lie in the mapping, and every range without one. An access to bytes
with no memory behind them faults. -/
def check (w : DeviceWindow) (offset : WindowOffset) (len : Nat) : Except WindowError Unit :=
  match w.mapping with
  | some m => do
    checkRange offset len m.size
    if 0 < len ∧ m.reach.bytes w.device.size < offset.toNat + len then .error .fault
  | none => .error .unmapped

/-- The window with other bytes in its device. -/
def withMemory (w : DeviceWindow) (memory : Memory) : DeviceWindow :=
  { w with device := { w.device with memory } }

instance : Window DeviceWindow where
  size w := w.size
  read w offset len := do
    w.check offset len
    return w.device.memory.read offset.toNat len
  write w offset bytes := do
    w.check offset bytes.length
    return w.withMemory (w.device.memory.write offset.toNat bytes)
  zero w offset len := do
    w.check offset len
    return w.withMemory (w.device.memory.zero offset.toNat len)
  barrier w := w

end DeviceWindow

end TargetLink
