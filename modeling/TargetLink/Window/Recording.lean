import TargetLink.Memory
import TargetLink.Window.Basic

/-!
# Recording windows

A window in the host's own memory that records every store and counts the barriers. It stands in for
a device where there is none, and shows what a transport did to it.
-/

namespace TargetLink

/-- How a store was made. -/
inductive StoreKind where
  /-- Bytes were copied in. -/
  | write
  /-- Bytes were zeroed. -/
  | zero
  deriving DecidableEq, Repr

/-- The name of the kind. -/
def StoreKind.name : StoreKind → String
  | .write => "write"
  | .zero => "zero"

/-- A store that a recording window saw. -/
structure Store where
  /-- How it was made. -/
  kind : StoreKind
  /-- The first offset. -/
  offset : WindowOffset
  /-- The number of bytes. -/
  len : Nat
  /-- The number of barriers before it. -/
  barriersBefore : Nat
  deriving DecidableEq, Repr

/-- A window in memory that records what is done to it. -/
structure RecordingWindow where
  /-- The number of bytes. -/
  size : UInt64
  /-- The bytes. -/
  memory : Memory
  /-- The stores made through the window, the oldest first. -/
  stores : Array Store
  /-- The number of barriers. -/
  barriers : Nat

namespace RecordingWindow

/-- A window of zeros that nothing was done to. -/
def ofSize (size : UInt64) : RecordingWindow :=
  { size, memory := .empty, stores := #[], barriers := 0 }

/-- The window after the target stored bytes on its own, which is not recorded. -/
def poke (w : RecordingWindow) (start : Nat) (bytes : List UInt8) : RecordingWindow :=
  { w with memory := w.memory.write start bytes }

/-- The window with a store on record. -/
def record (w : RecordingWindow) (kind : StoreKind) (offset : WindowOffset) (len : Nat) :
    RecordingWindow :=
  { w with stores := w.stores.push { kind, offset, len, barriersBefore := w.barriers } }

/-- The window as a record, for debugging. -/
def debugText (w : RecordingWindow) : String :=
  "MockWindow \x7b size: " ++ toString w.size.toNat ++ ", stores: " ++ toString w.stores.size ++
    ", barriers: " ++ toString w.barriers ++ " \x7d"

instance : Window RecordingWindow where
  size w := w.size
  read w offset len := do
    checkRange offset len w.size
    return w.memory.read offset.toNat len
  write w offset bytes := do
    checkRange offset bytes.length w.size
    let stored := { w with memory := w.memory.write offset.toNat bytes }
    return stored.record .write offset bytes.length
  zero w offset len := do
    checkRange offset len w.size
    let stored := { w with memory := w.memory.zero offset.toNat len }
    return stored.record .zero offset len
  barrier w := { w with barriers := w.barriers + 1 }

end RecordingWindow

end TargetLink
