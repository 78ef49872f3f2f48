import TargetLink.ChunkMemory.Basic
import TargetLink.Memory
import TargetLink.Window.Stuck

/-!
# Flat memory

A chunk memory on the bench: one run of bytes at a base address, with any alignment and any longest
request. It keeps every request on record and can be made to misbehave: one request can be made to
fail, and bytes can be stuck. A request that fails leaves the bytes as they were.
-/

namespace TargetLink

/-- A request that a flat memory saw. -/
inductive Request where
  /-- Bytes were to be read. -/
  | read (addr : TargetAddr) (len : Nat)
  /-- Bytes were to be stored. -/
  | write (addr : TargetAddr) (len : Nat)
  /-- Zeros were to be stored. -/
  | clear (addr : TargetAddr) (len : Nat)
  /-- The target was to be started. -/
  | reset
  deriving DecidableEq, Repr

/-- A run of bytes in target memory. -/
structure FlatMemory where
  /-- The address of the first byte. -/
  base : TargetAddr
  /-- The number of bytes. -/
  size : Nat
  /-- The alignment that the memory asks for. -/
  align : Nat
  /-- The longest request that the memory asks for. -/
  maxSize : Nat
  /-- The bytes. -/
  memory : Memory
  /-- The number of the access that fails, if one is to. -/
  failAt : Option Nat
  /-- The bytes that always read as the same value. -/
  stuck : StuckBytes
  /-- The requests so far, the oldest first. -/
  requests : Array Request
  /-- The number of accesses so far; a reset is none. -/
  accesses : Nat
  /-- The target was started. -/
  resetIssued : Bool

namespace FlatMemory

/-- The index of an address, around the end of the address space if need be. -/
def index (m : FlatMemory) (addr : TargetAddr) : Nat :=
  (addr.val - m.base.val).toNat

/-- Why the next access to `len` bytes at an address fails, if it does. -/
def refusal? (m : FlatMemory) (addr : TargetAddr) (len : Nat) : Option LinkError :=
  if m.failAt = some m.accesses then some (.unmappedAddress addr)
  else if m.size < m.index addr + len then some (.outOfBounds addr len)
  else none

/-- Puts an access on record and looks whether it succeeds. -/
def access (request : Request) (addr : TargetAddr) (len : Nat) :
    Action LinkError FlatMemory Unit := do
  let m ← Action.current
  Action.put { m with requests := m.requests.push request, accesses := m.accesses + 1 }
  match m.refusal? addr len with
  | some e => Action.ofExcept (.error e)
  | none => pure ()

/-- The bytes at an address, as they read. -/
def readChunk (addr : TargetAddr) (len : Nat) : Action LinkError FlatMemory (List UInt8) := do
  access (.read addr len) addr len
  let m ← Action.current
  return m.stuck.overlay (m.index addr) (m.memory.read (m.index addr) len)

/-- Stores bytes at an address. -/
def writeChunk (addr : TargetAddr) (bytes : List UInt8) : Action LinkError FlatMemory Unit := do
  access (.write addr bytes.length) addr bytes.length
  Action.update fun m => { m with memory := m.memory.write (m.index addr) bytes }

/-- Stores zeros at an address. -/
def clearChunk (addr : TargetAddr) (len : Nat) : Action LinkError FlatMemory Unit := do
  access (.clear addr len) addr len
  Action.update fun m => { m with memory := m.memory.zero (m.index addr) len }

/-- Starts the target, the first time. -/
def reset : Action LinkError FlatMemory Unit := do
  let m ← Action.current
  Action.put { m with requests := m.requests.push .reset, resetIssued := true }
  if m.resetIssued then Action.ofExcept (.error .resetAlreadyIssued)

instance : ChunkMemory FlatMemory where
  chunkAlign m := m.align
  chunkMaxSize m := m.maxSize
  readChunk := readChunk
  writeChunk := writeChunk
  clearChunk := clearChunk
  reset := reset

end FlatMemory

end TargetLink
