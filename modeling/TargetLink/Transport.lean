import TargetLink.ChunkMemory.Basic
import TargetLink.Translator
import TargetLink.Window.Basic

/-!
# The transport

A transport owns a window and the translator for it. Every chunk request takes the same way: the
access is resolved to a window offset, the bytes are copied, and a store is followed by a barrier
before anything else happens. A request that is not resolved touches nothing.

The target starts when the host raises the software interrupt of hart 0, an ordinary chunk store to
the interruptor, which a transport issues at most once.
-/

namespace TargetLink

open Layout

/-- A window with the translator for it. -/
structure Transport (ω : Type) where
  /-- The window. -/
  window : ω
  /-- The translator. -/
  translator : Translator
  /-- The target was started through this transport. -/
  resetIssued : Bool

namespace Transport

variable {ω : Type}

/-- A transport over a window and a map made for a window of that size. -/
def ofParts [Window ω] (window : ω) (regions : RegionMap) (policy : UnmappedPolicy) :
    Except LinkError (Transport ω) :=
  if Window.size window = regions.windowSize then
    .ok { window, translator := { regions, policy }, resetIssued := false }
  else
    .error (.configuration (.windowSizeMismatch regions.windowSize (Window.size window)))

/-- A transport over a window, with the DRAM asked for or as much as the window holds. -/
def ofWindow [Window ω] (window : ω) (dramSize : Option UInt64) (policy : UnmappedPolicy) :
    Except LinkError (Transport ω) :=
  match RegionMap.placeSized (Window.size window) dramSize with
  | .ok regions => ofParts window regions policy
  | .error cause => .error (.configuration (.layout cause))

/-- The regions of the window. -/
def regions (t : Transport ω) : RegionMap :=
  t.translator.regions

/-- What reporting the layout adds to the log: a heading and a line for each region. -/
def layoutEvents (t : Transport ω) : List Event :=
  .layoutHeading t.regions.windowSize :: t.regions.regions.map .regionPlaced

/-- Reports the layout. -/
def logLayout {ε : Type} : Action ε (Transport ω) Unit := do
  Action.emitAll (← Action.current).layoutEvents

/-- The window offset of an address. -/
def translate (addr : TargetAddr) : Action LinkError (Transport ω) WindowOffset := do
  let t ← Action.current
  Action.emitAll (t.translator.translateEvents addr)
  Action.ofExcept (t.translator.translate addr)

/-- The window offset of the first byte of a valid access. -/
def resolve (addr : TargetAddr) (len : Nat) : Action LinkError (Transport ω) WindowOffset := do
  let t ← Action.current
  Action.emitAll (t.translator.resolveEvents addr len)
  Action.ofExcept (t.translator.resolve addr len)

variable [Window ω]

/-- Replaces the window by the result of a store, and makes the store visible. -/
def commit (stored : Except WindowError ω) : Action LinkError (Transport ω) Unit := do
  let window ← Action.ofExcept (stored.mapError .window)
  Action.update fun t => { t with window := Window.barrier window }

/-- The `len` bytes of target memory at an address. -/
def readChunk (addr : TargetAddr) (len : Nat) : Action LinkError (Transport ω) (List UInt8) := do
  let offset ← resolve addr len
  Action.emit (.chunkRead addr offset len)
  let t ← Action.current
  Action.ofExcept ((Window.read t.window offset len).mapError .window)

/-- Stores bytes at an address. -/
def writeChunk (addr : TargetAddr) (bytes : List UInt8) : Action LinkError (Transport ω) Unit := do
  let offset ← resolve addr bytes.length
  Action.emit (.chunkWritten addr offset bytes.length)
  let t ← Action.current
  commit (Window.write t.window offset bytes)

/-- Stores zeros at an address. -/
def clearChunk (addr : TargetAddr) (len : Nat) : Action LinkError (Transport ω) Unit := do
  let offset ← resolve addr len
  Action.emit (.chunkCleared addr offset len)
  let t ← Action.current
  commit (Window.zero t.window offset len)

/-- The bytes that raise the software interrupt: the number 1 as a word of four bytes, the lowest
byte first. -/
def msipRaised : List UInt8 :=
  [1, 0, 0, 0]

/-- Raises the software interrupt of hart 0, unless that was done before. -/
def reset : Action LinkError (Transport ω) Unit := do
  let t ← Action.current
  if t.resetIssued then
    Action.ofExcept (.error .resetAlreadyIssued)
  else
    let msip : TargetAddr := ⟨msipAddr⟩
    let offset ← translate msip
    Action.emit (.resetRaised msip offset)
    writeChunk msip msipRaised
    Action.update fun t => { t with resetIssued := true }

instance : ChunkMemory (Transport ω) where
  chunkAlign _ := Layout.chunkAlign
  chunkMaxSize _ := Layout.chunkMaxSize
  readChunk := readChunk
  writeChunk := writeChunk
  clearChunk := clearChunk
  reset := reset

end Transport

end TargetLink
