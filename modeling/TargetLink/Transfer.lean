import TargetLink.ChunkMemory.Basic

/-!
# Transfers

A transfer moves any number of bytes to or from any address. It is cut into pieces that a chunk
memory accepts:

    addr                                                 addr + len
     | edge |     whole (at most `bodyMax` each)     | edge |
    -+------+----------------------------------------+------+-

The whole pieces are chunk requests as they are. An edge covers only part of one aligned chunk: it
is read out of that chunk, or laid over it and written back with the rest of the chunk as it was.

Reading and writing take the bytes in slices, clearing counts them down. An address is found by
stepping on from the first one, around the end of the address space if need be, and the memory is
asked again for its grain wherever a transfer needs it.
-/

namespace TargetLink

/-- How a chunk memory wants its requests cut. -/
structure Grain where
  /-- Addresses and lengths are multiples of this. -/
  align : Nat
  /-- The longest request. -/
  maxSize : Nat
  /-- There is an alignment. -/
  align_pos : 0 < align

namespace Grain

/-- The grain of a chunk memory; an alignment of zero counts as one. -/
def ofMemory {σ : Type} [ChunkMemory σ] (state : σ) : Grain where
  align := max (ChunkMemory.chunkAlign state) 1
  maxSize := ChunkMemory.chunkMaxSize state
  align_pos := by omega

variable (g : Grain)

/-- The longest whole piece: as many aligned chunks as a request holds, but at least one. -/
def bodyMax : Nat :=
  max (g.maxSize - g.maxSize % g.align) g.align

/-- Bytes between an address and the aligned one at or below it. -/
def skew (addr : TargetAddr) : Nat :=
  addr.toNat % g.align

/-- The aligned address at or below an address. -/
def alignedBase (addr : TargetAddr) : TargetAddr :=
  ⟨addr.val - UInt64.ofNat (g.skew addr)⟩

/-- Bytes of a transfer in front of its first aligned address. -/
def headLen (addr : TargetAddr) (len : Nat) : Nat :=
  if g.skew addr = 0 then 0 else min (g.align - g.skew addr) len

/-- A whole piece is never empty. -/
theorem bodyMax_pos : 0 < g.bodyMax := by
  have := g.align_pos
  unfold bodyMax
  omega

end Grain

namespace Grain

/-- The bytes in slices of `bodyMax`, the last one with those that are left. -/
def slices (g : Grain) : List UInt8 → List (List UInt8)
  | [] => []
  | b :: bytes => (b :: bytes).take g.bodyMax :: g.slices ((b :: bytes).drop g.bodyMax)
termination_by bytes => bytes.length
decreasing_by
  have := g.bodyMax_pos
  simp only [List.length_drop, List.length_cons]
  omega

end Grain

/-- The bytes with others laid over them from index `start` on. -/
def overlay (bytes : List UInt8) (start : Nat) (patch : List UInt8) : List UInt8 :=
  bytes.take start ++ patch ++ bytes.drop (start + patch.length)

namespace Transfer

variable {σ : Type} [ChunkMemory σ]

/-- The grain that the memory asks for now. -/
def grain : Action LinkError σ Grain := do
  return Grain.ofMemory (← Action.current)

/-! ## Reading -/

/-- A read under way: the buffer in two parts, and the memory. -/
structure Reading (σ : Type) where
  /-- The part of the buffer that holds what was read. -/
  filled : Array UInt8
  /-- The part of the buffer behind it, as it was. -/
  rest : List UInt8
  /-- The memory with its log. -/
  memory : Logged σ

/-- A chunk request in the middle of a read. -/
def request {α : Type} (x : Action LinkError σ α) : EStateM LinkError (Reading σ) α := fun r =>
  match x r.memory with
  | .ok a memory => .ok a { r with memory }
  | .error e memory => .error e { r with memory }

/-- Puts bytes in the place of the next `n` of the buffer. -/
def fill (n : Nat) (bytes : List UInt8) : EStateM LinkError (Reading σ) Unit :=
  modify fun r => { r with filled := r.filled ++ bytes, rest := r.rest.drop n }

/-- Reads slices of the buffer that follow one another, and returns the address behind them. -/
def readSlices (addr : TargetAddr) : List (List UInt8) → EStateM LinkError (Reading σ) TargetAddr
  | [] => pure addr
  | slice :: slices => do
    fill slice.length (← request (ChunkMemory.readChunk addr slice.length))
    readSlices (addr + slice.length) slices

/-- Reads the bytes for a buffer, from its front to its back. -/
def readAll (addr : TargetAddr) (buffer : List UInt8) : EStateM LinkError (Reading σ) Unit := do
  let g ← request grain
  let (head, rest) := buffer.splitAt (g.headLen addr buffer.length)
  if head ≠ [] then
    let chunk ← request (ChunkMemory.readChunk (g.alignedBase addr) g.align)
    fill head.length ((chunk.drop (g.skew addr)).take head.length)
  let (body, tail) := rest.splitAt (rest.length - rest.length % g.align)
  let addr ← readSlices (addr + head.length) ((← request grain).slices body)
  if tail ≠ [] then
    let chunk ← request (ChunkMemory.readChunk addr g.align)
    fill tail.length (chunk.take tail.length)

/-- Reads bytes into a buffer, as many as it has. What was read before an error stays in the buffer,
and the rest of it is as it was. -/
def readInto (addr : TargetAddr) (buffer : List UInt8) :
    EStateM (LinkError × List UInt8) (Logged σ) (List UInt8) := fun memory =>
  match readAll addr buffer { filled := #[], rest := buffer, memory } with
  | .ok () r => .ok (r.filled.toList ++ r.rest) r.memory
  | .error e r => .error (e, r.filled.toList ++ r.rest) r.memory

/-- The `len` bytes at an address. -/
def read (addr : TargetAddr) (len : Nat) : Action LinkError σ (List UInt8) := fun memory =>
  match readInto addr (List.replicate len 0) memory with
  | .ok bytes memory => .ok bytes memory
  | .error (e, _) memory => .error e memory

/-! ## Storing -/

/-- Lays bytes over the aligned chunk at `base`, `skip` bytes into it, and leaves its other bytes as
they were read. -/
def merge (base : TargetAddr) (skip : Nat) (bytes : List UInt8) : Action LinkError σ Unit := do
  let g ← grain
  let chunk ← ChunkMemory.readChunk base g.align
  ChunkMemory.writeChunk base (overlay chunk skip bytes)

/-- Writes slices that follow one another, and returns the address behind them. -/
def writeSlices (addr : TargetAddr) : List (List UInt8) → Action LinkError σ TargetAddr
  | [] => pure addr
  | slice :: slices => do
    ChunkMemory.writeChunk addr slice
    writeSlices (addr + slice.length) slices

/-- Writes bytes at an address. What was written before an error stays. -/
def write (addr : TargetAddr) (bytes : List UInt8) : Action LinkError σ Unit := do
  let g ← grain
  let (head, rest) := bytes.splitAt (g.headLen addr bytes.length)
  if head ≠ [] then
    merge (g.alignedBase addr) (g.skew addr) head
  let g ← grain
  let (body, tail) := rest.splitAt (rest.length - rest.length % g.align)
  let addr ← writeSlices (addr + head.length) (g.slices body)
  if tail ≠ [] then
    merge addr 0 tail

/-- Clears aligned chunks until none of the `remaining` bytes is left, and returns the address behind
them. -/
def clearBody (addr : TargetAddr) (remaining : Nat) : Action LinkError σ TargetAddr :=
  if remaining = 0 then
    pure addr
  else do
    let g ← grain
    let n := min remaining g.bodyMax
    ChunkMemory.clearChunk addr n
    clearBody (addr + n) (remaining - n)
termination_by remaining
decreasing_by
  have := g.bodyMax_pos
  omega

/-- Writes `len` zeros at an address. What was cleared before an error stays. -/
def clear (addr : TargetAddr) (len : Nat) : Action LinkError σ Unit := do
  let g ← grain
  let head := g.headLen addr len
  if head ≠ 0 then
    merge (g.alignedBase addr) (g.skew addr) (List.replicate head 0)
  let rest := len - head
  let body := rest - rest % (← grain).align
  let addr ← clearBody (addr + head) body
  let tail := rest - body
  if tail ≠ 0 then
    merge addr 0 (List.replicate tail 0)

end Transfer

end TargetLink
