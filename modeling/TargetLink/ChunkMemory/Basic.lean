import TargetLink.Action
import TargetLink.LinkError

/-!
# Chunk memory

What a transport offers: reading, writing and clearing of chunks of target memory, and the request
that starts the target. Callers keep the address and the length of every request to multiples of
`chunkAlign`, and the length to at most `chunkMaxSize`; a chunk memory does not split requests. A
request that fails may leave whatever the memory says it leaves, so each one is an action.
-/

namespace TargetLink

/-- Chunk-wise access to target memory through a state `σ`. -/
class ChunkMemory (σ : Type) where
  /-- Addresses and lengths of requests are multiples of this. Zero counts as one. -/
  chunkAlign : σ → Nat
  /-- The longest request. -/
  chunkMaxSize : σ → Nat
  /-- The `len` bytes of target memory at an address. -/
  readChunk : TargetAddr → Nat → Action LinkError σ (List UInt8)
  /-- Stores bytes at an address; the target sees them from then on. -/
  writeChunk : TargetAddr → List UInt8 → Action LinkError σ Unit
  /-- Stores `len` zeros at an address; the target sees them from then on. -/
  clearChunk : TargetAddr → Nat → Action LinkError σ Unit
  /-- Starts the target, once. -/
  reset : Action LinkError σ Unit

end TargetLink
