import TargetLink.Proofs.ChunkMemory.Faithful

/-!
# Chunk memories with stuck bytes

A chunk memory that stores what it is given, but in which some addresses always read as one value. What it
holds there cannot be seen, so its contents are what it shows. Without stuck bytes this is a faithful memory.
-/

namespace TargetLink

namespace View

variable {σ : Type}

/-- A chunk memory whose requests for some bytes do exactly what they say, except that some addresses show
a value of their own. -/
structure FaithfulBut [ChunkMemory σ] (v : View σ) (stuck : StuckAt) (serves : Nat → Nat → Prop) :
    Prop where
  chunkAlign_eq : ∀ {state : σ}, v.sound state → ChunkMemory.chunkAlign state = v.align
  shown_eq : ∀ {state : σ}, v.sound state → (v.contents state).shown stuck = v.contents state
  read : ∀ {s : Logged σ} {addr : TargetAddr} {len : Nat}, v.sound s.state → 0 < len →
    serves addr.toNat len → v.Returns (ChunkMemory.readChunk addr len) s
      ((v.contents s.state).read addr.toNat len) (v.contents s.state)
  write : ∀ {s : Logged σ} {addr : TargetAddr} {bytes : List UInt8}, v.sound s.state →
    0 < bytes.length → serves addr.toNat bytes.length →
      v.Returns (ChunkMemory.writeChunk addr bytes) s ()
        (((v.contents s.state).write addr.toNat bytes).shown stuck)
  clear : ∀ {s : Logged σ} {addr : TargetAddr} {len : Nat}, v.sound s.state → 0 < len →
    serves addr.toNat len → v.Returns (ChunkMemory.clearChunk addr len) s ()
      (((v.contents s.state).write addr.toNat (List.replicate len 0)).shown stuck)

/-- A chunk memory that refuses requests for other bytes, without effect. -/
structure RefusesOutside [ChunkMemory σ] (v : View σ) (serves : Nat → Nat → Prop) : Prop where
  read : ∀ {s : Logged σ} {addr : TargetAddr} {len : Nat}, v.sound s.state → 0 < len →
    ¬ serves addr.toNat len → v.Refuses (ChunkMemory.readChunk addr len) s
  write : ∀ {s : Logged σ} {addr : TargetAddr} {bytes : List UInt8}, v.sound s.state →
    0 < bytes.length → ¬ serves addr.toNat bytes.length →
      v.Refuses (ChunkMemory.writeChunk addr bytes) s
  clear : ∀ {s : Logged σ} {addr : TargetAddr} {len : Nat}, v.sound s.state → 0 < len →
    ¬ serves addr.toNat len → v.Refuses (ChunkMemory.clearChunk addr len) s

variable [ChunkMemory σ] {v : View σ} {serves : Nat → Nat → Prop}

/-- A memory is faithful if nothing is stuck, and it refuses what it does not serve. -/
theorem faithful_iff :
    v.Faithful serves ↔ v.FaithfulBut (fun _ => none) serves ∧ v.RefusesOutside serves := by
  constructor
  · intro h
    exact ⟨⟨h.chunkAlign_eq, fun _ => rfl, h.read, h.write, h.clear⟩,
      ⟨h.read_refused, h.write_refused, h.clear_refused⟩⟩
  · rintro ⟨h, hout⟩
    exact ⟨h.chunkAlign_eq, h.read, hout.read, h.write, hout.write, h.clear, hout.clear⟩

end View

end TargetLink
