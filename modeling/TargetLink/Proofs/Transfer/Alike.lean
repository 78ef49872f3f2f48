import TargetLink.Proofs.Transfer.Coupled

/-!
# Transfers with two memories that fail alike

The special case in which both sides end with the same error, and the states are related in one way while
requests succeed and in another way once one has failed.
-/

namespace TargetLink

variable {ε σ τ α β : Type}

/-- From states that `R` relates, the two actions end alike: with one value, in states that `R` relates
again, or with one error, in states that `E` relates for it. -/
def Alike (R : σ → τ → Prop) (E : ε → σ → τ → Prop) (x : EStateM ε σ α) (y : EStateM ε τ α) :
    Prop :=
  ∀ s t, R s t → (∃ a s' t', x s = .ok a s' ∧ y t = .ok a t' ∧ R s' t') ∨
    ∃ e s' t', x s = .error e s' ∧ y t = .error e t' ∧ E e s' t'

theorem alike_iff_coupled {R : σ → τ → Prop} {E : ε → σ → τ → Prop} {x : EStateM ε σ α}
    {y : EStateM ε τ α} : Alike R E x y ↔ Coupled R (fun e e' s t => e = e' ∧ E e s t) x y := by
  refine forall₃_congr fun s t hst => or_congr Iff.rfl ?_
  constructor
  · rintro ⟨e, s', t', hx, hy, hend⟩
    exact ⟨e, e, s', t', hx, hy, rfl, hend⟩
  · rintro ⟨e, _, s', t', hx, hy, rfl, hend⟩
    exact ⟨e, s', t', hx, hy, hend⟩

theorem alike_storePieces {R : Logged σ → Logged τ → Prop}
    {E : LinkError → Logged σ → Logged τ → Prop} {store : Piece → List UInt8 → Action LinkError σ Unit}
    {store' : Piece → List UInt8 → Action LinkError τ Unit}
    (h : ∀ p bytes, Alike R E (store p bytes) (store' p bytes)) (ps : List Piece)
    (bytes : List UInt8) :
    Alike R E (Transfer.storePieces store ps bytes) (Transfer.storePieces store' ps bytes) :=
  alike_iff_coupled.2 (coupled_storePieces (fun p bytes => alike_iff_coupled.1 (h p bytes)) ps bytes)

/-- The two chunk memories ask for the same grain and answer every request alike. -/
structure AnswerAlike [ChunkMemory σ] [ChunkMemory τ] (R : Logged σ → Logged τ → Prop)
    (E : LinkError → Logged σ → Logged τ → Prop) : Prop where
  chunkAlign_eq : ∀ {s t}, R s t → ChunkMemory.chunkAlign s.state = ChunkMemory.chunkAlign t.state
  chunkMaxSize_eq : ∀ {s t}, R s t →
    ChunkMemory.chunkMaxSize s.state = ChunkMemory.chunkMaxSize t.state
  read : ∀ addr len, Alike R E (ChunkMemory.readChunk addr len) (ChunkMemory.readChunk addr len)
  write : ∀ addr bytes,
    Alike R E (ChunkMemory.writeChunk addr bytes) (ChunkMemory.writeChunk addr bytes)
  clear : ∀ addr len, Alike R E (ChunkMemory.clearChunk addr len) (ChunkMemory.clearChunk addr len)

namespace AnswerAlike

variable [ChunkMemory σ] [ChunkMemory τ] {R : Logged σ → Logged τ → Prop}
  {E : LinkError → Logged σ → Logged τ → Prop} (h : AnswerAlike R E)

include h

theorem coupled : AnswerCoupled R fun e e' s t => e = e' ∧ E e s t where
  chunkAlign_eq := h.chunkAlign_eq
  chunkMaxSize_eq := h.chunkMaxSize_eq
  read addr len := alike_iff_coupled.1 (h.read addr len)
  write addr bytes := alike_iff_coupled.1 (h.write addr bytes)
  clear addr len := alike_iff_coupled.1 (h.clear addr len)

theorem readPart (g : Grain) (p : Piece) :
    Alike R E (Transfer.readPart g p) (Transfer.readPart g p) :=
  alike_iff_coupled.2 (h.coupled.readPart g p)

theorem writePart (g : Grain) (p : Piece) (bytes : List UInt8) :
    Alike R E (Transfer.writePart g p bytes) (Transfer.writePart g p bytes) :=
  alike_iff_coupled.2 (h.coupled.writePart g p bytes)

theorem clearPiece (g : Grain) (p : Piece) :
    Alike R E (Transfer.clearPiece g p) (Transfer.clearPiece g p) :=
  alike_iff_coupled.2 (h.coupled.clearPiece g p)

theorem readPieces (g : Grain) (ps : List Piece) :
    Alike R E (Transfer.readPieces g ps) (Transfer.readPieces g ps) :=
  alike_iff_coupled.2 (h.coupled.readPieces g ps)

end AnswerAlike

end TargetLink
