import TargetLink.Proofs.Transfer.Steps

/-!
# Transfers with two memories side by side

Two chunk memories that answer every request alike, except perhaps for the errors, see the same transfer:
the same requests in the same order, up to the first one that fails with both. So a relation between
their states that every request keeps is kept by every transfer. With one memory on both sides this is an
invariant.
-/

namespace TargetLink

variable {ε ε' δ δ' σ τ α β : Type}

/-- From states that `R` relates, the two actions end alike: with one value, in states that `R` relates
again, or both with an error, such that `E` relates the errors and the states. -/
def Coupled (R : σ → τ → Prop) (E : ε → ε' → σ → τ → Prop) (x : EStateM ε σ α) (y : EStateM ε' τ α) :
    Prop :=
  ∀ s t, R s t → (∃ a s' t', x s = .ok a s' ∧ y t = .ok a t' ∧ R s' t') ∨
    ∃ e e' s' t', x s = .error e s' ∧ y t = .error e' t' ∧ E e e' s' t'

section Sequences

variable {R : σ → τ → Prop} {E : ε → ε' → σ → τ → Prop} {x : EStateM ε σ α} {y : EStateM ε' τ α}
  {f : α → EStateM ε σ β} {k : α → EStateM ε' τ β}

theorem coupled_pure (a : α) : Coupled R E (pure a) (pure a) := by
  intro s t hst
  exact .inl ⟨a, s, t, rfl, rfl, hst⟩

theorem Coupled.bind (h : Coupled R E x y) (hf : ∀ a, Coupled R E (f a) (k a)) :
    Coupled R E (x >>= f) (y >>= k) := by
  intro s t hst
  simp only [Action.bind_apply]
  rcases h s t hst with ⟨a, s', t', hx, hy, hst'⟩ | ⟨e, e', s', t', hx, hy, hend⟩
  · rw [hx, hy]
    exact hf a s' t' hst'
  · rw [hx, hy]
    exact .inr ⟨e, e', s', t', rfl, rfl, hend⟩

theorem coupled_storePieces {R : Logged σ → Logged τ → Prop}
    {E : LinkError → LinkError → Logged σ → Logged τ → Prop}
    {store : Piece → List UInt8 → Action LinkError σ Unit}
    {store' : Piece → List UInt8 → Action LinkError τ Unit}
    (h : ∀ p bytes, Coupled R E (store p bytes) (store' p bytes)) (ps : List Piece)
    (bytes : List UInt8) :
    Coupled R E (Transfer.storePieces store ps bytes) (Transfer.storePieces store' ps bytes) := by
  induction ps generalizing bytes with
  | nil => exact coupled_pure _
  | cons p ps ih =>
    refine (h p _).bind ?_
    intro _
    exact ih _

end Sequences

/-- The two chunk memories ask for the same grain and answer every request alike, except for the
errors. -/
structure AnswerCoupled [ChunkMemory σ] [ChunkMemory τ] (R : Logged σ → Logged τ → Prop)
    (E : LinkError → LinkError → Logged σ → Logged τ → Prop) : Prop where
  chunkAlign_eq : ∀ {s t}, R s t → ChunkMemory.chunkAlign s.state = ChunkMemory.chunkAlign t.state
  chunkMaxSize_eq : ∀ {s t}, R s t →
    ChunkMemory.chunkMaxSize s.state = ChunkMemory.chunkMaxSize t.state
  read : ∀ addr len, Coupled R E (ChunkMemory.readChunk addr len) (ChunkMemory.readChunk addr len)
  write : ∀ addr bytes,
    Coupled R E (ChunkMemory.writeChunk addr bytes) (ChunkMemory.writeChunk addr bytes)
  clear : ∀ addr len, Coupled R E (ChunkMemory.clearChunk addr len) (ChunkMemory.clearChunk addr len)

namespace AnswerCoupled

open Transfer

variable [ChunkMemory σ] [ChunkMemory τ] {R : Logged σ → Logged τ → Prop}
  {E : LinkError → LinkError → Logged σ → Logged τ → Prop} (h : AnswerCoupled R E)

include h

theorem ofMemory_eq {s : Logged σ} {t : Logged τ} (hst : R s t) :
    Grain.ofMemory s.state = Grain.ofMemory t.state := by
  simp only [Grain.ofMemory, h.chunkAlign_eq hst, h.chunkMaxSize_eq hst]

/-! ## Pieces -/

theorem mergeChunk (align : Nat) (base : TargetAddr) (skip : Nat) (bytes : List UInt8) :
    Coupled R E (Transfer.mergeChunk align base skip bytes)
      (Transfer.mergeChunk align base skip bytes) := by
  refine (h.read base align).bind ?_
  intro chunk
  exact h.write base _

theorem readPart (g : Grain) (p : Piece) :
    Coupled R E (Transfer.readPart g p) (Transfer.readPart g p) := by
  cases p with
  | edge base skip len =>
    refine (h.read base g.align).bind ?_
    intro chunk
    exact coupled_pure _
  | whole addr len => exact h.read addr len

theorem writePart (g : Grain) (p : Piece) (bytes : List UInt8) :
    Coupled R E (Transfer.writePart g p bytes) (Transfer.writePart g p bytes) := by
  cases p with
  | edge base skip len => exact h.mergeChunk g.align base skip bytes
  | whole addr len => exact h.write addr bytes

theorem clearPiece (g : Grain) (p : Piece) :
    Coupled R E (Transfer.clearPiece g p) (Transfer.clearPiece g p) := by
  cases p with
  | edge base skip len => exact h.mergeChunk g.align base skip _
  | whole addr len => exact h.clear addr len

theorem readPieces (g : Grain) (ps : List Piece) :
    Coupled R E (Transfer.readPieces g ps) (Transfer.readPieces g ps) := by
  induction ps with
  | nil => exact coupled_pure _
  | cons p ps ih =>
    refine (h.readPart g p).bind ?_
    intro bytes
    refine ih.bind ?_
    intro rest
    exact coupled_pure _

/-! ## Whole transfers -/

variable [SteadyGrain σ] [SteadyGrain τ]

theorem transferRead (addr : TargetAddr) (len : Nat) :
    Coupled R E (Transfer.read addr len) (Transfer.read addr len) := by
  intro s t hst
  rw [read_eq, read_eq, h.ofMemory_eq hst]
  exact h.readPieces _ _ s t hst

theorem transferWrite (addr : TargetAddr) (bytes : List UInt8) :
    Coupled R E (Transfer.write addr bytes) (Transfer.write addr bytes) := by
  intro s t hst
  rw [write_eq, write_eq, h.ofMemory_eq hst]
  exact coupled_storePieces (h.writePart _) _ _ s t hst

theorem transferClear (addr : TargetAddr) (len : Nat) :
    Coupled R E (Transfer.clear addr len) (Transfer.clear addr len) := by
  intro s t hst
  rw [clear_eq [], clear_eq [], h.ofMemory_eq hst]
  exact coupled_storePieces (fun p _ => h.clearPiece _ p) _ _ s t hst

end AnswerCoupled

end TargetLink
