import TargetLink.Proofs.Contents
import TargetLink.Proofs.Transfer.Serving
import TargetLink.Proofs.Transfer.Steps

/-!
# What a transfer keeps

A property of a memory that the requests for some ranges keep is kept by every transfer whose hull is such
a range, whether it succeeds or not. The requests for other ranges need not keep it.
-/

namespace TargetLink

variable {ε ε' σ α β : Type}

namespace Action

/-- From a state with the property `I` the action leaves one, whatever becomes of it, and if it succeeds
its value has the property `P`. -/
def Ensures (I : Logged σ → Prop) (P : α → Prop) (x : Action ε σ α) : Prop :=
  ∀ s, I s → match x s with
    | .ok a s' => P a ∧ I s'
    | .error _ s' => I s'

/-- The property `I` is kept, and nothing is said of the value. -/
abbrev Keeps (I : Logged σ → Prop) (x : Action ε σ α) : Prop :=
  Ensures I (fun _ => True) x

variable {I : Logged σ → Prop} {P : α → Prop} {Q : β → Prop} {x : Action ε σ α}
  {f : α → Action ε σ β} {s : Logged σ}

theorem ensures_pure {a : α} (ha : P a) : Ensures I P (pure a : Action ε σ α) :=
  fun _ hs => ⟨ha, hs⟩

theorem Ensures.bind (h : Ensures I P x) (hf : ∀ a, P a → Ensures I Q (f a)) :
    Ensures I Q (x >>= f) := by
  intro s hs
  have hx := h s hs
  rw [bind_apply]
  cases hrun : x s with
  | ok a s' =>
    rw [hrun] at hx
    exact hf a hx.1 s' hx.2
  | error e s' =>
    rw [hrun] at hx
    exact hx

theorem Ensures.keeps (h : Ensures I P x) : Keeps I x := by
  intro s hs
  have hx := h s hs
  cases hrun : x s with
  | ok a s' =>
    rw [hrun] at hx
    exact ⟨trivial, hx.2⟩
  | error e s' =>
    rw [hrun] at hx
    exact hx

theorem Keeps.bind (h : Keeps I x) (hf : ∀ a, Keeps I (f a)) : Keeps I (x >>= f) :=
  Ensures.bind h fun a _ => hf a

theorem Keeps.mapError (h : Keeps I x) (g : ε → ε') : Keeps I (Action.mapError g x) := by
  intro s hs
  have hx := h s hs
  unfold Action.mapError
  cases hrun : x s with
  | ok a s' =>
    rw [hrun] at hx
    exact hx
  | error e s' =>
    rw [hrun] at hx
    exact hx

theorem keeps_ofExcept (r : Except ε α) : Keeps I (ofExcept r) := by
  intro s hs
  cases r with
  | ok a => exact ⟨trivial, hs⟩
  | error e => exact hs

/-- What is kept holds of the state that is left. -/
theorem Keeps.result (h : Keeps I x) (hs : I s) : I (x.result s).2 := by
  have hx := h s hs
  cases hrun : x s with
  | ok a s' =>
    rw [hrun] at hx
    rw [result_of_ok hrun]
    exact hx.2
  | error e s' =>
    rw [hrun] at hx
    rw [result_of_error hrun]
    exact hx

end Action

open TargetLink.Action

/-! ## Reading -/

section Reading

variable [ChunkMemory σ] {I : Logged σ → Prop} {g : Grain} {p : Piece} {ps : List Piece}
  {addr : TargetAddr} {len : Nat}

theorem keeps_readPart (h : Keeps I (ChunkMemory.readChunk p.start (p.extent g))) :
    Keeps I (Transfer.readPart g p) := by
  cases p with
  | edge base skip len => exact h.bind fun _ => ensures_pure trivial
  | whole addr len => exact h

theorem keeps_readPieces
    (h : ∀ p ∈ ps, Keeps I (ChunkMemory.readChunk p.start (p.extent g))) :
    Keeps I (Transfer.readPieces g ps) := by
  induction ps with
  | nil => exact ensures_pure trivial
  | cons p ps ih =>
    rw [List.forall_mem_cons] at h
    refine (keeps_readPart h.1).bind ?_
    intro bytes
    refine (ih h.2).bind ?_
    intro rest
    exact ensures_pure trivial

theorem keeps_read [SteadyGrain σ] (hgrain : ∀ {s}, I s → Grain.ofMemory s.state = g)
    (h : ∀ p ∈ g.pieces addr len, Keeps I (ChunkMemory.readChunk p.start (p.extent g))) :
    Keeps I (Transfer.read addr len) := by
  intro s hs
  rw [Transfer.read_eq, hgrain hs]
  exact keeps_readPieces h s hs

end Reading

/-! ## Reading and storing -/

/-- Requests for the ranges that are allowed keep the property, and reads of them are in full. -/
structure KeptWithin [ChunkMemory σ] (allowed : Nat → Nat → Prop) (g : Grain)
    (I : Logged σ → Prop) : Prop where
  grain_eq : ∀ {s}, I s → Grain.ofMemory s.state = g
  read : ∀ {addr : TargetAddr} {len : Nat}, 0 < len → allowed addr.toNat len →
    Ensures I (fun bytes => bytes.length = len) (ChunkMemory.readChunk addr len)
  write : ∀ {addr : TargetAddr} {bytes : List UInt8}, 0 < bytes.length →
    allowed addr.toNat bytes.length → Keeps I (ChunkMemory.writeChunk addr bytes)
  clear : ∀ {addr : TargetAddr} {len : Nat}, 0 < len → allowed addr.toNat len →
    Keeps I (ChunkMemory.clearChunk addr len)

theorem keeps_storePieces (hproper : ∀ p ∈ ps, p.Proper g) (hlen : bytes.length = Piece.totalLen ps)
    (hstore : ∀ p ∈ ps, ∀ bytes, p.Proper g → bytes.length = p.len → Keeps I (store p bytes)) :
    Keeps I (Transfer.storePieces store ps bytes) := by
  induction ps generalizing bytes with
  | nil => exact ensures_pure trivial
  | cons p ps ih =>
    rw [List.forall_mem_cons] at hproper hstore
    rw [Piece.totalLen] at hlen
    have htake : (bytes.take p.len).length = p.len := List.length_take_of_le (by omega)
    refine (hstore.1 _ hproper.1 htake).bind ?_
    intro _
    exact ih hproper.2 (by rw [List.length_drop]; omega) hstore.2

namespace KeptWithin

variable [ChunkMemory σ] {allowed : Nat → Nat → Prop} {g : Grain} {I : Logged σ → Prop}
  (h : KeptWithin allowed g I) {p : Piece} {ps : List Piece} {addr base : TargetAddr}
  {skip len : Nat} {bytes : List UInt8} {store : Piece → List UInt8 → Action LinkError σ Unit}

include h

theorem mergeChunk (hfits : skip + bytes.length ≤ g.align) (hallowed : allowed base.toNat g.align) :
    Keeps I (Transfer.mergeChunk g.align base skip bytes) := by
  refine (h.read g.align_pos hallowed).bind ?_
  intro chunk hchunk
  have hlen : (overlay chunk skip bytes).length = g.align := by
    rw [length_overlay (by rwa [hchunk]), hchunk]
  exact h.write (by rw [hlen]; exact g.align_pos) (by rwa [hlen])

theorem writePart (hp : p.Proper g) (hlen : bytes.length = p.len)
    (hallowed : allowed p.start.toNat (p.extent g)) : Keeps I (Transfer.writePart g p bytes) := by
  cases p with
  | edge base skip len =>
    have hfits : skip + bytes.length ≤ g.align := by
      rw [hlen]
      exact hp
    exact h.mergeChunk hfits hallowed
  | whole addr len =>
    cases hlen
    exact h.write hp hallowed

theorem clearPiece (hp : p.Proper g) (hallowed : allowed p.start.toNat (p.extent g)) :
    Keeps I (Transfer.clearPiece g p) := by
  cases p with
  | edge base skip len =>
    have hfits : skip + (List.replicate len (0 : UInt8)).length ≤ g.align := by
      rw [List.length_replicate]
      exact hp
    exact h.mergeChunk hfits hallowed
  | whole addr len => exact h.clear hp hallowed

/-! ## Whole transfers -/

variable [SteadyGrain σ] (hserving : Serving allowed)
  (hhull : 0 < len → allowed (alignDown g.align addr.toNat)
    (alignUp g.align (addr.toNat + len) - alignDown g.align addr.toNat))

include hserving hhull

theorem transferRead : Keeps I (Transfer.read addr len) := by
  refine keeps_read h.grain_eq ?_
  intro p hp
  have hpos := (Grain.proper_of_mem_pieces hp).extent_pos
  exact (h.read hpos (hserving.of_mem_pieces hhull hp)).keeps

theorem transferClear : Keeps I (Transfer.clear addr len) := by
  intro s hs
  rw [Transfer.clear_eq (List.replicate len 0), h.grain_eq hs]
  refine keeps_storePieces (fun _ => Grain.proper_of_mem_pieces) ?_ ?_ s hs
  · rw [Grain.totalLen_pieces, List.length_replicate]
  · intro p hp _ hproper _
    exact h.clearPiece hproper (hserving.of_mem_pieces hhull hp)

omit hhull in
theorem transferWrite (hhull : 0 < bytes.length → allowed (alignDown g.align addr.toNat)
      (alignUp g.align (addr.toNat + bytes.length) - alignDown g.align addr.toNat)) :
    Keeps I (Transfer.write addr bytes) := by
  intro s hs
  rw [Transfer.write_eq, h.grain_eq hs]
  refine keeps_storePieces (fun _ => Grain.proper_of_mem_pieces) ?_ ?_ s hs
  · exact (Grain.totalLen_pieces _ _ _).symm
  · intro p hp bytes hproper hlen
    exact h.writePart hproper hlen (hserving.of_mem_pieces hhull hp)

end KeptWithin

end TargetLink
