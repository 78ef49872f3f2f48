import TargetLink.Proofs.ChunkMemory.Stuck
import TargetLink.Proofs.Transfer.Serving
import TargetLink.Proofs.Transfer.Steps

/-!
# Transfers with stuck bytes

With a chunk memory that is faithful but for its stuck bytes, a transfer reads what is shown and stores
exactly its own bytes. Where it rewrites a whole chunk for a part of it, it stores what the rest of the chunk
shows, and as far as can be seen that changes nothing: only stuck bytes show what they do not hold. A
transfer whose hull is not served fails.
-/

namespace TargetLink

namespace View

variable {σ : Type} {v : View σ} {stuck : StuckAt} {serves : Nat → Nat → Prop} {g : Grain}
  {s : Logged σ} {p : Piece} {ps : List Piece} {addr base : TargetAddr} {skip len lo hi : Nat}
  {bytes : List UInt8} {store : Piece → List UInt8 → Action LinkError σ Unit} {ok : UInt8 → Prop}

/-! ## Storing in pieces -/

/-- `store` stores bytes at the place of a piece where the piece is served, provided that `ok` holds of
each of them. -/
def Stores (v : View σ) (stuck : StuckAt) (serves : Nat → Nat → Prop) (g : Grain)
    (store : Piece → List UInt8 → Action LinkError σ Unit) (ok : UInt8 → Prop) : Prop :=
  ∀ ⦃s : Logged σ⦄ ⦃p : Piece⦄ ⦃bytes : List UInt8⦄, v.sound s.state → p.Proper g →
    bytes.length = p.len → (∀ b ∈ bytes, ok b) → serves p.start.toNat (p.extent g) →
      v.Returns (store p bytes) s () (((v.contents s.state).write p.first bytes).shown stuck)

/-- `store` fails where the piece is not served. -/
def RefusesPieces (v : View σ) (serves : Nat → Nat → Prop) (g : Grain)
    (store : Piece → List UInt8 → Action LinkError σ Unit) : Prop :=
  ∀ ⦃s : Logged σ⦄ ⦃p : Piece⦄ ⦃bytes : List UInt8⦄, v.sound s.state → p.Proper g →
    bytes.length = p.len → ¬ serves p.start.toNat (p.extent g) → v.Fails (store p bytes) s

theorem Stores.pieces (h : v.Stores stuck serves g store ok)
    (hshown : ∀ {state}, v.sound state → (v.contents state).shown stuck = v.contents state)
    (hcut : Grain.Cut g lo ps hi) (hserves : ∀ p ∈ ps, serves p.start.toNat (p.extent g))
    (hlen : lo + bytes.length = hi) (hok : ∀ b ∈ bytes, ok b) (hsound : v.sound s.state) :
    v.Returns (Transfer.storePieces store ps bytes) s ()
      (((v.contents s.state).write lo bytes).shown stuck) := by
  induction ps generalizing s lo bytes with
  | nil =>
    cases hcut
    obtain rfl : bytes = [] := List.eq_nil_of_length_eq_zero (by omega)
    rw [Contents.write_nil, hshown hsound]
    exact returns_pure hsound ()
  | cons p ps ih =>
    obtain ⟨hp, rfl, hrest⟩ := hcut.uncons
    have hle := hrest.le
    have htake : (bytes.take p.len).length = p.len := List.length_take_of_le (by omega)
    rw [List.forall_mem_cons] at hserves
    refine (h hsound hp htake (fun b hb => hok b (List.mem_of_mem_take hb))
      hserves.1).bind fun s' hsound' hcontents => ?_
    have hdrop : p.first + p.len + (bytes.drop p.len).length = hi := by
      rw [List.length_drop]
      omega
    have htail := ih hrest hserves.2 hdrop (fun b hb => hok b (List.mem_of_mem_drop hb)) hsound'
    -- The first piece stores the front of the bytes, the others store the rest right behind it.
    have happend := Contents.write_append (v.contents s.state) p.first (bytes.take p.len)
      (bytes.drop p.len)
    rw [htake, List.take_append_drop] at happend
    rwa [hcontents, Contents.shown_write_shown, happend] at htail

theorem Stores.pieces_fail (h : v.Stores stuck serves g store ok)
    (hrefuses : v.RefusesPieces serves g store) (hproper : ∀ p ∈ ps, p.Proper g)
    (hserves : ¬ ∀ p ∈ ps, serves p.start.toNat (p.extent g))
    (hlen : bytes.length = Piece.totalLen ps) (hok : ∀ b ∈ bytes, ok b)
    (hsound : v.sound s.state) : v.Fails (Transfer.storePieces store ps bytes) s := by
  induction ps generalizing s bytes with
  | nil => exact absurd (List.forall_mem_nil _) hserves
  | cons p ps ih =>
    rw [List.forall_mem_cons] at hproper hserves
    rw [Piece.totalLen] at hlen
    have htake : (bytes.take p.len).length = p.len := List.length_take_of_le (by omega)
    by_cases hp : serves p.start.toNat (p.extent g)
    · refine (h hsound hproper.1 htake (fun b hb => hok b (List.mem_of_mem_take hb))
        hp).bind_fails fun s' hsound' _ => ?_
      exact ih hproper.2 (fun hps => hserves ⟨hp, hps⟩) (by rw [List.length_drop]; omega)
        (fun b hb => hok b (List.mem_of_mem_drop hb)) hsound'
    · exact (hrefuses hsound hproper.1 htake hp).bind

/-! ## The hull -/

/-- The chunks that a transfer touches are served. -/
def HullServed (v : View σ) (serves : Nat → Nat → Prop) (addr : TargetAddr) (len : Nat) : Prop :=
  serves (alignDown (max v.align 1) addr.toNat)
    (alignUp (max v.align 1) (addr.toNat + len) - alignDown (max v.align 1) addr.toNat)

section Hull

variable [ChunkMemory σ] (halign : ChunkMemory.chunkAlign s.state = v.align)

include halign

theorem hullServed_iff_serves : v.HullServed serves addr len ↔
    serves (alignDown (Grain.ofMemory s.state).align addr.toNat)
      (alignUp (Grain.ofMemory s.state).align (addr.toNat + len) -
        alignDown (Grain.ofMemory s.state).align addr.toNat) := by
  rw [HullServed, ← halign]
  rfl

theorem cut_of_hullServed (hserving : Serving serves) (hhull : v.HullServed serves addr len) :
    Grain.Cut (Grain.ofMemory s.state) addr.toNat ((Grain.ofMemory s.state).pieces addr len)
      (addr.toNat + len) :=
  hserving.cut_of_hull ((hullServed_iff_serves halign).1 hhull)

theorem pieces_of_hullServed (hserving : Serving serves) (hhull : v.HullServed serves addr len) :
    ∀ p ∈ (Grain.ofMemory s.state).pieces addr len,
      serves p.start.toNat (p.extent (Grain.ofMemory s.state)) :=
  fun _ => hserving.of_mem_pieces fun _ => (hullServed_iff_serves halign).1 hhull

theorem hullServed_iff_pieces (happart : EndsApart serves) (hlen : 0 < len) :
    v.HullServed serves addr len ↔ ∀ p ∈ (Grain.ofMemory s.state).pieces addr len,
      serves p.start.toNat (p.extent (Grain.ofMemory s.state)) := by
  rw [happart.pieces_iff hlen, hullServed_iff_serves halign]

end Hull

/-! ## Pieces -/

variable [ChunkMemory σ]

namespace FaithfulBut

variable (h : v.FaithfulBut stuck serves) (hsound : v.sound s.state)

include h hsound

theorem readPart (hp : p.Proper g) (hserves : serves p.start.toNat (p.extent g)) :
    v.Returns (Transfer.readPart g p) s ((v.contents s.state).read p.first p.len)
      (v.contents s.state) := by
  cases p with
  | edge base skip len =>
    refine (h.read hsound g.align_pos hserves).bind fun s' hsound' hcontents => ?_
    have hpart : (((v.contents s.state).read base.toNat g.align).drop skip).take len =
        (v.contents s.state).read (base.toNat + skip) len := Contents.take_drop_read hp
    rw [Piece.first, Piece.len, ← hpart, ← hcontents]
    exact returns_pure hsound' _
  | whole addr len => exact h.read hsound hp hserves

/-- Merging bytes into a chunk stores them, and what the rest of the chunk shows. -/
theorem mergeChunk (hfits : skip + bytes.length ≤ g.align) (hserves : serves base.toNat g.align) :
    v.Returns (Transfer.mergeChunk g.align base skip bytes) s ()
      (((v.contents s.state).write (base.toNat + skip) bytes).shown stuck) := by
  refine (h.read hsound g.align_pos hserves).bind fun s' hsound' hcontents => ?_
  rw [← Contents.write_overlay hfits, ← hcontents]
  have hlen : (overlay ((v.contents s'.state).read base.toNat g.align) skip bytes).length =
      g.align := by
    rw [length_overlay (by rwa [Contents.length_read]), Contents.length_read]
  exact h.write hsound' (by rw [hlen]; exact g.align_pos) (by rwa [hlen])

omit hsound

theorem stores_writePart (g : Grain) :
    v.Stores stuck serves g (Transfer.writePart g) fun _ => True := by
  intro s p bytes hsound hp hlen _ hserves
  cases p with
  | edge base skip len =>
    have hfits : skip + bytes.length ≤ g.align := by rw [hlen]; exact hp
    exact h.mergeChunk hsound hfits hserves
  | whole addr len =>
    cases hlen
    exact h.write hsound hp hserves

theorem stores_clearPiece (g : Grain) :
    v.Stores stuck serves g (fun p _ => Transfer.clearPiece g p) (· = 0) := by
  intro s p bytes hsound hp hlen hzero hserves
  obtain rfl : bytes = List.replicate p.len 0 := List.eq_replicate_iff.2 ⟨hlen, hzero⟩
  cases p with
  | edge base skip len =>
    have hfits : skip + (List.replicate len (0 : UInt8)).length ≤ g.align := by
      rw [List.length_replicate]
      exact hp
    exact h.mergeChunk hsound hfits hserves
  | whole addr len => exact h.clear hsound hp hserves

theorem readPieces (hcut : Grain.Cut g lo ps hi)
    (hserves : ∀ p ∈ ps, serves p.start.toNat (p.extent g)) (hsound : v.sound s.state) :
    v.Returns (Transfer.readPieces g ps) s ((v.contents s.state).read lo (hi - lo))
      (v.contents s.state) := by
  induction ps generalizing s lo with
  | nil =>
    cases hcut
    rw [Nat.sub_self]
    exact returns_pure hsound []
  | cons p ps ih =>
    obtain ⟨hp, rfl, hrest⟩ := hcut.uncons
    have hle := hrest.le
    rw [List.forall_mem_cons] at hserves
    refine (h.readPart hsound hp hserves.1).bind fun s' hsound' hcontents => ?_
    refine (ih hrest hserves.2 hsound').bind fun t hsound'' hcontents' => ?_
    rw [hcontents] at hcontents' ⊢
    rw [Contents.read_append, show p.len + (hi - (p.first + p.len)) = hi - p.first by omega,
      ← hcontents']
    exact returns_pure hsound'' _

end FaithfulBut

/-! ## Whole transfers -/

namespace FaithfulBut

variable [SteadyGrain σ] (h : v.FaithfulBut stuck serves) (hserving : Serving serves)
  (hsound : v.sound s.state)

include h hserving hsound

theorem transferRead (hhull : v.HullServed serves addr len) :
    v.Returns (Transfer.read addr len) s ((v.contents s.state).read addr.toNat len)
      (v.contents s.state) := by
  have halign := h.chunkAlign_eq hsound
  have hrun := h.readPieces (cut_of_hullServed halign hserving hhull)
    (pieces_of_hullServed halign hserving hhull) hsound
  rw [Nat.add_sub_cancel_left] at hrun
  obtain ⟨s', hrun, hrest⟩ := hrun
  exact ⟨s', Transfer.read_eq.trans hrun, hrest⟩

theorem transferWrite (hhull : v.HullServed serves addr bytes.length) :
    v.Returns (Transfer.write addr bytes) s ()
      (((v.contents s.state).write addr.toNat bytes).shown stuck) := by
  have halign := h.chunkAlign_eq hsound
  obtain ⟨s', hrun, hrest⟩ := (h.stores_writePart _).pieces h.shown_eq
    (cut_of_hullServed halign hserving hhull) (pieces_of_hullServed halign hserving hhull) rfl
    (fun _ _ => trivial) hsound
  exact ⟨s', Transfer.write_eq.trans hrun, hrest⟩

theorem transferClear (hhull : v.HullServed serves addr len) :
    v.Returns (Transfer.clear addr len) s ()
      (((v.contents s.state).write addr.toNat (List.replicate len 0)).shown stuck) := by
  have halign := h.chunkAlign_eq hsound
  obtain ⟨s', hrun, hrest⟩ := (h.stores_clearPiece _).pieces h.shown_eq
    (cut_of_hullServed halign hserving hhull) (pieces_of_hullServed halign hserving hhull)
    (by rw [List.length_replicate]) (fun _ => List.eq_of_mem_replicate) hsound
  exact ⟨s', (Transfer.clear_eq _).trans hrun, hrest⟩

end FaithfulBut

/-! ## Outside -/

namespace RefusesOutside

theorem mergeChunk (h : v.RefusesOutside serves) (hsound : v.sound s.state)
    (hserves : ¬ serves base.toNat g.align) :
    v.Fails (Transfer.mergeChunk g.align base skip bytes) s :=
  (h.read hsound g.align_pos hserves).fails.bind

theorem readPart (h : v.RefusesOutside serves) (hsound : v.sound s.state) (hp : p.Proper g)
    (hserves : ¬ serves p.start.toNat (p.extent g)) : v.Fails (Transfer.readPart g p) s := by
  cases p with
  | edge base skip len => exact (h.read hsound g.align_pos hserves).fails.bind
  | whole addr len => exact (h.read hsound hp hserves).fails

theorem writePart (h : v.RefusesOutside serves) (g : Grain) :
    v.RefusesPieces serves g (Transfer.writePart g) := by
  intro s p bytes hsound hp hlen hserves
  cases p with
  | edge base skip len => exact h.mergeChunk hsound hserves
  | whole addr len =>
    cases hlen
    exact (h.write hsound hp hserves).fails

theorem clearPiece (h : v.RefusesOutside serves) (g : Grain) :
    v.RefusesPieces serves g (fun p _ => Transfer.clearPiece g p) := by
  intro s p bytes hsound hp _ hserves
  cases p with
  | edge base skip len => exact h.mergeChunk hsound hserves
  | whole addr len => exact (h.clear hsound hp hserves).fails

theorem readPieces (h : v.RefusesOutside serves) (hin : v.FaithfulBut stuck serves)
    (hproper : ∀ p ∈ ps, p.Proper g) (hserves : ¬ ∀ p ∈ ps, serves p.start.toNat (p.extent g))
    (hsound : v.sound s.state) : v.Fails (Transfer.readPieces g ps) s := by
  induction ps generalizing s with
  | nil => exact absurd (List.forall_mem_nil _) hserves
  | cons p ps ih =>
    rw [List.forall_mem_cons] at hproper hserves
    by_cases hp : serves p.start.toNat (p.extent g)
    · refine (hin.readPart hsound hproper.1 hp).bind_fails fun s' hsound' _ => ?_
      exact (ih hproper.2 (fun hps => hserves ⟨hp, hps⟩) hsound').bind
    · exact (h.readPart hsound hproper.1 hp).bind

variable [SteadyGrain σ] (h : v.RefusesOutside serves) (hin : v.FaithfulBut stuck serves)
  (hsound : v.sound s.state)

include h hin hsound

theorem transferRead (hpieces : ¬ ∀ p ∈ (Grain.ofMemory s.state).pieces addr len,
      serves p.start.toNat (p.extent (Grain.ofMemory s.state))) :
    v.Fails (Transfer.read addr len) s := by
  obtain ⟨e, s', hrun, hrest⟩ :=
    h.readPieces hin (fun _ => Grain.proper_of_mem_pieces) hpieces hsound
  exact ⟨e, s', Transfer.read_eq.trans hrun, hrest⟩

theorem transferWrite (hpieces : ¬ ∀ p ∈ (Grain.ofMemory s.state).pieces addr bytes.length,
      serves p.start.toNat (p.extent (Grain.ofMemory s.state))) :
    v.Fails (Transfer.write addr bytes) s := by
  obtain ⟨e, s', hrun, hrest⟩ := (hin.stores_writePart _).pieces_fail (h.writePart _)
    (fun _ => Grain.proper_of_mem_pieces) hpieces (Grain.totalLen_pieces _ _ _).symm
    (fun _ _ => trivial) hsound
  exact ⟨e, s', Transfer.write_eq.trans hrun, hrest⟩

theorem transferClear (hpieces : ¬ ∀ p ∈ (Grain.ofMemory s.state).pieces addr len,
      serves p.start.toNat (p.extent (Grain.ofMemory s.state))) :
    v.Fails (Transfer.clear addr len) s := by
  have hzeros : (List.replicate len (0 : UInt8)).length =
      Piece.totalLen ((Grain.ofMemory s.state).pieces addr len) := by
    rw [Grain.totalLen_pieces, List.length_replicate]
  obtain ⟨e, s', hrun, hrest⟩ := (hin.stores_clearPiece _).pieces_fail (h.clearPiece _)
    (fun _ => Grain.proper_of_mem_pieces) hpieces hzeros (fun _ => List.eq_of_mem_replicate) hsound
  exact ⟨e, s', (Transfer.clear_eq _).trans hrun, hrest⟩

end RefusesOutside

end View

end TargetLink
