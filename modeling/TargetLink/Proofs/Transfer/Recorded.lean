import TargetLink.Proofs.ChunkMemory.Recorded
import TargetLink.Proofs.Contents
import TargetLink.Proofs.Transfer.Steps

/-!
# Recording transfers

The requests that the pieces of a transfer call for. Transfers do the same with a record as without,
and the requests on record are those of their pieces.
-/

namespace TargetLink

namespace Piece

/-- The request that reads a piece. -/
def readRequest (g : Grain) (p : Piece) : Request :=
  .read p.start (p.extent g)

/-- The requests that store a piece, where `whole` stores aligned chunks. -/
def storeRequests (whole : TargetAddr → Nat → Request) (g : Grain) : Piece → List Request
  | .edge base _ _ => [.read base g.align, .write base g.align]
  | .whole addr len => [whole addr len]

end Piece

namespace Recorded

open Transfer

variable {σ : Type} {g : Grain} {p : Piece} {ps : List Piece} {bytes : List UInt8}
  {s : Logged (Recorded σ)}

theorem follows_storePieces {store : Piece → List UInt8 → Action LinkError (Recorded σ) Unit}
    {store' : Piece → List UInt8 → Action LinkError σ Unit} {plan : Piece → List Request}
    (hstore : ∀ p bytes s, p.Proper g → bytes.length = p.len →
      Follows (store p bytes) (store' p bytes) (plan p) s)
    (hproper : ∀ p ∈ ps, p.Proper g) (hlen : bytes.length = Piece.totalLen ps) :
    Follows (storePieces store ps bytes)
      (storePieces store' ps bytes) (ps.flatMap plan) s := by
  induction ps generalizing s bytes with
  | nil => exact follows_pure _ _
  | cons p ps ih =>
    rw [List.forall_mem_cons] at hproper
    rw [Piece.totalLen] at hlen
    have htake : (bytes.take p.len).length = p.len := List.length_take_of_le (by omega)
    rw [List.flatMap_cons]
    refine (hstore p _ s hproper.1 htake).bind fun _ t _ => ?_
    exact ih hproper.2 (by rw [List.length_drop]; omega)

variable [ChunkMemory σ]

theorem follows_readPart (g : Grain) (p : Piece) (s : Logged (Recorded σ)) :
    Follows (readPart g p) (readPart g p) [p.readRequest g] s := by
  cases p with
  | edge base skip len =>
    exact (follows_record (.read base g.align) _ s).bind fun chunk t _ => follows_pure _ _
  | whole addr len => exact follows_record _ _ _

theorem follows_merge {base : TargetAddr} {skip : Nat} (hfull : ReadsInFull σ)
    (hfits : skip + bytes.length ≤ g.align) :
    Follows (mergeChunk g.align base skip bytes) (mergeChunk g.align base skip bytes)
      [.read base g.align, .write base g.align] s := by
  refine (follows_record (.read base g.align) _ s).bind fun chunk t hread => ?_
  have hchunk : chunk.length = g.align := hfull _ _ _ _ _ hread
  have hlen : (overlay chunk skip bytes).length = g.align := by
    rw [length_overlay (by rwa [hchunk]), hchunk]
  rw [← hlen]
  exact follows_record _ _ _

theorem follows_writePart (hfull : ReadsInFull σ) (hp : p.Proper g) (hlen : bytes.length = p.len) :
    Follows (writePart g p bytes) (writePart g p bytes) (p.storeRequests .write g) s := by
  cases p with
  | edge base skip len =>
    have hfits : skip + bytes.length ≤ g.align := by rw [hlen]; exact hp
    exact follows_merge hfull hfits
  | whole addr len =>
    cases hlen
    exact follows_record _ _ _

theorem follows_clearPiece (hfull : ReadsInFull σ) (hp : p.Proper g) :
    Follows (clearPiece g p) (clearPiece g p) (p.storeRequests .clear g) s := by
  cases p with
  | edge base skip len =>
    have hfits : skip + (List.replicate len (0 : UInt8)).length ≤ g.align := by
      rw [List.length_replicate]
      exact hp
    exact follows_merge hfull hfits
  | whole addr len => exact follows_record _ _ _

theorem follows_readPieces (g : Grain) (ps : List Piece) (s : Logged (Recorded σ)) :
    Follows (readPieces g ps) (readPieces g ps) (ps.map (Piece.readRequest g)) s := by
  induction ps generalizing s with
  | nil => exact follows_pure _ _
  | cons p ps ih =>
    refine (follows_readPart g p s).bind fun bytes t _ => ?_
    rw [← List.append_nil (ps.map _)]
    exact (ih _).bind fun rest u _ => follows_pure _ _

end Recorded

end TargetLink
