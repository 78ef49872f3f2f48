import TargetLink.Proofs.Transfer.Requests

/-!
# Transfers of one request

A transfer of whole chunks that is no longer than a request is one piece, and that piece is the request. So
nothing is read for the sake of a store, whatever becomes of the request.
-/

namespace TargetLink

namespace Grain

variable {g : Grain} {addr : TargetAddr} {len : Nat}

theorem le_bodyMax (hlen : g.align ∣ len) (hle : len ≤ g.maxSize) : len ≤ g.bodyMax :=
  Nat.le_trans (le_alignDown g.align_pos hlen hle) (Nat.le_max_left _ _)

theorem pieces_of_dvd (haddr : g.align ∣ addr.toNat) (hlen : g.align ∣ len) (hpos : 0 < len)
    (hle : len ≤ g.maxSize) : g.pieces addr len = [.whole addr len] := by
  have hskew : g.skew addr = 0 := Nat.mod_eq_zero_of_dvd haddr
  have hchunk : g.align ≤ len := Nat.le_of_dvd hpos hlen
  have hbody : g.bodyLen len = len := by
    rw [bodyLen, Nat.mod_eq_zero_of_dvd hlen, Nat.sub_zero, Nat.min_eq_left (le_bodyMax hlen hle)]
  rcases g.pieces_cases addr hpos with ⟨-, hpieces⟩ | ⟨hinside, -⟩ | ⟨_, hinside, -⟩
  · rw [hpieces, alignedPieces, if_neg (by omega), hbody, Nat.sub_self, alignedPieces_zero]
  · omega
  · omega

end Grain

variable {σ : Type} [ChunkMemory σ] [SteadyGrain σ] {s : Logged σ} {addr : TargetAddr} {len : Nat}

omit [SteadyGrain σ] in
/-- A transfer that makes one request and goes on with the answer issues this request, whether it succeeds or
not. -/
theorem Job.issued_of_record {α : Type} {job : Job} {r : Request} {x : Action LinkError σ α}
    {f : α → List UInt8} (h : job.perform (Recorded.attach s []) =
      (Recorded.record r x >>= fun a => pure (f a)) (Recorded.attach s [])) : job.issued s = [r] := by
  rw [issued, Action.result, h, Action.bind_apply, Recorded.record]
  cases x (Recorded.forget (Recorded.attach s [])) <;> rfl

/-- From `s`, a transfer of just these bytes is one request for them. -/
structure Direct (s : Logged σ) (addr : TargetAddr) (len : Nat) : Prop where
  read : (Job.read addr len).issued s = [.read addr len]
  write : ∀ bytes, bytes.length = len → (Job.write addr bytes).issued s = [.write addr len]
  clear : (Job.clear addr len).issued s = [.clear addr len]

theorem direct_of_pieces (h : (Grain.ofMemory s.state).pieces addr len = [.whole addr len]) :
    Direct s addr len where
  read := by
    refine Job.issued_of_record (x := ChunkMemory.readChunk addr len) (f := fun bytes => bytes ++ []) ?_
    refine Transfer.read_eq.trans ?_
    change Transfer.readPieces _ ((Grain.ofMemory s.state).pieces addr len) _ = _
    rw [h]
    rfl
  write := by
    rintro bytes rfl
    refine Job.issued_of_record (x := ChunkMemory.writeChunk addr bytes) (f := fun _ => []) ?_
    have hwrite : Transfer.write addr bytes (Recorded.attach s []) =
        Recorded.record (.write addr bytes.length) (ChunkMemory.writeChunk addr bytes)
          (Recorded.attach s []) := by
      refine Transfer.write_eq.trans ?_
      change Transfer.storePieces _ ((Grain.ofMemory s.state).pieces addr bytes.length) _ _ = _
      rw [h, Transfer.storePieces_singleton]
      change ChunkMemory.writeChunk addr (bytes.take bytes.length) _ = _
      rw [List.take_length]
      rfl
    rw [Job.perform, Action.bind_apply, hwrite]
    rfl
  clear := by
    refine Job.issued_of_record (x := ChunkMemory.clearChunk addr len) (f := fun _ => []) ?_
    have hclear : Transfer.clear addr len (Recorded.attach s []) =
        Recorded.record (.clear addr len) (ChunkMemory.clearChunk addr len) (Recorded.attach s []) := by
      refine (Transfer.clear_eq []).trans ?_
      change Transfer.storePieces _ ((Grain.ofMemory s.state).pieces addr len) _ _ = _
      rw [h, Transfer.storePieces_singleton]
      rfl
    rw [Job.perform, Action.bind_apply, hclear]
    rfl

/-- A transfer of whole chunks, as long as a request at most, is one request. -/
theorem direct_of_dvd (haddr : max (ChunkMemory.chunkAlign s.state) 1 ∣ addr.toNat)
    (hlen : max (ChunkMemory.chunkAlign s.state) 1 ∣ len) (hpos : 0 < len)
    (hle : len ≤ ChunkMemory.chunkMaxSize s.state) : Direct s addr len :=
  direct_of_pieces (Grain.pieces_of_dvd haddr hlen hpos hle)

end TargetLink
