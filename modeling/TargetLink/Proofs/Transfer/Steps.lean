import TargetLink.Proofs.ChunkMemory.Steady
import TargetLink.Proofs.Transfer.Pieces

/-!
# Transfers piece by piece

Reading, writing and clearing find their way through a transfer each in a loop of its own. With a steady
memory each of the loops is a walk over the pieces of the transfer, in order, as far as the first request
that fails: the slices of a read and of a write and the counts of a clear come to the same pieces.
-/

namespace TargetLink.Transfer

variable {σ : Type} [ChunkMemory σ]

/-! ## Walks -/

/-- Lays bytes over a chunk of `align` bytes. -/
def mergeChunk (align : Nat) (base : TargetAddr) (skip : Nat) (bytes : List UInt8) :
    Action LinkError σ Unit := do
  let chunk ← ChunkMemory.readChunk base align
  ChunkMemory.writeChunk base (overlay chunk skip bytes)

/-- The bytes of a transfer that are read for a piece. -/
def readPart (g : Grain) : Piece → Action LinkError σ (List UInt8)
  | .edge base skip len => do
    let chunk ← ChunkMemory.readChunk base g.align
    return (chunk.drop skip).take len
  | .whole addr len => ChunkMemory.readChunk addr len

/-- Stores the bytes of a transfer that belong to a piece. -/
def writePart (g : Grain) (piece : Piece) (bytes : List UInt8) : Action LinkError σ Unit :=
  match piece with
  | .edge base skip _ => mergeChunk g.align base skip bytes
  | .whole addr _ => ChunkMemory.writeChunk addr bytes

/-- Clears a piece. -/
def clearPiece (g : Grain) : Piece → Action LinkError σ Unit
  | .edge base skip len => mergeChunk g.align base skip (List.replicate len 0)
  | .whole addr len => ChunkMemory.clearChunk addr len

/-- Reads pieces one after the other. -/
def readPieces (g : Grain) : List Piece → Action LinkError σ (List UInt8)
  | [] => pure []
  | p :: ps => do
    let bytes ← readPart g p
    let rest ← readPieces g ps
    return bytes ++ rest

/-- Reads pieces one after the other into a buffer. -/
def fillPieces (g : Grain) : List Piece → EStateM LinkError (Reading σ) Unit
  | [] => pure ()
  | p :: ps => do
    fill p.len (← request (readPart g p))
    fillPieces g ps

/-- Stores bytes in pieces one after the other. -/
def storePieces (store : Piece → List UInt8 → Action LinkError σ Unit) :
    List Piece → List UInt8 → Action LinkError σ Unit
  | [], _ => pure ()
  | p :: ps, bytes => do
    store p (bytes.take p.len)
    storePieces store ps (bytes.drop p.len)

omit [ChunkMemory σ] in
theorem storePieces_singleton {s : Logged σ} (store : Piece → List UInt8 → Action LinkError σ Unit)
    (p : Piece) (bytes : List UInt8) : storePieces store [p] bytes s = store p (bytes.take p.len) s := by
  rw [storePieces, Action.bind_apply]
  cases store p (bytes.take p.len) s <;> rfl

omit [ChunkMemory σ] in
theorem storePieces_append (store : Piece → List UInt8 → Action LinkError σ Unit) (ps qs : List Piece)
    (bytes : List UInt8) : storePieces store (ps ++ qs) bytes = (storePieces store ps bytes >>= fun _ =>
      storePieces store qs (bytes.drop (Piece.totalLen ps))) := by
  induction ps generalizing bytes with
  | nil => rfl
  | cons p ps ih =>
    rw [List.cons_append, storePieces, storePieces, ih, bind_assoc, Piece.totalLen, List.drop_drop]

theorem readPieces_append (g : Grain) (ps qs : List Piece) :
    (readPieces g (ps ++ qs) : Action LinkError σ (List UInt8)) = (do
      let xs ← readPieces g ps
      let ys ← readPieces g qs
      return xs ++ ys) := by
  induction ps with
  | nil => simp [readPieces]
  | cons p ps ih =>
    simp only [List.cons_append, readPieces, ih, bind_assoc, pure_bind, List.append_assoc]

omit [ChunkMemory σ] in
/-- Only as many bytes are stored as the pieces have. -/
theorem storePieces_take (store : Piece → List UInt8 → Action LinkError σ Unit) (ps : List Piece)
    (bytes : List UInt8) :
    storePieces store ps (bytes.take (Piece.totalLen ps)) = storePieces store ps bytes := by
  induction ps generalizing bytes with
  | nil => rfl
  | cons p ps ih =>
    have htake : (bytes.take (p.len + Piece.totalLen ps)).take p.len = bytes.take p.len := by
      rw [List.take_take, Nat.min_eq_left (Nat.le_add_right _ _)]
    have hdrop : (bytes.take (p.len + Piece.totalLen ps)).drop p.len =
        (bytes.drop p.len).take (Piece.totalLen ps) := by
      rw [List.drop_take, Nat.add_sub_cancel_left]
    rw [Piece.totalLen, storePieces, storePieces, htake, hdrop, ih]

variable {g : Grain} {addr base : TargetAddr} {len skip : Nat} {bytes buffer : List UInt8}
  {s t : Logged σ} {r : Reading σ}

@[simp] theorem grain_apply (s : Logged σ) :
    (grain : Action LinkError σ Grain) s = .ok (Grain.ofMemory s.state) s := rfl

theorem merge_apply : merge base skip bytes s =
    mergeChunk (Grain.ofMemory s.state).align base skip bytes s := rfl

theorem leavesGrain_mergeChunk [SteadyGrain σ] (align : Nat) (base : TargetAddr) (skip : Nat)
    (bytes : List UInt8) : LeavesGrain (σ := σ) (mergeChunk align base skip bytes) :=
  (SteadyGrain.read base align).bind fun _ => SteadyGrain.write base _

theorem leavesGrain_writePart [SteadyGrain σ] (g : Grain) (p : Piece) (bytes : List UInt8) :
    LeavesGrain (σ := σ) (writePart g p bytes) := by
  cases p with
  | edge base skip len => exact leavesGrain_mergeChunk g.align base skip bytes
  | whole addr len => exact SteadyGrain.write addr bytes

theorem leavesGrain_storePieces {store : Piece → List UInt8 → Action LinkError σ Unit}
    (h : ∀ p bytes, LeavesGrain (store p bytes)) (ps : List Piece) (bytes : List UInt8) :
    LeavesGrain (storePieces store ps bytes) := by
  induction ps generalizing bytes with
  | nil => exact fun s => SameGrain.refl s.state
  | cons p ps ih => exact (h p _).bind fun _ => ih _

/-! ## Slices -/

theorem slices_of_ne_nil (g : Grain) (h : bytes ≠ []) :
    g.slices bytes = bytes.take g.bodyMax :: g.slices (bytes.drop g.bodyMax) := by
  cases bytes with
  | nil => exact absurd rfl h
  | cons b bytes => rw [Grain.slices]

theorem alignDown_of_lt {a n : Nat} (h : n < a) : alignDown a n = 0 := by
  rw [alignDown, Nat.mod_eq_of_lt h, Nat.sub_self]

theorem alignDown_sub_bodyLen (g : Grain) (len : Nat) :
    alignDown g.align (len - g.bodyLen len) = alignDown g.align len - g.bodyLen len := by
  obtain ⟨k, hk⟩ := g.dvd_bodyLen len
  have hle := g.bodyLen_le len
  have hmod : (len - g.bodyLen len) % g.align = len % g.align := by
    rw [hk, Nat.sub_mul_mod (by rwa [← hk])]
  unfold alignDown
  omega

/-- The first slice of the aligned chunks is the first whole piece, and the others are the slices of what is
left behind it. -/
theorem slices_of_le (h : g.align ≤ bytes.length) :
    g.slices (bytes.take (alignDown g.align bytes.length)) =
      bytes.take (g.bodyLen bytes.length) ::
        g.slices ((bytes.drop (g.bodyLen bytes.length)).take
          (alignDown g.align (bytes.drop (g.bodyLen bytes.length)).length)) := by
  have hmod := Nat.mod_lt bytes.length g.align_pos
  have hpos := g.align_pos
  have hle := alignDown_le g.align bytes.length
  have hbody : g.bodyLen bytes.length = min g.bodyMax (alignDown g.align bytes.length) :=
    Nat.min_comm _ _
  have hne : bytes.take (alignDown g.align bytes.length) ≠ [] := by
    refine List.ne_nil_of_length_pos ?_
    rw [List.length_take_of_le hle]
    unfold alignDown
    omega
  rw [slices_of_ne_nil g hne, List.take_take, ← hbody, List.length_drop, alignDown_sub_bodyLen,
    List.drop_take]
  rcases Nat.le_total g.bodyMax (alignDown g.align bytes.length) with hmax | hmax
  · rw [hbody, Nat.min_eq_left hmax]
  · rw [hbody, Nat.min_eq_right hmax, Nat.sub_self, Nat.sub_eq_zero_of_le hmax, List.take_zero,
      List.take_zero]

/-- The bytes behind the aligned chunks are those behind the aligned chunks of what is left. -/
theorem drop_alignDown (g : Grain) (bytes : List UInt8) : bytes.drop (alignDown g.align bytes.length) =
    (bytes.drop (g.bodyLen bytes.length)).drop
      (alignDown g.align (bytes.drop (g.bodyLen bytes.length)).length) := by
  have hbody : g.bodyLen bytes.length ≤ alignDown g.align bytes.length := Nat.min_le_left _ _
  rw [List.drop_drop, List.length_drop, alignDown_sub_bodyLen, Nat.add_sub_of_le hbody]

/-! ## Writing -/

/-- What a write does from its first aligned address on. -/
def writeAligned (addr : TargetAddr) (bytes : List UInt8) : Action LinkError σ Unit := do
  let g ← grain
  let (body, tail) := bytes.splitAt (bytes.length - bytes.length % g.align)
  let addr ← writeSlices addr (g.slices body)
  if tail ≠ [] then
    merge addr 0 tail

theorem writeAligned_apply (hgrain : Grain.ofMemory s.state = g) : writeAligned addr bytes s =
    (writeSlices addr (g.slices (bytes.take (alignDown g.align bytes.length))) >>= fun addr =>
      if bytes.drop (alignDown g.align bytes.length) ≠ [] then
        merge addr 0 (bytes.drop (alignDown g.align bytes.length))
      else pure ()) s := by
  subst hgrain
  simp only [writeAligned, List.splitAt_eq]
  rfl

/-- A write of a chunk or more begins with its first whole piece. -/
theorem writeAligned_of_le [SteadyGrain σ] (hgrain : Grain.ofMemory s.state = g)
    (hle : g.align ≤ bytes.length) : writeAligned addr bytes s =
      (ChunkMemory.writeChunk addr (bytes.take (g.bodyLen bytes.length)) >>= fun _ =>
        writeAligned (addr + g.bodyLen bytes.length) (bytes.drop (g.bodyLen bytes.length))) s := by
  rw [writeAligned_apply hgrain, slices_of_le hle, drop_alignDown, writeSlices, bind_assoc, Action.bind_apply,
    Action.bind_apply, List.length_take_of_le (g.bodyLen_le _)]
  cases hwrite : ChunkMemory.writeChunk addr (bytes.take (g.bodyLen bytes.length)) s with
  | error e t => rfl
  | ok _ t =>
    have hnext := (SteadyGrain.write addr _).ofMemory_eq hwrite
    exact (writeAligned_apply (hnext.trans hgrain)).symm

theorem writeAligned_eq [SteadyGrain σ] (hgrain : Grain.ofMemory s.state = g)
    (hlen : bytes.length = len) :
    writeAligned addr bytes s = storePieces (writePart g) (g.alignedPieces addr len) bytes s := by
  induction addr, len using Grain.alignedPieces.induct g generalizing bytes s with
  | case1 addr hlt =>
    obtain rfl := List.eq_nil_of_length_eq_zero hlen
    rw [writeAligned_apply hgrain, Grain.alignedPieces_zero, List.take_nil, Grain.slices]
    rfl
  | case2 addr len hlt hne =>
    have hbytes : bytes ≠ [] := List.ne_nil_of_length_pos (by omega)
    rw [writeAligned_apply hgrain, Grain.alignedPieces, if_pos hlt, if_neg hne, storePieces_singleton,
      hlen, alignDown_of_lt hlt]
    simp only [List.take_zero, List.drop_zero, Grain.slices, writeSlices, Action.bind_apply,
      Action.pure_apply, if_pos hbytes, Piece.len, ← hlen, List.take_length]
    rw [← hgrain]
    rfl
  | case3 addr len hlt ih =>
    subst hlen
    rw [writeAligned_of_le hgrain (Nat.le_of_not_lt hlt), Grain.alignedPieces, if_neg hlt, storePieces,
      Action.bind_apply, Action.bind_apply]
    simp only [Piece.len, writePart]
    cases hwrite : ChunkMemory.writeChunk addr (bytes.take (g.bodyLen bytes.length)) s with
    | error e t => rfl
    | ok _ t =>
      have hnext := (SteadyGrain.write addr _).ofMemory_eq hwrite
      exact ih (hnext.trans hgrain) (List.length_drop ..)

/-- The loop of a write is a walk over its pieces. -/
theorem write_eq [SteadyGrain σ] : write addr bytes s = storePieces (writePart (Grain.ofMemory s.state))
    ((Grain.ofMemory s.state).pieces addr bytes.length) bytes s := by
  generalize hgrain : Grain.ofMemory s.state = g
  have hhead := g.headLen_le addr bytes.length
  have htake : (bytes.take (g.headLen addr bytes.length)).length = g.headLen addr bytes.length :=
    List.length_take_of_le hhead
  rcases Nat.eq_zero_or_pos (g.headLen addr bytes.length) with hzero | hpos
  · have hwrite : write addr bytes s = writeAligned addr bytes s := by
      simp only [write, List.splitAt_eq, Action.bind_apply, grain_apply, hgrain, hzero, writeAligned,
        List.take_zero, List.drop_zero, List.length_nil, Grain.add_zero, ne_eq, not_true_eq_false, if_false]
    rw [hwrite, writeAligned_eq hgrain rfl, Grain.pieces, Grain.headPieces, if_pos hzero, hzero,
      List.nil_append, Grain.add_zero, Nat.sub_zero]
  · have hne : bytes.take (g.headLen addr bytes.length) ≠ [] := List.ne_nil_of_length_pos (by omega)
    have hwrite : write addr bytes s = (merge (g.alignedBase addr) (g.skew addr)
        (bytes.take (g.headLen addr bytes.length)) >>= fun _ =>
          writeAligned (addr + g.headLen addr bytes.length)
            (bytes.drop (g.headLen addr bytes.length))) s := by
      simp only [write, List.splitAt_eq, Action.bind_apply, grain_apply, hgrain, writeAligned, htake,
        if_pos hne]
    rw [hwrite, Grain.pieces, Grain.headPieces, if_neg (by omega), List.singleton_append, storePieces,
      Action.bind_apply, Action.bind_apply, merge_apply, hgrain]
    simp only [writePart, Piece.len]
    cases hmerge : mergeChunk g.align (g.alignedBase addr) (g.skew addr)
        (bytes.take (g.headLen addr bytes.length)) s with
    | error e t => rfl
    | ok _ t =>
      have hnext := (leavesGrain_mergeChunk _ _ _ _).ofMemory_eq hmerge
      exact writeAligned_eq (hnext.trans hgrain) (List.length_drop ..)

theorem leavesGrain_write [SteadyGrain σ] (addr : TargetAddr) (bytes : List UInt8) :
    LeavesGrain (σ := σ) (write addr bytes) := by
  intro s
  have hsame := leavesGrain_storePieces (leavesGrain_writePart (Grain.ofMemory s.state))
    ((Grain.ofMemory s.state).pieces addr bytes.length) bytes s
  rwa [Action.result, ← write_eq] at hsame

/-! ## Clearing -/

/-- What a clear does from its first aligned address on. -/
def clearAligned (addr : TargetAddr) (len : Nat) : Action LinkError σ Unit := do
  let body := len - len % (← grain).align
  let addr ← clearBody addr body
  let tail := len - body
  if tail ≠ 0 then
    merge addr 0 (List.replicate tail 0)

theorem clearAligned_apply (hgrain : Grain.ofMemory s.state = g) : clearAligned addr len s =
    (clearBody addr (alignDown g.align len) >>= fun addr =>
      if len - alignDown g.align len ≠ 0 then
        merge addr 0 (List.replicate (len - alignDown g.align len) 0)
      else pure ()) s := by
  subst hgrain
  rfl

/-- A clear of a chunk or more begins with its first whole piece. -/
theorem clearAligned_of_le [SteadyGrain σ] (hgrain : Grain.ofMemory s.state = g) (hle : g.align ≤ len) :
    clearAligned addr len s = (ChunkMemory.clearChunk addr (g.bodyLen len) >>= fun _ =>
      clearAligned (addr + g.bodyLen len) (len - g.bodyLen len)) s := by
  have hbody : g.bodyLen len ≤ alignDown g.align len := Nat.min_le_left _ _
  have hpos : 0 < g.bodyLen len := Grain.bodyLen_pos hle
  have hstep : clearBody addr (alignDown g.align len) s =
      (ChunkMemory.clearChunk addr (g.bodyLen len) >>= fun _ =>
        clearBody (addr + g.bodyLen len) (alignDown g.align len - g.bodyLen len)) s := by
    rw [clearBody, if_neg (by omega), Action.bind_apply, grain_apply, hgrain]
    rfl
  have htail : len - alignDown g.align len =
      len - g.bodyLen len - (alignDown g.align len - g.bodyLen len) := by omega
  rw [clearAligned_apply hgrain, Action.bind_apply, hstep, Action.bind_apply, Action.bind_apply]
  cases hclear : ChunkMemory.clearChunk addr (g.bodyLen len) s with
  | error e t => rfl
  | ok _ t =>
    have hnext := (SteadyGrain.clear addr _).ofMemory_eq hclear
    have hrest : clearAligned (addr + g.bodyLen len) (len - g.bodyLen len) t = _ :=
      clearAligned_apply (hnext.trans hgrain)
    rw [alignDown_sub_bodyLen, ← htail] at hrest
    exact hrest.symm

theorem clearAligned_eq [SteadyGrain σ] (hgrain : Grain.ofMemory s.state = g) (bytes : List UInt8) :
    clearAligned addr len s =
      storePieces (fun p _ => clearPiece g p) (g.alignedPieces addr len) bytes s := by
  induction addr, len using Grain.alignedPieces.induct g generalizing bytes s with
  | case1 addr hlt =>
    rw [clearAligned_apply hgrain, Grain.alignedPieces_zero, alignDown_of_lt hlt, clearBody]
    rfl
  | case2 addr len hlt hne =>
    rw [clearAligned_apply hgrain, Grain.alignedPieces, if_pos hlt, if_neg hne, storePieces_singleton,
      alignDown_of_lt hlt, clearBody]
    simp only [if_true, Action.bind_apply, Action.pure_apply, Nat.sub_zero, if_pos hne]
    rw [← hgrain]
    rfl
  | case3 addr len hlt ih =>
    rw [clearAligned_of_le hgrain (Nat.le_of_not_lt hlt), Grain.alignedPieces, if_neg hlt, storePieces,
      Action.bind_apply, Action.bind_apply]
    simp only [clearPiece]
    cases hclear : ChunkMemory.clearChunk addr (g.bodyLen len) s with
    | error e t => rfl
    | ok _ t =>
      have hnext := (SteadyGrain.clear addr _).ofMemory_eq hclear
      exact ih (hnext.trans hgrain) _

/-- The loop of a clear is a walk over its pieces, which are given any bytes. -/
theorem clear_eq [SteadyGrain σ] (bytes : List UInt8) : clear addr len s =
    storePieces (fun p _ => clearPiece (Grain.ofMemory s.state) p)
      ((Grain.ofMemory s.state).pieces addr len) bytes s := by
  generalize hgrain : Grain.ofMemory s.state = g
  rcases Nat.eq_zero_or_pos (g.headLen addr len) with hzero | hpos
  · have hclear : clear addr len s = clearAligned addr len s := by
      simp only [clear, Action.bind_apply, grain_apply, hgrain, hzero, clearAligned, Nat.sub_zero,
        Grain.add_zero, ne_eq, not_true_eq_false, if_false]
    rw [hclear, clearAligned_eq hgrain bytes, Grain.pieces, Grain.headPieces, if_pos hzero, hzero,
      List.nil_append, Grain.add_zero, Nat.sub_zero]
  · have hne : g.headLen addr len ≠ 0 := by omega
    have hclear : clear addr len s = (merge (g.alignedBase addr) (g.skew addr)
        (List.replicate (g.headLen addr len) 0) >>= fun _ =>
          clearAligned (addr + g.headLen addr len) (len - g.headLen addr len)) s := by
      simp only [clear, Action.bind_apply, grain_apply, hgrain, clearAligned, if_pos hne]
    rw [hclear, Grain.pieces, Grain.headPieces, if_neg hne, List.singleton_append, storePieces,
      Action.bind_apply, Action.bind_apply, merge_apply, hgrain]
    simp only [clearPiece]
    cases hmerge : mergeChunk g.align (g.alignedBase addr) (g.skew addr)
        (List.replicate (g.headLen addr len) 0) s with
    | error e t => rfl
    | ok _ t =>
      have hnext := (leavesGrain_mergeChunk _ _ _ _).ofMemory_eq hmerge
      exact clearAligned_eq (hnext.trans hgrain) _

/-! ## Reading -/

/-- What a read does from its first aligned address on. -/
def readAligned (g : Grain) (addr : TargetAddr) (buffer : List UInt8) :
    EStateM LinkError (Reading σ) Unit := do
  let (body, tail) := buffer.splitAt (buffer.length - buffer.length % g.align)
  let addr ← readSlices addr ((← request grain).slices body)
  if tail ≠ [] then
    let chunk ← request (ChunkMemory.readChunk addr g.align)
    fill tail.length (chunk.take tail.length)

theorem readAligned_apply (hgrain : Grain.ofMemory r.memory.state = g) : readAligned g addr buffer r =
    (readSlices addr (g.slices (buffer.take (alignDown g.align buffer.length))) >>= fun addr =>
      if buffer.drop (alignDown g.align buffer.length) ≠ [] then
        request (ChunkMemory.readChunk addr g.align) >>= fun chunk =>
          fill (buffer.drop (alignDown g.align buffer.length)).length
            (chunk.take (buffer.drop (alignDown g.align buffer.length)).length)
      else pure ()) r := by
  subst hgrain
  simp only [readAligned, List.splitAt_eq]
  rfl

/-- A request of a read leaves the grain. -/
theorem request_ofMemory_eq {α : Type} {x : Action LinkError σ α} (h : LeavesGrain x) {a : α}
    {r r' : Reading σ} (hok : request x r = .ok a r') :
    Grain.ofMemory r'.memory.state = Grain.ofMemory r.memory.state := by
  unfold request at hok
  cases hx : x r.memory with
  | ok b t =>
    rw [hx] at hok
    cases hok
    exact h.ofMemory_eq hx
  | error e t =>
    rw [hx] at hok
    cases hok

theorem request_readPart_edge (g : Grain) (base : TargetAddr) (skip len : Nat) (r : Reading σ) :
    request (readPart g (.edge base skip len)) r =
      match request (ChunkMemory.readChunk base g.align) r with
      | .ok chunk r' => .ok ((chunk.drop skip).take len) r'
      | .error e r' => .error e r' := by
  simp only [request, readPart, Action.bind_apply]
  cases ChunkMemory.readChunk base g.align r.memory <;> rfl

theorem fillPieces_cons (g : Grain) (p : Piece) (ps : List Piece) (r : Reading σ) :
    fillPieces g (p :: ps) r = match request (readPart g p) r with
      | .ok bytes r' => fillPieces g ps
          { r' with filled := r'.filled ++ bytes, rest := r'.rest.drop p.len }
      | .error e r' => .error e r' := by
  rw [fillPieces, Action.bind_apply]
  cases request (readPart g p) r <;> rfl

/-- A read of a chunk or more begins with its first whole piece. -/
theorem readAligned_of_le [SteadyGrain σ] (hgrain : Grain.ofMemory r.memory.state = g)
    (hle : g.align ≤ buffer.length) : readAligned g addr buffer r =
      (do
        fill (g.bodyLen buffer.length)
          (← request (ChunkMemory.readChunk addr (g.bodyLen buffer.length)))
        readAligned g (addr + g.bodyLen buffer.length) (buffer.drop (g.bodyLen buffer.length))) r := by
  rw [readAligned_apply hgrain, slices_of_le hle, drop_alignDown, readSlices, bind_assoc, Action.bind_apply,
    Action.bind_apply, List.length_take_of_le (g.bodyLen_le _)]
  cases hread : request (ChunkMemory.readChunk addr (g.bodyLen buffer.length)) r with
  | error e r' => rfl
  | ok bytes r' =>
    have hnext := request_ofMemory_eq (SteadyGrain.read addr _) hread
    exact (readAligned_apply (r := ⟨r'.filled ++ bytes, r'.rest.drop _, r'.memory⟩)
      (hnext.trans hgrain)).symm

theorem readAligned_eq [SteadyGrain σ] (hgrain : Grain.ofMemory r.memory.state = g)
    (hlen : buffer.length = len) :
    readAligned g addr buffer r = fillPieces g (g.alignedPieces addr len) r := by
  induction addr, len using Grain.alignedPieces.induct g generalizing buffer r with
  | case1 addr hlt =>
    obtain rfl := List.eq_nil_of_length_eq_zero hlen
    rw [readAligned_apply hgrain, Grain.alignedPieces_zero, List.take_nil, Grain.slices]
    rfl
  | case2 addr len hlt hne =>
    have hbuffer : buffer ≠ [] := List.ne_nil_of_length_pos (by omega)
    rw [readAligned_apply hgrain, Grain.alignedPieces, if_pos hlt, if_neg hne, hlen,
      alignDown_of_lt hlt]
    simp only [List.take_zero, List.drop_zero, Grain.slices, readSlices, Action.bind_apply,
      Action.pure_apply, if_pos hbuffer, fillPieces_cons, hlen, request_readPart_edge]
    cases request (ChunkMemory.readChunk addr g.align) r <;> rfl
  | case3 addr len hlt ih =>
    subst hlen
    rw [readAligned_of_le hgrain (Nat.le_of_not_lt hlt), Grain.alignedPieces, if_neg hlt, fillPieces_cons]
    simp only [Action.bind_apply, readPart, Piece.len]
    cases hread : request (ChunkMemory.readChunk addr (g.bodyLen buffer.length)) r with
    | error e r' => rfl
    | ok bytes r' =>
      have hnext := request_ofMemory_eq (SteadyGrain.read addr _) hread
      refine ih ?_ (List.length_drop ..)
      exact hnext.trans hgrain

/-- The loop of a read is a walk over its pieces. -/
theorem readAll_eq [SteadyGrain σ] : readAll addr buffer r =
    fillPieces (Grain.ofMemory r.memory.state)
      ((Grain.ofMemory r.memory.state).pieces addr buffer.length) r := by
  generalize hgrain : Grain.ofMemory r.memory.state = g
  have hask : (request grain : EStateM LinkError (Reading σ) Grain) r = .ok g r := by
    rw [← hgrain]
    rfl
  have htake : (buffer.take (g.headLen addr buffer.length)).length = g.headLen addr buffer.length :=
    List.length_take_of_le (g.headLen_le addr buffer.length)
  rcases Nat.eq_zero_or_pos (g.headLen addr buffer.length) with hzero | hpos
  · have hread : readAll addr buffer r = readAligned g addr buffer r := by
      simp only [readAll, List.splitAt_eq, Action.bind_apply, hask, hzero, readAligned, List.take_zero,
        List.drop_zero, List.length_nil, Grain.add_zero, ne_eq, not_true_eq_false, if_false]
    rw [hread, readAligned_eq hgrain rfl, Grain.pieces, Grain.headPieces, if_pos hzero, hzero,
      List.nil_append, Grain.add_zero, Nat.sub_zero]
  · have hne : buffer.take (g.headLen addr buffer.length) ≠ [] := List.ne_nil_of_length_pos (by omega)
    have hread : readAll addr buffer r =
        (do
          let chunk ← request (ChunkMemory.readChunk (g.alignedBase addr) g.align)
          fill (g.headLen addr buffer.length)
            ((chunk.drop (g.skew addr)).take (g.headLen addr buffer.length))
          readAligned g (addr + g.headLen addr buffer.length)
            (buffer.drop (g.headLen addr buffer.length))) r := by
      simp only [readAll, List.splitAt_eq, Action.bind_apply, hask, readAligned, htake, if_pos hne]
    rw [hread, Grain.pieces, Grain.headPieces, if_neg (by omega), List.singleton_append, fillPieces_cons,
      request_readPart_edge, Action.bind_apply]
    cases hchunk : request (ChunkMemory.readChunk (g.alignedBase addr) g.align) r with
    | error e r' => rfl
    | ok chunk r' =>
      have hnext := request_ofMemory_eq (SteadyGrain.read _ _) hchunk
      exact readAligned_eq
        (r := ⟨r'.filled ++ (chunk.drop (g.skew addr)).take _, r'.rest.drop _, r'.memory⟩)
        (hnext.trans hgrain) (List.length_drop ..)

/-- What was read in pieces stands at the front of the buffer. -/
theorem fillPieces_of_ok {ps : List Piece} {xs : List UInt8} {filled : Array UInt8} {rest : List UInt8}
    (h : readPieces g ps s = .ok xs t) : fillPieces g ps ⟨filled, rest, s⟩ =
      .ok () ⟨filled ++ xs, rest.drop (Piece.totalLen ps), t⟩ := by
  induction ps generalizing s xs filled rest with
  | nil =>
    cases h
    simp [fillPieces, Piece.totalLen]
  | cons p ps ih =>
    obtain ⟨ys, u, hp, hrun⟩ := Action.bind_eq_ok h
    obtain ⟨zs, v, hps, hpure⟩ := Action.bind_eq_ok hrun
    cases hpure
    have happend : filled ++ ys ++ zs = filled ++ (ys ++ zs) := by
      rw [← Array.toList_inj]
      simp
    rw [fillPieces_cons, request, hp]
    simp only [ih hps, List.drop_drop, happend, Piece.totalLen]

theorem fillPieces_append (g : Grain) (ps qs : List Piece) :
    (fillPieces g (ps ++ qs) : EStateM LinkError (Reading σ) Unit) = (do
      fillPieces g ps
      fillPieces g qs) := by
  induction ps with
  | nil => rfl
  | cons p ps ih => simp only [List.cons_append, fillPieces, ih, bind_assoc]

/-- Behind the pieces that were read one failed, and the buffer is left as it was from there on. -/
theorem fillPieces_of_error {p : Piece} {front : List Piece} {xs : List UInt8} {filled : Array UInt8}
    {rest : List UInt8} {u : Logged σ} {e : LinkError} (back : List Piece)
    (hfront : readPieces g front s = .ok xs u) (hp : readPart g p u = .error e t) :
    fillPieces g (front ++ p :: back) ⟨filled, rest, s⟩ =
      .error e ⟨filled ++ xs, rest.drop (Piece.totalLen front), t⟩ := by
  rw [fillPieces_append, Action.bind_apply, fillPieces_of_ok hfront]
  simp only [fillPieces_cons, request, hp]

theorem readPieces_of_error {ps : List Piece} {e : LinkError} (h : readPieces g ps s = .error e t) :
    ∃ front p back xs u, ps = front ++ p :: back ∧ readPieces g front s = .ok xs u ∧
      readPart g p u = .error e t := by
  induction ps generalizing s with
  | nil => cases h
  | cons p ps ih =>
    rcases Action.bind_eq_error h with hp | ⟨xs, s', hp, hrest⟩
    · exact ⟨[], p, ps, [], s, rfl, rfl, hp⟩
    · rcases Action.bind_eq_error hrest with hps | ⟨ys, t', -, hpure⟩
      · obtain ⟨front, q, back, ys, u, rfl, hfront, hq⟩ := ih hps
        refine ⟨p :: front, q, back, xs ++ ys, u, rfl, ?_, hq⟩
        simp only [readPieces, Action.bind_apply, hp, hfront, Action.pure_apply]
      · cases hpure

/-- A read that gets through has filled the buffer. -/
theorem readInto_of_ok [SteadyGrain σ] {xs : List UInt8} (h : readPieces (Grain.ofMemory s.state)
    ((Grain.ofMemory s.state).pieces addr buffer.length) s = .ok xs t) :
    readInto addr buffer s = .ok xs t := by
  rw [readInto, readAll_eq, fillPieces_of_ok h]
  simp [Grain.totalLen_pieces]

/-- A read that fails at a piece leaves the bytes of the pieces in front of it in the buffer. -/
theorem readInto_of_error [SteadyGrain σ] {p : Piece} {front back : List Piece} {xs : List UInt8}
    {u : Logged σ} {e : LinkError}
    (hpieces : (Grain.ofMemory s.state).pieces addr buffer.length = front ++ p :: back)
    (hfront : readPieces (Grain.ofMemory s.state) front s = .ok xs u)
    (hp : readPart (Grain.ofMemory s.state) p u = .error e t) :
    readInto addr buffer s = .error (e, xs ++ buffer.drop (Piece.totalLen front)) t := by
  rw [readInto, readAll_eq, hpieces, fillPieces_of_error back hfront hp]
  simp

/-- A read returns what a walk over its pieces reads. -/
theorem read_eq [SteadyGrain σ] : read addr len s =
    readPieces (Grain.ofMemory s.state) ((Grain.ofMemory s.state).pieces addr len) s := by
  have hlen : (List.replicate len (0 : UInt8)).length = len := List.length_replicate
  cases h : readPieces (Grain.ofMemory s.state) ((Grain.ofMemory s.state).pieces addr len) s with
  | ok xs t => rw [read, readInto_of_ok (by rw [hlen]; exact h)]
  | error e t =>
    obtain ⟨front, p, back, xs, u, hpieces, hfront, hp⟩ := readPieces_of_error h
    rw [read, readInto_of_error (by rw [hlen]; exact hpieces) hfront hp]

/-! ## Nothing to transfer -/

section Empty

variable [SteadyGrain σ]

theorem read_zero : read addr 0 s = .ok [] s := by
  rw [read_eq, Grain.pieces_zero]
  rfl

theorem write_nil : write addr [] s = .ok () s := by
  rw [write_eq, List.length_nil, Grain.pieces_zero]
  rfl

theorem clear_zero : clear addr 0 s = .ok () s := by
  rw [clear_eq [], Grain.pieces_zero]
  rfl

end Empty

end TargetLink.Transfer
