import TargetLink.Proofs.ChunkMemory.Faulty
import TargetLink.Proofs.ChunkMemory.Flat
import TargetLink.Proofs.Transfer.Stopped

/-!
# Clearing is writing zeros

Clearing and writing zeros cut a transfer into the same pieces. So where clearing a chunk does what writing
zeros to it does, the two transfers make the same requests, except that the one clears the whole pieces that
the other one writes, they fail at the same request, and they leave the same memory.
-/

namespace TargetLink

/-- The request with a store in place of a clear. -/
def Request.asWrite : Request → Request
  | .clear addr len => .write addr len
  | r => r

/-- From states that `R` relates, a memory answers alike to requests that are the same, and to clearing a
chunk as to writing zeros. -/
structure ClearsAsWrites {σ : Type} [ChunkMemory σ] (R : Logged σ → Logged σ → Prop) : Prop where
  chunkAlign_eq : ∀ {s t}, R s t → ChunkMemory.chunkAlign s.state = ChunkMemory.chunkAlign t.state
  chunkMaxSize_eq : ∀ {s t}, R s t →
    ChunkMemory.chunkMaxSize s.state = ChunkMemory.chunkMaxSize t.state
  read : ∀ addr len,
    Coupled R (Through Eq R) (ChunkMemory.readChunk addr len) (ChunkMemory.readChunk addr len)
  write : ∀ addr bytes,
    Coupled R (Through Eq R) (ChunkMemory.writeChunk addr bytes) (ChunkMemory.writeChunk addr bytes)
  zeros : ∀ addr len, Coupled R (Through Eq R) (ChunkMemory.clearChunk addr len)
    (ChunkMemory.writeChunk addr (List.replicate len 0))

section Pieces

variable {σ : Type}

open Transfer

/-- Of zeros, each piece is given as many as it is long. -/
theorem Transfer.storePieces_zeros (store : Piece → List UInt8 → Action LinkError σ Unit)
    (ps : List Piece) (bytes : List UInt8) :
    storePieces store ps (List.replicate (Piece.totalLen ps) 0) =
      storePieces (fun p _ => store p (List.replicate p.len 0)) ps bytes := by
  induction ps generalizing bytes with
  | nil => rfl
  | cons p ps ih =>
    have htake : (List.replicate (Piece.totalLen (p :: ps)) (0 : UInt8)).take p.len =
        List.replicate p.len 0 := by
      rw [Piece.totalLen, List.take_replicate, Nat.min_eq_left (Nat.le_add_right _ _)]
    have hdrop : (List.replicate (Piece.totalLen (p :: ps)) (0 : UInt8)).drop p.len =
        List.replicate (Piece.totalLen ps) 0 := by
      rw [Piece.totalLen, List.drop_replicate, Nat.add_sub_cancel_left]
    rw [storePieces, storePieces, htake, hdrop, ih]

theorem Transfer.write_zeros_eq [ChunkMemory σ] [SteadyGrain σ] {addr : TargetAddr} {len : Nat} {s : Logged σ}
    (bytes : List UInt8) : write addr (List.replicate len 0) s =
      storePieces (fun p _ => writePart (Grain.ofMemory s.state) p (List.replicate p.len 0))
        ((Grain.ofMemory s.state).pieces addr len) bytes s := by
  have hlen := (Grain.ofMemory s.state).totalLen_pieces addr len
  have hzeros := storePieces_zeros (writePart (σ := σ) (Grain.ofMemory s.state))
    ((Grain.ofMemory s.state).pieces addr len) bytes
  rw [hlen] at hzeros
  rw [write_eq, List.length_replicate, hzeros]

end Pieces

namespace ClearsAsWrites

section Transfers

variable {σ : Type} [ChunkMemory σ] {R : Logged σ → Logged σ → Prop} (h : ClearsAsWrites R)
  {s t : Logged σ}

include h

theorem mergeChunk (align : Nat) (base : TargetAddr) (skip : Nat) (bytes : List UInt8) :
    Coupled R (Through Eq R) (Transfer.mergeChunk align base skip bytes)
      (Transfer.mergeChunk align base skip bytes) := by
  refine (h.read base align).bind ?_
  intro chunk
  exact h.write base _

theorem piece (g : Grain) (p : Piece) : Coupled R (Through Eq R) (Transfer.clearPiece g p)
    (Transfer.writePart g p (List.replicate p.len 0)) := by
  cases p with
  | edge base skip len => exact h.mergeChunk g.align base skip _
  | whole addr len => exact h.zeros addr len

theorem perform [SteadyGrain σ] (addr : TargetAddr) (len : Nat) : Coupled R (Through Eq R)
    (Job.clear addr len).perform (Job.write addr (List.replicate len 0)).perform := by
  refine Coupled.bind ?_ fun _ => coupled_pure _
  intro s t hst
  have hgrain : Grain.ofMemory s.state = Grain.ofMemory t.state := by
    simp only [Grain.ofMemory, h.chunkAlign_eq hst, h.chunkMaxSize_eq hst]
  rw [Transfer.clear_eq [], Transfer.write_zeros_eq [], hgrain]
  exact coupled_storePieces (fun p _ => h.piece _ p) _ _ s t hst

end Transfers

/-! ## With faults and with a trace -/

section Wrapped

variable {σ α : Type} {R : Logged σ → Logged σ → Prop}

theorem faulty [ChunkMemory σ] (h : ClearsAsWrites R) : ClearsAsWrites (Faulty.Beside R) where
  chunkAlign_eq hst := h.chunkAlign_eq hst.inner
  chunkMaxSize_eq hst := h.chunkMaxSize_eq hst.inner
  read addr len := Faulty.coupled_access (h.read addr len) addr len
  write addr bytes := Faulty.coupled_access (h.write addr bytes) addr bytes.length
  zeros addr len := by
    change Coupled _ _ _
      (Faulty.access addr (List.replicate len (0 : UInt8)).length (ChunkMemory.writeChunk addr _))
    rw [List.length_replicate]
    exact Faulty.coupled_access (h.zeros addr len) addr len

/-- The two memories are related by `R`, and the trace of the second one has stores where that of the first
one has clears. -/
def Matched (R : Logged σ → Logged σ → Prop) (s t : Logged (Traced σ)) : Prop :=
  R (Traced.forget s) (Traced.forget t) ∧
    t.state.calls = s.state.calls.map (Prod.map Request.asWrite id)

theorem coupled_trace {request request' : Request} {x y : Action LinkError σ α}
    (h : Coupled R (Through Eq R) x y) (hrequest : request' = request.asWrite) :
    Coupled (Matched R) (Through Eq (Matched R)) (Traced.trace request x)
      (Traced.trace request' y) := by
  rintro s t ⟨hinner, hcalls⟩
  have hpush (e : Option LinkError) : t.state.calls ++ [(request', e)] =
      (s.state.calls ++ [(request, e)]).map (Prod.map Request.asWrite id) := by
    rw [List.map_append, hcalls, hrequest]
    rfl
  simp only [Traced.trace]
  rcases h _ _ hinner with ⟨a, u, v, hx, hy, huv⟩ | ⟨e, _, u, v, hx, hy, rfl, huv⟩
  · rw [hx, hy]
    exact .inl ⟨a, _, _, rfl, rfl, huv, hpush none⟩
  · rw [hx, hy]
    exact .inr ⟨e, e, _, _, rfl, rfl, rfl, huv, hpush (some e)⟩

theorem traced [ChunkMemory σ] (h : ClearsAsWrites R) : ClearsAsWrites (Matched R) where
  chunkAlign_eq hst := h.chunkAlign_eq hst.1
  chunkMaxSize_eq hst := h.chunkMaxSize_eq hst.1
  read addr len := coupled_trace (h.read addr len) rfl
  write addr bytes := coupled_trace (h.write addr bytes) rfl
  zeros addr len := coupled_trace (h.zeros addr len) (by rw [List.length_replicate]; rfl)

end Wrapped

end ClearsAsWrites

/-! ## What becomes of a plan -/

/-- All requests of the plan succeeded, or those in front of one that failed, with the error `e` where
that is how it ended. -/
def Traced.Ends {α : Type} (plan : List Request) :
    Except LinkError α → List (Request × Option LinkError) → Prop
  | .ok _, calls => calls = succeeded plan
  | .error e, calls => ∃ completed failed, completed ++ [failed] <+: plan ∧
      calls = succeeded completed ++ [(failed, some e)]

theorem Job.ends {σ : Type} [ChunkMemory σ] [SteadyGrain σ] (hfull : ReadsInFull σ) (job : Job) (s : Logged σ) :
    Traced.Ends (job.plan (Grain.ofMemory s.state)) (job.perform.result (Traced.attach s [])).1
      (job.perform.result (Traced.attach s [])).2.state.calls := by
  have hfollows := job.follows_perform hfull (Recorded.attach s [])
  have halike := alike_iff_coupled.2 ((Traced.answerAlike (σ := σ) []).coupled.transfer job)
  cases hrun : job.perform s with
  | ok bytes t =>
    have htraced : job.perform (Traced.attach s []) = .ok bytes (Traced.attach t _) :=
      hfollows.traced_of_ok halike hrun
    rw [Action.result_of_ok htraced]
    exact rfl
  | error e t =>
    obtain ⟨completed, failed, hbegins, htraced⟩ := hfollows.traced_of_error halike hrun
    have hstops : job.perform (Traced.attach s []) = .error e (Traced.attach t _) := htraced
    rw [Action.result_of_error hstops]
    exact ⟨completed, failed, hbegins, rfl⟩

/-! ## A flat memory -/

namespace FlatMemory

/-- The memory without its record of requests, which tells clearing and writing zeros apart. -/
def unlisted (m : FlatMemory) : FlatMemory :=
  { m with requests := #[] }

/-- The memories differ at most in their records of requests. -/
def SameButRecord (s t : Logged FlatMemory) : Prop :=
  s.state.unlisted = t.state.unlisted

namespace SameButRecord

variable {s t : Logged FlatMemory}

theorem refusal?_eq (h : SameButRecord s t) (addr : TargetAddr) (len : Nat) :
    s.state.refusal? addr len = t.state.refusal? addr len :=
  congrArg (fun m => m.refusal? addr len) h

theorem coupled_access (request request' : Request) (addr : TargetAddr) (len : Nat) :
    Coupled SameButRecord (Through Eq SameButRecord) (access request addr len)
      (access request' addr len) := by
  intro s t h
  have hrecorded : (s.state.recorded request).unlisted = (t.state.recorded request').unlisted :=
    congrArg (fun m : FlatMemory => { m with accesses := m.accesses + 1 }) h
  rw [access_apply, access_apply, h.refusal?_eq]
  cases t.state.refusal? addr len with
  | none => exact .inl ⟨(), _, _, rfl, rfl, hrecorded⟩
  | some e => exact .inr ⟨e, e, _, _, rfl, rfl, rfl, hrecorded⟩

theorem coupled_store (request request' : Request) (addr : TargetAddr) (bytes : List UInt8) :
    Coupled SameButRecord (Through Eq SameButRecord)
      (do
        access request addr bytes.length
        Action.update fun m => { m with memory := m.memory.write (m.index addr) bytes })
      (do
        access request' addr bytes.length
        Action.update fun m => { m with memory := m.memory.write (m.index addr) bytes }) := by
  refine (coupled_access request request' addr bytes.length).bind fun _ => ?_
  intro s t h
  have hstored := congrArg
    (fun m : FlatMemory => { m with memory := m.memory.write (m.index addr) bytes }) h
  exact .inl ⟨(), _, _, rfl, rfl, hstored⟩

end SameButRecord

theorem clearsAsWrites : ClearsAsWrites SameButRecord where
  chunkAlign_eq {s t} h := @congrArg _ _ s.state.unlisted t.state.unlisted FlatMemory.align h
  chunkMaxSize_eq {s t} h := @congrArg _ _ s.state.unlisted t.state.unlisted FlatMemory.maxSize h
  read addr len := by
    refine (SameButRecord.coupled_access _ _ addr len).bind fun _ => ?_
    intro s t h
    have hread : s.state.stuck.overlay (s.state.index addr)
          (s.state.memory.read (s.state.index addr) len) =
        t.state.stuck.overlay (t.state.index addr) (t.state.memory.read (t.state.index addr) len) :=
      congrArg (fun m => m.stuck.overlay (m.index addr) (m.memory.read (m.index addr) len)) h
    simp only [Action.bind_apply, Action.current_apply, Action.pure_apply, hread]
    exact .inl ⟨_, _, _, rfl, rfl, h⟩
  write addr bytes := SameButRecord.coupled_store _ _ addr bytes
  zeros addr len := by
    have hzeros := SameButRecord.coupled_store (.clear addr len)
      (.write addr (List.replicate len (0 : UInt8)).length) addr (List.replicate len 0)
    change Coupled _ _ (clearChunk addr len) (writeChunk addr (List.replicate len 0))
    simp only [clearChunk, writeChunk, Memory.zero_eq_write]
    rwa [List.length_replicate] at hzeros ⊢

end FlatMemory

/-! ## Clearing and writing zeros -/

/-- From memories that `R` relates, and with the same accesses made to fail, clearing and writing zeros make
the same requests with the same outcomes, except that whole pieces are cleared by the one and written by the
other. They end alike, with one error if any, and leave memories that `R` relates again, also where they
fail. -/
theorem ClearsAsWrites.clear_as_write {σ : Type} [ChunkMemory σ] [SteadyGrain σ]
    {R : Logged σ → Logged σ → Prop} (h : ClearsAsWrites R) (hfull : ReadsInFull σ) {s t : Logged σ}
    (hst : R s t) (fault? : Nat → TargetAddr → Nat → Option LinkError) (addr : TargetAddr) (len : Nat) :
    let cleared := (Job.clear addr len).perform.result (Traced.attach (Faulty.start s fault?) [])
    let written := (Job.write addr (List.replicate len 0)).perform.result
      (Traced.attach (Faulty.start t fault?) [])
    written.1 = cleared.1 ∧
    R (Faulty.forget (Traced.forget cleared.2)) (Faulty.forget (Traced.forget written.2)) ∧
    written.2.state.calls = cleared.2.state.calls.map (Prod.map Request.asWrite id) ∧
    Traced.Ends ((Job.clear addr len).plan (Grain.ofMemory s.state)) cleared.1
      cleared.2.state.calls := by
  intro cleared written
  have hstart : Matched (Faulty.Beside R) (Traced.attach (Faulty.start s fault?) [])
      (Traced.attach (Faulty.start t fault?) []) := ⟨⟨hst, rfl, rfl⟩, rfl⟩
  have hcoupled := h.faulty.traced.perform addr len
  have hresult : written.1 = cleared.1 := hcoupled.result_eq hstart
  obtain ⟨hbeside, hcalls⟩ : Matched (Faulty.Beside R) cleared.2 written.2 := hcoupled.result hstart
  have hends := (Job.clear addr len).ends (Faulty.readsInFull hfull) (Faulty.start s fault?)
  exact ⟨hresult, hbeside.inner, hcalls, hends⟩

/-- Twenty bytes are to be cleared, from inside a chunk to inside another, and the fourth access is made to
fail: of three pieces the first two are stored. -/
theorem ClearsAsWrites.clear_as_write_cut_short :
    let s : Logged FlatMemory := .start ⟨⟨0x1000⟩, 32, 8, 8, .ofBytes [1, 2, 3, 4], none, [], #[], 0, false⟩
    let fault? := fun n addr (_ : Nat) => if n = 3 then some (.unmappedAddress addr) else none
    let cleared := (Job.clear ⟨0x1003⟩ 20).perform.result (Traced.attach (Faulty.start s fault?) [])
    let written := (Job.write ⟨0x1003⟩ (List.replicate 20 0)).perform.result
      (Traced.attach (Faulty.start s fault?) [])
    cleared.2.state.calls = [(.read ⟨0x1000⟩ 8, none), (.write ⟨0x1000⟩ 8, none),
      (.clear ⟨0x1008⟩ 8, none), (.read ⟨0x1010⟩ 8, some (.unmappedAddress ⟨0x1010⟩))] ∧
    written.2.state.calls = [(.read ⟨0x1000⟩ 8, none), (.write ⟨0x1000⟩ 8, none),
      (.write ⟨0x1008⟩ 8, none), (.read ⟨0x1010⟩ 8, some (.unmappedAddress ⟨0x1010⟩))] ∧
    FlatMemory.SameButRecord (Faulty.forget (Traced.forget cleared.2))
      (Faulty.forget (Traced.forget written.2)) := by
  intro s fault? cleared written
  obtain ⟨-, hmemory, hcalls, -⟩ := FlatMemory.clearsAsWrites.clear_as_write FlatMemory.readsInFull
    (s := s) (t := s) rfl fault? ⟨0x1003⟩ 20
  have hcleared : cleared.2.state.calls = [(.read ⟨0x1000⟩ 8, none), (.write ⟨0x1000⟩ 8, none),
      (.clear ⟨0x1008⟩ 8, none), (.read ⟨0x1010⟩ 8, some (.unmappedAddress ⟨0x1010⟩))] := by
    decide +kernel
  refine ⟨hcleared, ?_, hmemory⟩
  refine hcalls.trans ?_
  rw [show (Job.clear ⟨0x1003⟩ 20).perform.result _ = cleared from rfl, hcleared]
  rfl

end TargetLink
