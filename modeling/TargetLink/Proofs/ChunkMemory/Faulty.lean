import TargetLink.Proofs.Operation

/-!
# Chunk memories that are made to fail

Any chunk memory of which accesses can be made to fail, by their number. One that is made to fail does
nothing else. Two memories that answer alike go on doing so when both are made to fail in the same places.
-/

namespace TargetLink

/-- A chunk memory of which some accesses fail. A reset is no access. -/
structure Faulty (σ : Type) where
  inner : σ
  /-- The number of accesses so far. -/
  accesses : Nat
  /-- Why the access of a number, for some bytes from an address on, fails if it is made to. -/
  fault? : Nat → TargetAddr → Nat → Option LinkError

namespace Faulty

variable {σ α : Type}

/-- The memory without the faults. -/
def forget (s : Logged (Faulty σ)) : Logged σ :=
  ⟨s.state.inner, s.log⟩

/-- A memory before its first access. -/
def start (s : Logged σ) (fault? : Nat → TargetAddr → Nat → Option LinkError) : Logged (Faulty σ) :=
  ⟨⟨s.state, 0, fault?⟩, s.log⟩

/-- The state with that of the memory replaced. -/
def resume (m : Faulty σ) (s : Logged σ) : Logged (Faulty σ) :=
  ⟨{ m with inner := s.state }, s.log⟩

/-- Makes a request of the memory. -/
def pass (x : Action LinkError σ α) : Action LinkError (Faulty σ) α := fun s =>
  match x (forget s) with
  | .ok a t => .ok a (s.state.resume t)
  | .error e t => .error e (s.state.resume t)

/-- The state after another access. -/
def count (s : Logged (Faulty σ)) : Logged (Faulty σ) :=
  { s with state.accesses := s.state.accesses + 1 }

/-- Makes a request of the memory unless it is made to fail. -/
def access (addr : TargetAddr) (len : Nat) (x : Action LinkError σ α) :
    Action LinkError (Faulty σ) α := fun s =>
  match s.state.fault? s.state.accesses addr len with
  | some e => .error e (count s)
  | none => pass x (count s)

instance [ChunkMemory σ] : ChunkMemory (Faulty σ) where
  chunkAlign m := ChunkMemory.chunkAlign m.inner
  chunkMaxSize m := ChunkMemory.chunkMaxSize m.inner
  readChunk addr len := access addr len (ChunkMemory.readChunk addr len)
  writeChunk addr bytes := access addr bytes.length (ChunkMemory.writeChunk addr bytes)
  clearChunk addr len := access addr len (ChunkMemory.clearChunk addr len)
  reset := pass ChunkMemory.reset

theorem leavesGrain_access [ChunkMemory σ] {x : Action LinkError σ α} (h : LeavesGrain x)
    (addr : TargetAddr) (len : Nat) : LeavesGrain (access addr len x) := by
  intro s
  have hsame := h (forget s)
  have hforget : forget (count s) = forget s := rfl
  simp only [Action.result, access, pass, hforget] at hsame ⊢
  cases s.state.fault? s.state.accesses addr len with
  | some e => exact ⟨rfl, rfl⟩
  | none =>
    cases hrun : x (forget s) <;> rw [hrun] at hsame <;>
      exact ⟨hsame.chunkAlign_eq, hsame.chunkMaxSize_eq⟩

instance [ChunkMemory σ] [SteadyGrain σ] : SteadyGrain (Faulty σ) where
  read addr len := leavesGrain_access (SteadyGrain.read addr len) addr len
  write addr bytes := leavesGrain_access (SteadyGrain.write addr bytes) addr bytes.length
  clear addr len := leavesGrain_access (SteadyGrain.clear addr len) addr len

theorem pass_eq_ok {x : Action LinkError σ α} {s t : Logged (Faulty σ)} {a : α}
    (h : pass x s = .ok a t) : ∃ u, x (forget s) = .ok a u := by
  unfold pass at h
  cases hx : x (forget s) with
  | ok b u =>
    rw [hx] at h
    cases h
    exact ⟨u, rfl⟩
  | error e u =>
    rw [hx] at h
    cases h

theorem readsInFull [ChunkMemory σ] (hfull : ReadsInFull σ) : ReadsInFull (Faulty σ) := by
  intro addr len s t bytes hok
  change access addr len (ChunkMemory.readChunk addr len) s = _ at hok
  unfold access at hok
  split at hok
  · cases hok
  · obtain ⟨u, hread⟩ := pass_eq_ok hok
    exact hfull addr len _ u bytes hread

/-- The two memories are related by `R`, and the same accesses are made to fail. -/
structure Beside (R : Logged σ → Logged σ → Prop) (s t : Logged (Faulty σ)) : Prop where
  inner : R (forget s) (forget t)
  accesses_eq : s.state.accesses = t.state.accesses
  fault_eq : s.state.fault? = t.state.fault?

theorem coupled_access {R : Logged σ → Logged σ → Prop} {x y : Action LinkError σ α}
    (h : Coupled R (Through Eq R) x y) (addr : TargetAddr) (len : Nat) :
    Coupled (Beside R) (Through Eq (Beside R)) (access addr len x) (access addr len y) := by
  intro s t hst
  -- Both count the access, also where it is made to fail, so the numbers stay the same.
  have hcount : t.state.accesses + 1 = s.state.accesses + 1 := by rw [hst.accesses_eq]
  unfold access
  rw [← hst.accesses_eq, ← hst.fault_eq]
  cases s.state.fault? s.state.accesses addr len with
  | some e => exact .inr ⟨e, e, _, _, rfl, rfl, rfl, hst.inner, hcount.symm, hst.fault_eq⟩
  | none =>
    have hs : forget (count s) = forget s := rfl
    have ht : forget (count t) = forget t := rfl
    simp only [pass, hs, ht]
    rcases h _ _ hst.inner with ⟨a, u, v, hx, hy, huv⟩ | ⟨e, _, u, v, hx, hy, rfl, huv⟩
    · rw [hx, hy]
      exact .inl ⟨a, _, _, rfl, rfl, huv, hcount.symm, hst.fault_eq⟩
    · rw [hx, hy]
      exact .inr ⟨e, e, _, _, rfl, rfl, rfl, huv, hcount.symm, hst.fault_eq⟩

end Faulty

end TargetLink
