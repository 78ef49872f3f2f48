import TargetLink.ChunkMemory.Flat
import TargetLink.Proofs.Action
import TargetLink.Transfer
import TargetLink.Transport

/-!
# Steady chunk memories

What a chunk memory asks for may depend on its state, and a transfer asks again between its requests. A
memory is steady if its requests leave its alignment and its longest request as they were. Then a transfer
is cut in the same way from its beginning to its end.
-/

namespace TargetLink

variable {σ τ α β : Type} [ChunkMemory σ]

/-- The two states ask for the same alignment and the same longest request. -/
structure SameGrain [ChunkMemory τ] (m : σ) (n : τ) : Prop where
  chunkAlign_eq : ChunkMemory.chunkAlign m = ChunkMemory.chunkAlign n
  chunkMaxSize_eq : ChunkMemory.chunkMaxSize m = ChunkMemory.chunkMaxSize n

theorem SameGrain.refl (m : σ) : SameGrain m m :=
  ⟨rfl, rfl⟩

theorem SameGrain.trans {m n o : σ} (h : SameGrain m n) (h' : SameGrain n o) : SameGrain m o :=
  ⟨h.chunkAlign_eq.trans h'.chunkAlign_eq, h.chunkMaxSize_eq.trans h'.chunkMaxSize_eq⟩

theorem SameGrain.ofMemory_eq [ChunkMemory τ] {m : σ} {n : τ} (h : SameGrain m n) :
    Grain.ofMemory m = Grain.ofMemory n := by
  simp only [Grain.ofMemory, h.chunkAlign_eq, h.chunkMaxSize_eq]

/-- The action leaves the grain of the memory as it was, whether it succeeds or not. -/
def LeavesGrain (x : Action LinkError σ α) : Prop :=
  ∀ s, SameGrain (x.result s).2.state s.state

/-- A chunk memory whose requests leave its grain as it was. -/
class SteadyGrain (σ : Type) [ChunkMemory σ] : Prop where
  read : ∀ addr len, LeavesGrain (ChunkMemory.readChunk (σ := σ) addr len)
  write : ∀ addr bytes, LeavesGrain (ChunkMemory.writeChunk (σ := σ) addr bytes)
  clear : ∀ addr len, LeavesGrain (ChunkMemory.clearChunk (σ := σ) addr len)

namespace LeavesGrain

variable {x : Action LinkError σ α} {f : α → Action LinkError σ β} {s t : Logged σ} {a : α}

theorem ofMemory_eq (h : LeavesGrain x) (hok : x s = .ok a t) :
    Grain.ofMemory t.state = Grain.ofMemory s.state := by
  have hsame := h s
  rw [Action.result_of_ok hok] at hsame
  exact hsame.ofMemory_eq

theorem bind (h : LeavesGrain x) (hf : ∀ a, LeavesGrain (f a)) : LeavesGrain (x >>= f) := by
  intro s
  have hsame := h s
  cases hx : x s with
  | ok a t =>
    rw [Action.result_of_ok hx] at hsame
    have hrest : (x >>= f).result s = (f a).result t := by
      simp only [Action.result, Action.bind_apply, hx]
    rw [hrest]
    exact (hf a t).trans hsame
  | error e t =>
    rw [Action.result_of_error hx] at hsame
    have hrest : (x >>= f).result s = (.error e, t) := by
      simp only [Action.result, Action.bind_apply, hx]
    rw [hrest]
    exact hsame

end LeavesGrain

theorem leavesGrain_update {f : σ → σ} (h : ∀ m, SameGrain (f m) m) :
    LeavesGrain (Action.update f) :=
  fun s => h s.state

/-! ## Memories that are steady -/

/-- An access puts no more than itself on record. -/
theorem FlatMemory.leavesGrain_access (request : Request) (addr : TargetAddr) (len : Nat) :
    LeavesGrain (FlatMemory.access request addr len) := by
  intro s
  simp only [Action.result, FlatMemory.access, Action.bind_apply, Action.current_apply,
    Action.put_apply]
  cases s.state.refusal? addr len <;> exact ⟨rfl, rfl⟩

instance : SteadyGrain FlatMemory where
  read addr len := (FlatMemory.leavesGrain_access _ addr len).bind fun _ s =>
    SameGrain.refl s.state
  write addr bytes := (FlatMemory.leavesGrain_access _ addr bytes.length).bind fun _ =>
    leavesGrain_update fun _ => ⟨rfl, rfl⟩
  clear addr len := (FlatMemory.leavesGrain_access _ addr len).bind fun _ =>
    leavesGrain_update fun _ => ⟨rfl, rfl⟩

/-- All transports ask for the same. -/
instance {ω : Type} [Window ω] : SteadyGrain (Transport ω) where
  read _ _ _ := ⟨rfl, rfl⟩
  write _ _ _ := ⟨rfl, rfl⟩
  clear _ _ _ := ⟨rfl, rfl⟩

end TargetLink
