import TargetLink.ChunkMemory.Flat
import TargetLink.Proofs.ChunkMemory.Steady

/-!
# Recording requests

Any chunk memory with a record of the requests made to it. An action may plan its requests: with the
record it does the same as without, and the record grows by the plan, or by its beginning if a request
fails.
-/

namespace TargetLink

/-- A read returns as many bytes as it was asked for. -/
def ReadsInFull (σ : Type) [ChunkMemory σ] : Prop :=
  ∀ (addr : TargetAddr) (len : Nat) (s t : Logged σ) (bytes : List UInt8),
    ChunkMemory.readChunk addr len s = .ok bytes t → bytes.length = len

theorem StuckBytes.length_overlay (stuck : StuckBytes) (start : Nat) (bytes : List UInt8) :
    (stuck.overlay start bytes).length = bytes.length := by
  induction stuck generalizing bytes with
  | nil => rfl
  | cons entry stuck ih =>
    refine (ih _).trans ?_
    dsimp only
    split
    · exact List.length_set
    · rfl

theorem FlatMemory.readsInFull : ReadsInFull FlatMemory := by
  intro addr len s t bytes hread
  simp only [ChunkMemory.readChunk, readChunk, Action.bind_apply] at hread
  split at hread
  · cases hread
    rw [StuckBytes.length_overlay, Memory.length_read]
  · cases hread

/-- A chunk memory with the requests made to it, the oldest first. -/
structure Recorded (σ : Type) where
  inner : σ
  requests : List Request

namespace Recorded

variable {σ α β : Type}

/-- The memory without the record. -/
def forget (s : Logged (Recorded σ)) : Logged σ :=
  ⟨s.state.inner, s.log⟩

/-- The memory with a record. -/
def attach (s : Logged σ) (requests : List Request) : Logged (Recorded σ) :=
  ⟨⟨s.state, requests⟩, s.log⟩

/-- Makes a request and puts it on record, whether it succeeds or not. -/
def record (request : Request) (x : Action LinkError σ α) :
    Action LinkError (Recorded σ) α := fun s =>
  match x (forget s) with
  | .ok a t => .ok a (attach t (s.state.requests ++ [request]))
  | .error e t => .error e (attach t (s.state.requests ++ [request]))

instance [ChunkMemory σ] : ChunkMemory (Recorded σ) where
  chunkAlign m := ChunkMemory.chunkAlign m.inner
  chunkMaxSize m := ChunkMemory.chunkMaxSize m.inner
  readChunk addr len := record (.read addr len) (ChunkMemory.readChunk addr len)
  writeChunk addr bytes := record (.write addr bytes.length) (ChunkMemory.writeChunk addr bytes)
  clearChunk addr len := record (.clear addr len) (ChunkMemory.clearChunk addr len)
  reset := record .reset ChunkMemory.reset

theorem leavesGrain_record [ChunkMemory σ] {x : Action LinkError σ α} (h : LeavesGrain x)
    (request : Request) : LeavesGrain (record request x) := by
  intro s
  have hsame := h (forget s)
  simp only [Action.result, record] at hsame ⊢
  cases hrun : x (forget s) <;> rw [hrun] at hsame <;> exact ⟨hsame.chunkAlign_eq, hsame.chunkMaxSize_eq⟩

instance [ChunkMemory σ] [SteadyGrain σ] : SteadyGrain (Recorded σ) where
  read addr len := leavesGrain_record (SteadyGrain.read addr len) _
  write addr bytes := leavesGrain_record (SteadyGrain.write addr bytes) _
  clear addr len := leavesGrain_record (SteadyGrain.clear addr len) _

/-- From `s`, the action `x` does on a recorded memory what `y` does on the memory alone, and puts
`plan` on record, or a part from its beginning if it fails. -/
def Follows (x : Action LinkError (Recorded σ) α) (y : Action LinkError σ α) (plan : List Request)
    (s : Logged (Recorded σ)) : Prop :=
  (∃ a t, y (forget s) = .ok a t ∧ x s = .ok a (attach t (s.state.requests ++ plan))) ∨
  ∃ e t issued, issued <+: plan ∧ y (forget s) = .error e t ∧
    x s = .error e (attach t (s.state.requests ++ issued))

variable {s : Logged (Recorded σ)} {x : Action LinkError (Recorded σ) α} {y : Action LinkError σ α}
  {f : α → Action LinkError (Recorded σ) β} {k : α → Action LinkError σ β}
  {plan rest : List Request}

theorem follows_pure (a : α) (s : Logged (Recorded σ)) : Follows (pure a) (pure a) [] s :=
  .inl ⟨a, forget s, rfl, by rw [List.append_nil]; rfl⟩

theorem follows_record (request : Request) (y : Action LinkError σ α) (s : Logged (Recorded σ)) :
    Follows (record request y) y [request] s := by
  cases hy : y (forget s) with
  | ok a t => exact .inl ⟨a, t, hy, by rw [record, hy]⟩
  | error e t => exact .inr ⟨e, t, [request], List.prefix_rfl, hy, by rw [record, hy]⟩

theorem Follows.congr {x' : Action LinkError (Recorded σ) α} {y' : Action LinkError σ α}
    (h : Follows x' y' plan s) (hx : x s = x' s) (hy : y (forget s) = y' (forget s)) :
    Follows x y plan s := by
  unfold Follows
  rw [hx, hy]
  exact h

/-- One plan is followed after the other. -/
theorem Follows.bind (h : Follows x y plan s)
    (hf : ∀ a t, y (forget s) = .ok a t →
      Follows (f a) (k a) rest (attach t (s.state.requests ++ plan))) :
    Follows (x >>= f) (y >>= k) (plan ++ rest) s := by
  rcases h with ⟨a, t, hy, hx⟩ | ⟨e, t, issued, hissued, hy, hx⟩
  · rcases hf a t hy with ⟨b, u, hk, hfa⟩ | ⟨e, u, issued, hissued, hk, hfa⟩
    · refine .inl ⟨b, u, ?_, ?_⟩
      · rw [Action.bind_apply, hy]
        exact hk
      · rw [Action.bind_apply, hx, ← List.append_assoc]
        exact hfa
    · refine .inr ⟨e, u, plan ++ issued, List.prefix_append_right_inj _ |>.2 hissued, ?_, ?_⟩
      · rw [Action.bind_apply, hy]
        exact hk
      · rw [Action.bind_apply, hx, ← List.append_assoc]
        exact hfa
  · refine .inr ⟨e, t, issued, hissued.trans (List.prefix_append _ _), ?_, ?_⟩
    · rw [Action.bind_apply, hy]
    · rw [Action.bind_apply, hx]

end Recorded

end TargetLink
