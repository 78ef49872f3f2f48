import TargetLink.Proofs.ChunkMemory.Recorded
import TargetLink.Proofs.Transfer.Alike

/-!
# Tracing requests

Any chunk memory with a trace of the requests made to it and of what became of each. A traced memory and
a recorded one see the same transfers, and in a trace all requests succeeded but the last one, where the
transfer failed with the error of that request.
-/

namespace TargetLink

/-- A chunk memory with the requests made to it, the oldest first, each with its error if it failed. -/
structure Traced (σ : Type) where
  inner : σ
  calls : List (Request × Option LinkError)

namespace Traced

variable {σ α : Type}

/-- The memory without the trace. -/
def forget (s : Logged (Traced σ)) : Logged σ :=
  ⟨s.state.inner, s.log⟩

/-- The memory with a trace. -/
def attach (s : Logged σ) (calls : List (Request × Option LinkError)) : Logged (Traced σ) :=
  ⟨⟨s.state, calls⟩, s.log⟩

/-- Makes a request and puts it on the trace with its outcome. -/
def trace (request : Request) (x : Action LinkError σ α) : Action LinkError (Traced σ) α := fun s =>
  match x (forget s) with
  | .ok a t => .ok a (attach t (s.state.calls ++ [(request, none)]))
  | .error e t => .error e (attach t (s.state.calls ++ [(request, some e)]))

instance [ChunkMemory σ] : ChunkMemory (Traced σ) where
  chunkAlign m := ChunkMemory.chunkAlign m.inner
  chunkMaxSize m := ChunkMemory.chunkMaxSize m.inner
  readChunk addr len := trace (.read addr len) (ChunkMemory.readChunk addr len)
  writeChunk addr bytes := trace (.write addr bytes.length) (ChunkMemory.writeChunk addr bytes)
  clearChunk addr len := trace (.clear addr len) (ChunkMemory.clearChunk addr len)
  reset := trace .reset ChunkMemory.reset

theorem leavesGrain_trace [ChunkMemory σ] {x : Action LinkError σ α} (h : LeavesGrain x)
    (request : Request) : LeavesGrain (trace request x) := by
  intro s
  have hsame := h (forget s)
  simp only [Action.result, trace] at hsame ⊢
  cases hrun : x (forget s) <;> rw [hrun] at hsame <;> exact ⟨hsame.chunkAlign_eq, hsame.chunkMaxSize_eq⟩

instance [ChunkMemory σ] [SteadyGrain σ] : SteadyGrain (Traced σ) where
  read addr len := leavesGrain_trace (SteadyGrain.read addr len) _
  write addr bytes := leavesGrain_trace (SteadyGrain.write addr bytes) _
  clear addr len := leavesGrain_trace (SteadyGrain.clear addr len) _

/-- The trace of requests that all succeeded. -/
def succeeded (requests : List Request) : List (Request × Option LinkError) :=
  requests.map fun r => (r, none)

variable {before : List Request}

/-- A record and a trace of the same requests, those in `before` and then some, none of which failed. -/
def SameSoFar (before : List Request) (s : Logged (Recorded σ)) (t : Logged (Traced σ)) : Prop :=
  ∃ u requests, s = Recorded.attach u (before ++ requests) ∧
    t = attach u (succeeded (before ++ requests))

/-- A record and a trace of the same requests, those in `before` and then some, of which the last one
failed with the error `e`. -/
def SameUpTo (before : List Request) (e : LinkError) (s : Logged (Recorded σ))
    (t : Logged (Traced σ)) : Prop :=
  ∃ u completed failed, s = Recorded.attach u (before ++ completed ++ [failed]) ∧
    t = attach u (succeeded (before ++ completed) ++ [(failed, some e)])

theorem sameSoFar_attach (u : Logged σ) (before : List Request) :
    SameSoFar before (Recorded.attach u before) (attach u (succeeded before)) :=
  ⟨u, [], by rw [List.append_nil], by rw [List.append_nil]⟩

theorem alike_trace (request : Request) (x : Action LinkError σ α) :
    Alike (SameSoFar before) (SameUpTo before) (Recorded.record request x) (trace request x) := by
  rintro s t ⟨u, requests, rfl, rfl⟩
  have hrecord : Recorded.forget (Recorded.attach u (before ++ requests)) = u := rfl
  have htrace : forget (attach u (succeeded (before ++ requests))) = u := rfl
  simp only [Recorded.record, trace, hrecord, htrace]
  cases hx : x u with
  | ok a u' =>
    refine .inl ⟨a, _, _, rfl, rfl, u', requests ++ [request], ?_, ?_⟩
    · rw [← List.append_assoc]
      rfl
    · simp [attach, succeeded]
  | error e u' => exact .inr ⟨e, _, _, rfl, rfl, u', requests, request, rfl, rfl⟩

/-- A record and a trace see the same requests with the same outcomes. -/
theorem answerAlike [ChunkMemory σ] (before : List Request) :
    AnswerAlike (σ := Recorded σ) (τ := Traced σ) (SameSoFar before) (SameUpTo before) where
  chunkAlign_eq := by
    rintro s t ⟨u, requests, rfl, rfl⟩
    rfl
  chunkMaxSize_eq := by
    rintro s t ⟨u, requests, rfl, rfl⟩
    rfl
  read addr len := alike_trace _ _
  write addr bytes := alike_trace _ _
  clear addr len := alike_trace _ _

end Traced

end TargetLink
