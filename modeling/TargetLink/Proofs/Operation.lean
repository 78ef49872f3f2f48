import TargetLink.Load
import TargetLink.Proofs.ChunkMemory.Traced
import TargetLink.Proofs.Transfer.Requests
import TargetLink.SelfTest.Run

/-!
# Operations on a chunk memory

What a host does with a chunk memory from the first request to the last, and what becomes of each of the
requests. An operation that fails does not end a run: the next one starts from the state that it left. With
two memories that are coupled a run is the same on both, so a relation that each request keeps holds in the
end. The trace of a run is found by coupling the memory with itself under a trace.
-/

namespace TargetLink

/-- The transfer as one chunk request, whatever its address and its length. -/
def Job.chunk {σ : Type} [ChunkMemory σ] : Job → Action LinkError σ (List UInt8)
  | .read addr len => ChunkMemory.readChunk addr len
  | .write addr bytes => do
    ChunkMemory.writeChunk addr bytes
    return []
  | .clear addr len => do
    ChunkMemory.clearChunk addr len
    return []

/-- What a host does with a chunk memory. -/
inductive Operation where
  /-- A single chunk request. -/
  | chunk (job : Job)
  /-- A transfer, which is cut into chunk requests. -/
  | transfer (job : Job)
  /-- A self-test of some ranges. -/
  | selfTest (ranges : List TestRange)
  /-- An image is loaded and started. -/
  | load (addr : TargetAddr) (image : List UInt8)
  /-- The target is started. -/
  | reset

/-- What an operation answers. -/
inductive Answer where
  | bytes (bytes : List UInt8)
  | report (report : SelfTestReport)

namespace Operation

variable {σ : Type} [ChunkMemory σ]

/-- The operation with its answer. One that reads nothing answers with no bytes. -/
def perform : Operation → Action SelfTestError σ Answer
  | .chunk job => do return .bytes (← Action.mapError .transport job.chunk)
  | .transfer job => do return .bytes (← Action.mapError .transport job.perform)
  | .selfTest ranges => do return .report (← SelfTest.run ranges)
  | .load addr image => do
    Action.mapError .transport (loadAndStart addr image)
    return .bytes []
  | .reset => do
    Action.mapError .transport ChunkMemory.reset
    return .bytes []

/-- A memory after some operations, whether they succeeded or not. -/
def run (ops : List Operation) (s : Logged σ) : Logged σ :=
  ops.foldl (fun s op => (op.perform.result s).2) s

/-- The requests that some operations make, in order, each with its error if it fails. -/
def calls (ops : List Operation) (s : Logged σ) : List (Request × Option LinkError) :=
  (run ops (Traced.attach s [])).state.calls

end Operation

/-- The event is about the mapping of a device, which nothing but opening and closing a window reports. -/
def Event.ofMapping : Event → Bool
  | .windowMapped .. | .windowUnmapped _ | .deviceClosed _ => true
  | _ => false

/-! ## Coupled operations -/

section Coupled

variable {ε ε' δ δ' σ τ α : Type} {R : Logged σ → Logged τ → Prop}

/-- The errors are related by `L`, and the states still by `R`. -/
abbrev Through (L : ε → ε' → Prop) (R : σ → τ → Prop) (e : ε) (e' : ε') (s : σ) (t : τ) : Prop :=
  L e e' ∧ R s t

theorem Coupled.mapError {E : ε → ε' → Logged σ → Logged τ → Prop}
    {D : δ → δ' → Logged σ → Logged τ → Prop} {x : Action ε σ α} {y : Action ε' τ α} {f : ε → δ}
    {f' : ε' → δ'} (h : Coupled R E x y)
    (hE : ∀ e e' s t, E e e' s t → D (f e) (f' e') s t) :
    Coupled R D (Action.mapError f x) (Action.mapError f' y) := by
  intro s t hst
  unfold Action.mapError
  rcases h s t hst with ⟨a, s', t', hx, hy, hst'⟩ | ⟨e, e', s', t', hx, hy, hend⟩
  · rw [hx, hy]
    exact .inl ⟨a, s', t', rfl, rfl, hst'⟩
  · rw [hx, hy]
    exact .inr ⟨f e, f' e', s', t', rfl, rfl, hE e e' s' t' hend⟩

theorem Coupled.result {L : ε → ε' → Prop} {x : Action ε σ α} {y : Action ε' τ α}
    (h : Coupled R (Through L R) x y) {s : Logged σ} {t : Logged τ} (hst : R s t) :
    R (x.result s).2 (y.result t).2 := by
  rcases h s t hst with ⟨a, s', t', hx, hy, hst'⟩ | ⟨e, e', s', t', hx, hy, -, hst'⟩
  · rw [Action.result_of_ok hx, Action.result_of_ok hy]
    exact hst'
  · rw [Action.result_of_error hx, Action.result_of_error hy]
    exact hst'

/-- Where errors are the same, so are the results. -/
theorem Coupled.result_eq {x : Action ε σ α} {y : Action ε τ α} (h : Coupled R (Through Eq R) x y)
    {s : Logged σ} {t : Logged τ} (hst : R s t) : (y.result t).1 = (x.result s).1 := by
  rcases h s t hst with ⟨a, s', t', hx, hy, -⟩ | ⟨e, _, s', t', hx, hy, rfl, -⟩
  · rw [Action.result_of_ok hx, Action.result_of_ok hy]
  · rw [Action.result_of_error hx, Action.result_of_error hy]

/-- An action that goes by the state it finds, if what it does then is the same for related states. -/
theorem coupled_current {E : ε → ε' → Logged σ → Logged τ → Prop} {x : σ → Action ε σ α}
    {y : τ → Action ε' τ α} (h : ∀ {s t}, R s t → Coupled R E (x s.state) (y t.state)) :
    Coupled R E (Action.current >>= x) (Action.current >>= y) := by
  intro s t hst
  exact h hst s t hst

/-- Self-tests that failed at the same byte, or at requests with related errors. -/
inductive SelfTestError.Related (L : LinkError → LinkError → Prop) :
    SelfTestError → SelfTestError → Prop where
  | transport {e e' : LinkError} (h : L e e') : Related L (.transport e) (.transport e')
  | mismatch (region : RegionKind) (addr : TargetAddr) (expected found : UInt8) :
    Related L (.mismatch region addr expected found) (.mismatch region addr expected found)

theorem Coupled.transport {L : LinkError → LinkError → Prop} {x : Action LinkError σ α}
    {y : Action LinkError τ α} (h : Coupled R (Through L R) x y) :
    Coupled R (Through (SelfTestError.Related L) R)
      (Action.mapError .transport x) (Action.mapError .transport y) := by
  refine h.mapError ?_
  rintro e e' s t ⟨he, hst⟩
  exact ⟨.transport he, hst⟩

theorem coupled_compare (L : LinkError → LinkError → Prop) (range : TestRange)
    (expected found : List UInt8) : Coupled R (Through (SelfTestError.Related L) R)
      (Action.ofExcept (SelfTest.compare range expected found))
      (Action.ofExcept (SelfTest.compare range expected found)) := by
  intro s t hst
  unfold SelfTest.compare
  split
  · exact .inl ⟨(), s, t, rfl, rfl, hst⟩
  · exact .inr ⟨_, _, s, t, rfl, rfl, .mismatch .., hst⟩

end Coupled

theorem AnswerCoupled.transfer {σ τ : Type} [ChunkMemory σ] [ChunkMemory τ] [SteadyGrain σ]
    [SteadyGrain τ] {R : Logged σ → Logged τ → Prop}
    {E : LinkError → LinkError → Logged σ → Logged τ → Prop} (h : AnswerCoupled R E) (job : Job) :
    Coupled R E job.perform job.perform := by
  cases job with
  | read addr len => exact h.transferRead addr len
  | write addr bytes => exact (h.transferWrite addr bytes).bind fun _ => coupled_pure _
  | clear addr len => exact (h.transferClear addr len).bind fun _ => coupled_pure _

/-- The two chunk memories answer every request alike, except that their errors may differ as `L` says, and
`R` relates their states whatever becomes of a request. -/
structure FullyCoupled {σ τ : Type} [ChunkMemory σ] [ChunkMemory τ] (R : Logged σ → Logged τ → Prop)
    (L : LinkError → LinkError → Prop) : Prop extends AnswerCoupled R (Through L R) where
  reset : Coupled R (Through L R) ChunkMemory.reset ChunkMemory.reset
  /-- Of the log, the relation is at most about the events of mappings. -/
  push : ∀ {s t} {event : Event}, event.ofMapping = false → R s t →
    R { s with log := s.log.push event } { t with log := t.log.push event }

namespace FullyCoupled

variable {ε ε' σ τ α : Type} [ChunkMemory σ] [ChunkMemory τ] {R : Logged σ → Logged τ → Prop}
  {L : LinkError → LinkError → Prop} (h : FullyCoupled R L)

include h

theorem emit {E : ε → ε' → Logged σ → Logged τ → Prop} {event : Event}
    (hevent : event.ofMapping = false) : Coupled R E (Action.emit event) (Action.emit event) := by
  intro s t hst
  exact .inl ⟨(), _, _, rfl, rfl, h.push hevent hst⟩

theorem emitAll {E : ε → ε' → Logged σ → Logged τ → Prop} {events : List Event}
    (hevents : ∀ event ∈ events, event.ofMapping = false) :
    Coupled R E (Action.emitAll events) (Action.emitAll events) := by
  intro s t hst
  refine .inl ⟨(), _, _, rfl, rfl, ?_⟩
  induction events generalizing s t with
  | nil => simpa using hst
  | cons event events ih =>
    rw [List.forall_mem_cons] at hevents
    have hrest := ih hevents.2 _ _ (h.push hevents.1 hst)
    simpa using hrest

theorem chunk (job : Job) : Coupled R (Through L R) job.chunk job.chunk := by
  cases job with
  | read addr len => exact h.read addr len
  | write addr bytes => exact (h.write addr bytes).bind fun _ => coupled_pure _
  | clear addr len => exact (h.clear addr len).bind fun _ => coupled_pure _

variable [SteadyGrain σ] [SteadyGrain τ]

theorem check (range : TestRange) : Coupled R (Through (SelfTestError.Related L) R)
    (SelfTest.check range) (SelfTest.check range) := by
  unfold SelfTest.check
  refine (h.emit rfl).bind fun _ => ?_
  refine (h.transferWrite _ _).transport.bind fun _ => ?_
  refine (h.transferRead _ _).transport.bind fun found => ?_
  refine (coupled_compare L range _ found).bind fun _ => ?_
  refine (h.emit rfl).bind fun _ => ?_
  refine (h.transferClear _ _).transport.bind fun _ => ?_
  refine (h.transferRead _ _).transport.bind fun found => ?_
  exact coupled_compare L range _ found

theorem selfTest (ranges : List TestRange) : Coupled R (Through (SelfTestError.Related L) R)
    (SelfTest.run ranges) (SelfTest.run ranges) := by
  induction ranges with
  | nil => exact coupled_pure _
  | cons range ranges ih =>
    refine (h.check range).bind fun _ => ?_
    refine (h.emit rfl).bind fun _ => ?_
    refine ih.bind fun report => ?_
    exact coupled_pure _

theorem load (addr : TargetAddr) (image : List UInt8) :
    Coupled R (Through L R) (loadAndStart addr image) (loadAndStart addr image) := by
  refine (h.emit rfl).bind fun _ => ?_
  refine (h.transferWrite addr image).bind fun _ => ?_
  exact h.reset

/-- The two memories answer every operation alike, up to the errors. -/
theorem perform (op : Operation) :
    Coupled R (Through (SelfTestError.Related L) R) op.perform op.perform := by
  cases op with
  | chunk job => exact (h.chunk job).transport.bind fun _ => coupled_pure _
  | transfer job => exact (h.transfer job).transport.bind fun _ => coupled_pure _
  | selfTest ranges => exact (h.selfTest ranges).bind fun _ => coupled_pure _
  | load addr image => exact (h.load addr image).transport.bind fun _ => coupled_pure _
  | reset => exact h.reset.transport.bind fun _ => coupled_pure _

/-- What every request keeps is kept by a run. -/
theorem run (ops : List Operation) {s : Logged σ} {t : Logged τ} (hst : R s t) :
    R (Operation.run ops s) (Operation.run ops t) := by
  induction ops generalizing s t with
  | nil => exact hst
  | cons op ops ih => exact ih ((h.perform op).result hst)

end FullyCoupled

/-! ## Runs under a trace -/

namespace Traced

variable {σ α : Type} {I : Traced σ → Prop}

/-- The state with the request on its trace has the property again, whatever became of the request. -/
def Keeps (I : Traced σ → Prop) (request : Request) (x : Action LinkError σ α) : Prop :=
  ∀ (s : Logged σ) (calls : List (Request × Option LinkError)), I ⟨s.state, calls⟩ →
    match x s with
    | .ok _ s' => I ⟨s'.state, calls ++ [(request, none)]⟩
    | .error e s' => I ⟨s'.state, calls ++ [(request, some e)]⟩

/-- The memory under the trace is the given one, and has the property. -/
def Watches (I : Traced σ → Prop) (s : Logged σ) (t : Logged (Traced σ)) : Prop :=
  forget t = s ∧ I t.state

theorem coupled_trace {request : Request} {x : Action LinkError σ α} (h : Keeps I request x) :
    Coupled (Watches I) (Through Eq (Watches I)) x (trace request x) := by
  rintro _ t ⟨rfl, hI⟩
  have hkept := h (forget t) t.state.calls hI
  cases hx : x (forget t) with
  | ok a s' =>
    rw [hx] at hkept
    exact .inl ⟨a, s', attach s' (t.state.calls ++ [(request, none)]), rfl, by simp only [trace, hx],
      rfl, hkept⟩
  | error e s' =>
    rw [hx] at hkept
    exact .inr ⟨e, e, s', attach s' (t.state.calls ++ [(request, some e)]), rfl,
      by simp only [trace, hx], rfl, rfl, hkept⟩

/-- A property that every request keeps, with its outcome on the trace, holds after every run. -/
theorem run_keeps [ChunkMemory σ] [SteadyGrain σ] (hread : ∀ addr len, Keeps I (.read addr len)
      (ChunkMemory.readChunk (σ := σ) addr len))
    (hwrite : ∀ addr bytes, Keeps I (.write addr bytes.length)
      (ChunkMemory.writeChunk (σ := σ) addr bytes))
    (hclear : ∀ addr len, Keeps I (.clear addr len) (ChunkMemory.clearChunk (σ := σ) addr len))
    (hreset : Keeps I .reset (ChunkMemory.reset (σ := σ))) {s : Logged σ} (hstart : I ⟨s.state, []⟩)
    (ops : List Operation) : I ⟨(Operation.run ops s).state, Operation.calls ops s⟩ := by
  have hcoupled : FullyCoupled (Watches I) Eq := {
    chunkAlign_eq := by
      rintro _ t ⟨rfl, -⟩
      rfl
    chunkMaxSize_eq := by
      rintro _ t ⟨rfl, -⟩
      rfl
    read := fun addr len => coupled_trace (hread addr len)
    write := fun addr bytes => coupled_trace (hwrite addr bytes)
    clear := fun addr len => coupled_trace (hclear addr len)
    reset := coupled_trace hreset
    push := by
      rintro _ t event - ⟨rfl, hI⟩
      exact ⟨rfl, hI⟩ }
  have hwatches : Watches I s (attach s []) := ⟨rfl, hstart⟩
  obtain ⟨hforget, hI⟩ := hcoupled.run ops hwatches
  rw [← hforget]
  exact hI

end Traced

end TargetLink
