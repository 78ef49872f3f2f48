import TargetLink.Proofs.Transfer.Failure
import TargetLink.Proofs.Transport.Chunk
import TargetLink.Proofs.Transport.Coupled

/-!
# What the unmapped policy decides

Two transports that differ in nothing but the policy for addresses that no region answers for. The policy
that translates such an address to window offset 0 never makes use of that offset: both transports take and
refuse the same requests, and all that the policy decides is the name of the error.
-/

namespace TargetLink

/-- The two errors are one and the same, or no region of the map answers for the address of an access and
the first error says so, while the second one says that the access is out of bounds. -/
inductive RefusedAlike (m : RegionMap) : LinkError → LinkError → Prop where
  | same {e : LinkError} (h : ∀ addr, e ≠ .unmappedAddress addr) : RefusedAlike m e e
  | unclaimed {addr : TargetAddr} (len : Nat) (h : m.find? addr = none) :
    RefusedAlike m (.unmappedAddress addr) (.outOfBounds addr len)

namespace Translator

variable {m : RegionMap} {addr : TargetAddr}

/-- An access to an address that no region answers for is never valid, so it is refused under either
policy before its offset is looked at. -/
theorem resolve_of_unclaimed (h : m.find? addr = none) (len : Nat) :
    resolve ⟨m, .strict⟩ addr len = .error (.unmappedAddress addr) ∧
      resolve ⟨m, .alias⟩ addr len = .error (.outOfBounds addr len) := by
  have hinvalid : (Translator.mk m .alias).validate addr len = false := by
    simp only [validate, h]
  refine ⟨?_, ?_⟩
  · simp only [resolve, h, and_self, if_true]
  · simp only [resolve, hinvalid, reduceCtorEq, and_false, if_false, Bool.false_eq_true]

theorem agree_policies (m : RegionMap) : Agree (RefusedAlike m) ⟨m, .strict⟩ ⟨m, .alias⟩ := by
  intro addr len
  cases hfind : m.find? addr with
  | none =>
    obtain ⟨hstrict, halias⟩ := resolve_of_unclaimed hfind len
    exact .inr ⟨_, _, hstrict, halias, .unclaimed len hfind⟩
  | some region =>
    -- Where a region answers, nothing depends on the policy.
    have hsame : resolve ⟨m, .alias⟩ addr len = resolve ⟨m, .strict⟩ addr len := by
      simp only [resolve, validate, translate, hfind, reduceCtorEq, false_and, if_false]
    rw [hsame]
    cases hres : resolve ⟨m, .strict⟩ addr len with
    | ok o => exact .inl ⟨o, rfl, rfl⟩
    | error e =>
      refine .inr ⟨e, e, rfl, rfl, .same ?_⟩
      rintro addr' rfl
      simp only [resolve, translate, hfind, reduceCtorEq, false_and, if_false] at hres
      split at hres
      · split at hres <;> cases hres
      · cases hres

end Translator

namespace Transport

variable {ω : Type}

/-- Two transports that differ in nothing but the policy. -/
structure Twins (t u : Transport ω) : Prop where
  window_eq : t.window = u.window
  regions_eq : t.regions = u.regions
  resetIssued_eq : t.resetIssued = u.resetIssued
  left_strict : t.translator.policy = .strict
  right_alias : u.translator.policy = .alias

/-- The twins, whatever they have reported. -/
abbrev BesideTwins (m : RegionMap) : Logged (Transport ω) → Logged (Transport ω) → Prop :=
  Beside Eq (fun _ => True) ⟨m, .strict⟩ ⟨m, .alias⟩

theorem Twins.beside {t u : Transport ω} (h : Twins t u) (log log' : Array Event) :
    BesideTwins t.regions ⟨t, log⟩ ⟨u, log'⟩ where
  window := h.window_eq
  left_eq := by
    change t.translator = ⟨t.translator.regions, .strict⟩
    rw [← h.left_strict]
  right_eq := by
    change u.translator = ⟨t.regions, .alias⟩
    rw [h.regions_eq, ← h.right_alias]
    rfl
  resetIssued_eq := h.resetIssued_eq
  left_log := trivial
  right_log := trivial

theorem Beside.twins {m : RegionMap} {s a : Logged (Transport ω)} (h : BesideTwins m s a) :
    Twins s.state a.state where
  window_eq := h.window
  regions_eq := by
    unfold regions
    rw [h.left_eq, h.right_eq]
  resetIssued_eq := h.resetIssued_eq
  left_strict := by rw [h.left_eq]
  right_alias := by rw [h.right_eq]

variable [Window ω]

theorem fullyCoupled_twins (m : RegionMap) :
    FullyCoupled (BesideTwins (ω := ω) m) (RefusedAlike m) := by
  refine fullyCoupled windowCoupled_eq (Translator.agree_policies m) ?_ ?_ ?_
  · intro _ _ e _ _
    exact .same fun _ => nofun
  · intro log event _ _
    trivial
  · exact .same fun _ => nofun

theorem chunk_of_refused {s : Logged (Transport ω)} {job : Job} {e : LinkError}
    (h : s.state.translator.resolve job.addr job.len = .error e) :
    ∃ log, job.chunk s = .error e ⟨s.state, log⟩ := by
  cases job with
  | read addr len => exact readChunk_of_refused h
  | write addr bytes =>
    obtain ⟨log, hrun⟩ : ∃ log, writeChunk addr bytes s = .error e ⟨s.state, log⟩ :=
      writeChunk_of_refused h
    refine ⟨log, ?_⟩
    simp only [Job.chunk, ChunkMemory.writeChunk, Action.bind_apply, hrun]
  | clear addr len =>
    obtain ⟨log, hrun⟩ : ∃ log, clearChunk addr len s = .error e ⟨s.state, log⟩ :=
      clearChunk_of_refused h
    refine ⟨log, ?_⟩
    simp only [Job.chunk, ChunkMemory.clearChunk, Action.bind_apply, hrun]

/-- Two transports that differ in nothing but the policy differ in nothing else after any run of
operations. The next operation gives the same answer on both or fails on both, and so does a read into a
buffer, which leaves the same bytes in it. The errors are the same, except that the strict transport may
report an address that no region answers for where the other one reports the access to that address as out
of bounds. A chunk request for such an address is refused by both, which read nothing and store nothing. -/
theorem policy_hidden {t u : Transport ω} (h : Twins t u) (log log' : Array Event)
    (ops : List Operation) :
    let s := Operation.run ops ⟨t, log⟩
    let a := Operation.run ops ⟨u, log'⟩
    Twins s.state a.state ∧
    (∀ op : Operation,
      (∃ answer s' a', op.perform s = .ok answer s' ∧ op.perform a = .ok answer a' ∧
        Twins s'.state a'.state) ∨
      ∃ e e' s' a', op.perform s = .error e s' ∧ op.perform a = .error e' a' ∧
        SelfTestError.Related (RefusedAlike t.regions) e e' ∧ Twins s'.state a'.state) ∧
    (∀ addr buffer,
      (∃ bytes s' a', Transfer.readInto addr buffer s = .ok bytes s' ∧
        Transfer.readInto addr buffer a = .ok bytes a' ∧ Twins s'.state a'.state) ∨
      ∃ e e' left s' a', Transfer.readInto addr buffer s = .error (e, left) s' ∧
        Transfer.readInto addr buffer a = .error (e', left) a' ∧
        RefusedAlike t.regions e e' ∧ Twins s'.state a'.state) ∧
    ∀ job : Job, t.regions.find? job.addr = none →
      (∃ log, job.chunk s = .error (.unmappedAddress job.addr) ⟨s.state, log⟩) ∧
      ∃ log, job.chunk a = .error (.outOfBounds job.addr job.len) ⟨a.state, log⟩ := by
  intro s a
  have hcoupled := fullyCoupled_twins (ω := ω) t.regions
  have hrun : BesideTwins t.regions s a := hcoupled.run ops (h.beside log log')
  refine ⟨Beside.twins hrun, fun op => ?_, fun addr buffer => ?_, fun job hfind => ?_⟩
  · rcases hcoupled.perform op s a hrun with ⟨answer, s', a', hs, ha, hend⟩ |
      ⟨e, e', s', a', hs, ha, he, hend⟩
    · exact .inl ⟨answer, s', a', hs, ha, Beside.twins hend⟩
    · exact .inr ⟨e, e', s', a', hs, ha, he, Beside.twins hend⟩
  · rcases hcoupled.readInto addr buffer s a hrun with ⟨bytes, s', a', hs, ha, hend⟩ |
      ⟨⟨e, left⟩, ⟨e', left'⟩, s', a', hs, ha, ⟨he, hend⟩, hleft⟩
    · exact .inl ⟨bytes, s', a', hs, ha, Beside.twins hend⟩
    · cases hleft
      exact .inr ⟨e, e', left, s', a', hs, ha, he, Beside.twins hend⟩
  · have hunclaimed := Translator.resolve_of_unclaimed hfind job.len
    rw [← hrun.left_eq, ← hrun.right_eq] at hunclaimed
    exact ⟨chunk_of_refused hunclaimed.1, chunk_of_refused hunclaimed.2⟩

/-- Three bytes are written to DRAM under either policy. Then address 0, for which no region answers and which
one of the policies translates to the place of these bytes, is to be read. -/
theorem policy_hidden_behind_offset_zero : ∃ t u : Transport RecordingWindow,
    ofWindow (.ofSize 0x8000) none .strict = .ok t ∧ ofWindow (.ofSize 0x8000) none .alias = .ok u ∧
    u.translator.translate ⟨0⟩ = .ok .zero ∧
    let s := Operation.run [.transfer (.write ⟨0x80000000⟩ [1, 2, 3])] ⟨t, #[]⟩
    let a := Operation.run [.transfer (.write ⟨0x80000000⟩ [1, 2, 3])] ⟨u, #[]⟩
    s.state.window = a.state.window ∧
    (∃ log, (Job.read ⟨0⟩ 8).chunk s = .error (.unmappedAddress ⟨0⟩) ⟨s.state, log⟩) ∧
    ∃ log, (Job.read ⟨0⟩ 8).chunk a = .error (.outOfBounds ⟨0⟩ 8) ⟨a.state, log⟩ := by
  obtain ⟨t, ht⟩ : ∃ t, ofWindow (RecordingWindow.ofSize 0x8000) none .strict = .ok t := ⟨_, rfl⟩
  obtain ⟨u, hu⟩ : ∃ u, ofWindow (RecordingWindow.ofSize 0x8000) none .alias = .ok u := ⟨_, rfl⟩
  have htwins : Twins t u := by
    cases ht
    cases hu
    exact ⟨rfl, rfl, rfl, rfl, rfl⟩
  obtain ⟨hrun, -, -, hchunk⟩ :=
    policy_hidden htwins #[] #[] [.transfer (.write ⟨0x80000000⟩ [1, 2, 3])]
  have hfind : t.regions.find? ⟨0⟩ = none := by
    rw [RegionMap.find?_eq, if_neg (by decide), if_neg (by decide), if_neg (by decide)]
  refine ⟨t, u, ht, hu, ?_, hrun.window_eq, hchunk (.read ⟨0⟩ 8) hfind⟩
  cases hu
  rfl

end Transport

end TargetLink
