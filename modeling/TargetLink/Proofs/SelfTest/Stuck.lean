import TargetLink.Proofs.ChunkMemory.Flat
import TargetLink.Proofs.ChunkMemory.Traced
import TargetLink.Proofs.SelfTest.Check
import TargetLink.Proofs.Transfer.Around
import TargetLink.Proofs.Transfer.Requests

/-!
# Self-tests of memories with stuck bytes

A self-test fails at the first stuck byte that shows, in the first range that has one, and asks for nothing
behind the chunks of that range. What it cannot see is a byte that is stuck at zero where the pattern is zero.
-/

namespace TargetLink

/-- The request is for bytes in the chunks, `align` bytes long, that the range touches. -/
def Request.InHull (align : Nat) (range : TestRange) (r : Request) : Prop :=
  ∃ addr len, r.range? = some (addr, len) ∧ 0 < range.len ∧
    alignDown align range.addr.toNat ≤ addr.toNat ∧
    addr.toNat + len ≤ alignUp align (range.addr.toNat + range.len)

/-! ## Under a trace -/

namespace View

variable {σ α : Type} {v : View σ} {stuck : StuckAt} {serves : Nat → Nat → Prop}
  {P : Request → Prop}

/-- The view of a memory under a trace on which all requests have the property `P`. -/
def traced (v : View σ) (P : Request → Prop) : View (Traced σ) where
  align := v.align
  sound m := v.sound m.inner ∧ ∀ call ∈ m.calls, P call.1
  contents m := v.contents m.inner

theorem traced_returns {request : Request} {x : Action LinkError σ α} {s : Logged (Traced σ)} {a : α}
    {c : Contents} (hx : v.Returns x (Traced.forget s) a c) (hrequest : P request)
    (hcalls : ∀ call ∈ s.state.calls, P call.1) :
    (v.traced P).Returns (Traced.trace request x) s a c := by
  obtain ⟨t, hrun, hsound, hcontents⟩ := hx
  refine ⟨Traced.attach t (s.state.calls ++ [(request, none)]), ?_, ⟨hsound, ?_⟩, hcontents⟩
  · simp only [Traced.trace, hrun]
  · exact List.forall_mem_append.2 ⟨hcalls, List.forall_mem_singleton.2 hrequest⟩

/-- A memory is the same under a trace, as long as it is asked only for what the trace may show. -/
theorem FaithfulBut.traced [ChunkMemory σ] (h : v.FaithfulBut stuck serves)
    {inside : Nat → Nat → Prop} (hserves : ∀ {a n}, inside a n → serves a n)
    (hP : ∀ {r : Request} {addr len}, r.range? = some (addr, len) → inside addr.toNat len → P r) :
    (v.traced P).FaithfulBut stuck inside where
  chunkAlign_eq hsound := h.chunkAlign_eq hsound.1
  shown_eq hsound := h.shown_eq hsound.1
  read hsound hlen hin :=
    traced_returns (h.read hsound.1 hlen (hserves hin)) (hP rfl hin) hsound.2
  write hsound hlen hin :=
    traced_returns (h.write hsound.1 hlen (hserves hin)) (hP rfl hin) hsound.2
  clear hsound hlen hin :=
    traced_returns (h.clear hsound.1 hlen (hserves hin)) (hP rfl hin) hsound.2

variable [ChunkMemory σ] {base : TargetAddr} {size : Nat} {range : TestRange}

/-- A range whose hull lies in the memory is offered under a trace that shows requests for the hull. -/
theorem offers_traced (hend : base.toNat + size ≤ UInt64.size)
    (h : v.FaithfulBut stuck (Within base.toNat size))
    (hhull : 0 < range.len → v.HullServed (Within base.toNat size) range.addr range.len)
    (hP : ∀ r : Request, r.InHull (max v.align 1) range → P r) :
    (v.traced P).Offers stuck range := by
  rcases Nat.eq_zero_or_pos range.len with hzero | hpos
  · -- Nothing is asked for, so it does not matter what is served.
    refine ⟨fun _ _ => False, ⟨?_, ?_⟩, h.traced False.elim fun _ => False.elim, ?_⟩
    · intro a n k _ _
      simp
    · intro a n hno
      cases hno
    · intro hlen
      omega
  · have hin := hhull hpos
    unfold HullServed at hin
    have hlo := hin.1
    have hhi := hin.2
    refine ⟨Within (alignDown (max v.align 1) range.addr.toNat) (alignUp (max v.align 1)
      (range.addr.toNat + range.len) - alignDown (max v.align 1) range.addr.toNat),
      serving_within ?_, h.traced ?_ ?_, fun _ => ⟨Nat.le_refl _, Nat.le_refl _⟩⟩
    · exact Nat.le_trans hhi hend
    · rintro a n ⟨hle, hend'⟩
      exact ⟨Nat.le_trans hlo hle, Nat.le_trans hend' hhi⟩
    · rintro r addr len hrange ⟨hle, hend'⟩
      refine hP r ⟨addr, len, hrange, hpos, hle, Nat.le_trans hend' ?_⟩
      have hdown := alignDown_le (max v.align 1) range.addr.toNat
      have hup := le_alignUp (show 0 < max v.align 1 by omega) (range.addr.toNat + range.len)
      omega

end View

namespace SelfTest

variable {σ : Type} [ChunkMemory σ] {v : View σ} {stuck : StuckAt} {base : TargetAddr} {size : Nat}
  {s t : Logged σ} {range : TestRange} {ranges : List TestRange}

/-- What comes behind the range at which a test failed does not matter. -/
theorem run_append_of_error {e : SelfTestError} (back : List TestRange) (h : run ranges s = .error e t) :
    run (ranges ++ back) s = .error e t := by
  induction ranges generalizing s with
  | nil => cases h
  | cons range ranges ih =>
    rw [List.cons_append]
    rcases Action.bind_eq_error h with hcheck | ⟨_, s₁, hcheck, hrest⟩
    · rw [run, Action.bind_apply, hcheck]
    rcases Action.bind_eq_error hrest with hemit | ⟨_, s₂, hemit, hrest⟩
    · cases hemit
    rcases Action.bind_eq_error hrest with hrun | ⟨report, s₃, hrun, hpure⟩
    · simp only [run, Action.bind_apply, hcheck, hemit, ih hrun]
    · cases hpure

/-- The requests of a self-test of offered ranges have the property. -/
theorem calls_of_concludes {P : Request → Prop} {c : Contents} {r : Except SelfTestError SelfTestReport}
    (h : (v.traced P).Concludes (run ranges) (Traced.attach s []) c r) :
    ∀ call ∈ ((run ranges).result (Traced.attach s [])).2.state.calls, P call.1 := by
  cases h with
  | ok hrun hsound _ =>
    rw [Action.result_of_ok hrun]
    exact hsound.2
  | error hrun hsound =>
    rw [Action.result_of_error hrun]
    exact hsound.2

section Interval

variable [SteadyGrain σ] (hend : base.toNat + size ≤ UInt64.size)
  (h : v.FaithfulBut stuck (Within base.toNat size)) (hsound : v.sound s.state)

include hend h hsound

/-- Under a trace the self-test ends as the stuck bytes have it, with requests for the hulls on the trace and
no others. -/
theorem traced_concludes
    (hhulls : ∀ range ∈ ranges, 0 < range.len →
      v.HullServed (Within base.toNat size) range.addr range.len) :
    (v.traced fun r => ∃ range ∈ ranges, r.InHull (max v.align 1) range).Concludes (run ranges)
      (Traced.attach s [])
      (ranges.foldl (fun c range => (cleared c range).shown stuck) (v.contents s.state))
      (verdicts stuck ranges) := by
  refine run_concludes (s := Traced.attach s []) ?_ ⟨hsound, List.forall_mem_nil _⟩
  intro range hrange
  exact View.offers_traced hend h (hhulls range hrange) fun r hr => ⟨range, hrange, hr⟩

theorem run_concludes_within
    (hhulls : ∀ range ∈ ranges, 0 < range.len →
      v.HullServed (Within base.toNat size) range.addr range.len) :
    v.Concludes (run ranges) s
      (ranges.foldl (fun c range => (cleared c range).shown stuck) (v.contents s.state))
      (verdicts stuck ranges) := by
  exact run_concludes (fun range hrange => ⟨_, serving_within hend, h, hhulls range hrange⟩) hsound

end Interval

/-- A self-test of ranges whose chunks lie in a memory that is faithful but for its stuck bytes. It passes
and reports its ranges if every byte that is stuck in one of them is stuck both at the byte of the pattern and
at zero. Otherwise it ends in the first range with another stuck byte, with the address of the first byte of
the pattern that is wrong, or if there is none of the first byte that is not zero once it was cleared; the
bytes reported are the one that was expected and the one that is stuck. Up to there it asks only for the
chunks of the ranges tested. -/
theorem run_of_stuck {σ : Type} [ChunkMemory σ] [SteadyGrain σ] {v : View σ} {stuck : StuckAt}
    {base : TargetAddr} {size : Nat} (hend : base.toNat + size ≤ UInt64.size)
    (h : v.FaithfulBut stuck (Within base.toNat size)) {s : Logged σ} (hsound : v.sound s.state)
    {ranges : List TestRange} (hhulls : ∀ range ∈ ranges, 0 < range.len →
      v.HullServed (Within base.toNat size) range.addr range.len) :
    let calls := ((run ranges).result (Traced.attach s [])).2.state.calls
    ((∃ report t, run ranges s = .ok report t) ↔ ∀ range ∈ ranges, range.Harmless stuck) ∧
    (((∃ t, run ranges s = .ok ⟨ranges⟩ t) ∧
      ∀ call ∈ calls, ∃ range ∈ ranges, call.1.InHull (max v.align 1) range) ∨
    ∃ front range back i expected found t, ranges = front ++ range :: back ∧
      (∀ r ∈ front, r.Harmless stuck) ∧ range.FirstFault stuck i expected found ∧
      run ranges s = .error (.mismatch range.region (range.addr + i) expected found) t ∧
      ∀ call ∈ calls, ∃ r ∈ front ++ [range], call.1.InHull (max v.align 1) r) := by
  intro calls
  have hplain := run_concludes_within hend h hsound hhulls
  rcases verdicts_cases stuck ranges with
    ⟨hall, hok⟩ | ⟨front, range, back, i, expected, found, rfl, hfront, hfault, herr⟩
  · rw [hok] at hplain
    cases hplain with
    | ok hrun _ _ =>
      refine ⟨⟨fun _ => hall, fun _ => ⟨_, _, hrun⟩⟩, .inl ⟨⟨_, hrun⟩, ?_⟩⟩
      exact calls_of_concludes (traced_concludes hend h hsound hhulls)
  · rw [herr back] at hplain
    cases hplain with
    | error hrun _ =>
      refine ⟨⟨?_, ?_⟩, .inr ⟨front, range, back, i, expected, found, _, rfl, hfront, hfault, hrun, ?_⟩⟩
      · rintro ⟨report, t, hno⟩
        rw [hrun] at hno
        cases hno
      · intro hall
        exact absurd (hall range (by simp)) hfault.not_harmless
      · -- The test of the ranges up to the faulty one makes the same requests.
        have hsplit : front ++ range :: back = front ++ [range] ++ back := by simp
        have hhulls' : ∀ r ∈ front ++ [range], 0 < r.len →
            v.HullServed (Within base.toNat size) r.addr r.len := fun r hr =>
          hhulls r (by rw [hsplit]; exact List.mem_append_left _ hr)
        have hupTo := traced_concludes hend h hsound hhulls'
        have hcalls := calls_of_concludes hupTo
        rw [herr []] at hupTo
        cases hupTo with
        | error hrun' _ =>
          have hwhole := run_append_of_error back hrun'
          rw [← hsplit] at hwhole
          rw [Action.result_of_error hrun'] at hcalls
          simp only [calls, Action.result_of_error hwhole]
          exact hcalls

/-- Three bytes of a memory are stuck. The first one is a neighbour of the first range, in a chunk that the
range shares, and is written back with it; the other two are in the second range, where the test fails. -/
theorem run_of_stuck_neighbour :
    let m : FlatMemory :=
      ⟨⟨0x1000⟩, 64, 8, 16, .empty, none, [(12, 5), (20, 0xff), (35, 7)], #[], 0, false⟩
    let ranges : List TestRange := [⟨.dram, ⟨0x1001⟩, 10, 0x11⟩, ⟨.dram, ⟨0x1010⟩, 20, 5⟩]
    (¬ ∃ report t, run ranges (.start m) = .ok report t) ∧
    ∃ front range back i expected found t, ranges = front ++ range :: back ∧
      range.FirstFault (FlatMemory.stuckAt ⟨0x1000⟩ m.stuck) i expected found ∧
      run ranges (.start m) = .error (.mismatch range.region (range.addr + i) expected found) t := by
  intro m ranges
  have hend : (TargetAddr.mk 0x1000).toNat + 64 ≤ UInt64.size := by decide
  have hhulls : ∀ range ∈ ranges, 0 < range.len →
      (FlatMemory.stuckView ⟨0x1000⟩ 64 8 m.stuck).HullServed
        (Within (TargetAddr.mk 0x1000).toNat 64) range.addr range.len := by
    intro range hrange _
    simp only [ranges, List.mem_cons, List.not_mem_nil, or_false] at hrange
    rcases hrange with rfl | rfl
    · exact ⟨by decide, by decide⟩
    · exact ⟨by decide, by decide⟩
  obtain ⟨hpasses, hcases⟩ := run_of_stuck hend
    (FlatMemory.faithfulBut_stuckView ⟨0x1000⟩ 64 8 m.stuck hend) (s := .start m)
    ⟨rfl, rfl, rfl, rfl, rfl⟩ hhulls
  have hno : ¬ ∃ report t, run ranges (.start m) = .ok report t := by
    intro hok
    have hharmless := hpasses.1 hok ⟨.dram, ⟨0x1010⟩, 20, 5⟩ (by simp [ranges]) 4 (by decide) 0xff rfl
    exact absurd hharmless.2 (by decide)
  refine ⟨hno, ?_⟩
  rcases hcases with ⟨⟨t, hok⟩, -⟩ | ⟨front, range, back, i, expected, found, t, hsplit, -, hfault, hrun, -⟩
  · exact absurd ⟨_, t, hok⟩ hno
  · exact ⟨front, range, back, i, expected, found, t, hsplit, hfault, hrun⟩

end SelfTest

/-! ## One stuck byte -/

theorem StuckAt.eq_of_only {a b : Nat} {v w : UInt8} (h : only a v b = some w) : b = a ∧ w = v := by
  unfold only at h
  split at h
  · next heq => exact ⟨heq, (Option.some.inj h).symm⟩
  · cases h

theorem FlatMemory.stuckAt_singleton (base : TargetAddr) (i : Nat) (v : UInt8) :
    stuckAt base [(i, v)] = StuckAt.only (base.toNat + i) v := by
  funext a
  unfold stuckAt StuckAt.only
  rw [StuckBytes.value?, StuckBytes.value?, Option.none_or]
  by_cases ha : base.toNat ≤ a
  · rw [if_pos ha]
    by_cases hi : i = a - base.toNat
    · rw [if_pos hi, if_pos (by omega)]
    · rw [if_neg hi, if_neg (by omega)]
  · rw [if_neg ha, if_neg (by omega)]

namespace TestRange

open SelfTest

variable {range : TestRange} {want : Nat → UInt8} {i k n : Nat} {v expected found : UInt8}

theorem FirstWrong.of_only
    (h : range.FirstWrong (StuckAt.only (range.addr.toNat + k) v) want i found) :
    i = k ∧ found = v ∧ v ≠ want k := by
  obtain ⟨hi, rfl⟩ := StuckAt.eq_of_only h.stuck_eq
  obtain rfl := Nat.add_left_cancel hi
  exact ⟨rfl, rfl, h.ne⟩

theorem RightUpTo.of_only
    (h : range.RightUpTo (StuckAt.only (range.addr.toNat + k) v) want n) (hk : k < n) : v = want k :=
  h k hk v (if_pos rfl)

theorem FirstFault.of_only (hk : k < range.len)
    (h : range.FirstFault (StuckAt.only (range.addr.toNat + k) v) i expected found) :
    i = k ∧ found = v ∧
      expected = (if v = patternByte range.seed k then 0 else patternByte range.seed k) := by
  cases h with
  | pattern first =>
    obtain ⟨rfl, rfl, hne⟩ := first.of_only
    rw [if_neg hne]
    exact ⟨rfl, rfl, rfl⟩
  | zeros right first =>
    obtain ⟨rfl, rfl, -⟩ := first.of_only
    rw [if_pos (right.of_only hk)]
    exact ⟨rfl, rfl, rfl⟩

theorem harmless_only_iff (hk : k < range.len) :
    range.Harmless (StuckAt.only (range.addr.toNat + k) v) ↔ v = 0 ∧ patternByte range.seed k = 0 := by
  constructor
  · intro h
    obtain ⟨hpattern, hzero⟩ := h k hk v (if_pos rfl)
    exact ⟨hzero, by rw [← hpattern, hzero]⟩
  · rintro ⟨rfl, hpattern⟩ i _ w hw
    obtain ⟨hi, rfl⟩ := StuckAt.eq_of_only hw
    obtain rfl := Nat.add_left_cancel hi
    exact ⟨hpattern.symm, rfl⟩

end TestRange

namespace SelfTest

/-- A range whose chunks do not lie in the memory is not tested. In a memory of all addresses a range that runs
past the last one might go on at zero. -/
theorem run_of_hull_outside {σ : Type} [ChunkMemory σ] [SteadyGrain σ] {v : View σ} {stuck : StuckAt}
    {base size : Nat} {s : Logged σ} {range : TestRange} {ranges : List TestRange}
    (hend : base + size ≤ UInt64.size) (h : v.FaithfulBut stuck (Within base size))
    (hout : v.RefusesOutside (Within base size)) (hsound : v.sound s.state) (hlen : 0 < range.len)
    (hlast : size < UInt64.size ∨ range.addr.toNat + range.len ≤ UInt64.size)
    (hhull : ¬ v.HullServed (Within base size) range.addr range.len) :
    ∃ e t, run (range :: ranges) s = .error (.transport e) t := by
  have halign := h.chunkAlign_eq hsound
  have hpieces : ¬ ∀ p ∈ (Grain.ofMemory s.state).pieces range.addr range.len,
      Within base size p.start.toNat (p.extent (Grain.ofMemory s.state)) := by
    rcases hlast with hsize | hle
    · rwa [← View.hullServed_iff_pieces halign (endsApart_within hend hsize) hlen]
    · rw [← View.inReach_iff_pieces hend halign hlen (by omega)]
      exact not_or.2 ⟨hhull, fun hround => Nat.not_lt.2 hle hround.2.1⟩
  rw [← length_pattern range.seed range.len] at hpieces
  obtain ⟨e, t, hwrite, -⟩ := hout.transferWrite
    (s := { s with log := s.log.push (.patternWriting range.addr) }) h hsound hpieces
  refine ⟨e, t, ?_⟩
  simp only [run, check, Action.bind_apply, Action.emit_apply, Action.mapError, hwrite]

/-- The self-test of a range of a memory that is faithful but for one stuck byte in the range. If the chunks of
the range lie in the memory, the test fails at that byte and reports the value it is stuck at, unless this is
zero and the pattern is zero there, too: such a byte always reads as it should, and the test passes. If they do
not, the test ends with the error of the memory, unless that has all addresses and the range runs past the last
one: then the range might go on at zero. -/
theorem run_of_one_stuck {σ : Type} [ChunkMemory σ] [SteadyGrain σ] {v : View σ} {base : TargetAddr}
    {size : Nat} (hend : base.toNat + size ≤ UInt64.size) {range : TestRange} {i : Nat} {x : UInt8}
    (hi : i < range.len) (h : v.FaithfulBut (StuckAt.only (range.addr.toNat + i) x)
      (Within base.toNat size))
    (hout : v.RefusesOutside (Within base.toNat size)) {s : Logged σ} (hsound : v.sound s.state) :
    let expected := if x = patternByte range.seed i then 0 else patternByte range.seed i
    (v.HullServed (Within base.toNat size) range.addr range.len →
      (¬ (x = 0 ∧ patternByte range.seed i = 0) →
        ∃ t, run [range] s = .error (.mismatch range.region (range.addr + i) expected x) t) ∧
      (x = 0 ∧ patternByte range.seed i = 0 → ∃ t, run [range] s = .ok ⟨[range]⟩ t)) ∧
    (¬ v.HullServed (Within base.toNat size) range.addr range.len →
      size < UInt64.size ∨ range.addr.toNat + range.len ≤ UInt64.size →
        ∃ e t, run [range] s = .error (.transport e) t) := by
  intro expected
  refine ⟨fun hhull => ?_, fun hhull hlast =>
    run_of_hull_outside hend h hout hsound (by omega) hlast hhull⟩
  have hhulls : ∀ r ∈ [range], 0 < r.len →
      v.HullServed (Within base.toNat size) r.addr r.len :=
    List.forall_mem_singleton.2 fun _ => hhull
  have hruns := run_concludes_within hend h hsound hhulls
  rcases verdicts_cases (StuckAt.only (range.addr.toNat + i) x) [range] with
    ⟨hall, hok⟩ | ⟨front, r, back, k, e, found, hsplit, -, hfault, herr⟩
  · have hzero := (TestRange.harmless_only_iff hi).1 (hall range (List.mem_singleton_self _))
    rw [hok] at hruns
    cases hruns with
    | ok hrun _ _ => exact ⟨fun hno => absurd hzero hno, fun _ => ⟨_, hrun⟩⟩
  · obtain rfl : r = range := by
      have hr : r ∈ [range] := by rw [hsplit]; simp
      exact List.mem_singleton.1 hr
    have hshows := mt (TestRange.harmless_only_iff hi).2 hfault.not_harmless
    obtain ⟨rfl, rfl, rfl⟩ := hfault.of_only hi
    rw [hsplit, herr back, ← hsplit] at hruns
    cases hruns with
    | error hrun _ => exact ⟨fun _ => ⟨_, hrun⟩, fun hno => absurd hno hshows⟩

/-- A byte is stuck at the byte of the pattern, so that it is only found once the range is cleared. -/
theorem run_of_one_stuck_at_pattern :
    let m : FlatMemory := ⟨⟨0x1000⟩, 64, 8, 16, .empty, none, [(50, 0x1f)], #[], 0, false⟩
    ∃ t, run [⟨.dram, ⟨0x1000⟩, 64, 0x11⟩] (.start m) =
      .error (.mismatch .dram ⟨0x1032⟩ 0 0x1f) t := by
  intro m
  have hend : (TargetAddr.mk 0x1000).toNat + 64 ≤ UInt64.size := by decide
  have hin := FlatMemory.faithfulBut_stuckView ⟨0x1000⟩ 64 8 m.stuck hend
  have hout := FlatMemory.refusesOutside_stuckView ⟨0x1000⟩ 64 8 m.stuck hend
  rw [FlatMemory.stuckAt_singleton] at hin
  have hi : 50 < (TestRange.mk .dram ⟨0x1000⟩ 64 0x11).len := by decide
  obtain ⟨hinside, -⟩ :=
    run_of_one_stuck hend hi hin hout (s := .start m) ⟨rfl, rfl, rfl, rfl, rfl⟩
  exact (hinside ⟨by decide, by decide⟩).1 (by decide)

end SelfTest

/-- A flat memory in working order, except that the byte at index `i` of the range is stuck at `x`. -/
structure FlatMemory.StuckIn (m : FlatMemory) (range : TestRange) (i : Nat) (x : UInt8) : Prop where
  fits : m.base.toNat + m.size ≤ UInt64.size
  align_pos : 1 ≤ m.align
  align_le : m.align ≤ m.maxSize
  failAt_eq : m.failAt = none
  inside : Within m.base.toNat m.size range.addr.toNat range.len
  lt : i < range.len
  stuck_eq : m.stuck = [(range.addr.toNat + i - m.base.toNat, x)]

namespace SelfTest

/-- The self-test of the range ends at the byte at index `i`, where it found `x`. -/
def Finds (m : FlatMemory) (range : TestRange) (i : Nat) (x : UInt8) : Prop :=
  ∃ expected t, run [range] (.start m) = .error (.mismatch range.region (range.addr + i) expected x) t

/-- Not every stuck byte is found. The pattern of seed 0x11 has a zero at index 49, and a byte that is stuck at
zero there always reads as it should. And no byte is found, whatever its value, in a range whose last chunk the
memory does not have in full. -/
theorem not_every_stuck_byte_found :
    (¬ ∀ (m : FlatMemory) (range : TestRange) (i : Nat) (x : UInt8),
      m.StuckIn range i x → Finds m range i x) ∧
    ¬ ∀ (m : FlatMemory) (range : TestRange) (i : Nat) (x : UInt8),
      m.StuckIn range i x → x ≠ 0 → Finds m range i x := by
  constructor
  · intro hall
    let m : FlatMemory :=
      ⟨⟨0x80000000⟩, 64, 8, 0x1000, .empty, none, [(49, 0)], #[], 0, false⟩
    let range : TestRange := ⟨.dram, ⟨0x80000000⟩, 64, 0x11⟩
    obtain ⟨expected, t, herr⟩ := hall m range 49 0 ⟨by decide, by decide, by decide, rfl,
      ⟨by decide, by decide⟩, by decide, by decide +kernel⟩
    have hpasses : ((run [range]).result (.start m)).1.toBool = true := by decide +kernel
    rw [Action.result_of_error herr] at hpasses
    cases hpasses
  · intro hall
    let m : FlatMemory :=
      ⟨⟨0x80000000⟩, 13, 8, 0x1000, .empty, none, [(12, 0xff)], #[], 0, false⟩
    let range : TestRange := ⟨.dram, ⟨0x80000000⟩, 13, 0x11⟩
    obtain ⟨expected, t, herr⟩ := hall m range 12 0xff ⟨by decide, by decide, by decide, rfl,
      ⟨by decide, by decide⟩, by decide, by decide +kernel⟩ (by decide)
    have hend : (TargetAddr.mk 0x80000000).toNat + 13 ≤ UInt64.size := by decide
    have hin := FlatMemory.faithfulBut_stuckView ⟨0x80000000⟩ 13 8 m.stuck hend
    have hout := FlatMemory.refusesOutside_stuckView ⟨0x80000000⟩ 13 8 m.stuck hend
    obtain ⟨e, t', hrun⟩ : ∃ e t, run [range] (.start m) = .error (.transport e) t :=
      run_of_hull_outside hend hin hout ⟨rfl, rfl, rfl, rfl, rfl⟩ (by decide) (.inl (by decide))
        (fun hhull => absurd hhull.2 (by decide))
    rw [hrun] at herr
    cases herr

end SelfTest

end TargetLink
