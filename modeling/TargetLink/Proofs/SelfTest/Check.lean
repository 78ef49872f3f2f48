import TargetLink.Proofs.SelfTest.Verdict
import TargetLink.Proofs.Transfer.Exact
import TargetLink.Proofs.Transfer.Kept

/-!
# Self-tests on a memory

A self-test whose ranges are served ends as the stuck bytes of the memory have it. With a faithful chunk
memory it passes, and it leaves zeros where it tested and all else as it was. What the requests for the
ranges keep, it keeps too.
-/

namespace TargetLink

/-- The address belongs to the range. -/
def TestRange.Holds (range : TestRange) (a : Nat) : Prop :=
  range.addr.toNat ≤ a ∧ a < range.addr.toNat + range.len

/-- From `s`, the action ends with the given result, and if it succeeds it leaves the contents `c`. -/
inductive View.Concludes {ε σ α : Type} (v : View σ) (x : Action ε σ α) (s : Logged σ) (c : Contents) :
    Except ε α → Prop where
  | ok {a : α} {t : Logged σ} (run : x s = .ok a t) (sound : v.sound t.state)
    (contents : v.contents t.state = c) : Concludes v x s c (.ok a)
  | error {e : ε} {t : Logged σ} (run : x s = .error e t) (sound : v.sound t.state) :
    Concludes v x s c (.error e)

/-- The chunks of the range, if it has any, are served by a memory that is faithful but for its stuck
bytes. -/
def View.Offers {σ : Type} [ChunkMemory σ] (v : View σ) (stuck : StuckAt) (range : TestRange) : Prop :=
  ∃ serves, Serving serves ∧ v.FaithfulBut stuck serves ∧
    (0 < range.len → v.HullServed serves range.addr range.len)

namespace SelfTest

variable {σ : Type} {range : TestRange} {ranges : List TestRange}

/-- The contents with zeros in a range. -/
def cleared (c : Contents) (range : TestRange) : Contents :=
  c.write range.addr.toNat (List.replicate range.len 0)

section Stuck

variable [ChunkMemory σ] [SteadyGrain σ] {v : View σ} {stuck : StuckAt} {s : Logged σ}

/-- What was stored in a range is read as the stuck bytes show it. -/
theorem stored_seen {serves : Nat → Nat → Prop} {x : Action LinkError σ Unit} {bytes : List UInt8}
    (h : v.FaithfulBut stuck serves) (hserving : Serving serves)
    (hhull : 0 < range.len → v.HullServed serves range.addr range.len)
    (hbytes : bytes.length = range.len) (hsound : v.sound s.state)
    (hstore : 0 < range.len →
      v.Returns x s () (((v.contents s.state).write range.addr.toNat bytes).shown stuck))
    (hempty : range.len = 0 → x s = .ok () s) :
    ∃ t u, x s = .ok () t ∧
      Transfer.read range.addr range.len t = .ok (seen stuck range.addr bytes) u ∧ v.sound u.state ∧
      v.contents u.state = ((v.contents s.state).write range.addr.toNat bytes).shown stuck := by
  rcases Nat.eq_zero_or_pos range.len with hzero | hpos
  · obtain rfl : bytes = [] := List.eq_nil_of_length_eq_zero (hbytes.trans hzero)
    refine ⟨s, s, hempty hzero, ?_, hsound, ?_⟩
    · rw [hzero]
      exact Transfer.read_zero
    · rw [Contents.write_nil, h.shown_eq hsound]
  · obtain ⟨t, hrun, hsound', hcontents⟩ := hstore hpos
    obtain ⟨u, hread, hsound'', hcontents'⟩ := h.transferRead hserving hsound' (hhull hpos)
    rw [hcontents, ← hbytes, read_shown_write, hbytes] at hread
    exact ⟨t, u, hrun, hread, hsound'', hcontents'.trans hcontents⟩

theorem check_concludes (h : v.Offers stuck range) (hsound : v.sound s.state) :
    v.Concludes (check range) s ((cleared (v.contents s.state) range).shown stuck)
      (verdict stuck range) := by
  obtain ⟨serves, hserving, h, hhull⟩ := h
  have hbytes : (pattern range.seed range.len).length = range.len := length_pattern _ _
  have hzeros : (List.replicate range.len (0 : UInt8)).length = range.len := List.length_replicate
  obtain ⟨t, u, hwrite, hread, hsound', hcontents⟩ :=
    stored_seen (x := Transfer.write range.addr (pattern range.seed range.len))
      (s := { s with log := s.log.push (.patternWriting range.addr) }) h hserving hhull hbytes hsound
      (fun hlen => h.transferWrite hserving hsound (by rw [hbytes]; exact hhull hlen))
      (fun hlen => by rw [hlen]; exact Transfer.write_nil)
  obtain ⟨t', u', hclear, hread', hsound'', hcontents'⟩ :=
    stored_seen (x := Transfer.clear range.addr range.len)
      (s := { u with log := u.log.push (.rangeClearing range.addr) }) h hserving hhull hzeros hsound'
      (fun hlen => h.transferClear hserving hsound' (hhull hlen))
      (fun hlen => by rw [hlen]; exact Transfer.clear_zero)
  have hleft : v.contents u'.state = (cleared (v.contents s.state) range).shown stuck := by
    rw [hcontents', hcontents, Contents.shown_write_shown,
      Contents.write_write _ _ (Nat.le_of_eq (hbytes.trans hzeros.symm))]
    rfl
  -- Nothing but the two comparisons can end the test, and it clears the range only past the first one.
  unfold verdict
  cases hpattern : compareSeen stuck range (pattern range.seed range.len) with
  | error e =>
    refine View.Concludes.error (t := u) ?_ hsound'
    unfold compareSeen at hpattern
    simp only [check, Action.bind_apply, Action.emit_apply, Action.mapError_of_ok _ hwrite,
      Action.mapError_of_ok _ hread, hpattern, Action.ofExcept_error_apply]
  | ok _ =>
    change v.Concludes _ _ _ (compareSeen stuck range (List.replicate range.len 0))
    have hrun : check range s =
        Action.ofExcept (compareSeen stuck range (List.replicate range.len 0)) u' := by
      unfold compareSeen at hpattern
      simp only [check, Action.bind_apply, Action.emit_apply, Action.mapError_of_ok _ hwrite,
        Action.mapError_of_ok _ hread, hpattern, Action.ofExcept_ok_apply,
        Action.mapError_of_ok _ hclear, Action.mapError_of_ok _ hread']
      rfl
    cases hlast : compareSeen stuck range (List.replicate range.len 0) with
    | error e =>
      rw [hlast] at hrun
      exact .error hrun hsound''
    | ok _ =>
      rw [hlast] at hrun
      exact .ok hrun hsound'' hleft

/-- A self-test of ranges that are served ends as the stuck bytes have it. -/
theorem run_concludes (hranges : ∀ range ∈ ranges, v.Offers stuck range) (hsound : v.sound s.state) :
    v.Concludes (run ranges) s
      (ranges.foldl (fun c range => (cleared c range).shown stuck) (v.contents s.state))
      (verdicts stuck ranges) := by
  induction ranges generalizing s with
  | nil => exact .ok rfl hsound rfl
  | cons range ranges ih =>
    rw [List.forall_mem_cons] at hranges
    have hcheck := check_concludes hranges.1 hsound
    rw [verdicts]
    generalize verdict stuck range = r at hcheck ⊢
    cases hcheck with
    | error hrun hsound' =>
      refine View.Concludes.error ?_ hsound'
      rw [run, Action.bind_apply, hrun]
    | @ok _ t hrun hsound' hcontents =>
      have hrest := ih (s := { t with log := t.log.push (.rangePassed range) }) hranges.2 hsound'
      change v.contents t.state = _ at hcontents
      rw [hcontents] at hrest
      change v.Concludes _ _ _ (verdicts stuck ranges >>= fun report => _)
      generalize verdicts stuck ranges = r at hrest ⊢
      cases hrest with
      | error hrun' hsound'' =>
        refine View.Concludes.error ?_ hsound''
        simp only [run, Action.bind_apply, hrun, Action.emit_apply, hrun']
      | ok hrun' hsound'' hcontents' =>
        refine View.Concludes.ok ?_ hsound'' hcontents'
        simp only [run, Action.bind_apply, hrun, Action.emit_apply, hrun', Action.pure_apply]

/-- A self-test of ranges that are served passes with a faithful memory and leaves zeros. -/
theorem run_of_faithful {serves : Nat → Nat → Prop} (hserving : Serving serves)
    (h : v.Faithful serves) (hsound : v.sound s.state)
    (hranges : ∀ range ∈ ranges, 0 < range.len ∧ v.HullServed serves range.addr range.len) :
    ∃ s', run ranges s = .ok ⟨ranges⟩ s' ∧ v.sound s'.state ∧
      v.contents s'.state = ranges.foldl cleared (v.contents s.state) := by
  have hoffers : ∀ range ∈ ranges, v.Offers (fun _ => none) range := fun range hrange =>
    ⟨serves, hserving, h.but, fun _ => (hranges range hrange).2⟩
  have hconcludes := run_concludes hoffers hsound
  rcases verdicts_cases (fun _ => none) ranges with
    ⟨-, hok⟩ | ⟨front, range, back, i, expected, found, -, -, hfault, -⟩
  · rw [hok] at hconcludes
    cases hconcludes with
    | ok hrun hsound' hcontents => exact ⟨_, hrun, hsound', hcontents⟩
  · refine absurd ?_ hfault.not_harmless
    intro j hj v hv
    cases hv

end Stuck

/-! ## What the self-test leaves -/

variable {c : Contents} {a : Nat}

theorem cleared_of_holds (ha : range.Holds a) : cleared c range a = 0 := by
  obtain ⟨i, rfl⟩ := Nat.exists_eq_add_of_le ha.1
  have hi : i < (List.replicate range.len (0 : UInt8)).length := by
    have hlt := ha.2
    rw [List.length_replicate]
    omega
  rw [cleared, Contents.write_add hi, List.getElem_replicate]

theorem cleared_of_not_holds (ha : ¬ range.Holds a) : cleared c range a = c a :=
  Contents.write_of_not_mem (by rwa [List.length_replicate])

theorem foldl_cleared_of_eq_zero (hc : c a = 0) : ranges.foldl cleared c a = 0 := by
  induction ranges generalizing c with
  | nil => exact hc
  | cons range ranges ih =>
    refine ih ?_
    by_cases ha : range.Holds a
    · exact cleared_of_holds ha
    · rw [cleared_of_not_holds ha, hc]

theorem foldl_cleared_of_mem (hr : range ∈ ranges) (ha : range.Holds a) :
    ranges.foldl cleared c a = 0 := by
  induction ranges generalizing c with
  | nil => cases hr
  | cons first ranges ih =>
    rcases List.mem_cons.1 hr with rfl | hr
    · exact foldl_cleared_of_eq_zero (c := cleared c range) (cleared_of_holds ha)
    · exact ih hr

theorem foldl_cleared_of_not_mem (ha : ∀ range ∈ ranges, ¬ range.Holds a) :
    ranges.foldl cleared c a = c a := by
  induction ranges generalizing c with
  | nil => rfl
  | cons range ranges ih =>
    rw [List.forall_mem_cons] at ha
    rw [List.foldl_cons, ih ha.2, cleared_of_not_holds ha.1]

/-! ## What the self-test keeps -/

section Kept

variable {I : Logged σ → Prop}
  (hlog : ∀ {s : Logged σ} (event : Event), I s → I { s with log := s.log.push event })

include hlog

theorem keeps_emit {ε : Type} (event : Event) : Action.Keeps (ε := ε) I (Action.emit event) := by
  intro s hs
  exact ⟨trivial, hlog event hs⟩

variable [ChunkMemory σ]

theorem keeps_check
    (hwrite : ∀ bytes, bytes.length = range.len → Action.Keeps I (Transfer.write range.addr bytes))
    (hread : Action.Keeps I (Transfer.read range.addr range.len))
    (hclear : Action.Keeps I (Transfer.clear range.addr range.len)) :
    Action.Keeps I (check (σ := σ) range) := by
  unfold check
  refine (keeps_emit hlog _).bind fun _ => ?_
  refine ((hwrite _ (length_pattern _ _)).mapError _).bind fun _ => ?_
  refine (hread.mapError _).bind fun _ => ?_
  refine (Action.keeps_ofExcept _).bind fun _ => ?_
  refine (keeps_emit hlog _).bind fun _ => ?_
  refine (hclear.mapError _).bind fun _ => ?_
  refine (hread.mapError _).bind fun _ => ?_
  exact Action.keeps_ofExcept _

theorem keeps_run (hcheck : ∀ range ∈ ranges, Action.Keeps I (check (σ := σ) range)) :
    Action.Keeps I (run (σ := σ) ranges) := by
  induction ranges with
  | nil => exact Action.ensures_pure trivial
  | cons range ranges ih =>
    rw [List.forall_mem_cons] at hcheck
    refine hcheck.1.bind fun _ => ?_
    refine (keeps_emit hlog _).bind fun _ => ?_
    refine (ih hcheck.2).bind fun _ => ?_
    exact Action.ensures_pure trivial

end Kept

end SelfTest

end TargetLink
