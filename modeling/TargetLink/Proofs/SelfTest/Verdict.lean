import TargetLink.Proofs.Transfer.Stuck
import TargetLink.SelfTest.Run

/-!
# What a self-test finds

With a memory that is faithful but for its stuck bytes, the outcome of a self-test depends on these alone and
not on what the memory held before. A range passes if every byte in it that is stuck is stuck at the byte of
the pattern and at zero. Otherwise the test ends at the first byte that is wrong, where the pattern is
compared first and the zeros only if all of the pattern was right.
-/

namespace TargetLink

open SelfTest

namespace TestRange

/-- In the first `n` bytes of the range, those that are stuck are stuck at the wanted bytes. -/
def RightUpTo (range : TestRange) (stuck : StuckAt) (want : Nat → UInt8) (n : Nat) : Prop :=
  ∀ i < n, ∀ v, stuck (range.addr.toNat + i) = some v → v = want i

/-- The byte at index `i` of the range is stuck at `found`, and it is the first one to be stuck at another
byte than the wanted one. -/
structure FirstWrong (range : TestRange) (stuck : StuckAt) (want : Nat → UInt8) (i : Nat)
    (found : UInt8) : Prop where
  lt : i < range.len
  stuck_eq : stuck (range.addr.toNat + i) = some found
  ne : found ≠ want i
  before : range.RightUpTo stuck want i

/-- What is stuck in the range is stuck at the byte of the pattern and at zero. -/
def Harmless (range : TestRange) (stuck : StuckAt) : Prop :=
  ∀ i < range.len, ∀ v, stuck (range.addr.toNat + i) = some v → v = patternByte range.seed i ∧ v = 0

/-- The first fault that shows in the range: an index, the byte that was expected there and the one that was
found. -/
inductive FirstFault (range : TestRange) (stuck : StuckAt) : Nat → UInt8 → UInt8 → Prop where
  /-- A byte of the pattern is wrong. -/
  | pattern {i : Nat} {found : UInt8} (first : range.FirstWrong stuck (patternByte range.seed) i found) :
    FirstFault range stuck i (patternByte range.seed i) found
  /-- The pattern is right, but a byte that was cleared is not zero. -/
  | zeros {i : Nat} {found : UInt8}
      (right : range.RightUpTo stuck (patternByte range.seed) range.len)
      (first : range.FirstWrong stuck (fun _ => 0) i found) : FirstFault range stuck i 0 found

variable {range : TestRange} {stuck : StuckAt} {want : Nat → UInt8} {i : Nat}
  {expected found : UInt8}

theorem FirstWrong.not_right (h : range.FirstWrong stuck want i found) :
    ¬ range.RightUpTo stuck want range.len :=
  fun hright => h.ne (hright i h.lt found h.stuck_eq)

theorem harmless_iff : range.Harmless stuck ↔
    range.RightUpTo stuck (patternByte range.seed) range.len ∧
      range.RightUpTo stuck (fun _ => 0) range.len := by
  constructor
  · intro h
    exact ⟨fun i hi v hv => (h i hi v hv).1, fun i hi v hv => (h i hi v hv).2⟩
  · rintro ⟨hpattern, hzero⟩ i hi v hv
    exact ⟨hpattern i hi v hv, hzero i hi v hv⟩

theorem FirstFault.not_harmless (h : range.FirstFault stuck i expected found) :
    ¬ range.Harmless stuck := by
  rw [harmless_iff]
  cases h with
  | pattern first => exact fun hboth => first.not_right hboth.1
  | zeros _ first => exact fun hboth => first.not_right hboth.2

end TestRange

namespace SelfTest

variable {range : TestRange} {ranges : List TestRange} {stuck : StuckAt} {want : Nat → UInt8}
  {bytes : List UInt8}

/-! ## Comparing -/

/-- Lists of one length are equal, or there is a first index at which they differ. -/
theorem firstDifference?_go_cases (k : Nat) {xs ys : List UInt8} (hlen : xs.length = ys.length) :
    (firstDifference?.go k xs ys = none ∧ xs = ys) ∨
    ∃ i x y, firstDifference?.go k xs ys = some (k + i, x, y) ∧ xs[i]? = some x ∧ ys[i]? = some y ∧
      x ≠ y ∧ ∀ j < i, xs[j]? = ys[j]? := by
  induction xs generalizing k ys with
  | nil => exact .inl ⟨rfl, (List.eq_nil_of_length_eq_zero hlen.symm).symm⟩
  | cons x xs ih =>
    cases ys with
    | nil => cases hlen
    | cons y ys =>
      rw [firstDifference?.go]
      by_cases hxy : x = y
      · rw [if_pos hxy, hxy]
        rcases ih (k + 1) (Nat.succ.inj hlen) with ⟨hnone, rfl⟩ | ⟨i, a, b, hsome, ha, hb, hne, hbefore⟩
        · exact .inl ⟨hnone, rfl⟩
        · refine .inr ⟨i + 1, a, b, ?_, ha, hb, hne, ?_⟩
          · rw [hsome, Nat.add_assoc, Nat.add_comm 1 i]
          · intro j hj
            cases j with
            | zero => rfl
            | succ j => exact hbefore j (Nat.lt_of_succ_lt_succ hj)
      · -- The search ends at the first pair, so there is nothing in front of it to compare.
        rw [if_neg hxy]
        refine .inr ⟨0, x, y, rfl, rfl, rfl, hxy, ?_⟩
        intro j hj
        cases hj

/-- Bytes that were stored from an address on, as they read. -/
def seen (stuck : StuckAt) (addr : TargetAddr) (bytes : List UInt8) : List UInt8 :=
  bytes.mapIdx fun i b => (stuck (addr.toNat + i)).getD b

theorem getElem?_seen (stuck : StuckAt) (addr : TargetAddr) (bytes : List UInt8) (i : Nat) :
    (seen stuck addr bytes)[i]? = bytes[i]?.map fun b => (stuck (addr.toNat + i)).getD b :=
  List.getElem?_mapIdx

theorem read_shown_write (c : Contents) (stuck : StuckAt) (addr : TargetAddr) (bytes : List UInt8) :
    ((c.write addr.toNat bytes).shown stuck).read addr.toNat bytes.length = seen stuck addr bytes := by
  refine List.ext_getElem? fun i => ?_
  rw [Contents.getElem?_read, getElem?_seen]
  split
  · next hi =>
    rw [Contents.shown, Contents.write_add hi, List.getElem?_eq_getElem hi]
    rfl
  · next hi =>
    rw [List.getElem?_eq_none (by omega)]
    rfl

/-- What reads wrong is stuck at another byte than the wanted one. -/
theorem stuck_of_seen_ne {b found : UInt8} {addr : TargetAddr} {i : Nat} (hb : bytes[i]? = some b)
    (hfound : (seen stuck addr bytes)[i]? = some found) (hne : b ≠ found) :
    stuck (addr.toNat + i) = some found := by
  rw [getElem?_seen, hb] at hfound
  cases hstuck : stuck (addr.toNat + i) with
  | none =>
    rw [hstuck] at hfound
    exact absurd (Option.some.inj hfound) hne
  | some v =>
    rw [hstuck] at hfound
    exact hfound

theorem right_of_seen_eq {n : Nat} (hbytes : ∀ i < range.len, bytes[i]? = some (want i))
    (hle : n ≤ range.len) (hseen : ∀ i < n, bytes[i]? = (seen stuck range.addr bytes)[i]?) :
    range.RightUpTo stuck want n := by
  intro i hi v hv
  have heq := hseen i hi
  rw [getElem?_seen, hbytes i (by omega), hv] at heq
  exact (Option.some.inj heq).symm

/-- The bytes that were stored in a range are compared with what is read there. -/
def compareSeen (stuck : StuckAt) (range : TestRange) (bytes : List UInt8) :
    Except SelfTestError Unit :=
  compare range bytes (seen stuck range.addr bytes)

/-- Comparing succeeds if nothing is stuck at a wrong byte, and fails at the first byte that is. -/
theorem compareSeen_cases (stuck : StuckAt) (hlen : bytes.length = range.len)
    (hbytes : ∀ i < range.len, bytes[i]? = some (want i)) :
    (range.RightUpTo stuck want range.len ∧ compareSeen stuck range bytes = .ok ()) ∨
    ∃ i found, range.FirstWrong stuck want i found ∧ compareSeen stuck range bytes =
      .error (.mismatch range.region (range.addr + i) (want i) found) := by
  have hsame : bytes.length = (seen stuck range.addr bytes).length := List.length_mapIdx.symm
  unfold compareSeen compare firstDifference?
  rcases firstDifference?_go_cases 0 hsame with ⟨hnone, heq⟩ | ⟨i, b, found, hsome, hb, hfound, hne, hbefore⟩
  · rw [hnone]
    refine .inl ⟨right_of_seen_eq hbytes (Nat.le_refl _) fun i _ => ?_, rfl⟩
    rw [← heq]
  · have hi : i < range.len := by
      rw [← hlen]
      exact (List.getElem?_eq_some_iff.1 hb).1
    obtain rfl : b = want i := Option.some.inj (hb.symm.trans (hbytes i hi))
    rw [hsome, Nat.zero_add]
    exact .inr ⟨i, found, ⟨hi, stuck_of_seen_ne hb hfound hne, hne.symm,
      right_of_seen_eq hbytes (Nat.le_of_lt hi) hbefore⟩, rfl⟩

@[simp] theorem length_pattern (seed : UInt8) (len : Nat) : (pattern seed len).length = len := by
  simp [pattern]

/-- What the stuck bytes make of the test of a range. -/
def verdict (stuck : StuckAt) (range : TestRange) : Except SelfTestError Unit := do
  compareSeen stuck range (pattern range.seed range.len)
  compareSeen stuck range (List.replicate range.len 0)

theorem verdict_cases (stuck : StuckAt) (range : TestRange) :
    (range.Harmless stuck ∧ verdict stuck range = .ok ()) ∨
    ∃ i expected found, range.FirstFault stuck i expected found ∧
      verdict stuck range = .error (.mismatch range.region (range.addr + i) expected found) := by
  have hpattern : ∀ i < range.len, (pattern range.seed range.len)[i]? =
      some (patternByte range.seed i) := by
    intro i hi
    simp [pattern, hi]
  have hzeros : ∀ i < range.len, (List.replicate range.len (0 : UInt8))[i]? = some 0 := by
    intro i hi
    rw [List.getElem?_replicate, if_pos hi]
  unfold verdict
  rcases compareSeen_cases stuck (length_pattern _ _) hpattern with
    ⟨hright, hok⟩ | ⟨i, found, hfirst, herr⟩
  · rw [hok]
    rcases compareSeen_cases stuck List.length_replicate hzeros with
      ⟨hright', hok'⟩ | ⟨i, found, hfirst, herr⟩
    · exact .inl ⟨TestRange.harmless_iff.2 ⟨hright, hright'⟩, hok'⟩
    · exact .inr ⟨i, 0, found, .zeros hright hfirst, herr⟩
  · rw [herr]
    exact .inr ⟨i, _, found, .pattern hfirst, rfl⟩

/-- What the stuck bytes make of a self-test. -/
def verdicts (stuck : StuckAt) : List TestRange → Except SelfTestError SelfTestReport
  | [] => return ⟨[]⟩
  | range :: ranges => do
    verdict stuck range
    let report ← verdicts stuck ranges
    return ⟨range :: report.ranges⟩

/-- A self-test passes if all of its ranges do, or it ends at the first range that does not, whatever comes
behind it. -/
theorem verdicts_cases (stuck : StuckAt) (ranges : List TestRange) :
    ((∀ range ∈ ranges, range.Harmless stuck) ∧ verdicts stuck ranges = .ok ⟨ranges⟩) ∨
    ∃ front range back i expected found, ranges = front ++ range :: back ∧
      (∀ r ∈ front, r.Harmless stuck) ∧ range.FirstFault stuck i expected found ∧
      ∀ back', verdicts stuck (front ++ range :: back') =
        .error (.mismatch range.region (range.addr + i) expected found) := by
  induction ranges with
  | nil => exact .inl ⟨List.forall_mem_nil _, rfl⟩
  | cons range ranges ih =>
    rcases verdict_cases stuck range with ⟨hharmless, hok⟩ | ⟨i, expected, found, hfault, herr⟩
    · rcases ih with ⟨hall, hrest⟩ | ⟨front, r, back, i, expected, found, rfl, hfront, hfault, herr⟩
      · refine .inl ⟨List.forall_mem_cons.2 ⟨hharmless, hall⟩, ?_⟩
        rw [verdicts, hok, hrest]
        rfl
      · refine .inr ⟨range :: front, r, back, i, expected, found, rfl,
          List.forall_mem_cons.2 ⟨hharmless, hfront⟩, hfault, ?_⟩
        intro back'
        rw [List.cons_append, verdicts, hok, herr back']
        rfl
    · refine .inr ⟨[], range, ranges, i, expected, found, rfl, List.forall_mem_nil _, hfault, ?_⟩
      intro back'
      rw [List.nil_append, verdicts, herr]
      rfl

end SelfTest

end TargetLink
