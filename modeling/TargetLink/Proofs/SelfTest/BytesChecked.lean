import Mathlib.Data.Finset.Card
import Mathlib.Order.Interval.Finset.Nat
import TargetLink.Proofs.SelfTest.Coverage
import TargetLink.Proofs.Transport.SelfTest

/-!
# How many bytes the self-test checks

The report adds up the lengths of its ranges. This is the number of addresses that they hold exactly if no two
of them share one. The two ranges at the ends of DRAM do share some if DRAM is longer than one of them and
shorter than both: what lies between the ends is tested twice and counted twice, and the report then comes to
more bytes than there are.
-/

namespace TargetLink

namespace TestRange

/-- The addresses that belong to the range. -/
def addresses (range : TestRange) : Finset Nat :=
  Finset.Ico range.addr.toNat (range.addr.toNat + range.len)

theorem mem_addresses {range : TestRange} {a : Nat} : a ∈ range.addresses ↔ range.Holds a :=
  Finset.mem_Ico

theorem card_addresses (range : TestRange) : range.addresses.card = range.len := by
  rw [addresses, Nat.card_Ico, Nat.add_sub_cancel_left]

/-- No address belongs to both ranges. -/
def Apart (range other : TestRange) : Prop :=
  ∀ a, range.Holds a → ¬ other.Holds a

end TestRange

namespace SelfTest

open TestRange (addresses Apart)

variable {ranges : List TestRange} {range : TestRange} {a : Nat}

/-! ## Addresses and lengths -/

/-- The addresses that belong to some of the ranges. -/
def covered : List TestRange → Finset Nat
  | [] => ∅
  | range :: ranges => range.addresses ∪ covered ranges

theorem mem_covered_iff : a ∈ covered ranges ↔ ∃ range ∈ ranges, range.Holds a := by
  induction ranges with
  | nil => simp [covered]
  | cons range ranges ih =>
    rw [covered, Finset.mem_union, TestRange.mem_addresses, ih, List.exists_mem_cons_iff]

theorem bytesChecked_cons : SelfTestReport.bytesChecked ⟨range :: ranges⟩ =
    range.len + SelfTestReport.bytesChecked ⟨ranges⟩ := rfl

theorem bytesChecked_singleton : SelfTestReport.bytesChecked ⟨[range]⟩ = range.len := rfl

theorem bytesChecked_append (front back : List TestRange) :
    SelfTestReport.bytesChecked ⟨front ++ back⟩ =
      SelfTestReport.bytesChecked ⟨front⟩ + SelfTestReport.bytesChecked ⟨back⟩ := by
  induction front with
  | nil => exact (Nat.zero_add _).symm
  | cons range front ih =>
    rw [List.cons_append, bytesChecked_cons, bytesChecked_cons, ih, Nat.add_assoc]

theorem card_covered_le : (covered ranges).card ≤ SelfTestReport.bytesChecked ⟨ranges⟩ := by
  induction ranges with
  | nil => exact Nat.le_refl _
  | cons range ranges ih =>
    calc (covered (range :: ranges)).card
      _ ≤ range.addresses.card + (covered ranges).card := Finset.card_union_le _ _
      _ ≤ range.len + SelfTestReport.bytesChecked ⟨ranges⟩ := by
        rw [TestRange.card_addresses]
        exact Nat.add_le_add_left ih _

theorem disjoint_covered_iff :
    Disjoint range.addresses (covered ranges) ↔ ∀ other ∈ ranges, range.Apart other := by
  simp only [Finset.disjoint_left, TestRange.mem_addresses, mem_covered_iff, not_exists, not_and]
  exact ⟨fun h other hother a ha => h ha other hother, fun h a ha other hother => h other hother a ha⟩

/-- No byte is counted twice exactly if no two ranges share an address. -/
theorem card_covered_eq_iff :
    (covered ranges).card = SelfTestReport.bytesChecked ⟨ranges⟩ ↔ ranges.Pairwise Apart := by
  induction ranges with
  | nil => exact iff_of_true rfl List.Pairwise.nil
  | cons range ranges ih =>
    have hle : (covered ranges).card ≤ SelfTestReport.bytesChecked ⟨ranges⟩ := card_covered_le
    have hunion := Finset.card_union_le range.addresses (covered ranges)
    rw [List.pairwise_cons, ← ih, ← disjoint_covered_iff, ← Finset.card_union_eq_card_add_card,
      bytesChecked_cons, covered]
    rw [TestRange.card_addresses] at hunion ⊢
    omega

/-- The two ends of an interval share its middle if they are longer than half of it. -/
theorem card_ends {base len n : Nat} (hn : n ≤ len) :
    (Finset.Ico base (base + n) ∪ Finset.Ico (base + (len - n)) (base + len)).card =
      min len (2 * n) := by
  rcases Nat.lt_or_ge (2 * n) len with hfar | hnear
  · have hapart : Disjoint (Finset.Ico base (base + n))
        (Finset.Ico (base + (len - n)) (base + len)) := by
      simp only [Finset.disjoint_left, Finset.mem_Ico]
      omega
    rw [Finset.card_union_of_disjoint hapart, Nat.card_Ico, Nat.card_Ico]
    omega
  · have hmeet : Finset.Ico base (base + n) ∪ Finset.Ico (base + (len - n)) (base + len) =
        Finset.Ico base (base + len) := by
      ext a
      simp only [Finset.mem_union, Finset.mem_Ico]
      omega
    rw [hmeet, Nat.card_Ico]
    omega

/-! ## The planned ranges -/

theorem bytesChecked_plan (m : RegionMap) : SelfTestReport.bytesChecked ⟨plan m⟩ =
    endLen m + (if endLen m < alignDown 8 m.dramSize.toNat then endLen m else 0) + 0x2000 := by
  have hlow : SelfTestReport.bytesChecked
      ⟨if 0 < endLen m then [⟨.dram, m.dram.targetBase, endLen m, 0x11⟩] else []⟩ = endLen m := by
    split
    · exact bytesChecked_singleton
    · next hzero => exact (Nat.eq_zero_of_not_pos hzero).symm
  have hhigh : SelfTestReport.bytesChecked
      ⟨if endLen m < alignDown 8 m.dramSize.toNat then [⟨.dram, highAddr m, endLen m, 0x5A⟩] else []⟩ =
        if endLen m < alignDown 8 m.dramSize.toNat then endLen m else 0 := by
    split
    · exact bytesChecked_singleton
    · rfl
  rw [plan_eq, bytesChecked_append, bytesChecked_append, hlow, hhigh, bytesChecked_singleton]

theorem covered_plan (m : RegionMap) : covered (plan m) = Finset.Ico 0x1000 0x3000 ∪
    (Finset.Ico 0x80000000 (0x80000000 + endLen m) ∪
      Finset.Ico (0x80000000 + (alignDown 8 m.dramSize.toNat - endLen m))
        (0x80000000 + alignDown 8 m.dramSize.toNat)) := by
  ext a
  have hrom := exists_holds_plan_iff (a := a) m (k := .bootRom)
  have hclint := exists_holds_plan_iff (a := a) m (k := .clint)
  have hdram := exists_holds_plan_iff (a := a) m (k := .dram)
  simp only [mem_covered_iff, Finset.mem_union, Finset.mem_Ico, ← hrom, ← hdram]
  constructor
  · rintro ⟨range, hrange, ha⟩
    cases hregion : range.region with
    | bootRom => exact .inl ⟨range, hrange, hregion, ha⟩
    | clint => exact (hclint.1 ⟨range, hrange, hregion, ha⟩).elim
    | dram => exact .inr ⟨range, hrange, hregion, ha⟩
  · rintro (⟨range, hrange, -, ha⟩ | ⟨range, hrange, -, ha⟩) <;> exact ⟨range, hrange, ha⟩

/-- The ends of DRAM come to 128 KiB at most, and to less only where they are all of it. -/
theorem card_covered_plan (m : RegionMap) :
    (covered (plan m)).card = min (alignDown 8 m.dramSize.toNat) 0x20000 + 0x2000 := by
  have hlen : endLen m = min (alignDown 8 m.dramSize.toNat) 0x10000 := rfl
  rw [covered_plan, Finset.card_union_of_disjoint, card_ends (by omega), Nat.card_Ico]
  · omega
  · simp only [Finset.disjoint_left, Finset.mem_union, Finset.mem_Ico]
    omega

/-! ## The report -/

/-- A self-test that passes reports all its ranges. -/
theorem report_eq_of_run {σ : Type} [ChunkMemory σ] {s s' : Logged σ} {report : SelfTestReport}
    (h : run ranges s = .ok report s') : report = ⟨ranges⟩ := by
  induction ranges generalizing s s' report with
  | nil =>
    cases h
    rfl
  | cons range ranges ih =>
    obtain ⟨_, t, -, h⟩ := Action.bind_eq_ok h
    obtain ⟨_, t, -, h⟩ := Action.bind_eq_ok h
    obtain ⟨report', t, hrest, h⟩ := Action.bind_eq_ok h
    cases h
    rw [ih hrest]

/-- What the planned self-test reports in a layout. Whatever the memory, a test that passes reports the planned
ranges, and over a window of the layout it passes. With DRAM of more than 64 KiB and less than 128 KiB in whole
chunks, and only then, the two ranges at its ends share addresses, and the bytes reported are more than those of
DRAM and the boot ROM together: they exceed the number of addresses by what 128 KiB exceed those chunks. In every
other layout the ranges are apart, and the bytes reported are as many as the addresses that were verified. -/
theorem bytesChecked_exceeds_iff (m : RegionMap) :
    let usable := m.dramSize.toNat - m.dramSize.toNat % 8
    let overlap := 0x10000 < usable ∧ usable < 0x20000
    let report : SelfTestReport := ⟨plan m⟩
    (∀ {σ : Type} [ChunkMemory σ] (s s' : Logged σ) (r : SelfTestReport),
      run (plan m) s = .ok r s' → r = report) ∧
    (∀ (t : Transport RecordingWindow) (log : Array Event), t.Fits → t.regions = m →
      ∃ s', run (plan m) ⟨t, log⟩ = .ok report s') ∧
    (covered (plan m)).card = min usable 0x20000 + 0x2000 ∧
    report.bytesChecked =
      (covered (plan m)).card + (if 0x10000 < usable then 0x20000 - usable else 0) ∧
    (report.bytesChecked = (covered (plan m)).card ↔ ¬ overlap) ∧
    ((plan m).Pairwise Apart ↔ ¬ overlap) ∧
    (report.bytesChecked ≤ m.dramSize.toNat + 0x2000 ↔ ¬ overlap) := by
  intro usable overlap report
  have hlen : endLen m = min usable 0x10000 := rfl
  have hcard : (covered (plan m)).card = min usable 0x20000 + 0x2000 := card_covered_plan m
  have hchecked : report.bytesChecked =
      endLen m + (if endLen m < usable then endLen m else 0) + 0x2000 := bytesChecked_plan m
  have hexcess : report.bytesChecked =
      (covered (plan m)).card + (if 0x10000 < usable then 0x20000 - usable else 0) := by
    rw [hchecked, hcard]
    split <;> split <;> omega
  have hequal : report.bytesChecked = (covered (plan m)).card ↔ ¬ overlap := by
    rw [hexcess]
    split <;> omega
  refine ⟨fun s s' r => report_eq_of_run, ?_, hcard, hexcess, hequal, ?_, ?_⟩
  · rintro t log hfits rfl
    obtain ⟨s', hrun, -⟩ := Transport.run_of_inSlot hfits log fun _ => inSlot_of_mem_plan
    exact ⟨s', hrun⟩
  · rw [← card_covered_eq_iff, eq_comm, hequal]
  · rw [hexcess, hcard]
    split <;> omega

/-- With one chunk more than 64 KiB of DRAM, all but two chunks of DRAM are counted twice. -/
theorem bytesChecked_exceeds_by_most : ∃ t : Transport RecordingWindow, t.Fits ∧
    t.regions.dramSize = 0x10008 ∧
    ∃ report s', run (plan t.regions) ⟨t, #[]⟩ = .ok report s' ∧ report.bytesChecked = 0x22000 ∧
      (covered report.ranges).card = 0x12008 := by
  let m : RegionMap := ⟨0x18000, 0x10008, by decide, by decide, by decide⟩
  let t : Transport RecordingWindow := ⟨.ofSize 0x18000, ⟨m, .strict⟩, false⟩
  obtain ⟨-, hpasses, hcard, hchecked, -⟩ := bytesChecked_exceeds_iff m
  obtain ⟨s', hrun⟩ := hpasses t #[] rfl rfl
  have hsize : m.dramSize.toNat = 0x10008 := rfl
  rw [hcard, hsize] at hchecked
  rw [hsize] at hcard
  exact ⟨t, rfl, rfl, _, s', hrun, hchecked.trans (by decide), hcard.trans (by decide)⟩

end SelfTest

end TargetLink
