import TargetLink.Proofs.Alignment
import TargetLink.Proofs.Slot
import TargetLink.SelfTest.Plan

/-!
# Where the planned ranges lie

The planned ranges in natural numbers. Each of them is made of whole chunks in the slot of its region,
also where DRAM ends inside a chunk, and none of them is in the slot of the interruptor.
-/

namespace TargetLink

/-! ## Aligned addresses -/

/-- Clearing the three low bits of a word takes it down to a multiple of eight. -/
theorem Word.and_not_seven {x : Nat} (hx : x < UInt64.size) :
    x &&& (UInt64.size - 1 - 7) = x / 8 * 8 := by
  have hmask : UInt64.size - 1 - 7 = 2 ^ 64 - (2 ^ 3 - 1 + 1) := by decide
  change _ = x / 2 ^ 3 * 2 ^ 3
  refine Nat.eq_of_testBit_eq fun i => ?_
  rw [hmask, Nat.testBit_and, Nat.testBit_two_pow_sub_succ (by decide), Nat.testBit_two_pow_sub_one,
    Nat.testBit_mul_two_pow, Nat.testBit_div_two_pow]
  by_cases hi : 3 ≤ i
  · rw [Nat.sub_add_cancel hi]
    by_cases hbit : i < 64
    · simp [hi, hbit]
    · -- A word has no bits up there.
      have hword : x < 2 ^ 64 := hx
      have hhigh : x < 2 ^ i :=
        Nat.lt_of_lt_of_le hword (Nat.pow_le_pow_right (by decide) (by omega))
      rw [Nat.testBit_lt_two_pow hhigh, Bool.false_and, Bool.and_false]
  · simp [hi, Nat.not_le.1 hi]

namespace TargetAddr

theorem alignDown?_eight (a : TargetAddr) :
    ∃ b, a.alignDown? (UInt64.ofNat Layout.chunkAlign) = some b ∧ b.toNat = alignDown 8 a.toNat := by
  refine ⟨_, if_pos (by decide), ?_⟩
  change (a.val &&& ~~~(UInt64.ofNat Layout.chunkAlign - 1)).toNat = _
  rw [UInt64.toNat_and, UInt64.toNat_not]
  have hmask := Word.and_not_seven a.val.toNat_lt
  rw [alignDown, ← Nat.div_mul_self_eq_mod_sub_self]
  exact hmask

end TargetAddr

namespace SelfTest

variable {m : RegionMap} {range : TestRange}

/-- The bytes of DRAM in whole chunks. -/
theorem usableDram_toNat (m : RegionMap) : (usableDram m).toNat = alignDown 8 m.dramSize.toNat := by
  have hend := m.dramEnd_lt
  have hbase : m.dram.targetBase.toNat = 0x80000000 := rfl
  have hpast : m.dram.targetEnd.toNat = 0x80000000 + m.dramSize.toNat := by
    rw [Region.targetEnd, TargetAddr.toNat_add, hbase]
    exact Nat.mod_eq_of_lt hend
  obtain ⟨past, hsome, hpast'⟩ := m.dram.targetEnd.alignDown?_eight
  have hle : m.dram.targetBase.toNat ≤ past.toNat := by
    rw [hpast', hpast, hbase, alignDown]
    omega
  obtain ⟨d, hd⟩ : ∃ d, past.distance? m.dram.targetBase = some d := by
    refine Option.ne_none_iff_exists'.1 fun hnone => ?_
    have hlt := Region.distance?_eq_none_iff.1 hnone
    omega
  have hsum := Region.distance?_eq_some_iff.1 hd
  simp only [usableDram, hsome, Option.getD_some, hd]
  rw [hpast', hpast, hbase] at hsum
  unfold alignDown at *
  omega

/-- The bytes of each DRAM range. -/
def endLen (m : RegionMap) : Nat :=
  min (alignDown 8 m.dramSize.toNat) 0x10000

theorem min_usableDram_toNat (m : RegionMap) :
    (min (usableDram m) dramCheckLen).toNat = endLen m := by
  rw [endLen, ← usableDram_toNat]
  change (if usableDram m ≤ dramCheckLen then usableDram m else dramCheckLen).toNat = _
  have hlimit : dramCheckLen.toNat = 0x10000 := rfl
  split
  · next hle =>
    rw [UInt64.le_iff_toNat_le] at hle
    omega
  · next hlt =>
    rw [UInt64.le_iff_toNat_le] at hlt
    omega

/-- The first address of the upper DRAM range. -/
def highAddr (m : RegionMap) : TargetAddr :=
  ⟨m.dram.targetBase.val + usableDram m - min (usableDram m) dramCheckLen⟩

theorem highAddr_toNat (m : RegionMap) :
    (highAddr m).toNat = 0x80000000 + (alignDown 8 m.dramSize.toNat - endLen m) := by
  have hlen := min_usableDram_toNat m
  have hend := m.dramEnd_lt
  have hdown := alignDown_le 8 m.dramSize.toNat
  have hmin : endLen m ≤ alignDown 8 m.dramSize.toNat := Nat.min_le_left _ _
  have hbase : m.dram.targetBase.val.toNat = 0x80000000 := rfl
  have hsum : (m.dram.targetBase.val + usableDram m).toNat =
      0x80000000 + alignDown 8 m.dramSize.toNat := by
    rw [UInt64.toNat_add, hbase, usableDram_toNat]
    exact Nat.mod_eq_of_lt (Nat.lt_of_le_of_lt (Nat.add_le_add_left hdown _) hend)
  have hle : min (usableDram m) dramCheckLen ≤ m.dram.targetBase.val + usableDram m := by
    rw [UInt64.le_iff_toNat_le, hlen, hsum]
    omega
  rw [highAddr, TargetAddr.toNat, UInt64.toNat_sub_of_le _ _ hle, hsum, hlen]
  omega

/-- The planned ranges in order: the two ends of DRAM, as far as DRAM has them, and the whole boot ROM. -/
theorem plan_eq (m : RegionMap) : plan m =
    (if 0 < endLen m then [⟨.dram, m.dram.targetBase, endLen m, 0x11⟩] else []) ++
    (if endLen m < alignDown 8 m.dramSize.toNat then [⟨.dram, highAddr m, endLen m, 0x5A⟩] else []) ++
    [⟨.bootRom, m.bootRom.targetBase, 0x2000, 0xA5⟩] := by
  have hlen := min_usableDram_toNat m
  simp only [plan, UInt64.lt_iff_toNat_lt, hlen, usableDram_toNat]
  rfl

theorem mem_plan_iff : range ∈ plan m ↔
    (0 < endLen m ∧ range = ⟨.dram, m.dram.targetBase, endLen m, 0x11⟩) ∨
    (endLen m < alignDown 8 m.dramSize.toNat ∧ range = ⟨.dram, highAddr m, endLen m, 0x5A⟩) ∨
    range = ⟨.bootRom, m.bootRom.targetBase, 0x2000, 0xA5⟩ := by
  simp only [plan_eq, List.mem_append, List.mem_ite_nil_right, List.mem_singleton, or_assoc]

/-- What holds of a planned range holds of one of the ends of DRAM or of the boot ROM. -/
theorem exists_mem_plan_iff (m : RegionMap) {p : RegionKind → Nat → Nat → Prop} :
    (∃ range ∈ plan m, p range.region range.addr.toNat range.len) ↔
      (0 < endLen m ∧ p .dram 0x80000000 (endLen m)) ∨
      (endLen m < alignDown 8 m.dramSize.toNat ∧
        p .dram (0x80000000 + (alignDown 8 m.dramSize.toNat - endLen m)) (endLen m)) ∨
      p .bootRom 0x1000 0x2000 := by
  rw [← highAddr_toNat]
  simp only [mem_plan_iff, or_and_right, and_assoc, exists_or, exists_and_left, exists_eq_left]
  rfl

/-- A planned range is one of the ends of DRAM, or the whole boot ROM. -/
theorem mem_plan_cases (h : range ∈ plan m) :
    (range.region = .dram ∧ range.len = endLen m ∧ 0 < endLen m ∧
      (range.addr.toNat = 0x80000000 ∨
        range.addr.toNat = 0x80000000 + (alignDown 8 m.dramSize.toNat - endLen m))) ∨
    (range.region = .bootRom ∧ range.len = 0x2000 ∧ range.addr.toNat = 0x1000) := by
  rcases mem_plan_iff.1 h with ⟨hpos, rfl⟩ | ⟨hlt, rfl⟩ | rfl
  · exact .inl ⟨rfl, rfl, hpos, .inl rfl⟩
  · have hpos : 0 < endLen m := by
      unfold endLen at hlt ⊢
      omega
    exact .inl ⟨rfl, rfl, hpos, .inr (highAddr_toNat m)⟩
  · exact .inr ⟨rfl, rfl, rfl⟩

/-- A range of whole chunks in the slot of the region that it belongs to, which is not the
interruptor. -/
structure InSlot (m : RegionMap) (range : TestRange) : Prop where
  ne_clint : range.region ≠ .clint
  dvd_addr : 8 ∣ range.addr.toNat
  dvd_len : 8 ∣ range.len
  len_pos : 0 < range.len
  covers : (m.slot range.region).Covers range.addr.toNat range.len

/-- A range of whole chunks is its own hull. -/
theorem InSlot.hull_eq (h : InSlot m range) : alignDown 8 range.addr.toNat = range.addr.toNat ∧
    alignUp 8 (range.addr.toNat + range.len) = range.addr.toNat + range.len :=
  ⟨alignDown_of_dvd (by decide) h.dvd_addr,
    alignUp_of_dvd (by decide) (Nat.dvd_add h.dvd_addr h.dvd_len)⟩

theorem inSlot_of_mem_plan (h : range ∈ plan m) : InSlot m range := by
  have husable := dvd_alignDown 8 m.dramSize.toNat
  have hdown := alignDown_le 8 m.dramSize.toNat
  have hmin : endLen m ≤ alignDown 8 m.dramSize.toNat := Nat.min_le_left _ _
  have hdvd : 8 ∣ endLen m := by
    unfold endLen
    omega
  rcases mem_plan_cases h with ⟨hregion, hlen, hpos, haddr⟩ | ⟨hregion, hlen, haddr⟩
  · refine ⟨by simp [hregion], by omega, by omega, by omega, ?_⟩
    rw [hregion, Slot.Covers]
    simp only [RegionMap.slot]
    omega
  · refine ⟨by simp [hregion], by omega, by omega, by omega, ?_⟩
    rw [hregion, Slot.Covers]
    simp only [RegionMap.slot]
    omega

/-! ## Where the ranges are in the window -/

/-- The window byte stands behind an address of the range, provided that the range lies in the slot of its
region: it is as far into the window range of the slot as the address is into the target range. -/
def InWindow (m : RegionMap) (range : TestRange) (j : Nat) : Prop :=
  let slot := m.slot range.region
  slot.window + range.addr.toNat ≤ j + slot.target ∧
    j + slot.target < slot.window + range.addr.toNat + range.len

/-- The planned ranges are at the two ends of DRAM, as far as it consists of whole chunks, and in the slot
of the boot ROM. -/
theorem exists_inWindow_plan_iff (m : RegionMap) {j : Nat} :
    (∃ range ∈ plan m, InWindow m range j) ↔ j < endLen m ∨
      (alignDown 8 m.dramSize.toNat - endLen m ≤ j ∧ j < alignDown 8 m.dramSize.toNat) ∨
      (m.windowSize.toNat - 0x4000 ≤ j ∧ j < m.windowSize.toNat - 0x2000) := by
  have hfit := m.dramSize_add_le
  have hmin : endLen m ≤ alignDown 8 m.dramSize.toNat := Nat.min_le_left _ _
  refine (exists_mem_plan_iff m (p := fun k addr len =>
    (m.slot k).window + addr ≤ j + (m.slot k).target ∧
      j + (m.slot k).target < (m.slot k).window + addr + len)).trans ?_
  simp only [RegionMap.slot]
  omega

end SelfTest

end TargetLink
