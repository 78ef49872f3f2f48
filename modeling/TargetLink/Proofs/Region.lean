import TargetLink.RegionMap

/-!
# Regions in numbers

The checks of a region and the lookup of a map, said about natural numbers. Nothing wraps around
here: a checked sum or difference of words is there exactly when the numbers say so.
-/

namespace TargetLink

namespace Word

theorem add?_eq_some_iff {a b : UInt64} {n : Nat} :
    add? a n = some b ↔ b.toNat = a.toNat + n := by
  refine ⟨toNat_of_add?_eq_some, fun h => ?_⟩
  cases hsum : add? a n with
  | none =>
    have hbig := add?_eq_none_iff.1 hsum
    have hlt : b.toNat < UInt64.size := b.toNat_lt
    omega
  | some c =>
    have hc := toNat_of_add?_eq_some hsum
    rw [UInt64.toNat.inj (hc.trans h.symm)]

theorem sub?_eq_some_iff {a b d : UInt64} : sub? a b = some d ↔ d.toNat + b.toNat = a.toNat := by
  refine ⟨toNat_of_sub?_eq_some, fun h => ?_⟩
  cases hdiff : sub? a b with
  | none =>
    have hlt := sub?_eq_none_iff.1 hdiff
    omega
  | some c =>
    have hc := toNat_of_sub?_eq_some hdiff
    rw [UInt64.toNat.inj (show c.toNat = d.toNat by omega)]

end Word

/-- Every word is an offset. -/
theorem WindowOffset.exists_toNat_eq {n : Nat} (h : n < UInt64.size) :
    ∃ o : WindowOffset, o.toNat = n :=
  ⟨⟨UInt64.ofNat n⟩, UInt64.toNat_ofNat_of_lt' h⟩

theorem WindowOffset.add?_eq_some_iff {o p : WindowOffset} {n : Nat} :
    o.add? n = some p ↔ p.toNat = o.toNat + n := by
  obtain ⟨o⟩ := o
  obtain ⟨p⟩ := p
  simp [WindowOffset.add?, WindowOffset.toNat, Word.add?_eq_some_iff]

namespace Region

variable {r : Region} {addr : TargetAddr}

theorem distance?_eq_some_iff {base : TargetAddr} {d : UInt64} :
    addr.distance? base = some d ↔ d.toNat + base.toNat = addr.toNat :=
  Word.sub?_eq_some_iff

theorem distance?_eq_none_iff {base : TargetAddr} :
    addr.distance? base = none ↔ addr.toNat < base.toNat :=
  Word.sub?_eq_none_iff

theorem contains_iff : r.contains addr = true ↔
    r.targetBase.toNat ≤ addr.toNat ∧ addr.toNat < r.targetBase.toNat + r.targetLen.toNat := by
  unfold contains
  cases h : addr.distance? r.targetBase with
  | none =>
    have hlt := distance?_eq_none_iff.1 h
    simp only [Bool.false_eq_true, false_iff]
    omega
  | some d =>
    have hd := distance?_eq_some_iff.1 h
    simp only [decide_eq_true_eq, UInt64.lt_iff_toNat_lt]
    omega

theorem containsRange_iff {len : Nat} : r.containsRange addr len = true ↔
    r.contains addr = true ∧ addr.toNat + len ≤ r.targetBase.toNat + r.targetLen.toNat := by
  unfold containsRange
  cases h : addr.distance? r.targetBase with
  | none =>
    have hlt := distance?_eq_none_iff.1 h
    have hno : ¬ r.contains addr = true := fun hc => by
      have := contains_iff.1 hc
      omega
    simp [hno]
  | some d =>
    have hd := distance?_eq_some_iff.1 h
    simp only [Bool.and_eq_true, and_congr_right_iff]
    intro _
    cases hsum : Word.add? d len with
    | none =>
      have hbig := Word.add?_eq_none_iff.1 hsum
      have hlen : r.targetLen.toNat < UInt64.size := r.targetLen.toNat_lt
      simp only [Bool.false_eq_true, false_iff]
      omega
    | some past =>
      have hpast := Word.add?_eq_some_iff.1 hsum
      simp only [decide_eq_true_eq, UInt64.le_iff_toNat_le]
      omega

/-- An address is as far into the window range as it is into the target range. -/
theorem offsetOf?_eq_some_iff {o : WindowOffset} : r.offsetOf? addr = some o ↔
    r.targetBase.toNat ≤ addr.toNat ∧
      o.toNat + r.targetBase.toNat = r.windowBase.toNat + addr.toNat := by
  unfold offsetOf?
  cases h : addr.distance? r.targetBase with
  | none =>
    have hlt := distance?_eq_none_iff.1 h
    simp only [reduceCtorEq, false_iff]
    omega
  | some d =>
    have hd := distance?_eq_some_iff.1 h
    rw [WindowOffset.add?_eq_some_iff]
    omega

end Region

namespace RegionMap

variable (m : RegionMap)

/-- The window holds DRAM and 16 KiB more. -/
theorem dramSize_add_le : m.dramSize.toNat + 0x4000 ≤ m.windowSize.toNat :=
  m.dram_le

/-- DRAM ends below the last address. -/
theorem dramEnd_lt : 0x80000000 + m.dramSize.toNat < UInt64.size :=
  m.dram_end

/-- The boot ROM's slot begins 16 KiB below the end of the window. -/
theorem bootRom_windowBase : m.bootRom.windowBase.toNat = m.windowSize.toNat - 0x4000 := by
  have hle : Layout.bootRomFromTop ≤ m.windowSize := by
    rw [UInt64.le_iff_toNat_le]
    have := m.dramSize_add_le
    change 0x4000 ≤ m.windowSize.toNat
    omega
  exact UInt64.toNat_sub_of_le _ _ hle

/-- The interruptor's slot begins 8 KiB below the end of the window. -/
theorem clint_windowBase : m.clint.windowBase.toNat = m.windowSize.toNat - 0x2000 := by
  have hle : Layout.clintFromTop ≤ m.windowSize := by
    rw [UInt64.le_iff_toNat_le]
    have := m.dramSize_add_le
    change 0x2000 ≤ m.windowSize.toNat
    omega
  exact UInt64.toNat_sub_of_le _ _ hle

variable {m : RegionMap} {addr : TargetAddr}

theorem bootRom_contains_iff :
    m.bootRom.contains addr = true ↔ 0x1000 ≤ addr.toNat ∧ addr.toNat < 0x3000 := by
  rw [Region.contains_iff, show m.bootRom.targetBase.toNat = 0x1000 from rfl,
    show m.bootRom.targetLen.toNat = 0x2000 from rfl]

theorem clint_contains_iff :
    m.clint.contains addr = true ↔ 0x2000000 ≤ addr.toNat ∧ addr.toNat < 0x2010000 := by
  rw [Region.contains_iff, show m.clint.targetBase.toNat = 0x2000000 from rfl,
    show m.clint.targetLen.toNat = 0x10000 from rfl]

theorem dram_contains_iff : m.dram.contains addr = true ↔
    0x80000000 ≤ addr.toNat ∧ addr.toNat < 0x80000000 + m.dramSize.toNat := by
  rw [Region.contains_iff, show m.dram.targetBase.toNat = 0x80000000 from rfl,
    show m.dram.targetLen = m.dramSize from rfl]

/-- The lookup in numbers: two ranges of their own, and all that is left from the base of DRAM on. -/
theorem find?_eq (m : RegionMap) (addr : TargetAddr) : m.find? addr =
    if 0x1000 ≤ addr.toNat ∧ addr.toNat < 0x3000 then some m.bootRom
    else if 0x2000000 ≤ addr.toNat ∧ addr.toNat < 0x2010000 then some m.clint
    else if 0x80000000 ≤ addr.toNat then some m.dram
    else none := by
  have hdram : Layout.dramBase ≤ addr.val ↔ 0x80000000 ≤ addr.toNat :=
    UInt64.le_iff_toNat_le
  simp only [find?, bootRom_contains_iff, clint_contains_iff, hdram]

/-- The region that contains an address answers for it. -/
theorem find?_of_contains {k : RegionKind} (h : (m.get k).contains addr = true) :
    m.find? addr = some (m.get k) := by
  rw [find?_eq]
  cases k with
  | bootRom =>
    have hin := bootRom_contains_iff.1 h
    rw [if_pos hin]
    rfl
  | clint =>
    have hin := clint_contains_iff.1 h
    rw [if_neg (by omega), if_pos hin]
    rfl
  | dram =>
    have hin := dram_contains_iff.1 h
    rw [if_neg (by omega), if_neg (by omega), if_pos hin.1]
    rfl

end RegionMap

end TargetLink
