import TargetLink.Proofs.SelfTest.Check
import TargetLink.Proofs.SelfTest.Plan
import TargetLink.Proofs.Transfer.Direct
import TargetLink.Proofs.Translator.Resolve
import TargetLink.Transport

/-!
# What the plan covers

The planned ranges are the two ends of the part of DRAM that consists of whole chunks, and the boot ROM.
Each of them lies in its region, away from the interruptor, and each transfer of one is a single request.
-/

namespace TargetLink

/-- Where a range lies: its region, its first address and its length. -/
def TestRange.extent (range : TestRange) : RegionKind × Nat × Nat :=
  (range.region, range.addr.toNat, range.len)

namespace SelfTest

variable {m : RegionMap} {range : TestRange} {a : Nat}

/-! ## The ranges -/

theorem map_extent_plan (m : RegionMap) : (plan m).map TestRange.extent =
    (if 0 < endLen m then [(.dram, 0x80000000, endLen m)] else []) ++
    (if endLen m < alignDown 8 m.dramSize.toNat then
      [(.dram, 0x80000000 + (alignDown 8 m.dramSize.toNat - endLen m), endLen m)] else []) ++
    [(.bootRom, 0x1000, 0x2000)] := by
  rw [← highAddr_toNat, plan_eq, List.map_append, List.map_append, apply_ite (List.map TestRange.extent),
    apply_ite (List.map TestRange.extent)]
  rfl

/-- The addresses that the ranges of a region hold. -/
theorem exists_holds_plan_iff (m : RegionMap) {k : RegionKind} :
    (∃ range ∈ plan m, range.region = k ∧ range.Holds a) ↔ match k with
      | .bootRom => 0x1000 ≤ a ∧ a < 0x3000
      | .clint => False
      | .dram => (0x80000000 ≤ a ∧ a < 0x80000000 + endLen m) ∨
          (0x80000000 + (alignDown 8 m.dramSize.toNat - endLen m) ≤ a ∧
            a < 0x80000000 + alignDown 8 m.dramSize.toNat) := by
  have hmin : endLen m ≤ alignDown 8 m.dramSize.toNat := Nat.min_le_left _ _
  refine (exists_mem_plan_iff m (p := fun region addr len =>
    region = k ∧ addr ≤ a ∧ a < addr + len)).trans ?_
  cases k with
  | bootRom => simp only [reduceCtorEq, true_and, false_and, and_false, false_or]
  | clint => simp only [reduceCtorEq, false_and, and_false, or_false]
  | dram =>
    simp only [reduceCtorEq, true_and, false_and, or_false]
    omega

theorem len_le_of_mem_plan (h : range ∈ plan m) : range.len ≤ 0x10000 := by
  have hcap : endLen m ≤ 0x10000 := Nat.min_le_right _ _
  rcases mem_plan_cases h with ⟨-, hlen, -, -⟩ | ⟨-, hlen, -⟩ <;> omega

/-! ## Their places -/

theorem InSlot.ownsTarget (h : InSlot m range) (ha : range.Holds a) :
    (m.get range.region).OwnsTarget a := by
  have hlen := m.slot_len_le range.region
  obtain ⟨hle, hend⟩ := h.covers
  obtain ⟨hfirst, hlast⟩ := ha
  rw [Region.OwnsTarget, m.get_targetBase]
  omega

/-- The range consists of whole chunks and is valid. The region that it names owns it and answers for each of
its addresses, and the interruptor has no part of it, neither as an address nor as a byte of the window. A
transport reads, writes and clears it with a single request, so it reads nothing for the sake of a store. -/
structure SafelyPlaced (m : RegionMap) (range : TestRange) : Prop where
  dvd_start : 8 ∣ range.addr.toNat
  dvd_end : 8 ∣ range.addr.toNat + range.len
  valid : ∀ policy, (Translator.mk m policy).validate range.addr range.len = true
  owned : ∀ a, range.Holds a → (m.get range.region).OwnsTarget a
  found : ∀ addr : TargetAddr, range.Holds addr.toNat → m.find? addr = some (m.get range.region)
  target_apart : ∀ a, range.Holds a → ¬ m.clint.OwnsTarget a
  window_apart : ∀ policy, ∃ o, (Translator.mk m policy).resolve range.addr range.len = .ok o ∧
    ∀ j, o.toNat ≤ j → j < o.toNat + range.len →
      (m.get range.region).OwnsWindow j ∧ ¬ m.clint.OwnsWindow j
  direct : ∀ {ω : Type} [Window ω] (s : Logged (Transport ω)), Direct s range.addr range.len

theorem InSlot.safelyPlaced (h : InSlot m range) (hlen : range.len ≤ 0x10000) :
    SafelyPlaced m range where
  dvd_start := h.dvd_addr
  dvd_end := Nat.dvd_add h.dvd_addr h.dvd_len
  valid policy :=
    (Translator.validate_iff_serves (t := ⟨m, policy⟩) h.len_pos).2 ⟨range.region, h.covers⟩
  owned a ha := h.ownsTarget ha
  found addr ha := RegionMap.find?_of_contains (Region.contains_iff.2 (h.ownsTarget ha))
  target_apart a ha hclint := by
    have hclint' : (m.get .clint).OwnsTarget a := hclint
    exact h.ne_clint (RegionMap.kind_eq_of_ownsTarget (h.ownsTarget ha) hclint')
  window_apart policy := by
    obtain ⟨o, hres, hoff⟩ := Translator.resolve_of_covers (t := ⟨m, policy⟩) h.len_pos h.covers
    refine ⟨o, hres, fun j hle hlt => ?_⟩
    have howns : (m.get range.region).OwnsWindow j := by
      obtain ⟨hfirst, hlast⟩ := h.covers
      rw [RegionMap.ownsWindow_iff]
      change o.toNat + (m.slot range.region).target = (m.slot range.region).window + _ at hoff
      omega
    refine ⟨howns, fun hclint => ?_⟩
    have hclint' : (m.get .clint).OwnsWindow j := hclint
    exact h.ne_clint (RegionMap.kind_eq_of_ownsWindow howns hclint')
  direct s := by
    have hmax : 0x10000 ≤ Layout.chunkMaxSize := by decide
    exact direct_of_dvd h.dvd_addr h.dvd_len h.len_pos (Nat.le_trans hlen hmax)

/-- In every layout the plan is a range at the base of DRAM if DRAM holds a chunk, another one at the end of its
last whole chunk if the first one does not reach there, and then the boot ROM from end to end. So the DRAM ranges
cover the first and the last bytes of the whole chunks, up to 64 KiB at either end, and nothing of a chunk that DRAM
does not fill. Each of the ranges is safely placed. -/
theorem plan_covers_ends (m : RegionMap) :
    let base := m.dram.targetBase.toNat
    let usable := m.dramSize.toNat - m.dramSize.toNat % 8
    let n := min usable 0x10000
    (plan m).map TestRange.extent =
      (if 0 < usable then [(.dram, base, n)] else []) ++
      (if 0x10000 < usable then [(.dram, base + usable - n, n)] else []) ++
      [(.bootRom, m.bootRom.targetBase.toNat, m.bootRom.targetLen.toNat)] ∧
    (∀ a, (∃ range ∈ plan m, range.region = .dram ∧ range.Holds a) ↔
      (base ≤ a ∧ a < base + n) ∨ (base + usable - n ≤ a ∧ a < base + usable)) ∧
    ∀ range ∈ plan m, SafelyPlaced m range := by
  intro base usable n
  have hmin : n ≤ usable := Nat.min_le_left _ _
  have hstart : base + usable - n = base + (usable - n) := Nat.add_sub_assoc hmin base
  have hlow : 0 < usable ↔ 0 < n := by omega
  have hhigh : 0x10000 < usable ↔ n < usable := by omega
  refine ⟨?_, fun a => ?_, fun range hrange => ?_⟩
  · simp only [hstart, hlow, hhigh]
    exact map_extent_plan m
  · rw [hstart]
    exact exists_holds_plan_iff m
  · exact (inSlot_of_mem_plan hrange).safelyPlaced (len_le_of_mem_plan hrange)

end SelfTest

end TargetLink
