import TargetLink.Proofs.Placement
import TargetLink.Proofs.Translator

/-!
# When an access resolves

An access resolves exactly if one of the regions admits it, which then no other region does. The regions
answer for different addresses, so they may be looked up in any order. An access that does not resolve is
refused for one of two reasons, and the address alone decides for which.
-/

namespace TargetLink

/-- The access begins in the target range of the region, and ends in the part of it that the window backs. -/
def Region.Admits (r : Region) (a len : Nat) : Prop :=
  r.OwnsTarget a ∧ a - r.targetBase.toNat + len ≤ r.windowLen.toNat

namespace RegionMap

variable {m : RegionMap} {addr : TargetAddr} {k k' : RegionKind} {order : List RegionKind} {r : Region}

/-- The region of a kind is looked up for the address: the small regions for their own addresses, DRAM for
all from its base on. -/
def answersFor (m : RegionMap) (addr : TargetAddr) : RegionKind → Bool
  | .dram => Layout.dramBase ≤ addr.val
  | k => (m.get k).contains addr

/-- The lookup with the regions in another order. -/
def findIn? (m : RegionMap) (order : List RegionKind) (addr : TargetAddr) : Option Region :=
  (order.find? (m.answersFor addr)).map m.get

theorem answersFor_iff : m.answersFor addr k = true ↔ match k with
    | .bootRom => 0x1000 ≤ addr.toNat ∧ addr.toNat < 0x3000
    | .clint => 0x2000000 ≤ addr.toNat ∧ addr.toNat < 0x2010000
    | .dram => 0x80000000 ≤ addr.toNat := by
  cases k with
  | bootRom => exact bootRom_contains_iff
  | clint => exact clint_contains_iff
  | dram =>
    have hdram : Layout.dramBase ≤ addr.val ↔ 0x80000000 ≤ addr.toNat := UInt64.le_iff_toNat_le
    simp only [answersFor, decide_eq_true_eq, hdram]

/-- No two regions are looked up for one address. -/
theorem kind_eq_of_answersFor (h : m.answersFor addr k = true) (h' : m.answersFor addr k' = true) :
    k = k' := by
  rw [answersFor_iff] at h h'
  cases k <;> cases k' <;> first | rfl | (simp only at h h'; omega)

theorem findIn?_all (m : RegionMap) (addr : TargetAddr) : m.findIn? RegionKind.all addr = m.find? addr := by
  have hrom : m.answersFor addr .bootRom = m.bootRom.contains addr := rfl
  have hclint : m.answersFor addr .clint = m.clint.contains addr := rfl
  have hdram : m.answersFor addr .dram = decide (Layout.dramBase ≤ addr.val) := rfl
  simp only [findIn?, find?, RegionKind.all, List.find?_cons, List.find?_nil, hrom, hclint, hdram]
  cases m.bootRom.contains addr with
  | true => rfl
  | false =>
    cases m.clint.contains addr with
    | true => rfl
    | false =>
      by_cases hle : Layout.dramBase ≤ addr.val
      · simp [hle, get]
      · simp [hle]

/-- The order of the lookup does not matter. -/
theorem findIn?_of_perm (horder : order.Perm RegionKind.all) (addr : TargetAddr) :
    m.findIn? order addr = m.find? addr := by
  rw [← findIn?_all, findIn?, findIn?]
  congr 1
  cases hfind : RegionKind.all.find? (m.answersFor addr) with
  | none =>
    rw [List.find?_eq_none] at hfind ⊢
    intro k hk
    exact hfind k (horder.mem_iff.1 hk)
  | some k =>
    have hk := List.find?_some hfind
    cases hfind' : order.find? (m.answersFor addr) with
    | none => exact absurd hk (List.find?_eq_none.1 hfind' k (horder.mem_iff.2 k.mem_all))
    | some k' => rw [kind_eq_of_answersFor (List.find?_some hfind') hk]

theorem find?_eq_none_iff : m.find? addr = none ↔
    ¬ m.bootRom.OwnsTarget addr.toNat ∧ ¬ m.clint.OwnsTarget addr.toNat ∧ addr.toNat < 0x80000000 := by
  have hrom : m.bootRom.OwnsTarget addr.toNat ↔ _ := Region.contains_iff.symm.trans bootRom_contains_iff
  have hclint : m.clint.OwnsTarget addr.toNat ↔ _ := Region.contains_iff.symm.trans clint_contains_iff
  rw [hrom, hclint, find?_eq]
  by_cases hin : 0x1000 ≤ addr.toNat ∧ addr.toNat < 0x3000
  · simp [hin]
  by_cases hin' : 0x2000000 ≤ addr.toNat ∧ addr.toNat < 0x2010000
  · simp [hin, hin']
  by_cases hle : 0x80000000 ≤ addr.toNat
  · simp [hin, hin', hle]
  · simp only [hin, hin', hle, if_false, not_false_iff, true_and, true_iff]
    omega

theorem mem_regions_iff : r ∈ m.regions ↔ ∃ k, m.get k = r := by
  simp only [regions, List.mem_map]
  constructor
  · rintro ⟨k, -, rfl⟩
    exact ⟨k, rfl⟩
  · rintro ⟨k, rfl⟩
    exact ⟨k, k.mem_all, rfl⟩

theorem exists_mem_regions_iff {p : Region → Prop} : (∃ r ∈ m.regions, p r) ↔ ∃ k, p (m.get k) := by
  constructor
  · rintro ⟨r, hr, h⟩
    obtain ⟨k, rfl⟩ := mem_regions_iff.1 hr
    exact ⟨k, h⟩
  · rintro ⟨k, h⟩
    exact ⟨m.get k, mem_regions_iff.2 ⟨k, rfl⟩, h⟩

end RegionMap

namespace Translator

variable {t : Translator} {k k' : RegionKind} {addr : TargetAddr} {len : Nat}

theorem admits_iff : (t.regions.get k).Admits addr.toNat len ↔ (t.regions.get k).contains addr = true ∧
    addr.toNat + len ≤ (t.regions.slot k).target + (t.regions.slot k).len := by
  rw [Region.Admits, Region.OwnsTarget, Region.contains_iff, t.regions.get_targetBase,
    t.regions.get_windowLen]
  constructor
  · rintro ⟨hin, hend⟩
    exact ⟨hin, by omega⟩
  · rintro ⟨hin, hend⟩
    exact ⟨hin, by omega⟩

theorem validate_iff_admits :
    t.validate addr len = true ↔ ∃ k, (t.regions.get k).Admits addr.toNat len := by
  rw [validate_iff]
  exact exists_congr fun k => admits_iff.symm

/-- An access that a region admits lies as far into the window range of the region as into its target
range. -/
theorem resolve_of_admits (h : (t.regions.get k).Admits addr.toNat len) :
    ∃ o, t.resolve addr len = .ok o ∧ o.toNat = (t.regions.get k).windowBase.toNat +
      (addr.toNat - (t.regions.get k).targetBase.toNat) := by
  obtain ⟨hin, hend⟩ := admits_iff.1 h
  obtain ⟨o, hres, hoff⟩ := resolve_of_contains hin hend
  have hle := (Region.contains_iff.1 hin).1
  rw [t.regions.get_targetBase] at hle
  refine ⟨o, hres, ?_⟩
  rw [t.regions.get_targetBase, t.regions.get_windowBase]
  omega

theorem resolve_of_invalid (h : t.validate addr len = false) : t.resolve addr len = .error
    (if t.regions.find? addr = none ∧ t.policy = .strict then .unmappedAddress addr
      else .outOfBounds addr len) := by
  unfold resolve
  split
  · rfl
  · simp [h]

/-- Whatever the layout, the policy, the address and the length: an access resolves exactly if it is valid,
and this exactly if a region admits it. No other region does then, the lookup finds this one in whatever order
it goes through the regions, and the access lies as far into the region's slot of the window as into its target
range. All other accesses are refused: under the strict policy as unmapped if their address belongs to neither
of the small regions and lies below DRAM, and otherwise as out of bounds, with their own length. -/
theorem resolve_exactly (t : Translator) (addr : TargetAddr) (len : Nat) :
    let unclaimed := t.policy = .strict ∧ ¬ t.regions.bootRom.OwnsTarget addr.toNat ∧
      ¬ t.regions.clint.OwnsTarget addr.toNat ∧ addr.toNat < 0x80000000
    ((∃ o, t.resolve addr len = .ok o) ↔ t.validate addr len = true) ∧
    (t.validate addr len = true ↔ ∃ r ∈ t.regions.regions, r.Admits addr.toNat len) ∧
    (∀ r ∈ t.regions.regions, r.Admits addr.toNat len →
      (∀ r' ∈ t.regions.regions, r'.Admits addr.toNat len → r' = r) ∧
      t.regions.find? addr = some r ∧
      (∀ order : List RegionKind, order.Perm RegionKind.all → t.regions.findIn? order addr = some r) ∧
      ∃ o, t.resolve addr len = .ok o ∧
        o.toNat = r.windowBase.toNat + (addr.toNat - r.targetBase.toNat) ∧
        r.windowBase.toNat ≤ o.toNat ∧ o.toNat + len ≤ r.windowBase.toNat + r.windowLen.toNat) ∧
    (t.validate addr len = false →
      (unclaimed ∧ t.resolve addr len = .error (.unmappedAddress addr)) ∨
      (¬ unclaimed ∧ t.resolve addr len = .error (.outOfBounds addr len))) := by
  intro unclaimed
  have hunclaimed : unclaimed ↔ t.regions.find? addr = none ∧ t.policy = .strict := by
    rw [RegionMap.find?_eq_none_iff, and_comm]
  refine ⟨?_, ?_, ?_, ?_⟩
  · constructor
    · rintro ⟨o, hres⟩
      cases hvalid : t.validate addr len with
      | true => rfl
      | false =>
        rw [resolve_of_invalid hvalid] at hres
        cases hres
    · intro hvalid
      obtain ⟨k, hk⟩ := validate_iff_admits.1 hvalid
      obtain ⟨o, hres, -⟩ := resolve_of_admits hk
      exact ⟨o, hres⟩
  · rw [RegionMap.exists_mem_regions_iff, validate_iff_admits]
  · intro r hr hr_admits
    obtain ⟨k, rfl⟩ := RegionMap.mem_regions_iff.1 hr
    have hfind := RegionMap.find?_of_contains (admits_iff.1 hr_admits).1
    obtain ⟨o, hres, hoff⟩ := resolve_of_admits hr_admits
    refine ⟨?_, hfind, ?_, o, hres, hoff, ?_, ?_⟩
    · intro r' hr' hr'_admits
      obtain ⟨k', rfl⟩ := RegionMap.mem_regions_iff.1 hr'
      rw [RegionMap.kind_eq_of_ownsTarget hr_admits.1 hr'_admits.1]
    · intro order horder
      rw [RegionMap.findIn?_of_perm horder, hfind]
    · omega
    · have hend := hr_admits.2
      omega
  · intro hinvalid
    rw [resolve_of_invalid hinvalid, hunclaimed]
    by_cases h : t.regions.find? addr = none ∧ t.policy = .strict
    · exact .inl ⟨h, by rw [if_pos h]⟩
    · exact .inr ⟨h, by rw [if_neg h]⟩

end Translator

end TargetLink
