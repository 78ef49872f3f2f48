import TargetLink.Proofs.Placement

/-!
# Overlaps of two layouts

The test for an overlap adds words and stops at the greatest one. Between regions of layouts this never shows:
each of their ranges holds something and ends before the greatest word, in the address space of the target and
in the window. So the test is exact for any two regions, be it of one layout or of two with different sizes. The
kinds of the regions tell most of the answer, as the address space is divided up in the same way in all layouts.
-/

namespace TargetLink

theorem Region.overlaps_comm (r s : Region) : r.overlaps s = s.overlaps r := by
  simp only [overlaps, Bool.and_comm]

namespace RegionMap

variable {m n : RegionMap} {k k' : RegionKind}

theorem overlaps_get_iff : (m.get k).overlaps (n.get k') = true ↔
    (∃ a, (m.get k).OwnsTarget a ∧ (n.get k').OwnsTarget a) ∨
      ∃ j, (m.get k).OwnsWindow j ∧ (n.get k').OwnsWindow j :=
  Region.overlaps_iff (m.get_bounded k) (n.get_bounded k')

/-- In every layout a region of the kind owns its base, which is the same in all layouts. -/
theorem ownsTarget_base (m n : RegionMap) (k : RegionKind) :
    (m.get k).OwnsTarget (n.get k).targetBase.toNat := by
  have hpos := (m.get_bounded k).target_pos
  have hbase : (n.get k).targetBase = (m.get k).targetBase := by
    cases k <;> rfl
  rw [hbase, Region.OwnsTarget]
  omega

theorem overlaps_of_kind_eq (m n : RegionMap) (k : RegionKind) :
    (m.get k).overlaps (n.get k) = true :=
  overlaps_get_iff.2 (.inl ⟨_, ownsTarget_base m n k, ownsTarget_base n n k⟩)

/-- Regions of different kinds can only meet in the window. -/
theorem overlaps_iff_window (hne : k ≠ k') : (m.get k).overlaps (n.get k') = true ↔
    ∃ j, (m.get k).OwnsWindow j ∧ (n.get k').OwnsWindow j := by
  rw [overlaps_get_iff, or_iff_right]
  rintro ⟨a, ha, ha'⟩
  exact hne (kind_eq_of_ownsTarget ha ha')

/-- Whatever the sizes of two layouts, a region of the one overlaps a region of the other exactly if they share a
target address or a byte of the window, and the order of the two does not matter. No sum that the test forms is
cut off. Regions of one kind always overlap, since they begin at the same target address, while regions of
different kinds do so only in the window. -/
theorem overlaps_exactly (m n : RegionMap) (k k' : RegionKind) :
    let r := m.get k
    let s := n.get k'
    (r.overlaps s = true ↔
      (∃ a, r.OwnsTarget a ∧ s.OwnsTarget a) ∨ ∃ j, r.OwnsWindow j ∧ s.OwnsWindow j) ∧
    s.overlaps r = r.overlaps s ∧
    (Word.addOrMax r.targetBase.val r.targetLen.toNat).toNat =
      r.targetBase.toNat + r.targetLen.toNat ∧
    (Word.addOrMax r.windowBase.val r.windowLen.toNat).toNat =
      r.windowBase.toNat + r.windowLen.toNat ∧
    (k = k' → r.overlaps s = true) ∧
    (k ≠ k' → (r.overlaps s = true ↔ ∃ j, r.OwnsWindow j ∧ s.OwnsWindow j)) := by
  intro r s
  have hbounded : r.Bounded := m.get_bounded k
  refine ⟨overlaps_get_iff, Region.overlaps_comm s r, Word.toNat_addOrMax hbounded.target_lt,
    Word.toNat_addOrMax hbounded.window_lt, ?_, overlaps_iff_window⟩
  rintro rfl
  exact overlaps_of_kind_eq m n k

/-- The boot ROM of a small window lies where a larger window has its DRAM. -/
example : (RegionMap.bootRom ⟨0x5000, 0x1000, by decide, by decide, by decide⟩).overlaps
    (RegionMap.dram ⟨0x6000, 0x2000, by decide, by decide, by decide⟩) = true := by
  decide

end RegionMap

end TargetLink
