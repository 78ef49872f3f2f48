import TargetLink.Proofs.Slot

/-!
# Where a layout puts the regions

The sizes for which there is a layout, and the layout in natural numbers. The regions of a map lie
apart, in the address space of the target as well as in the window, and none of their ranges reaches
the last word. So no sum in the test for an overlap is cut off, and the test says what it should.
-/

namespace TargetLink

/-- A sum that fits into a word is not cut off. -/
theorem Word.toNat_addOrMax {a : UInt64} {n : Nat} (h : a.toNat + n < UInt64.size) :
    (addOrMax a n).toNat = a.toNat + n := by
  unfold addOrMax
  cases hsum : add? a n with
  | none =>
    have hbig := add?_eq_none_iff.1 hsum
    omega
  | some b => exact toNat_of_add?_eq_some hsum

/-- Ranges that are not empty meet exactly if each begins before the other one ends. -/
theorem ranges_meet_iff {x m y n : Nat} (hm : 0 < m) (hn : 0 < n) :
    (∃ a, (x ≤ a ∧ a < x + m) ∧ y ≤ a ∧ a < y + n) ↔ x < y + n ∧ y < x + m := by
  constructor
  · rintro ⟨a, hx, hy⟩
    omega
  · intro h
    exact ⟨max x y, by omega, by omega⟩

namespace Region

/-- The target address belongs to the region. -/
def OwnsTarget (r : Region) (a : Nat) : Prop :=
  r.targetBase.toNat ≤ a ∧ a < r.targetBase.toNat + r.targetLen.toNat

/-- The window byte belongs to the region. -/
def OwnsWindow (r : Region) (j : Nat) : Prop :=
  r.windowBase.toNat ≤ j ∧ j < r.windowBase.toNat + r.windowLen.toNat

/-- Neither range of the region is empty, and both end before the last word. -/
structure Bounded (r : Region) : Prop where
  target_pos : 0 < r.targetLen.toNat
  target_lt : r.targetBase.toNat + r.targetLen.toNat < UInt64.size
  window_pos : 0 < r.windowLen.toNat
  window_lt : r.windowBase.toNat + r.windowLen.toNat < UInt64.size

/-- The test for an overlap finds out whether two regions share a target address or a byte of the
window. -/
theorem overlaps_iff {r s : Region} (hr : r.Bounded) (hs : s.Bounded) : r.overlaps s = true ↔
    (∃ a, r.OwnsTarget a ∧ s.OwnsTarget a) ∨ ∃ j, r.OwnsWindow j ∧ s.OwnsWindow j := by
  have hrt := Word.toNat_addOrMax hr.target_lt
  have hst := Word.toNat_addOrMax hs.target_lt
  have hrw := Word.toNat_addOrMax hr.window_lt
  have hsw := Word.toNat_addOrMax hs.window_lt
  unfold OwnsTarget OwnsWindow
  rw [ranges_meet_iff hr.target_pos hs.target_pos, ranges_meet_iff hr.window_pos hs.window_pos]
  simp only [overlaps, Bool.or_eq_true, Bool.and_eq_true, decide_eq_true_eq, UInt64.lt_iff_toNat_lt,
    hrt, hst, hrw, hsw]
  rfl

end Region

namespace RegionMap

variable {m : RegionMap} {k k' : RegionKind} {windowSize dramSize : UInt64} {a j : Nat}

/-! ## Which sizes fit -/

/-- Placing finds the map with the two sizes, if there is one. -/
theorem place_eq_ok_iff : place windowSize dramSize = .ok m ↔
    m.windowSize = windowSize ∧ m.dramSize = dramSize := by
  constructor
  · intro h
    unfold place at h
    split at h
    · cases h
    split at h
    · cases h
    split at h
    · cases h
    · cases h
      exact ⟨rfl, rfl⟩
  · rintro ⟨rfl, rfl⟩
    have hpos := m.dram_pos
    have hfit := m.dramSize_add_le
    have hend := m.dramEnd_lt
    unfold place
    split
    · next hnone =>
      have hlt : m.windowSize.toNat < 0x4000 := Word.sub?_eq_none_iff.1 hnone
      omega
    · next limit hlimit =>
      have hlimit' : limit.toNat + 0x4000 = m.windowSize.toNat := Word.toNat_of_sub?_eq_some hlimit
      have hzero : m.dramSize ≠ 0 := by
        intro h
        rw [h] at hpos
        exact absurd hpos (by decide)
      have hroom : ¬ (limit < m.dramSize ∨ Word.add? Layout.dramBase m.dramSize.toNat = none) := by
        rw [UInt64.lt_iff_toNat_lt, Word.add?_eq_none_iff]
        rintro (hlt | hge)
        · omega
        · exact absurd hend (Nat.not_lt.2 hge)
      rw [dif_neg hzero, dif_neg hroom]

/-- There is a map for two sizes exactly if DRAM is not empty, fits below the reserved top of the window
and ends inside the target's address space. -/
theorem exists_place_iff : (∃ m, place windowSize dramSize = .ok m) ↔
    0x4000 ≤ windowSize.toNat ∧ 0 < dramSize.toNat ∧
      dramSize.toNat ≤ windowSize.toNat - 0x4000 ∧ 0x80000000 + dramSize.toNat < UInt64.size := by
  constructor
  · rintro ⟨m, h⟩
    obtain ⟨rfl, rfl⟩ := place_eq_ok_iff.1 h
    have hpos := m.dram_pos
    have hfit := m.dramSize_add_le
    exact ⟨by omega, hpos, by omega, m.dramEnd_lt⟩
  · rintro ⟨hwindow, hpos, hfit, hend⟩
    have hle : dramSize.toNat + 0x4000 ≤ windowSize.toNat := by omega
    exact ⟨⟨windowSize, dramSize, hpos, hle, hend⟩, place_eq_ok_iff.2 ⟨rfl, rfl⟩⟩

theorem windowSize_of_placeDefault (h : placeDefault windowSize = .ok m) :
    m.windowSize = windowSize := by
  unfold placeDefault at h
  split at h
  · exact (place_eq_ok_iff.1 h).1
  · cases h

/-! ## Where the regions lie -/

theorem get_windowLen (m : RegionMap) (k : RegionKind) :
    (m.get k).windowLen.toNat = (m.slot k).len := by
  cases k <;> rfl

/-- A byte of the window belongs to a region exactly if it belongs to the slot of the region. -/
theorem ownsWindow_iff : (m.get k).OwnsWindow j ↔
    (m.slot k).window ≤ j ∧ j < (m.slot k).window + (m.slot k).len := by
  rw [Region.OwnsWindow, get_windowBase, get_windowLen]

theorem slot_len_pos (m : RegionMap) (k : RegionKind) : 0 < (m.slot k).len := by
  cases k with
  | bootRom => exact (by decide : 0 < 0x2000)
  | clint => exact (by decide : 0 < 0x2000)
  | dram => exact m.dram_pos

theorem get_bounded (m : RegionMap) (k : RegionKind) : (m.get k).Bounded where
  target_pos := Nat.lt_of_lt_of_le (m.slot_len_pos k) (m.slot_len_le k)
  target_lt := by
    cases k with
    | bootRom => exact (by decide : 0x1000 + 0x2000 < UInt64.size)
    | clint => exact (by decide : 0x2000000 + 0x10000 < UInt64.size)
    | dram => exact m.dramEnd_lt
  window_pos := by
    rw [get_windowLen]
    exact m.slot_len_pos k
  window_lt := by
    have hslot := m.slot_window_le (k := k)
    have hsize : m.windowSize.toNat < UInt64.size := m.windowSize.toNat_lt
    rw [get_windowBase, get_windowLen]
    omega

theorem ownsTarget_iff : (m.get k).OwnsTarget a ↔ match k with
    | .bootRom => 0x1000 ≤ a ∧ a < 0x3000
    | .clint => 0x2000000 ≤ a ∧ a < 0x2010000
    | .dram => 0x80000000 ≤ a ∧ a < 0x80000000 + m.dramSize.toNat := by
  unfold Region.OwnsTarget
  cases k with
  | bootRom =>
    rw [show (m.get .bootRom).targetBase.toNat = 0x1000 from rfl,
      show (m.get .bootRom).targetLen.toNat = 0x2000 from rfl]
  | clint =>
    rw [show (m.get .clint).targetBase.toNat = 0x2000000 from rfl,
      show (m.get .clint).targetLen.toNat = 0x10000 from rfl]
  | dram =>
    rw [show (m.get .dram).targetBase.toNat = 0x80000000 from rfl,
      show (m.get .dram).targetLen = m.dramSize from rfl]

/-- Two regions share no target address, not even if they belong to different layouts. -/
theorem kind_eq_of_ownsTarget {n : RegionMap} (h : (m.get k).OwnsTarget a)
    (h' : (n.get k').OwnsTarget a) : k = k' := by
  rw [ownsTarget_iff] at h h'
  cases k <;> cases k' <;> first | rfl | (simp only at h h'; omega)

/-- Two regions share no byte of the window. -/
theorem kind_eq_of_ownsWindow (h : (m.get k).OwnsWindow j) (h' : (m.get k').OwnsWindow j) :
    k = k' := by
  rw [ownsWindow_iff] at h h'
  exact kind_eq_of_window (m := m) (i := j - (m.slot k).window) (j := j - (m.slot k').window)
    (by omega) (by omega) (by omega)

/-- The regions lie apart and inside a window of the given size. -/
structure LaidOut (m : RegionMap) (windowSize : UInt64) : Prop where
  target_lt : ∀ k, (m.get k).targetBase.toNat + (m.get k).targetLen.toNat < UInt64.size
  target_apart : ∀ k k' a, (m.get k).OwnsTarget a → (m.get k').OwnsTarget a → k = k'
  window_le : ∀ k, (m.get k).windowBase.toNat + (m.get k).windowLen.toNat ≤ windowSize.toNat
  window_apart : ∀ k k' j, (m.get k).OwnsWindow j → (m.get k').OwnsWindow j → k = k'
  /-- The two small regions fill the top of the window. -/
  top : ∀ j, (m.bootRom.OwnsWindow j ∨ m.clint.OwnsWindow j) ↔
    windowSize.toNat - 0x4000 ≤ j ∧ j < windowSize.toNat
  windowLen_le : ∀ k, (m.get k).windowLen.toNat ≤ (m.get k).targetLen.toNat
  overlaps_eq : ∀ k k', k ≠ k' → (m.get k).overlaps (m.get k') = false

theorem laidOut (m : RegionMap) : m.LaidOut m.windowSize where
  target_lt k := (m.get_bounded k).target_lt
  target_apart k k' a := kind_eq_of_ownsTarget
  window_le k := by
    rw [get_windowBase, get_windowLen]
    exact m.slot_window_le
  window_apart k k' j := kind_eq_of_ownsWindow
  top j := by
    have hfit := m.dramSize_add_le
    change ((m.get .bootRom).OwnsWindow j ∨ (m.get .clint).OwnsWindow j) ↔ _
    rw [ownsWindow_iff, ownsWindow_iff]
    simp only [slot]
    omega
  windowLen_le k := by
    rw [get_windowLen]
    exact m.slot_len_le k
  overlaps_eq k k' hne := by
    refine Bool.eq_false_iff.2 fun h => hne ?_
    rcases (Region.overlaps_iff (m.get_bounded k) (m.get_bounded k')).1 h with
      ⟨a, ha, ha'⟩ | ⟨j, hj, hj'⟩
    · exact kind_eq_of_ownsTarget ha ha'
    · exact kind_eq_of_ownsWindow hj hj'

/-- The sizes for which there is a layout, and what every layout is like, whether it was made for a given
size of DRAM or for as much as the window holds. -/
theorem place_laysOut (windowSize dramSize : UInt64) :
    ((∃ m, place windowSize dramSize = .ok m) ↔
      0x4000 ≤ windowSize.toNat ∧ 0 < dramSize.toNat ∧
        dramSize.toNat ≤ windowSize.toNat - 0x4000 ∧ 0x80000000 + dramSize.toNat < UInt64.size) ∧
    (∀ m, place windowSize dramSize = .ok m → m.dram.targetLen = dramSize) ∧
    ∀ m, place windowSize dramSize = .ok m ∨ placeDefault windowSize = .ok m →
      m.LaidOut windowSize := by
  refine ⟨exists_place_iff, fun m h => (place_eq_ok_iff.1 h).2, ?_⟩
  rintro m (h | h)
  · obtain ⟨rfl, -⟩ := place_eq_ok_iff.1 h
    exact m.laidOut
  · obtain rfl := windowSize_of_placeDefault h
    exact m.laidOut

/-- The largest window, with DRAM up to the last address but one. -/
theorem place_laysOut_largest : ∃ m, place 0xFFFFFFFFFFFFFFFF 0xFFFFFFFF7FFFFFFF = .ok m ∧
    m.LaidOut 0xFFFFFFFFFFFFFFFF := by
  obtain ⟨hiff, -, hlaid⟩ := place_laysOut 0xFFFFFFFFFFFFFFFF 0xFFFFFFFF7FFFFFFF
  obtain ⟨m, h⟩ := hiff.2 (by decide)
  exact ⟨m, h, hlaid m (.inl h)⟩

end RegionMap

end TargetLink
