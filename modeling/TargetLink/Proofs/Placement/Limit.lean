import TargetLink.Proofs.Placement

/-!
# How much DRAM a window takes

Two things bound the DRAM of a layout: the reserved top of the window and the end of the target's address
space. A window takes every size up to the lesser bound and refuses every size above it, but the limit that
a refusal reports is always the first bound. So the reported limit is the real one unless DRAM of that size
would not end inside the address space.
-/

namespace TargetLink.RegionMap

variable {windowSize dramSize d limit : UInt64}

/-- The most DRAM that a window takes: all that the reserved top leaves of it, unless DRAM would end behind
the last address. -/
def maxDram (windowSize : UInt64) : Nat :=
  min (windowSize.toNat - 0x4000) (UInt64.size - 1 - 0x80000000)

/-- Two sizes are placed, or they are refused for one of three reasons, of which the first that applies is
reported. -/
theorem place_cases (windowSize dramSize : UInt64) :
    (windowSize.toNat < 0x4000 ∧
      place windowSize dramSize = .error (.windowTooSmall windowSize)) ∨
    (0x4000 ≤ windowSize.toNat ∧ dramSize.toNat = 0 ∧
      place windowSize dramSize = .error .dramEmpty) ∨
    (∃ limit : UInt64, limit.toNat + 0x4000 = windowSize.toNat ∧ maxDram windowSize < dramSize.toNat ∧
      place windowSize dramSize = .error (.dramTooLarge dramSize limit)) ∨
    (0x4000 ≤ windowSize.toNat ∧ 0 < dramSize.toNat ∧ dramSize.toNat ≤ maxDram windowSize ∧
      ∃ m, place windowSize dramSize = .ok m) := by
  unfold place
  split
  · next hnone => exact .inl ⟨Word.sub?_eq_none_iff.1 hnone, rfl⟩
  · next limit hlimit =>
    have hsum : limit.toNat + 0x4000 = windowSize.toNat := Word.toNat_of_sub?_eq_some hlimit
    split
    · next hzero => exact .inr (.inl ⟨by omega, by rw [hzero]; rfl, rfl⟩)
    · next hzero =>
      have hpos : 0 < dramSize.toNat := Nat.pos_of_ne_zero fun h => hzero (UInt64.toNat.inj h)
      have hlarge : (limit < dramSize ∨ Word.add? Layout.dramBase dramSize.toNat = none) ↔
          maxDram windowSize < dramSize.toNat := by
        rw [UInt64.lt_iff_toNat_lt, Word.add?_eq_none_iff, maxDram,
          show Layout.dramBase.toNat = 0x80000000 from rfl]
        simp only [UInt64.size]
        omega
      split
      · next h => exact .inr (.inr (.inl ⟨limit, hsum, hlarge.1 h, rfl⟩))
      · next h =>
        have hle := Nat.not_lt.1 (fun hlt => h (hlarge.2 hlt))
        exact .inr (.inr (.inr ⟨by omega, hpos, hle, _, rfl⟩))

/-- A window with room for the reserved top takes some DRAM up to its maximum. -/
theorem exists_place_iff_le_maxDram (hwindow : 0x4000 ≤ windowSize.toNat) :
    (∃ m, place windowSize dramSize = .ok m) ↔
      0 < dramSize.toNat ∧ dramSize.toNat ≤ maxDram windowSize := by
  rw [exists_place_iff, maxDram]
  simp only [UInt64.size]
  omega

theorem place_eq_dramTooLarge_iff : place windowSize dramSize = .error (.dramTooLarge d limit) ↔
    d = dramSize ∧ limit.toNat + 0x4000 = windowSize.toNat ∧ maxDram windowSize < dramSize.toNat := by
  rcases place_cases windowSize dramSize with ⟨hsmall, h⟩ | ⟨-, hzero, h⟩ | ⟨limit', hlimit', hlarge, h⟩ |
    ⟨-, -, hle, m, h⟩ <;> rw [h]
  · simp only [Except.error.injEq, reduceCtorEq, false_iff]
    omega
  · simp only [Except.error.injEq, reduceCtorEq, false_iff]
    omega
  · simp only [Except.error.injEq, LayoutError.dramTooLarge.injEq, hlarge, and_true]
    constructor
    · rintro ⟨rfl, rfl⟩
      exact ⟨rfl, hlimit'⟩
    · rintro ⟨rfl, hlimit⟩
      exact ⟨rfl, UInt64.toNat.inj (by omega)⟩
  · simp only [reduceCtorEq, false_iff]
    omega

/-- The size `d` is more than the limit, and the window takes the sizes up to the limit and no others. -/
def RealLimit (windowSize d limit : UInt64) : Prop :=
  limit < d ∧
  (∀ size : UInt64, 1 ≤ size → size ≤ limit → ∃ m, place windowSize size = .ok m) ∧
  ∀ size : UInt64, limit < size → ∃ e, place windowSize size = .error e

/-- What is known of a window that refuses some DRAM as too large. It takes all sizes up to its maximum and
none above. The limit that it reports is what the reserved top leaves of it; every size above the limit is
refused with the same limit. This is the real limit exactly if DRAM of that size ends inside the address
space of the target. -/
theorem limit_of_dramTooLarge (h : place windowSize dramSize = .error (.dramTooLarge d limit)) :
    d = dramSize ∧ limit.toNat + 0x4000 = windowSize.toNat ∧
    (∀ size : UInt64, (∃ m, place windowSize size = .ok m) ↔
      0 < size.toNat ∧ size.toNat ≤ maxDram windowSize) ∧
    (∀ size : UInt64, limit < size →
      place windowSize size = .error (.dramTooLarge size limit)) ∧
    (RealLimit windowSize d limit ↔ 0x80000000 + limit.toNat < UInt64.size) := by
  obtain ⟨rfl, hlimit, hlarge⟩ := place_eq_dramTooLarge_iff.1 h
  have htakes : ∀ size : UInt64, (∃ m, place windowSize size = .ok m) ↔
      0 < size.toNat ∧ size.toNat ≤ maxDram windowSize := fun _ =>
    exists_place_iff_le_maxDram (by omega)
  have hrefuses : ∀ size : UInt64, limit < size →
      place windowSize size = .error (.dramTooLarge size limit) := by
    intro size hsize
    rw [UInt64.lt_iff_toNat_lt] at hsize
    refine place_eq_dramTooLarge_iff.2 ⟨rfl, hlimit, ?_⟩
    unfold maxDram
    omega
  refine ⟨rfl, hlimit, htakes, hrefuses, ?_⟩
  unfold maxDram at hlarge htakes
  simp only [UInt64.size] at hlarge htakes ⊢
  constructor
  · rintro ⟨-, hall, -⟩
    -- The limit itself is a size that the window is said to take.
    refine Nat.not_le.1 fun hpast => ?_
    have hone : 1 ≤ limit := by
      rw [UInt64.le_iff_toNat_le]
      change 1 ≤ limit.toNat
      omega
    have hmax := ((htakes limit).1 (hall limit hone (UInt64.le_refl _))).2
    omega
  · intro hend
    refine ⟨?_, fun size hone hle => (htakes size).2 ?_, fun size hsize => ⟨_, hrefuses size hsize⟩⟩
    · rw [UInt64.lt_iff_toNat_lt]
      omega
    · rw [UInt64.le_iff_toNat_le] at hone hle
      change 1 ≤ size.toNat at hone
      omega

/-- The largest window refuses one byte more of DRAM than the address space holds, and reports a limit that
lies above the refused size. -/
theorem limit_of_dramTooLarge_largest :
    place 0xFFFFFFFFFFFFFFFF 0xFFFFFFFF80000000 =
      .error (.dramTooLarge 0xFFFFFFFF80000000 0xFFFFFFFFFFFFBFFF) ∧
    maxDram 0xFFFFFFFFFFFFFFFF = 0xFFFFFFFF7FFFFFFF ∧
    ¬ RealLimit 0xFFFFFFFFFFFFFFFF 0xFFFFFFFF80000000 0xFFFFFFFFFFFFBFFF := by
  have hrefused : place 0xFFFFFFFFFFFFFFFF 0xFFFFFFFF80000000 =
      .error (.dramTooLarge 0xFFFFFFFF80000000 0xFFFFFFFFFFFFBFFF) :=
    place_eq_dramTooLarge_iff.2 ⟨rfl, by decide, by decide⟩
  obtain ⟨-, -, -, -, hreal⟩ := limit_of_dramTooLarge hrefused
  exact ⟨hrefused, by decide, fun h => absurd (hreal.1 h) (by decide)⟩

end TargetLink.RegionMap
