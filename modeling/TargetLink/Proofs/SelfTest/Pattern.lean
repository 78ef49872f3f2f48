import Mathlib.Algebra.Ring.Periodic
import TargetLink.Proofs.SelfTest.Plan

/-!
# How far a pattern tells positions apart

A byte of a pattern is made of the low byte of its index, spread by an odd factor and moved by the seed, and of
the next byte of the index, laid over it. Each of these steps can be undone. So the bytes of a block of 256 are
all different, bytes at the same place of two blocks are equal only if the blocks are 256 blocks apart, and two
seeds agree nowhere. The pattern repeats after 64 KiB, which is the longest DRAM range of a plan, and not before.
-/

namespace TargetLink.SelfTest

open Function

variable {s t : UInt8} {i j p : Nat}

/-- Two numbers have the same low byte exactly if they are equal modulo 256. -/
theorem lowByte_eq_iff : UInt8.ofNat i = UInt8.ofNat j ↔ i % 256 = j % 256 := by
  rw [UInt8.ofNat_eq_iff_mod_eq_toNat, UInt8.toNat_ofNat']

/-- The factor of the pattern is odd, so it loses nothing. -/
theorem mul_factor_inj {a b : UInt8} : a * 31 = b * 31 ↔ a = b := by
  have hinverse : (31 : UInt8) * 223 = 1 := by decide
  constructor
  · intro h
    calc a = a * 31 * 223 := by rw [UInt8.mul_assoc, hinverse, UInt8.mul_one]
      _ = b * 31 * 223 := by rw [h]
      _ = b := by rw [UInt8.mul_assoc, hinverse, UInt8.mul_one]
  · rintro rfl
    rfl

theorem patternByte_eq_iff_seed : patternByte s i = patternByte t i ↔ s = t := by
  rw [patternByte, patternByte, UInt8.xor_left_inj, UInt8.add_right_inj]

/-- In a block of 256 only the low byte of the index changes. -/
theorem patternByte_eq_iff_of_block (h : i / 256 = j / 256) :
    patternByte s i = patternByte s j ↔ i = j := by
  rw [patternByte, patternByte, h, UInt8.xor_left_inj, UInt8.add_left_inj, mul_factor_inj, lowByte_eq_iff]
  omega

/-- From one block to another, at the same place, only the upper byte of the index changes. -/
theorem patternByte_eq_iff_of_place (h : i % 256 = j % 256) :
    patternByte s i = patternByte s j ↔ i % 65536 = j % 65536 := by
  rw [patternByte, patternByte, lowByte_eq_iff.2 h, UInt8.xor_right_inj, lowByte_eq_iff]
  omega

/-! ## The period -/

theorem periodic_patternByte (s : UInt8) : Periodic (patternByte s) 65536 := by
  intro i
  rw [patternByte_eq_iff_of_place (by omega)]
  omega

theorem periodic_patternByte_iff : Periodic (patternByte s) p ↔ 65536 ∣ p := by
  constructor
  · intro h
    -- 256 periods keep the place in the block, so they consist of whole 64 KiB.
    have hmany : patternByte s (256 * p) = patternByte s 0 := h.nat_mul_eq 256
    rw [patternByte_eq_iff_of_place (by omega)] at hmany
    -- Therefore one period keeps the place, too.
    have hone : patternByte s p = patternByte s 0 := h.eq
    rw [patternByte_eq_iff_of_place (by omega)] at hone
    omega
  · rintro ⟨n, rfl⟩
    rw [Nat.mul_comm]
    exact (periodic_patternByte s).nat_mul n

/-- No shift by less than 64 KiB keeps the pattern. -/
theorem isLeast_period (s : UInt8) : IsLeast { p | 0 < p ∧ Periodic (patternByte s) p } 65536 := by
  refine ⟨⟨by decide, periodic_patternByte s⟩, ?_⟩
  rintro p ⟨hpos, hp⟩
  exact Nat.le_of_dvd hpos (periodic_patternByte_iff.1 hp)

/-- The longest DRAM range of a plan has 64 KiB. -/
theorem isGreatest_dramLen :
    IsGreatest { n | ∃ m, ∃ range ∈ plan m, range.region = .dram ∧ range.len = n } 65536 := by
  constructor
  · let m : RegionMap := ⟨0x14000, 0x10000, by decide, by decide, by decide⟩
    exact ⟨m, _, mem_plan_iff.2 (.inl ⟨by decide, rfl⟩), rfl, by decide⟩
  · rintro n ⟨m, range, hrange, hdram, rfl⟩
    rcases mem_plan_cases hrange with ⟨-, hlen, -, -⟩ | ⟨hrom, -, -⟩
    · rw [hlen]
      exact Nat.min_le_right _ _
    · rw [hdram] at hrom
      cases hrom

/-- Whatever the seeds and the indexes: in an aligned block of 256 no byte of a pattern occurs twice, the bytes at
one place of several blocks are equal exactly where the indexes agree modulo 64 KiB, and patterns of different
seeds differ everywhere. So the least period of a pattern is 64 KiB, the length of the longest DRAM range that is
tested in any layout. -/
theorem patternByte_tells_apart (s t : UInt8) (i j : Nat) :
    (i / 256 = j / 256 → (patternByte s i = patternByte s j ↔ i = j)) ∧
    (i % 256 = j % 256 → (patternByte s i = patternByte s j ↔ i % 65536 = j % 65536)) ∧
    (patternByte s i = patternByte t i ↔ s = t) ∧
    IsLeast { p | 0 < p ∧ Periodic (patternByte s) p } 65536 ∧
    IsGreatest { n | ∃ m, ∃ range ∈ plan m, range.region = .dram ∧ range.len = n } 65536 :=
  ⟨patternByte_eq_iff_of_block, patternByte_eq_iff_of_place, patternByte_eq_iff_seed, isLeast_period s,
    isGreatest_dramLen⟩

/-- The last byte of 64 KiB differs from the first one of its block and from the last one of the block before,
and equals the last byte of the next 64 KiB. -/
theorem patternByte_tells_apart_last :
    patternByte 0x11 0xFFFF ≠ patternByte 0x11 0xFF00 ∧
    patternByte 0x11 0xFFFF ≠ patternByte 0x11 0xFEFF ∧
    patternByte 0x11 0xFFFF = patternByte 0x11 0x1FFFF := by
  obtain ⟨hblock, -⟩ := patternByte_tells_apart 0x11 0x11 0xFFFF 0xFF00
  obtain ⟨-, hplace, -⟩ := patternByte_tells_apart 0x11 0x11 0xFFFF 0xFEFF
  obtain ⟨-, hnext, -⟩ := patternByte_tells_apart 0x11 0x11 0xFFFF 0x1FFFF
  exact ⟨mt (hblock (by decide)).1 (by decide), mt (hplace (by decide)).1 (by decide),
    (hnext (by decide)).2 (by decide)⟩

end TargetLink.SelfTest
