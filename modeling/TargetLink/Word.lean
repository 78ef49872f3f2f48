/-!
# Words that do not wrap

Addresses, offsets and sizes are 64-bit words. Their `+` wraps around; the operations here say what
happens instead where wrapping would be wrong.
-/

namespace TargetLink.Word

/-- The word `n` above `a`, if that is still a word. -/
def add? (a : UInt64) (n : Nat) : Option UInt64 :=
  if a.toNat + n < UInt64.size then some (a + UInt64.ofNat n) else none

/-- The distance from `b` up to `a`, if `a` does not lie below `b`. -/
def sub? (a b : UInt64) : Option UInt64 :=
  if b ≤ a then some (a - b) else none

/-- The word `n` above `a`, or the greatest word if that lies past it. -/
def addOrMax (a : UInt64) (n : Nat) : UInt64 :=
  (add? a n).getD (UInt64.ofNat (UInt64.size - 1))

/-- The word is 2 to some power. -/
def isPowerOfTwo (a : UInt64) : Bool :=
  a != 0 && a &&& (a - 1) == 0

/-- A checked sum, where it exists, is the sum of the numbers. -/
theorem toNat_of_add?_eq_some {a b : UInt64} {n : Nat} (h : add? a n = some b) :
    b.toNat = a.toNat + n := by
  unfold add? at h
  split at h
  · next hlt =>
    cases h
    simp only [UInt64.size] at hlt
    simp only [UInt64.toNat_add, UInt64.toNat_ofNat']
    omega
  · cases h

/-- A checked sum is missing exactly when the sum of the numbers is no word. -/
theorem add?_eq_none_iff {a : UInt64} {n : Nat} :
    add? a n = none ↔ UInt64.size ≤ a.toNat + n := by
  unfold add?
  split <;> simp_all

/-- A checked difference, where it exists, is the difference of the numbers. -/
theorem toNat_of_sub?_eq_some {a b c : UInt64} (h : sub? a b = some c) :
    c.toNat + b.toNat = a.toNat := by
  unfold sub? at h
  split at h
  · next hle =>
    cases h
    rw [UInt64.toNat_sub_of_le _ _ hle]
    have : b.toNat ≤ a.toNat := UInt64.le_iff_toNat_le.1 hle
    omega
  · cases h

/-- A checked difference is missing exactly when the first word lies below the second. -/
theorem sub?_eq_none_iff {a b : UInt64} : sub? a b = none ↔ a.toNat < b.toNat := by
  unfold sub?
  split
  · next h => simpa using UInt64.le_iff_toNat_le.1 h
  · next h => simpa [UInt64.le_iff_toNat_le] using h

end TargetLink.Word
