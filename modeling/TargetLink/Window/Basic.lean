import TargetLink.LinkError

/-!
# Windows

A window is one contiguous range of bytes that the host shares with the target. Accesses are
addressed by offset and checked against the window's own size, whatever their callers checked
before. A window's own stores become visible to the target in order; `barrier` separates what came
before it from what comes after.
-/

namespace TargetLink

/-- Access to the bytes of a window. -/
class Window (ω : Type) where
  /-- The number of bytes, 0 for a closed window. -/
  size : ω → UInt64
  /-- The `len` bytes from an offset on. -/
  read : ω → WindowOffset → Nat → Except WindowError (List UInt8)
  /-- The window with bytes stored from an offset on. -/
  write : ω → WindowOffset → List UInt8 → Except WindowError ω
  /-- The window with `len` zeros stored from an offset on. -/
  zero : ω → WindowOffset → Nat → Except WindowError ω
  /-- The window with all its stores made visible. -/
  barrier : ω → ω

/-- Refuses a range that does not lie in the first `size` offsets. -/
def checkRange (offset : WindowOffset) (len : Nat) (size : UInt64) : Except WindowError Unit :=
  match offset.add? len with
  | some past => if past.val ≤ size then .ok () else .error (.outOfRange offset len size)
  | none => .error (.outOfRange offset len size)

/-- A range is accepted exactly when it ends inside the window. -/
theorem checkRange_eq_ok_iff {offset : WindowOffset} {len : Nat} {size : UInt64} :
    checkRange offset len size = .ok () ↔ offset.toNat + len ≤ size.toNat := by
  unfold checkRange WindowOffset.add?
  cases h : Word.add? offset.val len with
  | none =>
    have hbig := Word.add?_eq_none_iff.1 h
    have hlt := size.toNat_lt
    simp only [UInt64.size] at hbig
    simp only [Option.map_none, reduceCtorEq, WindowOffset.toNat, false_iff]
    omega
  | some past =>
    have hsum := Word.toNat_of_add?_eq_some h
    simp only [Option.map_some, UInt64.le_iff_toNat_le, hsum, WindowOffset.toNat]
    split <;> simp_all

/-- A range is refused with itself and the size of the window. -/
theorem checkRange_eq_error {offset : WindowOffset} {len : Nat} {size : UInt64}
    (h : size.toNat < offset.toNat + len) :
    checkRange offset len size = .error (.outOfRange offset len size) := by
  have hno : checkRange offset len size ≠ .ok () := fun hok => by
    have := checkRange_eq_ok_iff.1 hok
    omega
  unfold checkRange at hno ⊢
  split <;> simp_all

end TargetLink
