import TargetLink.Text.Hex
import TargetLink.Word

/-!
# Target addresses and window offsets

A `TargetAddr` is a place in the remote core's address space, a `WindowOffset` a place in the window
through which the host reaches it. Both are 64-bit words, and the two are never mixed: only a region
turns one into the other.

`a + n` wraps around at the end of the address space; `add?` refuses to.
-/

namespace TargetLink

/-- An address in the remote core's physical address space. -/
structure TargetAddr where
  /-- The address as a word. -/
  val : UInt64
  deriving DecidableEq, Repr, Inhabited

namespace TargetAddr

/-- The address as a number. -/
def toNat (a : TargetAddr) : Nat :=
  a.val.toNat

/-- The address `n` bytes on, around the end of the address space if need be. -/
instance : HAdd TargetAddr Nat TargetAddr :=
  ⟨fun a n => ⟨a.val + UInt64.ofNat n⟩⟩

/-- The address `n` bytes on, if the address space holds it. -/
def add? (a : TargetAddr) (n : Nat) : Option TargetAddr :=
  (Word.add? a.val n).map TargetAddr.mk

/-- The distance from `base` up to the address, if it does not lie below. -/
def distance? (a base : TargetAddr) : Option UInt64 :=
  Word.sub? a.val base.val

/-- The greatest multiple of a power of two that is not above the address. -/
def alignDown? (a : TargetAddr) (alignment : UInt64) : Option TargetAddr :=
  if Word.isPowerOfTwo alignment then some ⟨a.val &&& ~~~(alignment - 1)⟩ else none

/-- The address in hexadecimal. -/
instance : ToString TargetAddr :=
  ⟨fun a => hex a.toNat⟩

/-- The address with its kind spelled out. -/
def debugText (a : TargetAddr) : String :=
  "Taddr(" ++ toString a ++ ")"

/-- Addresses are ordered as their words. -/
instance : Ord TargetAddr :=
  ⟨fun a b => compare a.val b.val⟩

/-- A step of `n` bytes moves the number by `n`, modulo the size of the address space. -/
theorem toNat_add (a : TargetAddr) (n : Nat) : (a + n).toNat = (a.toNat + n) % UInt64.size := by
  change (a.val + UInt64.ofNat n).toNat = _
  simp only [UInt64.toNat_add, UInt64.toNat_ofNat', toNat, UInt64.size]
  omega

end TargetAddr

/-- An offset into the window; offset 0 is the window's first byte. -/
structure WindowOffset where
  /-- The offset as a word. -/
  val : UInt64
  deriving DecidableEq, Repr, Inhabited

namespace WindowOffset

/-- The window's first byte. -/
def zero : WindowOffset :=
  ⟨0⟩

/-- The offset as a number. -/
def toNat (o : WindowOffset) : Nat :=
  o.val.toNat

/-- The offset `n` bytes on, if it is still a word. -/
def add? (o : WindowOffset) (n : Nat) : Option WindowOffset :=
  (Word.add? o.val n).map WindowOffset.mk

/-- The offset in hexadecimal behind a plus sign. -/
instance : ToString WindowOffset :=
  ⟨fun o => "+" ++ hex o.toNat⟩

/-- The offset with its kind spelled out. -/
def debugText (o : WindowOffset) : String :=
  "WindowOffset(" ++ hex o.toNat ++ ")"

/-- Offsets are ordered as their words. -/
instance : Ord WindowOffset :=
  ⟨fun a b => compare a.val b.val⟩

end WindowOffset

end TargetLink
