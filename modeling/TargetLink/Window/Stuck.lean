import TargetLink.Window.Basic

/-!
# Stuck bytes

Faulty memory: some bytes always read as a fixed value, whatever is stored into them. The stores
themselves reach the memory underneath.
-/

namespace TargetLink

/-- The indexes whose bytes are stuck, each with the value that it reads as. A later entry for an
index outdoes an earlier one. -/
abbrev StuckBytes := List (Nat × UInt8)

/-- The bytes at `start` and behind it as they read through the stuck ones. -/
def StuckBytes.overlay (stuck : StuckBytes) (start : Nat) (bytes : List UInt8) : List UInt8 :=
  stuck.foldl (fun bytes (i, v) => if start ≤ i then bytes.set (i - start) v else bytes) bytes

/-- A window with stuck bytes. -/
structure StuckWindow (ω : Type) where
  /-- The window underneath. -/
  inner : ω
  /-- The stuck bytes. -/
  stuck : StuckBytes

instance {ω : Type} [Window ω] : Window (StuckWindow ω) where
  size w := Window.size w.inner
  read w offset len := (w.stuck.overlay offset.toNat ·) <$> Window.read w.inner offset len
  write w offset bytes := ({ w with inner := · }) <$> Window.write w.inner offset bytes
  zero w offset len := ({ w with inner := · }) <$> Window.zero w.inner offset len
  barrier w := { w with inner := Window.barrier w.inner }

end TargetLink
