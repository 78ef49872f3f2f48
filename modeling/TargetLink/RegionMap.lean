import TargetLink.Layout
import TargetLink.Region

/-!
# Region maps

A `RegionMap` places the three regions into a window: DRAM at its lower end, boot ROM and
interruptor in its top 16 KiB. The two sizes determine everything, and a map exists only for sizes
that fit, so every map has its regions where they belong.

`RegionMap.place` is the only way in: it accepts exactly the sizes that fit and otherwise says what
is wrong.
-/

namespace TargetLink

open Layout

/-- Why two sizes make no layout. -/
inductive LayoutError where
  /-- The window does not hold the reserved top. -/
  | windowTooSmall (windowSize : UInt64)
  /-- DRAM would have no bytes. -/
  | dramEmpty
  /-- DRAM would run into the boot ROM's slot or past the address space. -/
  | dramTooLarge (dramSize limit : UInt64)
  deriving DecidableEq, Repr

/-- What is wrong, in words. -/
def LayoutError.message : LayoutError → String
  | .windowTooSmall windowSize =>
    "window size " ++ hex windowSize.toNat ++ " is smaller than the reserved " ++
      hex reservedTop.toNat ++ " bytes"
  | .dramEmpty => "DRAM size must be non-zero"
  | .dramTooLarge dramSize limit =>
    "DRAM size " ++ hex dramSize.toNat ++ " exceeds the " ++ hex limit.toNat ++
      " bytes available below the boot ROM"

/-- The three regions in a window of a given size. -/
structure RegionMap where
  /-- Bytes of the window. -/
  windowSize : UInt64
  /-- Bytes of DRAM. -/
  dramSize : UInt64
  /-- There is DRAM. -/
  dram_pos : 0 < dramSize.toNat
  /-- DRAM and the reserved top fit into the window. -/
  dram_le : dramSize.toNat + reservedTop.toNat ≤ windowSize.toNat
  /-- DRAM ends inside the target's address space. -/
  dram_end : dramBase.toNat + dramSize.toNat < UInt64.size
  deriving DecidableEq

namespace RegionMap

/-- The map for a window of `windowSize` bytes with `dramSize` bytes of DRAM. -/
def place (windowSize dramSize : UInt64) : Except LayoutError RegionMap :=
  match hlimit : defaultDramSize? windowSize with
  | none => .error (.windowTooSmall windowSize)
  | some limit =>
    if hzero : dramSize = 0 then .error .dramEmpty
    else if hlarge : limit < dramSize ∨ Word.add? dramBase dramSize.toNat = none then
      .error (.dramTooLarge dramSize limit)
    else
      .ok {
        windowSize, dramSize
        dram_pos := Nat.pos_of_ne_zero fun h => hzero (UInt64.toNat.inj h)
        dram_le := by
          have hsub := Word.toNat_of_sub?_eq_some hlimit
          have hle : dramSize.toNat ≤ limit.toNat :=
            UInt64.le_iff_toNat_le.1 (UInt64.not_lt.1 fun h => hlarge (.inl h))
          omega
        dram_end := by
          have hadd : ¬ Word.add? dramBase dramSize.toNat = none := fun h => hlarge (.inr h)
          rw [Word.add?_eq_none_iff] at hadd
          omega }

/-- The map in which DRAM fills the window up to the boot ROM's slot. -/
def placeDefault (windowSize : UInt64) : Except LayoutError RegionMap :=
  match defaultDramSize? windowSize with
  | some dramSize => place windowSize dramSize
  | none => .error (.windowTooSmall windowSize)

/-- The map for a window with the DRAM asked for, or with as much as it holds. -/
def placeSized (windowSize : UInt64) : Option UInt64 → Except LayoutError RegionMap
  | some dramSize => place windowSize dramSize
  | none => placeDefault windowSize

variable (m : RegionMap)

/-- The boot ROM, 16 KiB below the end of the window. -/
def bootRom : Region where
  kind := .bootRom
  targetBase := ⟨bootRomBase⟩
  targetLen := bootRomSize
  windowBase := ⟨m.windowSize - bootRomFromTop⟩
  windowLen := bootRomSize

/-- The interruptor, 8 KiB below the end of the window. -/
def clint : Region where
  kind := .clint
  targetBase := ⟨clintBase⟩
  targetLen := clintSize
  windowBase := ⟨m.windowSize - clintFromTop⟩
  windowLen := clintFromTop

/-- DRAM, from the window's first byte on. -/
def dram : Region where
  kind := .dram
  targetBase := ⟨dramBase⟩
  targetLen := m.dramSize
  windowBase := ⟨dramWindowOffset⟩
  windowLen := m.dramSize

/-- The region of a kind. -/
def get : RegionKind → Region
  | .bootRom => m.bootRom
  | .clint => m.clint
  | .dram => m.dram

/-- The three regions, in the order in which an address is looked up. -/
def regions : List Region :=
  RegionKind.all.map m.get

/-- The region that answers for an address. The two small regions answer for their own addresses,
DRAM for every address from its base on, however large it is. -/
def find? (addr : TargetAddr) : Option Region :=
  if m.bootRom.contains addr then some m.bootRom
  else if m.clint.contains addr then some m.clint
  else if dramBase ≤ addr.val then some m.dram
  else none

end RegionMap

end TargetLink
