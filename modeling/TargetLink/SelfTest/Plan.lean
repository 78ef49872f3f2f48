import TargetLink.RegionMap
import TargetLink.SelfTest.Range

/-!
# What the self-test covers

The test covers both ends of DRAM and the whole boot ROM. It keeps to whole chunks, so that no store
reaches past the end of DRAM, and never touches the interruptor, where a store could start the
target. DRAM that holds no chunk is left out.

`patternByte` is what a range is filled with: bytes that tell positions apart over 64 KiB.
-/

namespace TargetLink.SelfTest

open Layout

/-- The longest DRAM range at either end. -/
def dramCheckLen : UInt64 := 0x10000

/-- Bytes of DRAM in whole chunks. -/
def usableDram (regions : RegionMap) : UInt64 :=
  let base := regions.dram.targetBase
  let past := (regions.dram.targetEnd.alignDown? (UInt64.ofNat chunkAlign)).getD base
  (past.distance? base).getD 0

/-- The ranges to test in a layout. -/
def plan (regions : RegionMap) : List TestRange :=
  let base := regions.dram.targetBase
  let usable := usableDram regions
  let n := min usable dramCheckLen
  let low : List TestRange :=
    if 0 < n then [{ region := .dram, addr := base, len := n.toNat, seed := 0x11 }] else []
  let high : List TestRange :=
    if n < usable then
      [{ region := .dram, addr := ⟨base.val + usable - n⟩, len := n.toNat, seed := 0x5A }]
    else []
  let rom := regions.bootRom
  low ++ high ++
    [{ region := .bootRom, addr := rom.targetBase, len := rom.targetLen.toNat, seed := 0xA5 }]

/-- The byte at an index of a range's pattern. -/
def patternByte (seed : UInt8) (index : Nat) : UInt8 :=
  (UInt8.ofNat index * 31 + seed) ^^^ UInt8.ofNat (index / 256)

/-- The pattern of a range. -/
def pattern (seed : UInt8) (len : Nat) : List UInt8 :=
  (List.range len).map (patternByte seed)

end TargetLink.SelfTest
