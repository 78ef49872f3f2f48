import TargetLink.Word

/-!
# The fixed layout

Where the three target regions lie in the target's address space, and how far from the top of the
window the two small ones are placed. DRAM takes the window's lower end, so its default size is
whatever the reserved top leaves.
-/

namespace TargetLink.Layout

/-- First target address of the boot ROM. -/
def bootRomBase : UInt64 := 0x1000

/-- Bytes of the boot ROM. -/
def bootRomSize : UInt64 := 0x2000

/-- First target address of the core-local interruptor. -/
def clintBase : UInt64 := 0x2000000

/-- Bytes of the interruptor in target address space. The window backs the first
`clintFromTop` of them. -/
def clintSize : UInt64 := 0x10000

/-- Target address of the word that raises the software interrupt of hart 0. -/
def msipAddr : UInt64 := clintBase

/-- Bytes of that word. -/
def msipWidth : UInt64 := 4

/-- First target address of DRAM. -/
def dramBase : UInt64 := 0x80000000

/-- Bytes at the top of the window that hold the boot ROM and the interruptor. -/
def reservedTop : UInt64 := 0x4000

/-- Distance of the boot ROM's slot from the end of the window. -/
def bootRomFromTop : UInt64 := 0x4000

/-- Distance of the interruptor's slot from the end of the window, and the slot's length. -/
def clintFromTop : UInt64 := 0x2000

/-- Window offset of DRAM. -/
def dramWindowOffset : UInt64 := 0

/-- Bytes of the window when none are asked for. -/
def defaultWindowSize : UInt64 := 0x40000000

/-- Every chunk request starts and ends at a multiple of this. -/
def chunkAlign : Nat := 8

/-- The longest chunk request. -/
def chunkMaxSize : Nat := 0x100000

/-- The DRAM that fills a window below the reserved top, if the window holds the top. -/
def defaultDramSize? (windowSize : UInt64) : Option UInt64 :=
  Word.sub? windowSize reservedTop

end TargetLink.Layout
