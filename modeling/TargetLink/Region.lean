import TargetLink.Address

/-!
# Regions

A region is a range of target addresses with the range of window offsets that backs it. The window
may back only the beginning of the target range: the interruptor's 64 KiB sit in a slot of 8 KiB.
-/

namespace TargetLink

/-- The three regions of the target. -/
inductive RegionKind where
  /-- Boot ROM with the reset vector and the wait loop. -/
  | bootRom
  /-- Core-local interruptor, whose first word starts the target. -/
  | clint
  /-- Main memory. -/
  | dram
  deriving DecidableEq, Repr, Inhabited

namespace RegionKind

/-- All kinds, in the order in which an address is looked up. -/
def all : List RegionKind :=
  [.bootRom, .clint, .dram]

/-- The name shown to the user. -/
def name : RegionKind → String
  | .bootRom => "bootrom"
  | .clint => "clint"
  | .dram => "dram"

/-- The kind with the name it has in debug text. -/
def debugText : RegionKind → String
  | .bootRom => "BootRom"
  | .clint => "Clint"
  | .dram => "Dram"

instance : ToString RegionKind :=
  ⟨name⟩

end RegionKind

/-- A range of target addresses and its place in the window. -/
structure Region where
  /-- Which region it is. -/
  kind : RegionKind
  /-- The first target address. -/
  targetBase : TargetAddr
  /-- The number of target addresses. -/
  targetLen : UInt64
  /-- The window offset of the first byte. -/
  windowBase : WindowOffset
  /-- The number of bytes that the window backs. -/
  windowLen : UInt64
  deriving DecidableEq, Repr

namespace Region

variable (r : Region)

/-- One past the last target address. -/
def targetEnd : TargetAddr :=
  r.targetBase + r.targetLen.toNat

/-- The address lies in the target range. -/
def contains (addr : TargetAddr) : Bool :=
  match addr.distance? r.targetBase with
  | some delta => delta < r.targetLen
  | none => false

/-- The `len` bytes from `addr` on lie in the target range; of no bytes, their address has to. -/
def containsRange (addr : TargetAddr) (len : Nat) : Bool :=
  r.contains addr &&
    match addr.distance? r.targetBase with
    | some delta =>
      match Word.add? delta len with
      | some past => past ≤ r.targetLen
      | none => false
    | none => false

/-- The window offset that stands for `addr` if the address belongs to the region. Nothing is said
about the upper end of either range. -/
def offsetOf? (addr : TargetAddr) : Option WindowOffset :=
  match addr.distance? r.targetBase with
  | some delta => r.windowBase.add? delta.toNat
  | none => none

/-- The two regions share a target address or a window offset. -/
def overlaps (r s : Region) : Bool :=
  let target :=
    r.targetBase.val < Word.addOrMax s.targetBase.val s.targetLen.toNat &&
      s.targetBase.val < Word.addOrMax r.targetBase.val r.targetLen.toNat
  let window :=
    r.windowBase.val < Word.addOrMax s.windowBase.val s.windowLen.toNat &&
      s.windowBase.val < Word.addOrMax r.windowBase.val r.windowLen.toNat
  target || window

/-- One line that says where the region lies: the name in eight columns, the window range and the
first target address in at least eight digits. -/
instance : ToString Region where
  toString r :=
    let name := r.kind.name
    let windowEnd := Word.addOrMax r.windowBase.val r.windowLen.toNat
    name ++ String.ofList (List.replicate (8 - name.length) ' ') ++ " window " ++
      hexPadded 8 r.windowBase.toNat ++ ".." ++ hexPadded 8 windowEnd.toNat ++ " -> target " ++
      hexPadded 8 r.targetBase.toNat

end Region

end TargetLink
