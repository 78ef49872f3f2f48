import TargetLink.Region

/-!
# Test ranges

The self-test works on ranges of target memory, each filled with a pattern of its own. The report of
a passing test lists the ranges that passed.
-/

namespace TargetLink

/-- A range of target memory to test. -/
structure TestRange where
  /-- The region that the range belongs to. -/
  region : RegionKind
  /-- The first address. -/
  addr : TargetAddr
  /-- The number of bytes. -/
  len : Nat
  /-- The byte that sets this range's pattern apart from that of others. -/
  seed : UInt8
  deriving DecidableEq, Repr

/-- The range as a record, for the log. -/
def TestRange.debugText (r : TestRange) : String :=
  "TestRange \x7b region: " ++ r.region.debugText ++ ", addr: " ++ r.addr.debugText ++ ", len: " ++
    toString r.len ++ ", seed: " ++ toString r.seed.toNat ++ " \x7d"

/-- What a passing self-test found. -/
structure SelfTestReport where
  /-- The ranges that passed, in order. -/
  ranges : List TestRange
  deriving DecidableEq, Repr

namespace SelfTestReport

/-- The bytes of all ranges together. -/
def bytesChecked (r : SelfTestReport) : Nat :=
  r.ranges.foldr (fun range total => range.len + total) 0

/-- The report as a record, for the log. -/
def debugText (r : SelfTestReport) : String :=
  "SelfTestReport \x7b ranges: [" ++ ", ".intercalate (r.ranges.map TestRange.debugText) ++ "] \x7d"

end SelfTestReport

end TargetLink
