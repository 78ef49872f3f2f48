import TargetLink.SelfTest.Plan
import TargetLink.Transfer

/-!
# Running the self-test

Each range is filled with its pattern, read back, cleared, and read back again. The test ends at the
first request that fails and at the first byte that reads otherwise than it was written.
-/

namespace TargetLink

/-- Why the self-test failed. -/
inductive SelfTestError where
  /-- A request was refused. -/
  | transport (cause : LinkError)
  /-- A byte reads otherwise than it was written. -/
  | mismatch (region : RegionKind) (addr : TargetAddr) (expected found : UInt8)
  deriving DecidableEq, Repr

/-- What is wrong, in words. -/
def SelfTestError.message : SelfTestError → String
  | .transport cause => cause.message
  | .mismatch region addr expected found =>
    region.name ++ " at " ++ toString addr ++ ": wrote " ++ hexPadded 2 expected.toNat ++
      ", read " ++ hexPadded 2 found.toNat

namespace SelfTest

/-- The first index at which two byte lists differ, with both bytes. -/
def firstDifference? (expected found : List UInt8) : Option (Nat × UInt8 × UInt8) :=
  go 0 expected found
where
  /-- The search from index `i` on. -/
  go (i : Nat) : List UInt8 → List UInt8 → Option (Nat × UInt8 × UInt8)
    | e :: es, f :: fs => if e = f then go (i + 1) es fs else some (i, e, f)
    | _, _ => none

/-- Fails unless a range reads as expected. -/
def compare (range : TestRange) (expected found : List UInt8) : Except SelfTestError Unit :=
  match firstDifference? expected found with
  | none => .ok ()
  | some (i, e, f) => .error (.mismatch range.region (range.addr + i) e f)

variable {σ : Type} [ChunkMemory σ]

/-- Tests one range. -/
def check (range : TestRange) : Action SelfTestError σ Unit := do
  let bytes := pattern range.seed range.len
  Action.emit (.patternWriting range.addr)
  Action.mapError .transport (Transfer.write range.addr bytes)
  let found ← Action.mapError .transport (Transfer.read range.addr range.len)
  Action.ofExcept (compare range bytes found)
  Action.emit (.rangeClearing range.addr)
  Action.mapError .transport (Transfer.clear range.addr range.len)
  let found ← Action.mapError .transport (Transfer.read range.addr range.len)
  Action.ofExcept (compare range (List.replicate range.len 0) found)

/-- Tests ranges in order. -/
def run : List TestRange → Action SelfTestError σ SelfTestReport
  | [] => return ⟨[]⟩
  | range :: ranges => do
    check range
    Action.emit (.rangePassed range)
    let report ← run ranges
    return ⟨range :: report.ranges⟩

end SelfTest

end TargetLink
