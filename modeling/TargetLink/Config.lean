import TargetLink.OsString
import TargetLink.RegionMap

/-!
# Configuration

A `LinkRequest` is what the user asked for: a device, sizes, and what to do with addresses that no
region answers for. `LinkRequest.resolve` fills in the defaults and places the regions, before any
device is touched. A size that is missing and a size of zero both ask for the default.
-/

namespace TargetLink

open Layout

/-- What a translator does with an address that no region answers for. -/
inductive UnmappedPolicy where
  /-- It is an error. -/
  | strict
  /-- It stands for window offset 0, with a warning. Data accesses are refused all the same. -/
  | alias
  deriving DecidableEq, Repr, Inhabited

namespace UnmappedPolicy

/-- All policies, the default first. -/
def all : List UnmappedPolicy :=
  [.strict, .alias]

/-- The name by which the user asks for the policy. -/
def name : UnmappedPolicy → String
  | .strict => "strict"
  | .alias => "alias"

/-- The policy of a name. -/
def ofName? (name : String) : Option UnmappedPolicy :=
  all.find? (·.name == name)

end UnmappedPolicy

/-- Why a request cannot be met. -/
inductive ConfigError where
  /-- No device is named. -/
  | missingDevice
  /-- The sizes make no layout. -/
  | layout (cause : LayoutError)
  /-- A window has another size than the layout made for it. -/
  | windowSizeMismatch (expected actual : UInt64)
  deriving DecidableEq, Repr

/-- What is wrong, in words. -/
def ConfigError.message : ConfigError → String
  | .missingDevice => "a UIO device path is required (+uio=/dev/uioX)"
  | .layout cause => cause.message
  | .windowSizeMismatch expected actual =>
    "window is " ++ hex actual.toNat ++ " bytes but the layout expects " ++ hex expected.toNat

/-- What the user asked for. -/
structure LinkRequest where
  /-- The device to map. -/
  device : Option OsString
  /-- Bytes of the window. -/
  windowSize : Option UInt64
  /-- Bytes of DRAM. -/
  dramSize : Option UInt64
  /-- What to do with addresses that no region answers for. -/
  policy : UnmappedPolicy
  deriving DecidableEq

/-- What to map, and how. -/
structure LinkPlan where
  /-- The device to map. -/
  device : OsString
  /-- The regions in its window. -/
  regions : RegionMap
  /-- What to do with addresses that no region answers for. -/
  policy : UnmappedPolicy
  deriving DecidableEq

/-- The size asked for, unless it asks for the default. -/
def explicitSize? (size : Option UInt64) : Option UInt64 :=
  size.filter (· ≠ 0)

namespace LinkRequest

variable (r : LinkRequest)

/-- Bytes of the window: what was asked for, or 1 GiB. -/
def effectiveWindowSize : UInt64 :=
  (explicitSize? r.windowSize).getD defaultWindowSize

/-- Bytes of DRAM: what was asked for, or all that the window holds. -/
def effectiveDramSize : Except LayoutError UInt64 :=
  match explicitSize? r.dramSize with
  | some size => .ok size
  | none =>
    match defaultDramSize? r.effectiveWindowSize with
    | some size => .ok size
    | none => .error (.windowTooSmall r.effectiveWindowSize)

/-- The plan for the request. A window too small for a default DRAM size is found before a missing
device, every other fault of the sizes after it. -/
def resolve : Except ConfigError LinkPlan :=
  match r.effectiveDramSize with
  | .error cause => .error (.layout cause)
  | .ok dramSize =>
    match r.device with
    | none => .error .missingDevice
    | some device =>
      match RegionMap.place r.effectiveWindowSize dramSize with
      | .error cause => .error (.layout cause)
      | .ok regions => .ok { device, regions, policy := r.policy }

end LinkRequest

end TargetLink
