import TargetLink.Event
import TargetLink.LinkError

/-!
# Translators

A translator maps target addresses to window offsets through a region map. `translate` looks at the
address alone; `validate` says whether a whole access stays in the window and in the region of its
first byte; `resolve` validates and then translates, and is what every data access goes through.

What translating an address reports to the log is a function of the same arguments, kept apart from
its result.
-/

namespace TargetLink

/-- A region map with a policy for addresses outside it. -/
structure Translator where
  /-- The regions. -/
  regions : RegionMap
  /-- What to do with addresses that no region answers for. -/
  policy : UnmappedPolicy
  deriving DecidableEq

namespace Translator

variable (t : Translator)

/-- The window offset of an address. An address that no region answers for is an error under the
strict policy and offset 0 under the other. -/
def translate (addr : TargetAddr) : Except LinkError WindowOffset :=
  match t.regions.find? addr with
  | some region =>
    match region.offsetOf? addr with
    | some offset => .ok offset
    | none => .error (.outOfBounds addr 0)
  | none =>
    match t.policy with
    | .strict => .error (.unmappedAddress addr)
    | .alias => .ok .zero

/-- What translating an address reports. -/
def translateEvents (addr : TargetAddr) : List Event :=
  match t.regions.find? addr, t.policy with
  | none, .alias => [.unmappedAliased addr]
  | _, _ => []

/-- The `len` bytes from `addr` on lie in the window and in the region that answers for `addr`. -/
def validate (addr : TargetAddr) (len : Nat) : Bool :=
  match t.regions.find? addr with
  | none => false
  | some region =>
    match (region.offsetOf? addr).bind (·.add? len) with
    | none => false
    | some past => past.val ≤ t.regions.windowSize && region.containsRange addr len

/-- The window offset of the first byte of a valid access. -/
def resolve (addr : TargetAddr) (len : Nat) : Except LinkError WindowOffset :=
  if t.regions.find? addr = none ∧ t.policy = .strict then .error (.unmappedAddress addr)
  else if t.validate addr len then t.translate addr
  else .error (.outOfBounds addr len)

/-- What resolving an access reports. -/
def resolveEvents (addr : TargetAddr) (len : Nat) : List Event :=
  if t.regions.find? addr = none ∧ t.policy = .strict then []
  else if t.validate addr len then []
  else t.translateEvents addr ++ [.accessRefused addr len]

end Translator

end TargetLink
