/-!
# Digits

The digits of the bases up to sixteen. Letters count in either case.
-/

namespace TargetLink

/-- The value of a digit in a base of at most sixteen. -/
def digitValue? (base : Nat) (c : Char) : Option Nat :=
  let value? : Option Nat :=
    if '0' ≤ c ∧ c ≤ '9' then some (c.toNat - '0'.toNat)
    else if 'a' ≤ c ∧ c ≤ 'f' then some (c.toNat - 'a'.toNat + 10)
    else if 'A' ≤ c ∧ c ≤ 'F' then some (c.toNat - 'A'.toNat + 10)
    else none
  value?.filter (· < base)

/-- A digit's value is less than the base. -/
theorem digitValue?_lt {base d : Nat} {c : Char} (h : digitValue? base c = some d) : d < base := by
  simpa using (Option.filter_eq_some_iff.1 h).2

end TargetLink
