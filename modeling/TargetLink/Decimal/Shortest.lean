import TargetLink.Decimal.Binary64

/-!
# The shortest decimal number

A binary number is shown by the decimal number with the fewest digits that reads back as it. Of two
with so few digits the nearer one is taken, and of two equally near ones the greater. The text is
always positional: it has no exponent.
-/

namespace TargetLink

namespace Binary64

/-- The decimal number that reads back as the rank, among the two multiples of a power of ten next
to the rank's magnitude: the nearer one if both do. -/
def decimalAt? (rank : Nat) (exponent : Int) : Option Decimal :=
  let (num, den) :=
    match exponent with
    | .ofNat n => (units rank, Nat.pow 10 n <<< 1074)
    | .negSucc n => (units rank * Nat.pow 10 (n + 1), 1 <<< 1074)
  let below : Decimal := ⟨num / den, exponent⟩
  let above : Decimal := ⟨num / den + 1, exponent⟩
  let candidates := if 2 * (num % den) < den then [below, above] else [above, below]
  candidates.find? fun d => rankOfDecimal d = rank

/-- The shortest decimal number of a finite magnitude. The greatest power of ten that has one gives
the fewest digits; the powers from `10^310` down to `10^-340` are enough for the format. -/
def shortest (rank : Nat) : Decimal :=
  if rank = 0 then ⟨0, 0⟩
  else
    let exponents := (List.range 651).map fun n => 310 - Int.ofNat n
    (exponents.findSome? (decimalAt? rank)).getD ⟨0, 0⟩

end Binary64

namespace Decimal

/-- The number without an exponent. -/
def positional (d : Decimal) : String :=
  let digits := Nat.toDigits 10 d.digits
  match d.exponent with
  | .ofNat n => String.ofList (digits ++ List.replicate n '0')
  | .negSucc n =>
    let places := n + 1
    let padded := List.replicate (places + 1 - digits.length) '0' ++ digits
    let whole := padded.length - places
    String.ofList (padded.take whole ++ '.' :: padded.drop whole)

end Decimal

namespace Binary64

/-- The shortest text that reads back as the number. -/
instance : ToString Binary64 where
  toString x :=
    (if x.negative then "-" else "") ++
      if x.rank = infinity then "inf" else (shortest x.rank).positional

end Binary64

end TargetLink
