import TargetLink.Decimal.Numeral

/-!
# Binary numbers of 64 bits

The numbers of the binary format with 64 bits, infinities included. All magnitudes of the format are
counted upwards from zero, and a number is a sign with the `rank` of its magnitude: below rank
`2^53` the magnitudes are `2^-1074` apart, and every further `2^52` ranks the distance doubles.
-/

namespace TargetLink

/-- A number of the binary format with 64 bits, or an infinity. -/
structure Binary64 where
  /-- The sign is a minus. -/
  negative : Bool
  /-- How many magnitudes of the format are less. -/
  rank : Nat
  deriving DecidableEq, Repr

namespace Binary64

/-- The rank behind all finite magnitudes. -/
def infinity : Nat := 0x7FF0000000000000

/-- A quotient rounded to the nearest natural number, a half to the even neighbour. -/
def roundDiv (num den : Nat) : Nat :=
  let rest := 2 * (num % den)
  if rest < den ∨ (rest = den ∧ num / den % 2 = 0) then num / den else num / den + 1

/-- The rank of the magnitude nearest to a quotient. Of two that are equally near, the one of even
rank wins. -/
def rankOfQuotient (num den : Nat) : Nat :=
  let scaled := num <<< 1074
  let doublings := (scaled / den).log2 - 52
  min infinity (doublings <<< 52 + roundDiv scaled (den <<< doublings))

/-- The rank of the magnitude nearest to a decimal number. Numbers from `10^310` on are infinite,
and numbers below `10^-330` are zero. -/
def rankOfDecimal (d : Decimal) : Nat :=
  let order := (Nat.toDigits 10 d.digits).length + d.exponent
  if d.digits = 0 ∨ order < -330 then 0
  else if 310 < order then infinity
  else
    match d.exponent with
    | .ofNat n => rankOfQuotient (d.digits * Nat.pow 10 n) 1
    | .negSucc n => rankOfQuotient d.digits (Nat.pow 10 (n + 1))

/-- The distance of the magnitudes around a rank is `2^-1074`, doubled so many times. -/
def doublings (rank : Nat) : Nat :=
  rank >>> 52 - 1

/-- The magnitude of a finite rank, counted in units of `2^-1074`. -/
def units (rank : Nat) : Nat :=
  (rank - doublings rank <<< 52) <<< doublings rank

/-- Numbers in their order; both zeros are equal. -/
def key (x : Binary64) : Int :=
  if x.negative then -(x.rank : Int) else x.rank

/-- Reads a number behind at most one sign: a decimal number, or the name of an infinity in any
case. -/
def read? (cs : List Char) : Option Binary64 :=
  let (negative, cs) := Numeral.splitSign cs
  let names : List (List Char) := ["inf".toList, "infinity".toList]
  if names.contains (cs.map Char.toLower) then some ⟨negative, infinity⟩
  else (Numeral.decimal? cs).map fun d => ⟨negative, rankOfDecimal d⟩

end Binary64

end TargetLink
