/-!
# Numerals

Numbers as people type them, in ASCII digits: natural numbers, integers, and decimal numbers with a
point and an exponent. The readers take the whole text or nothing.
-/

namespace TargetLink

/-- A decimal number without a sign: some digits, scaled by a power of ten. -/
structure Decimal where
  /-- The digits, read as one number. -/
  digits : Nat
  /-- The power of ten by which they are scaled. -/
  exponent : Int
  deriving DecidableEq, Repr

namespace Numeral

/-- The number that a row of digits writes. -/
def valueOf (digits : List Char) : Nat :=
  digits.foldl (fun n c => 10 * n + (c.toNat - '0'.toNat)) 0

/-- Reads one digit or more. -/
def digits? (cs : List Char) : Option Nat :=
  if cs.isEmpty ∨ ¬ cs.all Char.isDigit then none else some (valueOf cs)

/-- Splits off a sign and tells whether it is a minus. -/
def splitSign : List Char → Bool × List Char
  | '-' :: cs => (true, cs)
  | '+' :: cs => (false, cs)
  | cs => (false, cs)

/-- Reads a natural number, behind at most one plus sign. -/
def nat? : List Char → Option Nat
  | '+' :: cs => digits? cs
  | cs => digits? cs

/-- Reads an integer, behind at most one sign. -/
def int? (cs : List Char) : Option Int :=
  let (negative, cs) := splitSign cs
  (digits? cs).map fun n => if negative then -(n : Int) else n

/-- Reads what follows the digits in front of the point: nothing, or the point and more digits. -/
def fraction? : List Char → Option (List Char)
  | [] => some []
  | '.' :: cs => if cs.all Char.isDigit then some cs else none
  | _ :: _ => none

/-- The digits of an exponent from this size on do not count. -/
def exponentCap : Nat := 0x10000

/-- The number that the digits of an exponent write. Digits that would make a great exponent greater
do not count. -/
def exponentValue (digits : List Char) : Nat :=
  digits.foldl (fun n c => if n < exponentCap then 10 * n + (c.toNat - '0'.toNat) else n) 0

/-- Reads what follows the digits: nothing, or the letter `e` in either case and an exponent. -/
def exponent? : List Char → Option Int
  | [] => some 0
  | _ :: cs =>
    let (negative, digits) := splitSign cs
    if digits.isEmpty ∨ ¬ digits.all Char.isDigit then none
    else some (if negative then -(exponentValue digits : Int) else exponentValue digits)

/-- Reads a decimal number without a sign. There has to be a digit before or behind the point. -/
def decimal? (cs : List Char) : Option Decimal :=
  let inNumber (c : Char) : Bool := c != 'e' && c != 'E'
  let number := cs.takeWhile inNumber
  let whole := number.takeWhile Char.isDigit
  match fraction? (number.dropWhile Char.isDigit), exponent? (cs.dropWhile inNumber) with
  | some fraction, some exponent =>
    (digits? (whole ++ fraction)).map fun digits => ⟨digits, exponent - fraction.length⟩
  | _, _ => none

end Numeral

end TargetLink
