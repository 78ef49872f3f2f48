import TargetLink.Text.Blank
import TargetLink.Text.Digit

/-!
# Size texts

Sizes and addresses are typed as numbers in the notation of C: `0x` or `0X` starts a hexadecimal
number, a zero in front of further characters an octal one, anything else is decimal. Blanks around
the number and underscores anywhere do not count, and one plus sign may stand before the digits.
The whole text has to be a number, and the number a word.
-/

namespace TargetLink

/-- Why a text is no size. -/
inductive SizeFault where
  /-- No digits are left to read. -/
  | noDigits
  /-- A character is no digit of the number's base. -/
  | invalidDigit
  /-- The number is no word. -/
  | tooLarge
  deriving DecidableEq, Repr

namespace Size

/-- What is wrong with the text, in words. -/
def faultMessage (text : String) : SizeFault → String
  | .noDigits => "'" ++ text ++ "' is not a number"
  | .invalidDigit => "'" ++ text ++ "': invalid digit found in string"
  | .tooLarge => "'" ++ text ++ "': number too large to fit in target type"

/-- Appends the digits to the number `value`. The first character that is no digit or makes the
number too large decides. -/
def appendDigits (base : Nat) (value : Nat) : List Char → Except SizeFault Nat
  | [] => .ok value
  | c :: cs =>
    match digitValue? base c with
    | none => .error .invalidDigit
    | some d =>
      if value * base + d < UInt64.size then appendDigits base (value * base + d) cs
      else .error .tooLarge

/-- Reads digits behind at most one plus sign. -/
def readDigits (base : Nat) : List Char → Except SizeFault Nat
  | [] => .error .noDigits
  | ['+'] => .error .invalidDigit
  | '+' :: cs => appendDigits base 0 cs
  | cs => appendDigits base 0 cs

/-- The characters of a text that count: without the blanks around it and without underscores. -/
def significant (text : String) : List Char :=
  (trimBlank text.toList).filter (· != '_')

/-- The digits of a number and their base. -/
def splitBase : List Char → List Char × Nat
  | '0' :: 'x' :: cs => (cs, 16)
  | '0' :: 'X' :: cs => (cs, 16)
  | '0' :: c :: cs => (c :: cs, 8)
  | cs => (cs, 10)

/-- The number that a text writes. -/
def read (text : String) : Except SizeFault UInt64 :=
  let (digits, base) := splitBase (significant text)
  (readDigits base digits).map UInt64.ofNat

end Size

end TargetLink
