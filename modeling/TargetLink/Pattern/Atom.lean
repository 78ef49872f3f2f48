import TargetLink.Text.Blank
import TargetLink.Text.Digit

/-!
# The smallest parts of a pattern

A pattern is a regular expression. Its smallest parts are characters, written as they are or behind
a backslash, the point, classes such as `\d`, and edges such as `^`. Which of them a pattern can
use depends on its flags: patterns are matched byte by byte, without tables of Unicode properties,
and on well-formed UTF-8 only.
-/

namespace TargetLink.Pattern

/-- The flags in force at a place of a pattern that bear on what may stand there. -/
structure Flags where
  /-- `u`: the pattern is about characters and not about bytes. -/
  unicode : Bool := true
  /-- `i`: the case of letters does not count. -/
  caseless : Bool := false
  /-- `x`: blanks and comments between the parts do not count. -/
  spaced : Bool := false
  deriving DecidableEq, Repr

/-- The text behind blanks and comments; `inComment` tells that it starts in a comment, which lasts
to the end of the line. -/
def dropSpace (inComment : Bool) : List Char → List Char
  | [] => []
  | c :: cs =>
    if inComment then dropSpace (c != '\n') cs
    else if isBlank c then dropSpace false cs
    else if c = '#' then dropSpace true cs
    else c :: cs

/-- The text behind what does not count. -/
def Flags.skip (flags : Flags) (cs : List Char) : List Char :=
  if flags.spaced then dropSpace false cs else cs

/-- Characters, one by one or in ranges, can stand in a set: where the case of letters does not
count, that would take tables. -/
def Flags.allowsChars (flags : Flags) : Bool :=
  !(flags.unicode && flags.caseless)

/-- A set can have a class of characters of ASCII, or of all other characters. Sets of bytes have
bytes of ASCII only, so that they do not split a character. -/
def Flags.allowsClass (flags : Flags) (negated : Bool) : Bool :=
  flags.allowsChars && (flags.unicode || !negated)

/-- The smallest parts of a pattern. -/
inductive Atom where
  /-- A character. -/
  | char (c : Char)
  /-- A character by a number of two hexadecimal digits, or the byte of that number. -/
  | code (n : Nat)
  /-- Any character of a line. -/
  | any
  /-- Digits, blanks or word characters, or all others. -/
  | class (negated : Bool)
  /-- An end of the text or of a line. -/
  | edge
  /-- An edge of a word, or a place that is none. -/
  | wordEdge
  deriving DecidableEq, Repr

namespace Atom

/-- Reads so many hexadecimal digits, which follow those of `value`. -/
def hex? (flags : Flags) (value : Nat) : Nat → List Char → Option (Nat × List Char)
  | 0, cs => some (value, cs)
  | n + 1, cs =>
    match flags.skip cs with
    | [] => none
    | c :: cs => (digitValue? 16 c).bind fun d => hex? flags (16 * value + d) n cs

/-- The control characters that have a letter of their own. -/
def controls : List (Char × Nat) :=
  [('a', 0x07), ('f', 0x0C), ('t', 0x09), ('n', 0x0A), ('r', 0x0D), ('v', 0x0B)]

/-- Reads what follows a backslash. Besides the letters with a meaning, every character of ASCII
that is neither a letter nor a digit stands for itself. -/
def escape? (flags : Flags) : List Char → Option (Atom × List Char)
  | [] => none
  | c :: cs =>
    let char? (digits : Nat) : Option (Atom × List Char) :=
      match hex? flags 0 digits cs with
      | some (n, rest) => if n.isValidChar then some (.char (Char.ofNat n), rest) else none
      | none => none
    if c = 'x' then (hex? flags 0 2 cs).map fun (n, rest) => (.code n, rest)
    else if c = 'u' then char? 4
    else if c = 'U' then char? 8
    else if ['d', 's', 'w'].contains c then some (.class false, cs)
    else if ['D', 'S', 'W'].contains c then some (.class true, cs)
    else if ['b', 'B', '<', '>'].contains c then some (.wordEdge, cs)
    else if ['A', 'z'].contains c then some (.edge, cs)
    else
      match controls.lookup c with
      | some n => some (.char (Char.ofNat n), cs)
      | none => if c.isAlphanum ∨ 0x80 ≤ c.toNat then none else some (.char c, cs)

/-- Reads a part outside of sets. -/
def read? (flags : Flags) : List Char → Option (Atom × List Char)
  | [] => none
  | '\\' :: cs => escape? flags cs
  | '.' :: cs => some (.any, cs)
  | '^' :: cs => some (.edge, cs)
  | '$' :: cs => some (.edge, cs)
  | c :: cs => some (.char c, cs)

/-- Reads a part of a set, where only the backslash is special. -/
def readInSet? (flags : Flags) : List Char → Option (Atom × List Char)
  | [] => none
  | '\\' :: cs => escape? flags cs
  | c :: cs => some (.char c, cs)

/-- The part can stand outside of sets. Characters whose case does not count, word edges and named
classes of characters would take tables; what is about bytes must not split a character. -/
def isAllowed (flags : Flags) : Atom → Bool
  | .char _ => flags.allowsChars
  | .code n => flags.allowsChars && (flags.unicode || n < 0x80)
  | .any => flags.unicode
  | .class negated => !flags.unicode && !negated
  | .edge => true
  | .wordEdge => !flags.unicode

/-- The part can stand in a set. -/
def isAllowedInSet (flags : Flags) : Atom → Bool
  | .char c => flags.allowsChars && (flags.unicode || c.toNat < 0x80)
  | .code n => flags.allowsChars && (flags.unicode || n < 0x80)
  | .class negated => !flags.unicode && !negated
  | .any | .edge | .wordEdge => false

/-- The number of a character, for parts that are one. -/
def point? : Atom → Option Nat
  | .char c => some c.toNat
  | .code n => some n
  | _ => none

end Atom

end TargetLink.Pattern
