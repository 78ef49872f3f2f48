import TargetLink.OsString

/-!
# The form of an argument

What an argument is on the face of it, before anything is known about the options: the separator
`--`, a long option with or without a value, a cluster of short options, or a plain value. A single
dash is a plain value.
-/

namespace TargetLink

/-- An argument by its form. -/
inductive Argument where
  /-- Two dashes and nothing else. -/
  | separator
  /-- A long option with what stands behind its first `=`. -/
  | long (name : OsString) (value : Option OsString)
  /-- Short options behind one dash: the characters, and bytes that are none. -/
  | short (cluster : List Utf8.Piece)
  /-- Anything else. -/
  | plain (value : OsString)
  deriving DecidableEq, Repr

namespace Argument

/-- Splits the text of a long option at its first `=`. -/
def ofLong (text : List UInt8) : Argument :=
  let isName : UInt8 → Bool := (· != 0x3D)
  match text.dropWhile isName with
  | [] => .long ⟨text⟩ none
  | _ :: value => .long ⟨text.takeWhile isName⟩ (some ⟨value⟩)

/-- The form of an argument. -/
def ofOsString (s : OsString) : Argument :=
  match s.bytes with
  | [0x2D, 0x2D] => .separator
  | 0x2D :: 0x2D :: text => ofLong text
  | 0x2D :: b :: rest => .short (Utf8.pieces (b :: rest))
  | _ => .plain s

end Argument

end TargetLink
