import TargetLink.LogFilter.FieldFilter
import TargetLink.LogFilter.LevelFilter
import TargetLink.Text.Utf8

/-!
# Directives of a log filter

A directive lets events up to a level pass. It can be narrowed to a target, to a span and to a
field:

    level      target      target=level      target[span{field=value}]=level

The form of a directive is read off its text without the blanks around it. Its parts are then cut
out of the whole text at the places, counted in bytes, that they have in the trimmed one, and the
last part goes on to the end of the whole text. Blanks in front of a directive therefore become a
part of it.
-/

namespace TargetLink

/-- One directive of a filter. -/
structure Directive where
  /-- The target that events must come from. -/
  target : Option String := none
  /-- The span that events must happen in. -/
  span : Option String := none
  /-- The field that must be there. -/
  field : Option FieldFilter := none
  /-- The levels that pass. -/
  level : LevelFilter
  deriving DecidableEq, Repr

namespace Directive

/-- A place of a directive's text. -/
structure Place where
  /-- The byte at this place of the trimmed text, which gives the directive its form. -/
  mark : UInt8
  /-- The byte at this place of the whole text, from which the parts are cut. -/
  byte : UInt8

/-- The places of the trimmed text, and what the whole text has behind the last of them. -/
def places (text : List Char) : List Place × List UInt8 :=
  let trimmed := Utf8.encode (String.ofList (trimBlank text))
  let whole := Utf8.encode (String.ofList text)
  (List.zipWith Place.mk trimmed whole, whole.drop trimmed.length)

/-- The part at some places. There is none if they split a character. -/
def cut? (ps : List Place) : Option String :=
  Utf8.text? (ps.map (·.byte))

/-- The part that starts at some places and takes the rest of the text. -/
def cutToEnd? (ps : List Place) (surplus : List UInt8) : Option String :=
  Utf8.text? (ps.map (·.byte) ++ surplus)

/-- Splits places in front of the first mark of a kind. -/
def splitBefore (stop : UInt8 → Bool) (ps : List Place) : List Place × List Place :=
  (ps.takeWhile (!stop ·.mark), ps.dropWhile (!stop ·.mark))

/-- The mark in front of a level. -/
def equalsSign : UInt8 := 0x3D

/-- The mark in front of a span. -/
def openBracket : UInt8 := 0x5B

/-- The mark behind a span. -/
def closeBracket : UInt8 := 0x5D

/-- The mark in front of a field. -/
def openBrace : UInt8 := 0x7B

/-- The mark behind a field. -/
def closeBrace : UInt8 := 0x7D

/-- The character can begin a target or a level. -/
def isStart (c : Char) : Bool :=
  c == '-' || c == ':' || c == '_' || isAlphanumeric c

/-- Reads what follows the equals sign: nothing means all levels. -/
def readLevel? (text : String) : Option LevelFilter :=
  if text = "" then some (some .trace) else LevelFilter.read? text.toList

/-- A word on its own: a level if it names one, and otherwise a target whose events all pass. -/
def ofWord (text : String) : Directive :=
  match LevelFilter.read? text.toList with
  | some level => { level }
  | none => { target := some text, level := some .trace }

/-- Reads the end of a directive: nothing, or an equals sign and a level. -/
def readEnd? (d : Directive) (surplus : List UInt8) : List Place → Option Directive
  | [] => some d
  | p :: ps =>
    if p.mark = equalsSign then
      ((cutToEnd? ps surplus).bind readLevel?).map fun level => { d with level }
    else none

/-- Reads a condition on a field, which cannot be empty. -/
def readField? (ps : List Place) : Option FieldFilter :=
  ((cut? ps).filter (· ≠ "")).bind (FieldFilter.read? ·.toList)

/-- Reads the rest of a directive behind the opening bracket. -/
def readSpan? (d : Directive) (surplus : List UInt8) (ps : List Place) : Option Directive :=
  let (name, rest) := splitBefore (fun b => b = closeBracket || b = openBrace) ps
  match cut? name, rest with
  | some name, p :: rest =>
    if p.mark = closeBracket then readEnd? { d with span := some name } surplus rest
    else
      let span := if name = "" then none else some name
      let (field, rest) := splitBefore (· = closeBrace) rest
      match readField? field, rest with
      | some field, _ :: q :: rest =>
        if q.mark = closeBracket then readEnd? { d with span, field := some field } surplus rest
        else none
      | _, _ => none
  | _, _ => none

/-- Reads a directive that starts with a target or a level. -/
def readWord? (surplus : List UInt8) (ps : List Place) : Option Directive :=
  let (word, rest) := splitBefore (fun b => b = equalsSign || b = openBracket) ps
  match rest with
  | [] => (cutToEnd? word surplus).map ofWord
  | p :: behind =>
    (cut? word).bind fun target =>
      let d : Directive := { target := some target, level := some .trace }
      if p.mark = openBracket then readSpan? d surplus behind else readEnd? d surplus rest

/-- The directive that a text writes. -/
def read? (text : List Char) : Option Directive :=
  let (ps, surplus) := places text
  match trimBlank text with
  | [] => none
  | c :: _ =>
    if c = '[' then readSpan? { level := some .trace } surplus ps.tail
    else if isStart c then readWord? surplus ps
    else none

/-- The text of a directive. -/
instance : ToString Directive where
  toString d :=
    let condition :=
      if d.span.isSome || d.field.isSome then
        "[" ++ d.span.getD "" ++
          (d.field.map fun f => "\x7b" ++ toString f ++ "\x7d").getD "" ++ "]"
      else ""
    let subject := d.target.getD "" ++ condition
    (if d.target.isSome || condition != "" then subject ++ "=" else "") ++
      LevelFilter.name d.level

/-- The directive looks at spans or fields. -/
def isDynamic (d : Directive) : Bool :=
  d.span.isSome || d.field.isSome

/-- The directive without its condition on a field's value, if it has a meaning without spans. -/
def toStatic? (d : Directive) : Option Directive :=
  if d.span.isSome || d.field.any (·.value.isSome) then none else some d

/-- How specific the directives are, and for equally specific ones the order of their parts. -/
def order (d e : Directive) : Ordering :=
  let size (s : Option String) : Nat := (s.map fun s => s.utf8ByteSize + 1).getD 0
  let text (s : Option String) : String := s.getD ""
  let fields : Ordering :=
    match d.field, e.field with
    | some f, some g => f.order g
    | _, _ => .eq
  (compare (size d.target) (size e.target)).then <|
    (compare d.span.isSome e.span.isSome).then <|
    (compare d.field.isSome e.field.isSome).then <|
    (compare (text d.target) (text e.target)).then <|
    (compare (text d.span) (text e.span)).then fields

/-- Puts a directive in front of the less specific ones. Of two that differ in nothing but the level
the later one stays. -/
def insert (d : Directive) : List Directive → List Directive
  | [] => [d]
  | e :: es =>
    match d.order e with
    | .gt => d :: e :: es
    | .eq => d :: es
    | .lt => e :: insert d es

end Directive

end TargetLink
