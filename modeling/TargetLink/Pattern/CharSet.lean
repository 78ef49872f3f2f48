import TargetLink.Pattern.Atom

/-!
# Sets of characters in a pattern

A set stands in brackets: characters, ranges, classes and further sets, joined by `&&`, `--` and
`~~`, which group to the left. `CharSet.read?` reads a set and gives its depth and what follows it.
The depth counts the sets, operators and rows of more than one item that stand in one another.
-/

namespace TargetLink.Pattern.CharSet

/-- A set as far as it is read: the items behind the last operator, and what stands in front. -/
structure Row where
  /-- The depth of what stands in front of the last operator, if there is one. -/
  left : Option Nat := none
  /-- The number of items. -/
  count : Nat := 0
  /-- The greatest depth of an item. -/
  deepest : Nat := 0

namespace Row

/-- Adds an item of some depth. -/
def add (row : Row) (depth : Nat) : Row :=
  { row with count := row.count + 1, deepest := max row.deepest depth }

/-- The depth of everything in the brackets. -/
def depth (row : Row) : Nat :=
  let items := if row.count ≤ 1 then row.deepest else row.deepest + 1
  match row.left with
  | none => items
  | some left => max left items + 1

/-- Takes an operator. -/
def operate (row : Row) : Row where
  left := some row.depth

end Row

/-- The names of classes that a set writes as in `[:alpha:]`. -/
def names : List String :=
  ["alnum", "alpha", "ascii", "blank", "cntrl", "digit", "graph", "lower", "print", "punct",
    "space", "upper", "word", "xdigit"]

/-- Reads a class by its name, behind the first bracket, and tells whether it is negated. -/
def named? : List Char → Option (Bool × List Char)
  | ':' :: cs =>
    let negated := cs.head? = some '^'
    let cs := if negated then cs.tail else cs
    match cs.dropWhile (· != ':') with
    | ':' :: ']' :: rest =>
      if names.contains (String.ofList (cs.takeWhile (· != ':'))) then some (negated, rest)
      else none
    | _ => none
  | _ => none

/-- Reads the dashes at the start of a set, which stand for themselves. -/
def skipDashes (flags : Flags) (row : Row) : Nat → List Char → Row × List Char
  | fuel + 1, '-' :: cs => skipDashes flags (row.add 0) fuel (flags.skip cs)
  | _, cs => (row, cs)

/-- Reads the start of a set behind its bracket: the sign of negation, and then dashes or a closing
bracket that stands for itself, if characters can stand there. The set cannot be negated where it is
about bytes. -/
def start? (flags : Flags) (cs : List Char) : Option (Row × List Char) :=
  let cs := flags.skip cs
  let negated := cs.head? = some '^'
  if negated ∧ ¬ flags.unicode then none
  else
    let (row, rest) :=
      match if negated then flags.skip cs.tail else cs with
      | ']' :: cs => (Row.add {} 0, flags.skip cs)
      | cs => skipDashes flags {} cs.length cs
    if row.count = 0 ∨ flags.allowsChars then some (row, rest) else none

/-- Reads one part of a set. -/
def part? (flags : Flags) (cs : List Char) : Option (Atom × List Char) :=
  (Atom.readInSet? flags cs).filter (·.1.isAllowedInSet flags)

/-- The character that decides whether a dash makes a range: the next one that is not blank and not
the sign in front of a comment. The comment itself does count here. -/
def afterDash? (inComment : Bool) : List Char → Option Char
  | [] => none
  | c :: cs =>
    if isBlank c then afterDash? inComment cs
    else if c = '#' ∧ ¬ inComment then afterDash? true cs
    else some c

/-- A dash makes a range with what follows it, unless that is a closing bracket or another dash. -/
def makesRange (flags : Flags) (cs : List Char) : Bool :=
  let next := if flags.spaced then afterDash? false cs else cs.head?
  next != some ']' && next != some '-'

/-- Reads a part of a set, or a range from one part to another, and gives what follows. -/
def item? (flags : Flags) (cs : List Char) : Option (List Char) :=
  (part? flags cs).bind fun (first, rest) =>
    match flags.skip rest with
    | '-' :: rest =>
      if makesRange flags rest then
        (part? flags (flags.skip rest)).bind fun (last, rest) =>
          match first.point?, last.point? with
          | some low, some high => if low ≤ high then some rest else none
          | _, _ => none
      else some ('-' :: rest)
    | rest => some rest

/-- Reads the rest of a set and of the sets around it. -/
def close? (flags : Flags) : Nat → Row → List Row → List Char → Option (Nat × List Char)
  | 0, _, _, _ => none
  | fuel + 1, row, around, cs =>
    match flags.skip cs with
    | [] => none
    | '[' :: cs =>
      match named? cs with
      | some (negated, rest) =>
        if flags.allowsClass negated then close? flags fuel (row.add 0) around rest else none
      | none => (start? flags cs).bind fun (inner, rest) =>
        close? flags fuel inner (row :: around) rest
    | ']' :: cs =>
      match around with
      | [] => some (row.depth + 1, cs)
      | outer :: around => close? flags fuel (outer.add (row.depth + 1)) around cs
    | '&' :: '&' :: cs => close? flags fuel row.operate around cs
    | '-' :: '-' :: cs => close? flags fuel row.operate around cs
    | '~' :: '~' :: cs => close? flags fuel row.operate around cs
    | c :: cs => (item? flags (c :: cs)).bind (close? flags fuel (row.add 0) around)

/-- Reads a set behind its bracket and gives its depth and what follows it. -/
def read? (flags : Flags) (cs : List Char) : Option (Nat × List Char) :=
  (start? flags cs).bind fun (row, rest) => close? flags (cs.length + 1) row [] rest

end TargetLink.Pattern.CharSet
