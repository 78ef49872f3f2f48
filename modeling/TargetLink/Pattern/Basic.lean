import TargetLink.Pattern.CharSet
import TargetLink.Text.Alphanumeric

/-!
# Patterns

A pattern is a regular expression over the parts of `Atom` and `CharSet`: parts stand one after the
other, `|` separates alternatives, `?`, `*` and `+` repeat the part in front, and parentheses make a
group, which can have a name or flags. `Pattern.isValid` tells which texts are patterns. Counted
repetitions are none of them, because their closing brace cannot stand in a filter.
-/

namespace TargetLink.Pattern

/-- How a parenthesis goes on. -/
inductive Opening where
  /-- A group of its own flags, perhaps with a name. -/
  | group (flags : Flags) (name : Option (List Char))
  /-- Flags for the rest of the group around. -/
  | settings (flags : Flags)

namespace Opening

/-- The flags that a group can set and clear. -/
def letters : List Char :=
  ['i', 'm', 's', 'U', 'u', 'R', 'x', '-']

/-- The flags after some were set and, behind a dash, others were cleared. No letter comes twice,
and something follows the dash. -/
def change? (flags : Flags) (text : List Char) : Option Flags :=
  let set := text.takeWhile (· != '-')
  let cleared := text.dropWhile (· != '-')
  let flag (letter : Char) (old : Bool) : Bool :=
    if set.contains letter then true else if cleared.contains letter then false else old
  if text.eraseDups.length = text.length ∧ text.all letters.contains ∧ text.getLast? ≠ some '-' then
    some ⟨flag 'u' flags.unicode, flag 'i' flags.caseless, flag 'x' flags.spaced⟩
  else none

/-- The text is a name of a group. -/
def isName (text : List Char) : Bool :=
  let start (c : Char) : Bool := c == '_' || isLetter c
  let inner (c : Char) : Bool := ['_', '.', '[', ']'].contains c || isAlphanumeric c
  text.head?.any start && text.all inner

/-- Reads the name of a group up to its angle bracket. -/
def named? (flags : Flags) (cs : List Char) : Option (Opening × List Char) :=
  let name := cs.takeWhile (· != '>')
  match cs.dropWhile (· != '>') with
  | _ :: rest => if isName name then some (.group flags (some name), rest) else none
  | [] => none

/-- Reads flags and what ends them: a colon in front of the parts of a group, or a parenthesis. -/
def flags? (flags : Flags) (cs : List Char) : Option (Opening × List Char) :=
  let inFlags (c : Char) : Bool := c != ':' && c != ')'
  let text := cs.takeWhile inFlags
  match change? flags text, cs.dropWhile inFlags with
  | some flags, ':' :: rest => some (.group flags none, rest)
  | some flags, _ :: rest => if text.isEmpty then none else some (.settings flags, rest)
  | _, _ => none

/-- Reads what follows a parenthesis. -/
def read? (flags : Flags) (cs : List Char) : Option (Opening × List Char) :=
  match flags.skip cs with
  | '?' :: 'P' :: '<' :: cs => named? flags cs
  | '?' :: '<' :: cs => named? flags cs
  | '?' :: cs => flags? flags cs
  | cs => some (.group flags none, cs)

end Opening

/-- A group as far as it is read. The depth of a part counts the repetitions, groups, rows of parts,
choices of alternatives and parts of sets that stand in one another. -/
structure Group where
  /-- The flags in force. -/
  flags : Flags := {}
  /-- The depth of the alternatives in front, if there are any. -/
  alternatives : Option Nat := none
  /-- How many parts the alternative has. -/
  count : Nat := 0
  /-- The depth of all parts but the last. -/
  depth : Nat := 0
  /-- The depth of the last part. -/
  last : Nat := 0
  /-- The last part can be repeated. -/
  repeatable : Bool := false

namespace Group

/-- Adds a part. -/
def push (g : Group) (depth : Nat) : Group :=
  { g with count := g.count + 1, depth := max g.depth g.last, last := depth, repeatable := true }

/-- Adds flags, which count as a part but cannot be repeated. -/
def withFlags (g : Group) (flags : Flags) : Group :=
  { g.push 0 with flags, repeatable := false }

/-- Repeats the last part. -/
def repeated (g : Group) : Group :=
  { g with last := g.last + 1 }

/-- The depth of the alternative. -/
def rowDepth (g : Group) : Nat :=
  if g.count ≤ 1 then g.last else max g.depth g.last + 1

/-- Ends the alternative and starts the next one. -/
def alternate (g : Group) : Group where
  flags := g.flags
  alternatives := some (max (g.alternatives.getD 0) g.rowDepth)

/-- The depth of everything in the group. -/
def bodyDepth (g : Group) : Nat :=
  match g.alternatives with
  | none => g.rowDepth
  | some depth => max depth g.rowDepth + 1

end Group

/-- Parts deeper than this are refused. -/
def maxDepth : Nat := 250

/-- Reads the rest of a group and of those around it. Names of groups do not repeat. -/
def check (here : Group) (around : List Group) (names : List (List Char)) :
    Nat → List Char → Bool
  | 0, _ => false
  | fuel + 1, cs =>
    match here.flags.skip cs with
    | [] => around.isEmpty && here.bodyDepth ≤ maxDepth
    | '(' :: cs =>
      match Opening.read? here.flags cs with
      | some (.settings flags, cs) => check (here.withFlags flags) around names fuel cs
      | some (.group flags none, cs) => check { flags } (here :: around) names fuel cs
      | some (.group flags (some name), cs) =>
        !names.contains name && check { flags } (here :: around) (name :: names) fuel cs
      | none => false
    | ')' :: cs =>
      match around with
      | [] => false
      | outer :: around => check (outer.push (here.bodyDepth + 1)) around names fuel cs
    | '|' :: cs => check here.alternate around names fuel cs
    | '[' :: cs =>
      match CharSet.read? here.flags cs with
      | some (depth, cs) => check (here.push depth) around names fuel cs
      | none => false
    | c :: cs =>
      if ['?', '*', '+'].contains c then
        let behind := if cs.head? = some '?' then cs.tail else cs
        here.repeatable && check here.repeated around names fuel behind
      else
        match Atom.read? here.flags (c :: cs) with
        | some (atom, cs) =>
          c != '\x7b' && atom.isAllowed here.flags && check (here.push 0) around names fuel cs
        | none => false

/-- The text is a pattern. -/
def isValid (text : List Char) : Bool :=
  check {} [] [] (text.length + 1) text

end TargetLink.Pattern
