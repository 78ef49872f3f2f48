import TargetLink.Decimal.Numeral
import TargetLink.Event

/-!
# Level filters

The levels that pass, as the text of a log filter names or numbers them.
-/

namespace TargetLink

/-- The levels that a directive lets pass: none, or all up to one. -/
abbrev LevelFilter := Option Level

namespace LevelFilter

/-- All level filters, the strictest first. Each one can be written as its position in the list. -/
def all : List LevelFilter :=
  [none, some .error, some .warn, some .info, some .debug, some .trace]

/-- The name of a level filter. -/
def name : LevelFilter → String
  | none => "off"
  | some level => String.ofList (level.label.toList.map Char.toLower)

/-- The level filter that a text names, in any case, or numbers. -/
def read? (cs : List Char) : Option LevelFilter :=
  match Numeral.nat? cs with
  | some n => all[n]?
  | none => all.find? fun filter => (name filter).toList == cs.map Char.toLower

end LevelFilter

end TargetLink
