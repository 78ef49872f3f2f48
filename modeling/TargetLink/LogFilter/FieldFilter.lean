import TargetLink.Decimal.Shortest
import TargetLink.Pattern.Basic

/-!
# Conditions on fields

A directive of a log filter can ask for a field, and for a value of it. A value is a truth value or
a number if its text is one; otherwise the text has to be a pattern. Numbers are shown in a form of
their own, so that `01` and `1` are one condition; a pattern is shown as it was written.
-/

namespace TargetLink

/-- What a directive asks of a field's value. -/
inductive FieldValue where
  /-- The value is this truth value. -/
  | bool (b : Bool)
  /-- The value is this binary number. -/
  | number (x : Binary64)
  /-- The value is no number, but of the type of one. -/
  | nan
  /-- The value is this word. -/
  | natural (n : Nat)
  /-- The value is this negative word, or zero. -/
  | integer (i : Int)
  /-- The text of the value matches this pattern. -/
  | pattern (text : String)
  deriving DecidableEq, Repr

namespace FieldValue

/-- Reads a truth value. -/
def bool? (cs : List Char) : Option FieldValue :=
  if cs = "true".toList then some (.bool true)
  else if cs = "false".toList then some (.bool false)
  else none

/-- Reads a word. -/
def natural? (cs : List Char) : Option FieldValue :=
  ((Numeral.nat? cs).filter (· < UInt64.size)).map .natural

/-- Reads a signed word. -/
def integer? (cs : List Char) : Option FieldValue :=
  let isWord (i : Int) : Bool := Int64.minValue.toInt ≤ i && i ≤ Int64.maxValue.toInt
  ((Numeral.int? cs).filter isWord).map .integer

/-- Reads a binary number, or the name of what is none, behind at most one sign. -/
def number? (cs : List Char) : Option FieldValue :=
  if (Numeral.splitSign cs).2.map Char.toLower = "nan".toList then some .nan
  else (Binary64.read? cs).map .number

/-- Reads a pattern. -/
def pattern? (cs : List Char) : Option FieldValue :=
  if Pattern.isValid cs then some (.pattern (String.ofList cs)) else none

/-- Reads a value; the first kind that its text fits decides. -/
def read? (cs : List Char) : Option FieldValue :=
  [bool?, natural?, integer?, number?, pattern?].findSome? fun kind? => kind? cs

/-- The value as a directive writes it. -/
instance : ToString FieldValue where
  toString
    | .bool b => toString b
    | .number x => toString x
    | .nan => "NaN"
    | .natural n => toString n
    | .integer i => toString i
    | .pattern text => text

/-- The order of the kinds of values. -/
def kind : FieldValue → Nat
  | .bool _ => 0
  | .number _ => 1
  | .nan => 2
  | .natural _ => 3
  | .integer _ => 4
  | .pattern _ => 5

/-- The order of values: by kind, then by value. -/
def order : FieldValue → FieldValue → Ordering
  | .bool a, .bool b => compare a b
  | .number x, .number y => compare x.key y.key
  | .natural m, .natural n => compare m n
  | .integer i, .integer j => compare i j
  | .pattern s, .pattern t => compare s t
  | v, w => compare v.kind w.kind

end FieldValue

/-- What a directive asks of a field: that it is there, or has a value. -/
structure FieldFilter where
  /-- The name of the field. -/
  name : String
  /-- The value. -/
  value : Option FieldValue
  deriving DecidableEq, Repr

namespace FieldFilter

/-- Reads a condition: a name, and a value between the first equals sign and the next one. -/
def read? (cs : List Char) : Option FieldFilter :=
  let name := String.ofList (cs.takeWhile (· != '='))
  match cs.dropWhile (· != '=') with
  | [] => some ⟨name, none⟩
  | _ :: rest => (FieldValue.read? (rest.takeWhile (· != '='))).map fun value => ⟨name, some value⟩

/-- The condition as a directive writes it. -/
instance : ToString FieldFilter where
  toString f := f.name ++ (f.value.map fun v => "=" ++ toString v).getD ""

/-- How specific the conditions are: one with a value is more so. Equally specific ones are ordered
by name and value. -/
def order (f g : FieldFilter) : Ordering :=
  let values : Ordering :=
    match f.value, g.value with
    | some v, some w => v.order w
    | _, _ => .eq
  (compare f.value.isSome g.value.isSome).then ((compare f.name g.name).then values)

end FieldFilter

end TargetLink
