import TargetLink.Text.Utf8

/-!
# Arguments and paths

The operating system passes arguments and paths as bytes. An `OsString` keeps the bytes as they
came; its text exists only when they are UTF-8, and a display text always does.
-/

namespace TargetLink

/-- An argument or a path as the operating system passes it. -/
structure OsString where
  /-- The bytes, in no particular encoding. -/
  bytes : List UInt8
  deriving DecidableEq, Repr, Inhabited

namespace OsString

/-- The bytes of a text. -/
def ofString (text : String) : OsString :=
  ⟨Utf8.encode text⟩

/-- The text, if the bytes are UTF-8. -/
def text? (s : OsString) : Option String :=
  Utf8.text? s.bytes

/-- The text shown to the user, with `U+FFFD` for bytes that spell no character. -/
def display (s : OsString) : String :=
  Utf8.lossy s.bytes

/-- The rest of the string behind the bytes of `start`, if it begins with them. -/
def dropStart? (s : OsString) (start : String) : Option OsString :=
  ((Utf8.encode start).isPrefixOf? s.bytes).map OsString.mk

/-- The string behind the bytes of `start`. -/
def behind (s : OsString) (start : String) : OsString :=
  ⟨Utf8.encode start ++ s.bytes⟩

/-- The pieces between the slashes of a path. Only a path without slashes has a single one. -/
def components (s : OsString) : List (List UInt8) :=
  s.bytes.splitOn slash
where
  /-- The byte that parts the components of a path. -/
  slash : UInt8 := 0x2F

/-- The name of the file that a path leads to. A path has none if it ends in `..` or consists of
slashes and single dots. -/
def fileName? (s : OsString) : Option OsString :=
  let dot : List UInt8 := [0x2E]
  let names := s.components.filter fun name => name ≠ [] ∧ name ≠ dot
  (names.getLast?.filter (· ≠ dot ++ dot)).map OsString.mk

/-- The text in double quotes, with quotes, backslashes and control characters escaped. -/
def quoted (s : OsString) : String :=
  let escaped (c : Char) : String :=
    if c = '"' ∨ c = '\'' ∨ c = '\\' then String.ofList ['\\', c]
    else if c = '\n' then "\\n"
    else if c = '\r' then "\\r"
    else if c = '\t' then "\\t"
    else if c = Char.ofNat 0 then "\\0"
    else if c.toNat < 0x20 ∨ c.toNat = 0x7F then
      "\\u\x7b" ++ String.ofList (Nat.toDigits 16 c.toNat) ++ "\x7d"
    else c.toString
  let shown : Utf8.Piece → String
    | .char c => escaped c
    | .broken bytes => String.join (bytes.map fun b =>
        "\\x" ++ (String.ofList (Nat.toDigits 16 b.toNat)).toUpper)
  "\"" ++ String.join ((Utf8.pieces s.bytes).map shown) ++ "\""

end OsString

end TargetLink
