import TargetLink.Text.Utf8

/-!
# What a terminal shows of a text

A terminal takes some bytes as commands and does not show them. The escape character starts a
command, and what follows it decides where the command ends: behind the next byte, behind the first
letter of a control sequence, or where a string of the terminal's own is closed. `Terminal.visible`
is the text without commands and without control characters, the blank ones apart. A text that
breaks off inside a command loses the rest.

A blank control character in the middle of a command shows. Whether the command is over then, or
only suspended, depends on where the text goes, and `Interruption` tells the two apart.
-/

namespace TargetLink.Terminal

/-- How far a terminal has read a command. -/
inductive Mode where
  /-- Outside of commands. -/
  | ground
  /-- Behind the escape character. -/
  | escape
  /-- In a command of the form `ESC` with intermediate bytes. -/
  | escapeIntermediate
  /-- In a control sequence, which `ESC [` starts. -/
  | controlSequence
  /-- Behind `ESC P`, which starts the head of a device string. -/
  | deviceStart
  /-- In the parameters of a device string's head. -/
  | deviceParameters
  /-- In the intermediate bytes of a device string's head. -/
  | deviceIntermediate
  /-- In a string that the byte `9C` closes. -/
  | string
  /-- In a command for the operating system, which the bell closes. -/
  | systemCommand
  deriving DecidableEq, Repr

namespace Mode

/-- Control characters act as they do outside of commands. -/
def actsOnControls : Mode → Bool
  | ground | escape | escapeIntermediate | controlSequence => true
  | _ => false

/-- The mode behind a control character other than the ones that start or cancel a command. -/
def control (m : Mode) (b : UInt8) : Mode :=
  if m = systemCommand ∧ b = 0x07 then ground else m

/-- The mode behind a byte of ASCII that is no control character. -/
def text (m : Mode) (b : UInt8) : Mode :=
  match m with
  | ground | string | systemCommand => m
  | escape =>
    if b < 0x30 then escapeIntermediate
    else if b = 0x5B then controlSequence
    else if b = 0x5D then systemCommand
    else if b = 0x50 then deviceStart
    else if b = 0x58 ∨ b = 0x5E ∨ b = 0x5F then string
    else ground
  | escapeIntermediate => if b < 0x30 then m else ground
  | controlSequence => if b < 0x40 then m else ground
  | deviceStart =>
    if b < 0x30 then deviceIntermediate else if b < 0x40 then deviceParameters else string
  | deviceParameters =>
    if b < 0x30 then deviceIntermediate else if b < 0x3C then m else string
  | deviceIntermediate => if b < 0x30 then m else string

/-- The mode behind a byte outside ASCII. -/
def high (m : Mode) (b : UInt8) : Mode :=
  if m = string ∧ b = 0x9C then ground else m

end Mode

/-- The control character moves the cursor to another place of the page. -/
def isBlankControl (b : UInt8) : Bool :=
  b = 0x09 || b = 0x0A || b = 0x0C || b = 0x0D

/-- The byte continues a character of several bytes. -/
def isContinuation (b : UInt8) : Bool :=
  0x80 ≤ b && b < 0xC0

/-- The byte starts a character of several bytes. -/
def isLead (b : UInt8) : Bool :=
  0xC2 ≤ b && b ≤ 0xF4

/-- The mode behind a byte, and whether the terminal shows the byte. -/
def step (m : Mode) (b : UInt8) : Mode × Bool :=
  if b = 0x1B then (.escape, false)
  else if b = 0x18 ∨ b = 0x1A then (.ground, false)
  else if b < 0x20 then (m.control b, m.actsOnControls && isBlankControl b)
  else if b < 0x7F then (m.text b, m = .ground)
  else if b = 0x7F then (m, false)
  else (m.high b, m = .ground && isLead b)

/-- What becomes of a command in whose middle a blank shows. -/
inductive Interruption where
  /-- The command is over. -/
  | ends
  /-- The command goes on with the next control character that does not show. -/
  | suspends
  deriving DecidableEq, Repr

/-- The mode behind a blank that shows, if the command around it would leave the mode `m`. -/
def Interruption.mode : Interruption → Mode → Mode
  | .ends, _ => .ground
  | .suspends, m => m

/-- The bytes that show, read from a mode. `shown` tells that the byte in front shows: then the rest
of its character does, too, and so does everything that shows outside of commands. A character of
several bytes ends a suspended command. -/
def visibleBytes (i : Interruption) (m : Mode) (shown : Bool) : List UInt8 → List UInt8
  | [] => []
  | b :: bs =>
    if shown ∧ isContinuation b then b :: visibleBytes i m true bs
    else if shown ∧ (step .ground b).2 then
      b :: visibleBytes i (if isLead b then .ground else m) true bs
    else
      let (next, shows) := step m b
      if shows then b :: visibleBytes i (i.mode next) true bs else visibleBytes i next false bs

/-- What a terminal shows of a text. -/
def visible (i : Interruption) (text : String) : String :=
  Utf8.lossy (visibleBytes i .ground false (Utf8.encode text))

end TargetLink.Terminal
