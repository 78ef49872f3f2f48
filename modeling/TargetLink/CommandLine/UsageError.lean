import TargetLink.CommandLine.Help
import TargetLink.CommandLine.Param
import TargetLink.Event
import TargetLink.Size
import TargetLink.Text.Terminal

/-!
# Why a command line starts no session

Help and version are asked for; everything else is a fault of the command line, reported in one line
or two. Text that the user typed is repeated the way a terminal shows it, and a report ends where
its first blank line begins, with all that stands in front of that line.
-/

namespace TargetLink

/-- Why a command line starts no session. -/
inductive UsageError where
  /-- The help text is asked for, in its long or its short form. -/
  | help (program : String) (long : Bool)
  /-- The version is asked for. -/
  | version
  /-- An option is not known, or a second payload is given. -/
  | unknownArgument (text : String)
  /-- A flag is given a value. -/
  | unexpectedValue (flag : Flag) (value : String)
  /-- A parameter is given no value. -/
  | missingValue (param : Param)
  /-- A parameter is given a second time. -/
  | repeated (param : Param)
  /-- A value has to be text and is none. -/
  | invalidUtf8
  /-- A value has to be a size and is none. -/
  | invalidSize (param : Param) (text : String) (fault : SizeFault)
  /-- A value has to be the name of a policy and is none. -/
  | invalidPolicy (text : String)
  /-- The payload is an empty text. -/
  | emptyPayload
  deriving DecidableEq, Repr

namespace UsageError

open Terminal (Interruption visible)

/-- The program did what it was asked for. -/
def isAnswer : UsageError → Bool
  | .help .. | .version => true
  | _ => false

/-- The text up to its first blank line. -/
def firstParagraph : List Char → List Char
  | [] => []
  | '\n' :: '\n' :: _ => []
  | c :: cs => c :: firstParagraph cs

/-- A value that a parameter does not take. -/
def refusal (i : Interruption) (param : Param) (value : String) : String :=
  "error: invalid value '" ++ visible i value ++ "' for '" ++ param.label ++ "'"

/-- Why a value is refused, with the paragraph behind it. The value stands in the middle of plain
text here, so a terminal command that it leaves open takes some of that text along, up to the next
change of style. -/
def explanation (i : Interruption) (reason : String) : String :=
  visible i (": " ++ reason ++ "\n\nFor more information, try '") ++ "--help'."

/-- The report of a fault, or the answer. -/
def report (i : Interruption) : UsageError → String
  | .help program long => Help.text (visible i program) long
  | .version => Help.defaultName ++ " " ++ Event.version ++ "\n"
  | .unknownArgument text => "error: unexpected argument '" ++ visible i text ++ "' found"
  | .unexpectedValue flag value =>
    "error: unexpected value '" ++ visible i value ++ "' for '" ++ flag.label ++
      "' found; no more were expected"
  | .missingValue param =>
    "error: a value is required for '" ++ param.label ++ "' but none was supplied" ++
      param.possibleValues
  | .repeated param =>
    "error: the argument '" ++ param.label ++ "' cannot be used multiple times"
  | .invalidUtf8 => "error: invalid UTF-8 was detected in one or more arguments"
  | .invalidSize param text fault =>
    refusal i param text ++ explanation i (Size.faultMessage text fault)
  | .invalidPolicy text => refusal i .unmapped text ++ Param.unmapped.possibleValues
  | .emptyPayload => refusal i .payload "" ++ ": payload must not be empty"

/-- An answer in full, and of any other report the first paragraph. -/
def shown (i : Interruption) (e : UsageError) : String :=
  if e.isAnswer then e.report i
  else String.ofList (firstParagraph (e.report i).toList)

/-- What the command line says instead of starting a session. -/
def message (e : UsageError) : String :=
  e.shown .ends

/-- The message as it comes out of the program, whose output only suspends a terminal command where
a blank shows in its middle. -/
def printed (e : UsageError) : String :=
  e.shown .suspends

end UsageError

end TargetLink
