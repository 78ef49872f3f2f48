import TargetLink.Config

/-!
# Parameters and flags

What the command line knows: parameters, which take a value, and flags, which take none. The payload
is the one parameter without a name.
-/

namespace TargetLink

/-- A parameter, with a value to be given on the command line. -/
inductive Param where
  /-- The device to map. -/
  | device
  /-- Bytes of the window. -/
  | windowSize
  /-- Bytes of DRAM. -/
  | dramSize
  /-- Where an image is loaded. -/
  | loadAddr
  /-- What to do with addresses that no region answers for. -/
  | unmapped
  /-- The image to load. -/
  | payload
  deriving DecidableEq, Repr

namespace Param

/-- The parameters that are given by name. -/
def named : List Param :=
  [.device, .windowSize, .dramSize, .loadAddr, .unmapped]

/-- The name of the parameter. -/
def name : Param → String
  | .device => "uio"
  | .windowSize => "uio-size"
  | .dramSize => "dram-size"
  | .loadAddr => "load-addr"
  | .unmapped => "unmapped"
  | .payload => "payload"

/-- The parameter as messages show it. -/
def label : Param → String
  | .device => "--uio <DEVICE>"
  | .windowSize => "--uio-size <BYTES>"
  | .dramSize => "--dram-size <BYTES>"
  | .loadAddr => "--load-addr <ADDR>"
  | .unmapped => "--unmapped <UNMAPPED>"
  | .payload => "[PAYLOAD]"

/-- The parameter of a name. -/
def ofName? (name : String) : Option Param :=
  named.find? (·.name == name)

/-- The line that lists the values a parameter can have, if they are few. -/
def possibleValues : Param → String
  | .unmapped =>
    "\n  [possible values: " ++ ", ".intercalate (UnmappedPolicy.all.map UnmappedPolicy.name) ++ "]"
  | _ => ""

end Param

/-- A flag. -/
inductive Flag where
  /-- More log lines; can be given many times. -/
  | verbose
  /-- The help text. -/
  | help
  /-- The version. -/
  | version
  deriving DecidableEq, Repr

namespace Flag

/-- All flags. -/
def all : List Flag :=
  [.verbose, .help, .version]

/-- The long name. -/
def name : Flag → String
  | .verbose => "verbose"
  | .help => "help"
  | .version => "version"

/-- The short name. -/
def letter : Flag → Char
  | .verbose => 'v'
  | .help => 'h'
  | .version => 'V'

/-- The flag as messages show it. -/
def label : Flag → String
  | .verbose => "--verbose..."
  | .help => "--help"
  | .version => "--version"

/-- The flag of a long name. -/
def ofName? (name : String) : Option Flag :=
  all.find? (·.name == name)

/-- The flag of a short name. -/
def ofLetter? (letter : Char) : Option Flag :=
  all.find? (·.letter == letter)

end Flag

end TargetLink
