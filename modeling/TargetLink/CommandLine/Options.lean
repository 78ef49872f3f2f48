import TargetLink.CommandLine.Argument
import TargetLink.CommandLine.Plusarg
import TargetLink.CommandLine.UsageError
import TargetLink.Session

/-!
# Reading the command line

The arguments are read from left to right. A value that stands in the same argument as its parameter
is judged at once. A value in an argument of its own, and the payload, are `Pending` first and are
judged when the next argument needs the place, or at the end; an argument that is not known ends the
reading before the pending value is judged.

A value is judged in this order: there has to be one, it has to be the first for its parameter, and
it has to be of the right kind.
-/

namespace TargetLink

/-- What the command line asks for. -/
structure Options where
  /-- The device to map. -/
  device : Option OsString
  /-- Bytes of the window. -/
  windowSize : Option UInt64
  /-- Bytes of DRAM. -/
  dramSize : Option UInt64
  /-- Where an image is loaded. -/
  loadAddr : TargetAddr
  /-- What to do with addresses that no region answers for. -/
  policy : UnmappedPolicy
  /-- How many times more log lines were asked for, at most 255. -/
  verbosity : Nat
  /-- What to do once the window is mapped. -/
  payload : Payload
  deriving DecidableEq

namespace Options

/-- The link that the options ask for. -/
def request (o : Options) : LinkRequest where
  device := o.device
  windowSize := o.windowSize
  dramSize := o.dramSize
  policy := o.policy

/-- The session that the options ask for. -/
def session (o : Options) : Session where
  request := o.request
  payload := o.payload
  loadAddr := o.loadAddr

/-- The values given so far. -/
structure Given where
  /-- The device to map. -/
  device : Option OsString := none
  /-- Bytes of the window. -/
  windowSize : Option UInt64 := none
  /-- Bytes of DRAM. -/
  dramSize : Option UInt64 := none
  /-- Where an image is loaded. -/
  loadAddr : Option UInt64 := none
  /-- What to do with addresses that no region answers for. -/
  policy : Option UnmappedPolicy := none
  /-- What to do once the window is mapped. -/
  payload : Option Payload := none
  /-- How many times more log lines were asked for, at most 255. -/
  verbosity : Nat := 0

/-- A parameter whose value is not judged yet. -/
structure Pending where
  /-- The parameter. -/
  param : Param
  /-- The value, once there is one. -/
  value : Option OsString

namespace Given

/-- The address at which images are loaded when none is given. -/
def defaultLoadAddr : UInt64 := Layout.dramBase

/-- The options, with defaults for what was not given. -/
def options (g : Given) : Options where
  device := g.device
  windowSize := g.windowSize
  dramSize := g.dramSize
  loadAddr := ⟨g.loadAddr.getD defaultLoadAddr⟩
  policy := g.policy.getD .strict
  verbosity := g.verbosity
  payload := g.payload.getD .selfTest

/-- A parameter has a value already. -/
def has (g : Given) : Param → Bool
  | .device => g.device.isSome
  | .windowSize => g.windowSize.isSome
  | .dramSize => g.dramSize.isSome
  | .loadAddr => g.loadAddr.isSome
  | .unmapped => g.policy.isSome
  | .payload => g.payload.isSome

/-- The size that a value writes. -/
def readSize (param : Param) (value : OsString) : Except UsageError UInt64 :=
  match value.text? with
  | none => .error .invalidUtf8
  | some text => (Size.read text).mapError (.invalidSize param text)

/-- The policy that a value names. -/
def readPolicy (value : OsString) : Except UsageError UnmappedPolicy :=
  match UnmappedPolicy.ofName? value.display with
  | some policy => .ok policy
  | none =>
    if value.bytes = [] then .error (.missingValue .unmapped)
    else .error (.invalidPolicy value.display)

/-- The payload that a value stands for. -/
def readPayload (value : OsString) : Except UsageError Payload :=
  match value.text? with
  | none => .error .invalidUtf8
  | some "" => .error .emptyPayload
  | some "none" => .ok .selfTest
  | some _ => .ok (.image value)

/-- Takes a value for a parameter. -/
def set (g : Given) (param : Param) (value : OsString) : Except UsageError Given :=
  if g.has param then .error (.repeated param)
  else
    match param with
    | .device =>
      if value.bytes = [] then .error (.missingValue .device)
      else .ok { g with device := some value }
    | .windowSize => do return { g with windowSize := some (← readSize param value) }
    | .dramSize => do return { g with dramSize := some (← readSize param value) }
    | .loadAddr => do return { g with loadAddr := some (← readSize param value) }
    | .unmapped => do return { g with policy := some (← readPolicy value) }
    | .payload => do return { g with payload := some (← readPayload value) }

/-- Judges a pending value. -/
def settle (g : Given) : Option Pending → Except UsageError Given
  | none => .ok g
  | some ⟨param, none⟩ => .error (.missingValue param)
  | some ⟨param, some value⟩ => g.set param value

end Given

/-- How far the command line is read. -/
structure Reading where
  /-- The name by which the program was called. -/
  program : String
  /-- The values judged. -/
  given : Given := {}
  /-- The value not judged yet. -/
  pending : Option Pending := none

namespace Reading

/-- The reading without a pending value. -/
def settle (r : Reading) : Except UsageError Reading :=
  return { r with given := ← r.given.settle r.pending, pending := none }

/-- Takes a flag; `long` says whether it was called by its long name. -/
def flag (r : Reading) (flag : Flag) (long : Bool) : Except UsageError Reading := do
  let r ← r.settle
  match flag with
  | .verbose => return { r with given.verbosity := min (r.given.verbosity + 1) 255 }
  | .help => throw (.help r.program long)
  | .version => throw .version

/-- Takes a long option. -/
def long (r : Reading) (name : OsString) (value : Option OsString) : Except UsageError Reading :=
  match name.text?.bind Flag.ofName?, name.text?.bind Param.ofName?, value with
  | some flag, _, none => r.flag flag true
  | some flag, _, some value => throw (.unexpectedValue flag value.display)
  | none, some param, none => do
    let r ← r.settle
    return { r with pending := some ⟨param, none⟩ }
  | none, some param, some value => do
    let r ← r.settle
    return { r with given := ← r.given.set param value }
  | none, none, _ => throw (.unknownArgument ("--" ++ name.display))

/-- Takes a cluster of short options. -/
def short (r : Reading) : List Utf8.Piece → Except UsageError Reading
  | [] => return r
  | .char c :: rest =>
    match Flag.ofLetter? c with
    | some flag => do (← r.flag flag false).short rest
    | none => throw (.unknownArgument ("-" ++ c.toString))
  | .broken bytes :: rest => throw (.unknownArgument ("-" ++ Utf8.shown (.broken bytes :: rest)))

/-- Takes a value that stands for itself: the payload, of which there can be one. -/
def positional (r : Reading) (value : OsString) : Except UsageError Reading := do
  if r.given.has .payload || r.pending.any (·.param == .payload) then
    throw (.unknownArgument value.display)
  let r ← r.settle
  return { r with pending := some ⟨.payload, some value⟩ }

/-- Takes a plain value: it belongs to a parameter that waits for one, or stands for itself. -/
def plain (r : Reading) (value : OsString) : Except UsageError Reading :=
  match r.pending with
  | some ⟨param, none⟩ => return { r with pending := some ⟨param, some value⟩ }
  | _ => r.positional value

/-- Takes all arguments that are left. Behind the separator every one is a plain value that stands
for itself. -/
def finish (r : Reading) : List OsString → Except UsageError Reading
  | [] => r.settle
  | arg :: rest =>
    match Argument.ofOsString arg with
    | .separator => do (← rest.foldlM positional r).settle
    | .long name value => do (← r.long name value).finish rest
    | .short cluster => do (← r.short cluster).finish rest
    | .plain value => do (← r.plain value).finish rest

end Reading

/-- The options of a command line without plusargs, the program's name first. -/
def ofArgs (args : List OsString) : Except UsageError Options := do
  let program := (args.head?.bind OsString.fileName?).bind OsString.text?
  let r : Reading := { program := program.getD Help.defaultName }
  return (← r.finish args.tail).given.options

/-- What a parser makes of a command line once the plusargs are rewritten, with those that were set
aside. -/
def parseWith {ε α : Type} (parser : List OsString → Except ε α) (args : List OsString) :
    Except ε (α × List String) := do
  let normalized := Plusarg.normalize args
  return (← parser normalized.args, normalized.ignored)

/-- The options of a command line, with the plusargs that were set aside. -/
def parse (args : List OsString) : Except UsageError (Options × List String) :=
  parseWith ofArgs args

end Options

end TargetLink
