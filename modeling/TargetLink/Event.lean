import TargetLink.Layout
import TargetLink.OsString
import TargetLink.Outcome

/-!
# Log events

Everything the program reports about its progress is an `Event`. An event has a level, a message and
named fields; how they are joined into a line is the business of `Event.line`.
-/

namespace TargetLink

/-- How important an event is, the most important first. -/
inductive Level where
  /-- Something failed. -/
  | error
  /-- Something is suspicious. -/
  | warn
  /-- Progress that the user wants to see. -/
  | info
  /-- Progress in detail. -/
  | debug
  /-- Every single request. -/
  | trace
  deriving DecidableEq, Repr, Inhabited

namespace Level

/-- The level at the start of a log line. -/
def label : Level → String
  | .error => "ERROR"
  | .warn => "WARN"
  | .info => "INFO"
  | .debug => "DEBUG"
  | .trace => "TRACE"

/-- The position of the level, from 1 for the most important one. -/
def rank : Level → Nat
  | .error => 1
  | .warn => 2
  | .info => 3
  | .debug => 4
  | .trace => 5

end Level

/-- What happened. -/
inductive Event where
  /-- The program starts. -/
  | starting
  /-- A plusarg that means nothing here is passed over. -/
  | plusargIgnored (arg : String)
  /-- No window size was asked for. -/
  | windowSizeDefaulted
  /-- No DRAM size was asked for. -/
  | dramSizeDefaulted (size : UInt64)
  /-- A device was mapped. -/
  | windowMapped (device : OsString) (size : UInt64)
  /-- The mapping of a device was removed. -/
  | windowUnmapped (device : OsString)
  /-- The handle of a device was closed. -/
  | deviceClosed (device : OsString)
  /-- The layout of a window follows. -/
  | layoutHeading (windowSize : UInt64)
  /-- One region of the layout. -/
  | regionPlaced (region : Region)
  /-- An address that no region answers for was taken for window offset 0. -/
  | unmappedAliased (addr : TargetAddr)
  /-- An access leaves its region. -/
  | accessRefused (addr : TargetAddr) (len : Nat)
  /-- A chunk is read. -/
  | chunkRead (addr : TargetAddr) (offset : WindowOffset) (len : Nat)
  /-- A chunk is written. -/
  | chunkWritten (addr : TargetAddr) (offset : WindowOffset) (len : Nat)
  /-- A chunk is cleared. -/
  | chunkCleared (addr : TargetAddr) (offset : WindowOffset) (len : Nat)
  /-- The software interrupt that starts the target is raised. -/
  | resetRaised (addr : TargetAddr) (offset : WindowOffset)
  /-- An image is loaded. -/
  | imageLoading (addr : TargetAddr) (len : Nat)
  /-- The self-test runs instead of an image. -/
  | selfTestStarted
  /-- A test range is filled. -/
  | patternWriting (addr : TargetAddr)
  /-- A test range is cleared. -/
  | rangeClearing (addr : TargetAddr)
  /-- A test range passed. -/
  | rangePassed (range : TestRange)
  /-- All test ranges passed. -/
  | selfTestPassed (ranges bytes : Nat)
  /-- The target runs. -/
  | targetRunning
  /-- A signal ends the session. -/
  | stopping (signal : StopSignal)
  /-- The session ended well. -/
  | sessionFinished (outcome : Outcome)
  /-- The session failed. -/
  | sessionFailed (reason : String)
  deriving DecidableEq, Repr

/-- A named value of an event. -/
structure Field where
  /-- The name. -/
  name : String
  /-- The value as text. -/
  value : String
  /-- The line shows the value in double quotes. -/
  quoted : Bool := false
  deriving DecidableEq, Repr

namespace Event

/-- The version that the program reports. -/
def version : String := "0.1.0"

/-- How important the event is. -/
def level : Event → Level
  | .accessRefused .. | .sessionFailed .. => .error
  | .unmappedAliased .. => .warn
  | .plusargIgnored .. | .windowUnmapped .. | .deviceClosed .. | .patternWriting ..
  | .rangeClearing .. => .debug
  | .chunkRead .. | .chunkWritten .. | .chunkCleared .. => .trace
  | _ => .info

/-- What happened, in words. -/
def message : Event → String
  | .starting => "uhtif starting"
  | .plusargIgnored _ => "ignoring plusarg"
  | .windowSizeDefaulted =>
    "using default UIO size " ++ hex Layout.defaultWindowSize.toNat ++ " (1 GiB)"
  | .dramSizeDefaulted size => "using default DRAM size " ++ hex size.toNat
  | .windowMapped .. => "mapped UIO window"
  | .windowUnmapped _ => "unmapped UIO window"
  | .deviceClosed _ => "closed UIO device"
  | .layoutHeading windowSize => "UIO memory map (" ++ hex windowSize.toNat ++ " byte window):"
  | .regionPlaced region => "  " ++ toString region
  | .unmappedAliased _ => "unmapped target address, aliasing to window offset 0"
  | .accessRefused .. => "access out of bounds"
  | .chunkRead .. => "read chunk"
  | .chunkWritten .. => "write chunk"
  | .chunkCleared .. => "clear chunk"
  | .resetRaised .. => "raising msip to start hart 0"
  | .imageLoading .. => "loading image"
  | .selfTestStarted => "no payload given, running memory self-test"
  | .patternWriting _ => "writing pattern"
  | .rangeClearing _ => "clearing"
  | .rangePassed _ => "self-test range passed"
  | .selfTestPassed .. => "self-test passed"
  | .targetRunning => "target running, waiting for SIGINT or SIGTERM"
  | .stopping _ => "stopping"
  | .sessionFinished _ => "session finished"
  | .sessionFailed reason => reason

/-- The fields of a chunk request. -/
private def chunkFields (addr : TargetAddr) (offset : WindowOffset) (len : Nat) : List Field :=
  [⟨"addr", toString addr, false⟩, ⟨"offset", toString offset, false⟩,
    ⟨"len", toString len, false⟩]

/-- The named values, in the order in which the line shows them. The host address of a mapping is
no part of this library's world; its field holds a placeholder. -/
def fields : Event → List Field
  | .starting => [⟨"version", version, true⟩]
  | .plusargIgnored arg => [⟨"arg", arg, false⟩]
  | .windowMapped device size =>
    [⟨"device", device.display, false⟩, ⟨"base", "_", false⟩,
      ⟨"size", hex size.toNat, false⟩]
  | .windowUnmapped device | .deviceClosed device => [⟨"device", device.display, false⟩]
  | .unmappedAliased addr | .patternWriting addr | .rangeClearing addr =>
    [⟨"addr", toString addr, false⟩]
  | .accessRefused addr len | .imageLoading addr len =>
    [⟨"addr", toString addr, false⟩, ⟨"len", hex len, false⟩]
  | .chunkRead addr offset len | .chunkWritten addr offset len | .chunkCleared addr offset len =>
    chunkFields addr offset len
  | .resetRaised addr offset =>
    [⟨"target_addr", toString addr, false⟩, ⟨"offset", toString offset, false⟩]
  | .rangePassed range =>
    [⟨"region", range.region.name, false⟩, ⟨"addr", toString range.addr, false⟩,
      ⟨"len", hex range.len, false⟩]
  | .selfTestPassed ranges bytes =>
    [⟨"ranges", toString ranges, false⟩, ⟨"bytes", toString bytes, false⟩]
  | .stopping signal => [⟨"signal", signal.name, false⟩]
  | .sessionFinished outcome => [⟨"outcome", outcome.debugText, false⟩]
  | _ => []

/-- A message as the line shows it: characters that could steer a terminal are spelled out. -/
def escapeMessage (text : String) : String :=
  let spelled (c : Char) : String :=
    let n := c.toNat
    if n = 0x1B then "\\x1b" else if n = 0x07 then "\\x07" else if n = 0x08 then "\\x08"
    else if n = 0x0C then "\\x0c" else if n = 0x7F then "\\x7f"
    else if 0x80 ≤ n ∧ n ≤ 0x9F then
      "\\u\x7b" ++ String.ofList (Nat.toDigits 16 n) ++ "\x7d"
    else c.toString
  String.join (text.toList.map spelled)

/-- The event as one line of the log: level, message and fields. -/
def line (e : Event) : String :=
  let field (f : Field) : String :=
    " " ++ f.name ++ "=" ++ if f.quoted then "\"" ++ f.value ++ "\"" else f.value
  e.level.label ++ " " ++ escapeMessage e.message ++ String.join (e.fields.map field)

end Event

end TargetLink
