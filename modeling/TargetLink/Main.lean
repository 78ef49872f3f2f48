import Std.Async.Signal
import TargetLink.FileTree
import TargetLink.Program

/-!
# The command line program

The layer between the program and the operating system. It reads the device and the image that the
command line names, runs the program on them, writes the device back and prints what the program
says. Whether a session waits for a stop signal does not depend on which one arrives, so the program
is first run to that point and, once a signal is there, to its end.
-/

namespace TargetLink.Main

open Std.Async (Signal)

/-- The reason of an input or output error. -/
def osError : IO.Error → OsError
  | .noFileOrDirectory .. => .notFound
  | .permissionDenied _ code text | .inappropriateType _ code text
  | .invalidArgument _ code text | .resourceExhausted _ code text | .noSuchThing _ code text =>
    ofCode code text
  | .unsupportedOperation code text | .hardwareFault code text | .resourceBusy code text
  | .otherError code text => ofCode code text
  | e => .other 5 (toString e)
where
  /-- The reason of an error number. -/
  ofCode (code : UInt32) (text : String) : OsError :=
    match code with
    | 12 => .outOfMemory
    | 19 => .noDevice
    | 20 => .notADirectory
    | 21 => .isADirectory
    | 36 => .nameTooLong
    | code => .other code.toNat text

/-- The contents of a file. Pages of zeros take no room. -/
def fileData (bytes : ByteArray) : FileData :=
  let pageAt (number : Nat) : Page :=
    Vector.ofFn fun i =>
      if h : number * pageSize + i < bytes.size then bytes[number * pageSize + i] else 0
  let blank : Page := Vector.replicate pageSize 0
  let count := (bytes.size + pageSize - 1) / pageSize
  let pages := count.fold (fun number _ (pages : Std.TreeMap Nat Page) =>
    let page := pageAt number
    if page == blank then pages else pages.insert number page) ∅
  { size := bytes.size, memory := ⟨pages⟩ }

/-- All bytes of a file. -/
def fileBytes (data : FileData) : ByteArray :=
  data.size.fold (fun i _ bytes => bytes.push (data.memory.byteAt i)) .empty

/-- The contents of the file that a path leads to. -/
def fetch (path : OsString) (mode : IO.FS.Mode) : IO (Except OsError FileData) := do
  if path.bytes.contains 0 then return .error .zeroByteInPath
  try
    let handle ← IO.FS.Handle.mk path.display mode
    return .ok (fileData (← handle.readBinToEnd))
  catch e => return .error (osError e)

/-- A host with some files that were looked at. -/
def hostOf (files : List (OsString × Except OsError FileData)) : Host where
  lookup path :=
    match files.findIdx? (·.1 == path) with
    | some id =>
      match files[id]? with
      | some (_, .error cause) => .error cause
      | _ => .ok (.file id)
    | none => .error .notFound
  contents id :=
    match files[id]? with
    | some (_, .ok data) => data
    | _ => .zeros 0
  map _ size := FileTree.mapped .pages size

/-- A host that has looked at the paths of a command line. -/
def hostFor (args : List OsString) : IO Host := do
  match Options.parse args with
  | .error _ => return hostOf []
  | .ok (options, _) =>
    let device ←
      match options.device with
      | some path => do pure [(path, ← fetch path .readWrite)]
      | none => pure []
    let image ←
      match options.payload with
      | .image path => do pure [(path, ← fetch path .read)]
      | .selfTest => pure []
    return hostOf (device ++ image)

/-- Writes a device back. -/
def store (window : DeviceWindow) : IO Unit := do
  let handle ← IO.FS.Handle.mk window.path.display .readWrite
  handle.write (fileBytes window.device)
  handle.flush

/-- Waits for the first of the two stop signals. -/
def awaitSignal (interrupt terminate : Std.Async.AsyncTask Int) : IO StopSignal := do
  let named (signal : StopSignal) (task : Std.Async.AsyncTask Int) : Task StopSignal :=
    Task.map (fun _ => signal) task
  IO.waitAny [named .interrupt interrupt, named .terminate terminate]

/-- Prints lines of the log. -/
def printLines (lines : List String) : IO Unit := do
  let stderr ← IO.getStderr
  lines.forM stderr.putStrLn
  stderr.flush

/-- Runs the program for a command line without the program's name. -/
def run (args : List String) : IO UInt32 := do
  let program := (← IO.appPath).fileName.getD Help.defaultName
  let args := (program :: args).map OsString.ofString
  let interrupt ← (← Signal.Waiter.mk .sigint false).wait
  let terminate ← (← Signal.Waiter.mk .sigterm false).wait
  let environment ← IO.getEnv "RUST_LOG"
  let host ← hostFor args
  let report := Program.run host environment args .terminate
  if let some window := report.window? then store window
  IO.print report.output
  if report.waits then
    let earlier := report.linesBeforeSignal
    printLines earlier
    let report := Program.run host environment args (← awaitSignal interrupt terminate)
    printLines (report.errorLines.drop earlier.length)
  else printLines report.errorLines
  return report.exitCode.toUInt32

end TargetLink.Main

/-- The program. -/
def main (args : List String) : IO UInt32 :=
  TargetLink.Main.run args
