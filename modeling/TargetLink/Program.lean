import TargetLink.CommandLine.Options
import TargetLink.LogFilter.Basic

/-!
# The program

A run of the program, from the command line to the exit code. A command line that starts no session
is answered at once; a session is run to its end, and its events become the lines of the log.
-/

namespace TargetLink

/-- How a run of the program ended. -/
inductive Report where
  /-- The command line started no session. -/
  | usage (answer : UsageError)
  /-- A session was run; `log` holds the events that passed the filter. -/
  | session (ending : Ending) (log : List Event)

namespace Report

/-- The exit code; for a process that was ended by the system, the one that a shell shows. -/
def exitCode : Report → UInt8
  | .usage answer => if answer.isAnswer then 0 else 2
  | .session ending _ =>
    match ending.result? with
    | some (.ok _) => 0
    | some (.error _) => 1
    | none => 135

/-- What the program writes to its standard output. -/
def output : Report → String
  | .usage answer => if answer.isAnswer then answer.printed else ""
  | .session .. => ""

/-- The lines that the program writes to its standard error. -/
def errorLines : Report → List String
  | .usage answer => if answer.isAnswer then [] else [answer.printed]
  | .session _ log => log.map Event.line

/-- The session waits for a stop signal. -/
def waits : Report → Bool
  | .session (.returned (.ok (.stopped ..)) ..) _ => true
  | _ => false

/-- The lines written before a stop signal arrives. -/
def linesBeforeSignal : Report → List String
  | .usage _ => []
  | .session _ log =>
    let earlier : Event → Bool
      | .stopping _ => false
      | _ => true
    (log.takeWhile earlier).map Event.line

/-- The window that the session leaves, if there was one. -/
def window? : Report → Option DeviceWindow
  | .usage _ => none
  | .session ending _ => ending.window?

end Report

namespace Program

/-- The events in front of a session. -/
def opening (ignored : List String) : List Event :=
  .starting :: ignored.map .plusargIgnored

/-- The event behind a session that returned. -/
def closing : Except SessionError Outcome → Event
  | .ok outcome => .sessionFinished outcome
  | .error cause => .sessionFailed cause.message

/-- Runs the program with a command line, the program's name first. `environment` is the filter that
the environment asks for, and `signal` the stop signal that arrives if the session waits for one. -/
def run (host : Host) (environment : Option String) (args : List OsString) (signal : StopSignal) :
    Report :=
  match Options.parse args with
  | .error answer => .usage answer
  | .ok (options, ignored) =>
    let filter := LogFilter.choose environment options.verbosity
    let ending := options.session.run host signal
    let events := opening ignored ++ ending.log.toList ++ (ending.result?.map closing).toList
    .session ending (events.filter filter.passes)

end Program

end TargetLink
