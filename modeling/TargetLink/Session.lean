import TargetLink.Link
import TargetLink.Load
import TargetLink.SelfTest.Run

/-!
# Sessions

A session sets up a link, reports the layout and runs its payload: the self-test, which leaves the
target alone, or an image, which is loaded and started and then runs until a stop signal arrives.
However it ends, the window is closed at the end, unless the system ends the process before that.
-/

namespace TargetLink

/-- What to do once the window is mapped. -/
inductive Payload where
  /-- Test the memory without starting the target. -/
  | selfTest
  /-- Load an image and start the target. -/
  | image (path : OsString)
  deriving DecidableEq, Repr

/-- Why a session failed. -/
inductive SessionError where
  /-- The link refused a request. -/
  | transport (cause : LinkError)
  /-- The image cannot be read. -/
  | image (path : OsString) (cause : OsError)
  /-- The self-test failed. -/
  | selfTest (cause : SelfTestError)
  deriving DecidableEq, Repr

/-- What is wrong, in words. -/
def SessionError.message : SessionError → String
  | .transport cause => cause.message
  | .image path cause => "cannot read image " ++ path.display ++ ": " ++ cause.message
  | .selfTest cause => "self-test failed: " ++ cause.message

/-- The error of the link that a session failed with, also in the middle of the self-test. -/
def SessionError.linkError? : SessionError → Option LinkError
  | .transport cause | .selfTest (.transport cause) => some cause
  | _ => none

/-- What a session is to do. -/
structure Session where
  /-- The link that it needs. -/
  request : LinkRequest
  /-- What it runs. -/
  payload : Payload
  /-- Where an image goes. -/
  loadAddr : TargetAddr
  deriving DecidableEq

/-- How a session ended. -/
inductive Ending where
  /-- It returned a result. `window` is the window it leaves, if it ever had one, and `host` has the
  files as they are then. -/
  | returned (result : Except SessionError Outcome) (window : Option DeviceWindow) (host : Host)
    (log : Array Event)
  /-- The system ended the process in the middle of it. -/
  | killed (log : Array Event)

namespace Ending

/-- The result, if there is one. -/
def result? : Ending → Option (Except SessionError Outcome)
  | .returned result .. => some result
  | .killed _ => none

/-- The window that is left, if there is one. -/
def window? : Ending → Option DeviceWindow
  | .returned _ window .. => window
  | .killed _ => none

/-- What was reported, the oldest event first. -/
def log : Ending → Array Event
  | .returned _ _ _ log => log
  | .killed log => log

end Ending

namespace Session

variable {ω : Type} [Window ω]

/-- Tests the memory. -/
def test : Action SessionError (Transport ω) Outcome := do
  Action.emit .selfTestStarted
  let t ← Action.current
  let report ← Action.mapError .selfTest (SelfTest.run (SelfTest.plan t.regions))
  Action.emit (.selfTestPassed report.ranges.length report.bytesChecked)
  return .selfTest report

/-- Loads and starts the image at a path, and stops at the signal. -/
def runImage (host : Host) (path : OsString) (addr : TargetAddr) (signal : StopSignal) :
    Action SessionError (Transport ω) Outcome := do
  let image ← Action.ofExcept ((host.readFile path).mapError (.image path))
  Action.mapError .transport (loadAndStart addr image)
  Action.emit .targetRunning
  Action.emit (.stopping signal)
  return .stopped image.length signal

/-- Runs a payload over a transport; `signal` is the stop signal that arrives if it waits for
one. -/
def serve (host : Host) (payload : Payload) (addr : TargetAddr) (signal : StopSignal) :
    Action SessionError (Transport ω) Outcome :=
  match payload with
  | .selfTest => test
  | .image path => runImage host path addr signal

/-- What a session does with the transport that it was given. -/
def body (s : Session) (host : Host) (signal : StopSignal) : Action SessionError (Transport ω) Outcome := do
  Transport.logLayout
  serve host s.payload s.loadAddr signal

/-- The work ended in an access that the system did not let pass. -/
def faulted : Except SessionError Outcome → Bool
  | .ok _ => false
  | .error cause => cause.linkError? = some (.window .fault)

/-- Runs a session to its end. -/
def run (host : Host) (s : Session) (signal : StopSignal) : Ending :=
  match (Link.connect host s.request).result (Logged.start host) with
  | (.error cause, l) => .returned (.error (.transport cause)) none l.state l.log
  | (.ok t, l) =>
    let (result, served) := (s.body host signal).result { state := t, log := l.log }
    if faulted result then .killed served.log
    else
      let window := served.state.window
      let closed := DeviceWindow.closed { state := window, log := served.log }
      .returned result (some closed.state) (l.state.sharing window) closed.log

end Session

end TargetLink
