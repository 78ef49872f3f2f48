import TargetLink.SelfTest.Range

/-!
# How a session ends

A session without an image ends with the report of the self-test; one with an image ends when a stop
signal arrives.
-/

namespace TargetLink

/-- A signal that ends a session. -/
inductive StopSignal where
  /-- The interrupt from the terminal. -/
  | interrupt
  /-- The request to terminate. -/
  | terminate
  deriving DecidableEq, Repr, Inhabited

namespace StopSignal

/-- The name of the signal. -/
def name : StopSignal → String
  | .interrupt => "SIGINT"
  | .terminate => "SIGTERM"

/-- The signal with the name it has in debug text. -/
def debugText : StopSignal → String
  | .interrupt => "Interrupt"
  | .terminate => "Terminate"

end StopSignal

/-- How a session ended. -/
inductive Outcome where
  /-- The self-test passed, and the target was never started. -/
  | selfTest (report : SelfTestReport)
  /-- An image ran until a signal arrived. -/
  | stopped (imageLen : Nat) (signal : StopSignal)
  deriving DecidableEq, Repr

/-- The outcome as a record, for the log. -/
def Outcome.debugText : Outcome → String
  | .selfTest report => "SelfTest(" ++ report.debugText ++ ")"
  | .stopped imageLen signal =>
    "Stopped \x7b image_len: " ++ toString imageLen ++ ", signal: " ++ signal.debugText ++ " \x7d"

end TargetLink
