import TargetLink.Config
import TargetLink.OsError

/-!
# Errors of the link

The causes for which a window refuses an access and for which the link as a whole refuses a request,
with their wordings. Each one ends the session; nothing is tried twice.
-/

namespace TargetLink

/-- Why a window cannot be had or refuses an access. -/
inductive WindowError where
  /-- The device cannot be opened for reading and writing. -/
  | deviceOpen (path : OsString) (cause : OsError)
  /-- The device cannot be mapped. -/
  | mapping (path : OsString) (size : UInt64) (cause : OsError)
  /-- The range does not fit into the window. -/
  | outOfRange (offset : WindowOffset) (len : Nat) (size : UInt64)
  /-- The window is closed. -/
  | unmapped
  /-- There is no memory behind the range. The system ends the process here, so nobody sees this
  error: it only leads out of everything that the process was doing. -/
  | fault
  deriving DecidableEq, Repr

/-- What is wrong, in words. -/
def WindowError.message : WindowError → String
  | .deviceOpen path cause => "failed to open " ++ path.display ++ ": " ++ cause.message
  | .mapping path size cause =>
    "failed to map " ++ hex size.toNat ++ " bytes of " ++ path.display ++ ": " ++ cause.message
  | .outOfRange offset len size =>
    "window range " ++ toString offset ++ "..+" ++ hex len ++ " exceeds window size " ++
      hex size.toNat
  | .unmapped => "window is not mapped"
  | .fault => "bus error"

/-- Why a request to the target is refused. -/
inductive LinkError where
  /-- The window refuses. -/
  | window (cause : WindowError)
  /-- The configuration is unusable. -/
  | configuration (cause : ConfigError)
  /-- The access leaves the window or the region of its first byte. -/
  | outOfBounds (addr : TargetAddr) (len : Nat)
  /-- No region answers for the address. -/
  | unmappedAddress (addr : TargetAddr)
  /-- The target was started before. -/
  | resetAlreadyIssued
  deriving DecidableEq, Repr

/-- What is wrong, in words. -/
def LinkError.message : LinkError → String
  | .window cause => cause.message
  | .configuration cause => "invalid configuration: " ++ cause.message
  | .outOfBounds addr len =>
    "access of " ++ hex len ++ " bytes at " ++ toString addr ++ " is out of bounds"
  | .unmappedAddress addr => "target address " ++ toString addr ++ " is not mapped by any region"
  | .resetAlreadyIssued => "reset was already issued for this session"

end TargetLink
