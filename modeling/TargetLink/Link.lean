import TargetLink.Host
import TargetLink.Transport

/-!
# Setting up a link

A request becomes a transport in three steps: the configuration is resolved, the device is opened
and mapped, and the transport is put over the window. The device is not looked at before the
configuration is known to be good.
-/

namespace TargetLink

/-- What filling in the defaults of a request reports. -/
def LinkRequest.resolveEvents (r : LinkRequest) : List Event :=
  let window : List Event :=
    if explicitSize? r.windowSize = none then [.windowSizeDefaulted] else []
  let dram : List Event :=
    match explicitSize? r.dramSize, r.effectiveDramSize with
    | none, .ok size => [.dramSizeDefaulted size]
    | _, _ => []
  window ++ dram

namespace Link

variable {σ : Type}

/-- Opens a device and maps its first `size` bytes. -/
def openWindow (host : Host) (path : OsString) (size : UInt64) :
    Action WindowError σ DeviceWindow := do
  let id ← Action.ofExcept ((host.openFile path).mapError (.deviceOpen path))
  if size = 0 then
    Action.ofExcept (.error (.mapping path size .emptyMapping))
  let reach ← Action.ofExcept ((host.map id size).mapError (.mapping path size))
  Action.emit (.windowMapped path size)
  return { path, device := host.contents id, mapping := some { size, reach }, handle := some id }

/-- Sets up the link that a request asks for. A window that the plan does not fit is closed again. -/
def connect (host : Host) (request : LinkRequest) :
    Action LinkError σ (Transport DeviceWindow) := do
  Action.emitAll request.resolveEvents
  let plan ← Action.ofExcept (request.resolve.mapError .configuration)
  let window ←
    Action.mapError .window (openWindow host plan.device plan.regions.windowSize)
  match Transport.ofParts window plan.regions plan.policy with
  | .ok t => return t
  | .error cause => do
    Action.emitAll window.closeEvents
    Action.ofExcept (.error cause)

end Link

end TargetLink
