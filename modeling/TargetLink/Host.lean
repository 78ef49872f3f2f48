import TargetLink.LinkError
import TargetLink.Window.Device

/-!
# The host's files

All that a session needs of the host is to look at two paths, the device and the image, and to map
the device. A `Host` says where each path leads, what the files hold, and what comes of mapping them.
Opening a device and reading an image both want a file at the path.
-/

namespace TargetLink

/-- What a path can lead to. -/
inductive Entry where
  /-- A directory. -/
  | directory
  /-- A file. -/
  | file (id : FileId)

/-- The files of a host. -/
structure Host where
  /-- Where a path leads. -/
  lookup : OsString → Except OsError Entry
  /-- What a file holds. -/
  contents : FileId → FileData
  /-- What comes of mapping so many bytes of a file. -/
  map : FileId → UInt64 → Except OsError Reach

namespace Host

/-- The file at a path. -/
def openFile (host : Host) (path : OsString) : Except OsError FileId :=
  match host.lookup path with
  | .ok (.file id) => .ok id
  | .ok .directory => .error .isADirectory
  | .error cause => .error cause

/-- The contents of the file at a path. -/
def file (host : Host) (path : OsString) : Except OsError FileData :=
  (host.openFile path).map host.contents

/-- All bytes of the file at a path. -/
def readFile (host : Host) (path : OsString) : Except OsError (List UInt8) :=
  (host.file path).map FileData.bytes

/-- The files with other contents of one of them. -/
def store (host : Host) (id : FileId) (data : FileData) : Host :=
  { host with contents := fun i => if i = id then data else host.contents i }

/-- The files with what an open window shares with its device. -/
def sharing (host : Host) (w : DeviceWindow) : Host :=
  match w.handle with
  | some id => host.store id w.device
  | none => host

end Host

end TargetLink
