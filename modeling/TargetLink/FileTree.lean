import TargetLink.Host

/-!
# File trees

Directories and files by their places, and the walk that a path takes through them. The walk goes
component by component: it needs a directory to go on from, stays where it is for an empty component
or a single dot, and goes up for two dots. Files are mapped as a process of a 64-bit system maps them.
-/

namespace TargetLink

/-- The names that lead from the root to a directory or a file. -/
abbrev Place := List (List UInt8)

/-- What is behind a file in a mapping. -/
inductive Backing where
  /-- The file, up to the end of its last page. -/
  | pages
  /-- Memory for all of the mapping. -/
  | memory
  /-- Nothing that could be mapped. -/
  | nothing

/-- Directories and files, with a directory in which paths without a leading slash start. -/
structure FileTree where
  /-- The places of the directories other than the root. -/
  directories : List Place
  /-- The files with their places, the newest first. -/
  files : List (Place × FileData)
  /-- The places of the files that are not mapped page by page. -/
  devices : List (Place × Backing)
  /-- The place where relative paths start. -/
  start : Place

namespace FileTree

variable (t : FileTree)

/-- The file at a place. -/
def file? (place : Place) : Option FileData :=
  (t.files.find? (·.1 == place)).map (·.2)

/-- There is a directory or a file at a place. -/
def has (place : Place) : Bool :=
  place.isEmpty || t.directories.contains place || (t.file? place).isSome

/-- The longest name of a file, in bytes. -/
def nameMax : Nat := 255

/-- The longest path, in bytes. -/
def pathMax : Nat := 4095

/-- The place that one component leads to. -/
def step (place : Place) (name : List UInt8) : Except OsError Place :=
  let dot : List UInt8 := [0x2E]
  if (t.file? place).isSome then .error .notADirectory
  else if name = [] ∨ name = dot then .ok place
  else if name = dot ++ dot then .ok place.dropLast
  else if nameMax < name.length then .error .nameTooLong
  else if t.has (place ++ [name]) then .ok (place ++ [name])
  else .error .notFound

/-- The place that a path leads to. -/
def walk (path : OsString) : Except OsError Place :=
  if path.bytes.contains 0 then .error .zeroByteInPath
  else if path.bytes = [] then .error .notFound
  else if pathMax < path.bytes.length then .error .nameTooLong
  else
    let origin := if path.bytes.head? = some 0x2F then [] else t.start
    path.components.foldlM t.step origin

/-- What a path leads to. A file goes by its number in the list of files. -/
def lookup (path : OsString) : Except OsError Entry :=
  (t.walk path).map fun place =>
    match t.files.findIdx? (·.1 == place) with
    | some id => .file id
    | none => .directory

/-- The greatest gap in the address space of a process. A process has 2^47 bytes for itself, and its
program stands two thirds up, on a page boundary. -/
def greatestGap : Nat := 0x555555554000

/-- No signed word counts this many bytes. -/
def signedLimit : Nat := 0x8000000000000000

/-- The bytes of a page of memory. -/
def mappedPage : Nat := 4096

/-- What comes of mapping `size` bytes of a file. -/
def mapped (backing : Backing) (size : UInt64) : Except OsError Reach :=
  if signedLimit ≤ size.toNat then .error .mappingOverflow
  else if greatestGap < size.toNat then .error .outOfMemory
  else
    match backing with
    | .pages =>
      .ok ⟨fun n => (n + mappedPage - 1) / mappedPage * mappedPage, by simp only [mappedPage]; omega⟩
    | .memory => .ok ⟨fun n => max n size.toNat, by omega⟩
    | .nothing => .error .noDevice

/-- What is behind the file with a number. -/
def backing (id : FileId) : Backing :=
  let at? := (t.files[id]?).bind fun file => t.devices.lookup file.1
  at?.getD .pages

/-- The tree as the files of a host. -/
def host : Host where
  lookup := t.lookup
  contents id := ((t.files[id]?).map (·.2)).getD (.zeros 0)
  map id size := mapped (t.backing id) size

/-- The tree with a file at the place that a path leads to, if it leads to a file. -/
def store (path : OsString) (data : FileData) : FileTree :=
  match t.walk path with
  | .ok place => if (t.file? place).isSome then { t with files := (place, data) :: t.files } else t
  | .error _ => t

end FileTree

end TargetLink
