import GoldenRun.Disk.Lookup

/-!
# Operations on files

What a program asks of the file system: to open, create and remove files, to make directories and
to list them. An operation that is refused changes nothing, save that directories made on the way
to one that cannot be made stay.
-/

namespace GoldenRun.Disk

/-- The place of a file or directory that is opened for reading. -/
def openFile (disk : Disk) (path : Path) : Except Fault Place :=
  match disk.resolve true path with
  | .ok (.entry place _) => .ok place
  | .ok (.vacant _ _) => .error .missing
  | .error fault => .error fault

/-- Opens a file for writing: a file that exists loses its content, a missing one is made. -/
def createFile (disk : Disk) (path : Path) : Except Fault (Place × Disk) :=
  if path.endsInSlash then
    match disk.resolveAlong false path path.steps with
    | .ok _ => .error .isADirectory
    | .error fault => .error fault
  else
    match disk.resolve true path with
    | .ok (.entry place (.file _ executable)) =>
      .ok (place, disk.put place (.file [] executable))
    | .ok (.entry _ _) => .error .isADirectory
    | .ok (.vacant directory name) =>
      .ok (directory ++ [name], disk.put (directory ++ [name]) (.file [] false))
    | .error fault => .error fault

def removeFile (disk : Disk) (path : Path) : Except Fault Disk :=
  match disk.resolveAlong false path path.steps with
  | .ok (.entry _ .directory) => .error .isADirectory
  | .ok (.entry place _) =>
    if path.endsInSlash then .error .notADirectory else .ok (disk.erase place)
  | .ok (.vacant _ _) => .error .missing
  | .error fault => .error fault

def makeDirectory (disk : Disk) (path : Path) : Except Fault Disk :=
  match disk.resolveAlong false path path.steps with
  | .ok (.entry _ _) => .error .alreadyExists
  | .ok (.vacant directory name) => .ok (disk.put (directory ++ [name]) .directory)
  | .error fault => .error fault

/-- Makes a directory and whatever is missing above it, given the path and the paths above it. A
directory that is there already is left as it is. -/
def makeLineage (disk : Disk) : List Path → Except Fault Unit × Disk
  | [] => (.ok (), disk)
  | path :: above =>
    if path = "" then (.ok (), disk)
    else
      match disk.makeDirectory path with
      | .ok made => (.ok (), made)
      | .error .missing =>
        match makeLineage disk above with
        | (.error fault, made) => (.error fault, made)
        | (.ok (), made) =>
          match made.makeDirectory path with
          | .ok done => (.ok (), done)
          | .error fault => if made.isDirectory path then (.ok (), made) else (.error fault, made)
      | .error fault => if disk.isDirectory path then (.ok (), disk) else (.error fault, disk)

/-- The names below a directory, its own names in reverse, that end in one that says something. -/
def namesAbove : List String → List (List String)
  | [] => [[]]
  | segment :: rest =>
    if Path.isIdle segment then namesAbove rest else (segment :: rest) :: namesAbove rest

/-- A path and the paths above it, the longest first. -/
def lineage (path : Path) : List Path :=
  (namesAbove path.body.reverse).map fun names => Path.assemble path.anchor names.reverse

/-- Makes a directory and whatever is missing above it. -/
def makeDirectories (disk : Disk) (path : Path) : Except Fault Unit × Disk :=
  disk.makeLineage (lineage path)

def list (disk : Disk) (path : Path) : Except Fault (List String) :=
  match disk.resolve true path with
  | .ok (.entry place .directory) => .ok (disk.children place)
  | .ok (.entry _ _) => .error .notADirectory
  | .ok (.vacant _ _) => .error .missing
  | .error fault => .error fault

def read (disk : Disk) (path : Path) : Except Fault Bytes :=
  match disk.openFile path with
  | .error fault => .error fault
  | .ok place =>
    match disk.stream place with
    | ⟨content, none⟩ => .ok content
    | ⟨_, some fault⟩ => .error fault

def readText (disk : Disk) (path : Path) : Except Fault String :=
  match disk.read path with
  | .error fault => .error fault
  | .ok content =>
    match Utf8.decode? content with
    | some text => .ok (String.ofList text)
    | none => .error .notText

def write (disk : Disk) (path : Path) (data : Bytes) : Except Fault Unit × Disk :=
  match disk.createFile path with
  | .error fault => (.error fault, disk)
  | .ok (place, made) => (.ok (), made.store place data)

end GoldenRun.Disk
