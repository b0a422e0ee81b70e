import GoldenRun.Disk.Basic

/-!
# From paths to places

A path is followed one segment at a time from the top or from the home directory. Links are
replaced by their targets; no more than forty of them are followed. The last segment may be
missing: the result then tells where an entry of that name would stand.
-/

namespace GoldenRun

/-- Where a path leads: to an entry, or to a vacant name in a directory. -/
inductive Target
  | entry (place : Place) (found : Entry)
  | vacant (directory : Place) (name : String)
  deriving DecidableEq

namespace Path

/-- The segments of a path that lead somewhere, or stay where they are. -/
def steps (path : Path) : List String :=
  path.segments.filter (· != "")

/-- Whether a path ends in a slash, so that it can only name a directory. -/
def endsInSlash (path : Path) : Bool :=
  path.toList.getLast? == some '/'

/-- The segments to be followed, with a last one that stays in the directory that a final slash
asks for. -/
def route (path : Path) : List String :=
  if path.endsInSlash then path.steps ++ ["."] else path.steps

end Path

namespace Disk

/-- How many bytes the name of an entry may have. -/
def nameLimit : Nat := 255

/-- How many bytes a path may have. -/
def pathLimit : Nat := 4095

/-- How many links may be followed on the way. -/
def linkLimit : Nat := 40

/-- Follows segments from a directory. A link at the very end is followed only if asked for. -/
def walk (disk : Disk) (follow : Bool) (links : Nat) (place : Place) :
    List String → Except Fault Target
  | [] => .ok (.entry place .directory)
  | segment :: rest =>
    if segment = "." then walk disk follow links place rest
    else if segment = ".." then walk disk follow links place.dropLast rest
    else if segment.utf8ByteSize > nameLimit then .error .nameTooLong
    else
      match disk.at? (place ++ [segment]) with
      | none => if rest = [] then .ok (.vacant place segment) else .error .missing
      | some .directory => walk disk follow links (place ++ [segment]) rest
      | some (.file data executable) =>
        if rest = [] then .ok (.entry (place ++ [segment]) (.file data executable))
        else .error .notADirectory
      | some (.link target) =>
        if rest = [] ∧ follow = false then .ok (.entry (place ++ [segment]) (.link target))
        else
          match links with
          | 0 => .error .tooManyLinks
          | left + 1 =>
            walk disk follow left (if target.isAbsolute then [] else place) (target.route ++ rest)
termination_by segments => (links, segments.length)

def start (disk : Disk) (path : Path) : Place :=
  if path.isAbsolute then [] else disk.home

/-- The fault of a path whose text cannot be asked for at all. -/
def textFault? (path : Path) : Option Fault :=
  if '\x00' ∈ path.toList then some .zeroInName
  else if path.utf8ByteSize > pathLimit then some .nameTooLong
  else if path = "" then some .missing
  else none

/-- Follows given segments from the start of a path. -/
def resolveAlong (disk : Disk) (follow : Bool) (path : Path) (segments : List String) :
    Except Fault Target :=
  match textFault? path with
  | some fault => .error fault
  | none => walk disk follow linkLimit (disk.start path) segments

def resolve (disk : Disk) (follow : Bool) (path : Path) : Except Fault Target :=
  disk.resolveAlong follow path path.route

/-- The place and the entry that a path leads to, links followed. -/
def find? (disk : Disk) (path : Path) : Option (Place × Entry) :=
  match disk.resolve true path with
  | .ok (.entry place found) => some (place, found)
  | _ => none

def isFile (disk : Disk) (path : Path) : Bool :=
  match disk.find? path with
  | some (_, .file _ _) => true
  | _ => false

def isDirectory (disk : Disk) (path : Path) : Bool :=
  match disk.find? path with
  | some (_, .directory) => true
  | _ => false

/-- Whether a path leads to a regular file that may be executed. -/
def isExecutable (disk : Disk) (path : Path) : Bool :=
  match disk.find? path with
  | some (_, .file _ executable) => executable
  | _ => false

end Disk

end GoldenRun
