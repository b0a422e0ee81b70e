import GoldenRun.Disk.Basic

/-!
# Changes

What differs between two states of a file system below the home directory: entries that were
added, entries that are gone, and entries with another content.
-/

namespace GoldenRun.Disk

/-- The names from a directory to a place below it. -/
def below? (directory place : Place) : Option Place :=
  if directory.isPrefixOf place ∧ place ≠ directory then some (place.drop directory.length)
  else none

/-- The entries below the home directory, by the names that lead to them from there. -/
def contents (disk : Disk) : List (Place × Entry) :=
  disk.entries.filterMap fun (place, entry) => (below? disk.home place).map (·, entry)

/-- The path of an entry below the home directory. That of a directory ends in a slash. -/
def label (place : Place) (entry : Entry) : String :=
  "/".intercalate place ++ (if entry = .directory then "/" else "")

/-- What happened to an entry. -/
inductive Change
  | added
  | removed
  | altered
  deriving DecidableEq, Repr

/-- Whether two entries differ in what they hold. The permission to execute a file does not
count. -/
def differs : Entry → Entry → Bool
  | .file a _, .file b _ => a != b
  | a, b => a != b

/-- The difference between two states, in the order of the paths. An entry that was replaced by
one of another kind was removed and added. -/
def changes (before after : Disk) : List (Change × String) :=
  let old := before.contents
  let new := after.contents
  let gone := old.filterMap fun (place, entry) =>
    let path := label place entry
    match new.lookup place with
    | some other => if label place other = path then none else some (Change.removed, path)
    | none => some (Change.removed, path)
  let come := new.filterMap fun (place, entry) =>
    let path := label place entry
    match old.lookup place with
    | some other =>
      if label place other = path then
        if differs other entry then some (Change.altered, path) else none
      else some (Change.added, path)
    | none => some (Change.added, path)
  (gone ++ come).mergeSort fun a b => decide (a.2 ≤ b.2)

end GoldenRun.Disk
