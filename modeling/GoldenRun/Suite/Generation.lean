import GoldenRun.Corpus
import GoldenRun.Suite.Listing

/-!
# Generating a suite

The listing of the tests in a directory is written to a file, unless the file holds it already.
-/

namespace GoldenRun.Suite

/-- What a generation leaves behind: its answer, the file system, and whether the file was
written. -/
structure Generation where
  answer : Except Failure Nat
  disk : Disk
  written : Bool

def holds (disk : Disk) (path : Path) (text : String) : Bool :=
  match disk.readText path with
  | .ok current => current == text
  | .error _ => false

def writeListing (disk : Disk) (output : Path) (listing : String) : Except Failure Unit × Disk :=
  let write (disk : Disk) : Except Failure Unit × Disk :=
    match disk.write output (Utf8.encode listing.toList) with
    | (.error fault, after) => (.error (.cannotWrite .suite output fault), after)
    | (.ok (), after) => (.ok (), after)
  match output.directory? with
  | none => write disk
  | some directory =>
    match disk.makeDirectories directory with
    | (.error fault, after) => (.error (.cannotWrite .suite directory fault), after)
    | (.ok (), after) => write after

/-- Brings the listing of a directory up to date, and counts its tests. -/
def generate (disk : Disk) (directory output : Path) (category : String) : Generation :=
  match Corpus.discover disk directory with
  | .error failure => ⟨.error failure, disk, false⟩
  | .ok names =>
    match render category names with
    | .error failure => ⟨.error failure, disk, false⟩
    | .ok listing =>
      if holds disk output listing then ⟨.ok names.length, disk, false⟩
      else
        match writeListing disk output listing with
        | (.error failure, after) => ⟨.error failure, after, false⟩
        | (.ok (), after) => ⟨.ok names.length, after, true⟩

end GoldenRun.Suite
