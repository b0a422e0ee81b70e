import GoldenRun.Disk.Edit
import GoldenRun.Failure

/-!
# The corpus

The tests of a category are found by their sources: every regular file of the directory with the
extension of assembly sources is one, named by what stands before the extension.
-/

namespace GoldenRun.Corpus

def sourceExtension : String := "s"

/-- The test whose source an entry of a directory is, if it is one. -/
def testOf? (disk : Disk) (directory : Path) (name : String) : Option String :=
  if disk.isFile (directory.join name) ∧ Path.extension? name = some sourceExtension then
    some (Path.stem name)
  else none

/-- The tests with a source in a directory, in the order of their names. A directory that does not
exist has none. -/
def discover (disk : Disk) (directory : Path) : Except Failure (List String) :=
  if disk.isDirectory directory then
    match disk.list directory with
    | .error fault => .error (.cannotRead .source directory fault)
    | .ok names =>
      .ok ((names.filterMap (testOf? disk directory)).mergeSort fun a b => decide (a ≤ b))
  else .ok []

end GoldenRun.Corpus
