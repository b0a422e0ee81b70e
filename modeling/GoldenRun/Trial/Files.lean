import GoldenRun.Path

/-!
# Files of a test

Where the files of a test are, given the root of the corpus, the category and the name. The source
and the golden result are written by hand; the other four are made from them.
-/

namespace GoldenRun.Trial

/-- The six files of a test. -/
structure Files where
  source : Path
  object : Path
  listing : Path
  image : Path
  expected : Path
  result : Path
  deriving DecidableEq, Repr

def resources (root : Path) (category : String) : Path :=
  (root.join category).join "testResources"

def assemblyDirectory (root : Path) (category : String) : Path :=
  (resources root category).join "assembly"

namespace Files

def locate (root : Path) (category name : String) : Files :=
  let assembly := assemblyDirectory root category
  let below (directory : String) : Path := (resources root category).join directory
  { source := assembly.join (name ++ ".s")
    object := assembly.join (name ++ ".out")
    listing := assembly.join (name ++ ".dis")
    image := (below "memImages").join (name ++ ".mem")
    expected := (below "expected").join (name ++ ".txt")
    result := (below "results").join (name ++ ".txt") }

/-- The files that are made, in the order in which they are made. -/
def generated (files : Files) : List Path :=
  [files.object, files.listing, files.image, files.result]

end Files

end GoldenRun.Trial
