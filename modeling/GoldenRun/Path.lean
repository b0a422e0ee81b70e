import GoldenRun.Text.Pieces

/-!
# Paths

A path is a text whose segments stand between slashes. Joining keeps the text of both sides as it
is; only questions about the structure of a path look at its segments. Blank segments and segments
`.` say nothing about the place that a path names, save that a leading `.` is kept, so the parent
of `./a` is `.` and the parent of `a` is the empty path.
-/

namespace GoldenRun

abbrev Path := String

namespace Path

def isAbsolute (path : Path) : Bool :=
  path.toList.head? == some '/'

/-- A path below a base. A slash is put between the two unless the base is empty or ends in one; an
absolute path replaces the base. -/
def join (base part : Path) : Path :=
  if part.isAbsolute then part
  else if base.toList = [] ∨ base.toList.getLast? = some '/' then base ++ part
  else base ++ "/" ++ part

/-- The texts between the slashes of a path. -/
def segments (path : Path) : List String :=
  (pieces '/' path.toList).map String.ofList

/-- Whether a segment says nothing. -/
def isIdle (segment : String) : Bool :=
  segment == "" || segment == "."

/-- What a path consists of, for questions about its structure. -/
inductive Component
  | top
  | here
  | up
  | name (text : String)
  deriving DecidableEq, Repr

namespace Component

def ofSegment (segment : String) : Component :=
  if segment = ".." then up else name segment

/-- Components of different kinds come in a fixed order. -/
def rank : Component → Nat
  | top => 0
  | here => 1
  | up => 2
  | name _ => 3

/-- Whether one component comes before another. Names come in the order of their characters. -/
def before : Component → Component → Bool
  | name a, name b => decide (a < b)
  | a, b => a.rank < b.rank

end Component

def components (path : Path) : List Component :=
  let start : List Component :=
    if path.isAbsolute then [.top]
    else if path.segments.head? = some "." then [.here]
    else []
  start ++ (path.segments.filter (!isIdle ·)).map Component.ofSegment

/-- Whether one row of components comes before another, the first difference deciding. -/
def precedes : List Component → List Component → Bool
  | _, [] => false
  | [], _ :: _ => true
  | a :: as, b :: bs => a.before b || (a == b && precedes as bs)

/-- The first in order of some paths, and of equals the one that is listed first. -/
def least? : List Path → Option Path
  | [] => none
  | path :: rest =>
    match least? rest with
    | none => some path
    | some other => if precedes other.components path.components then some other else some path

/-- A list without the longest run at its end of items of a kind. -/
def stripEnd {α : Type} (p : α → Bool) (items : List α) : List α :=
  (items.reverse.dropWhile p).reverse

/-- The text in front of the segments that may be dropped: the slash of an absolute path or the
leading `.`. -/
def anchor (path : Path) : Path :=
  if path.isAbsolute then "/" else if path.segments.head? = some "." then "." else ""

/-- Everything behind the anchor, cut at slashes. -/
def body (path : Path) : List String :=
  if path.isAbsolute ∨ path.segments.head? = some "." then path.segments.tail else path.segments

/-- The path of an anchor and of segments behind it. -/
def assemble (anchor : Path) : List String → Path
  | [] => anchor
  | segment :: rest =>
    if anchor = "" then "/".intercalate (segment :: rest)
    else if anchor = "/" then "/" ++ "/".intercalate (segment :: rest)
    else anchor ++ "/" ++ "/".intercalate (segment :: rest)

/-- The path without its last component, as far as it is written before that component. The empty
path and the top have none. -/
def parent? (path : Path) : Option Path :=
  match stripEnd isIdle path.body with
  | [] => if path.anchor = "." then some "" else none
  | segment :: rest =>
    some (assemble path.anchor (stripEnd isIdle (segment :: rest).dropLast))

/-- The directory that must exist before a file can be made at a path, unless it is the current
one. -/
def directory? (path : Path) : Option Path :=
  path.parent?.filter (· != "")

/-- Cuts the name of an entry at its last dot into stem and extension. A dot at the very beginning
does not count, nor do the dots of `..`. -/
def splitName (name : String) : String × Option String :=
  let chars := name.toList
  let extension := (chars.reverse.takeWhile (· != '.')).reverse
  let before := chars.take (chars.length - extension.length)
  if before.length ≤ 1 || name == ".." then (name, none)
  else (String.ofList before.dropLast, some (String.ofList extension))

def stem (name : String) : String :=
  (splitName name).1

def extension? (name : String) : Option String :=
  (splitName name).2

/-- The directories that a search path lists, between colons. -/
def ofSearchPath (text : String) : List Path :=
  (pieces ':' text.toList).map String.ofList

end Path

end GoldenRun
