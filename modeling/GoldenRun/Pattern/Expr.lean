import GoldenRun.Pattern.Regex

/-!
# Written expressions

An expression as it is written, before its flags are applied. A change of flags holds up to the end
of the group in which it stands, across the bars of that group.
-/

namespace GoldenRun.Pattern

/-- What does not depend on letters: whether case counts, whether a dot takes newlines, and whether
the ends of lines count as ends. -/
structure Flags where
  ignoreCase : Bool := false
  dotAll : Bool := false
  multiline : Bool := false
  deriving DecidableEq, Repr

/-- Flags that are switched on or off; the others stay as they are. -/
structure FlagChange where
  ignoreCase : Option Bool := none
  dotAll : Option Bool := none
  multiline : Option Bool := none
  deriving DecidableEq, Repr

def FlagChange.apply (change : FlagChange) (flags : Flags) : Flags where
  ignoreCase := change.ignoreCase.getD flags.ignoreCase
  dotAll := change.dotAll.getD flags.dotAll
  multiline := change.multiline.getD flags.multiline

/-- An expression as it is written. -/
inductive Expr
  | blank
  | literal (c : Char)
  | dot
  | lineStart
  | lineEnd
  | look (look : Look)
  | set (set : CharSet)
  | change (change : FlagChange)
  | group (change : FlagChange) (e : Expr)
  | times (e : Expr) (least : Nat) (most : Option Nat)
  | seq (a b : Expr)
  | alt (a b : Expr)
  deriving DecidableEq, Repr

namespace Expr

def noNewline : CharSet :=
  .complement (.single '\n')

def anything : CharSet :=
  .complement .none

/-- The expression under given flags, and the flags behind it. -/
def compile : Expr → Flags → Regex × Flags
  | blank, flags => (.empty, flags)
  | literal c, flags => (.set flags.ignoreCase (.bracket false (.single c)), flags)
  | dot, flags => (.set false (if flags.dotAll then anything else noNewline), flags)
  | lineStart, flags => (.look (if flags.multiline then .lineStart else .start), flags)
  | lineEnd, flags => (.look (if flags.multiline then .lineEnd else .finish), flags)
  | look l, flags => (.look l, flags)
  | set s, flags => (.set flags.ignoreCase s, flags)
  | change c, flags => (.empty, c.apply flags)
  | group c e, flags => ((e.compile (c.apply flags)).1, flags)
  | times e least most, flags => (.times (e.compile flags).1 least most, flags)
  | seq a b, flags =>
    let (left, between) := a.compile flags
    let (right, after) := b.compile between
    (.seq left right, after)
  | alt a b, flags =>
    let (left, between) := a.compile flags
    let (right, after) := b.compile between
    (.alt left right, after)

def toRegex (e : Expr) : Regex :=
  (e.compile {}).1

def ofItems : List Expr → Expr
  | [] => blank
  | [e] => e
  | e :: rest => seq e (ofItems rest)

def ofBranches : List Expr → Expr
  | [] => blank
  | [e] => e
  | e :: rest => alt e (ofBranches rest)

end Expr

end GoldenRun.Pattern
