import GoldenRun.Pattern.CharSet

/-!
# Regular expressions

An expression is matched between two places of a text. Besides characters it may ask what stands
next to a place. `step` gives what is left to be matched behind one character, in every possible
way; `search` follows all ways at once from every place of the text.
-/

namespace GoldenRun.Pattern

/-- What an expression may ask of a place. -/
inductive Look
  | start
  | finish
  | lineStart
  | lineEnd
  | boundary
  | notBoundary
  | wordStart
  | wordEnd
  | wordStartHalf
  | wordEndHalf
  deriving DecidableEq, Repr

/-- What stands before and behind a place, if anything does. -/
structure Position where
  before : Option Char
  behind : Option Char

def isWordAt (neighbour : Option Char) : Bool :=
  neighbour.any Text.isWord

/-- Whether a neighbour is a newline or missing. -/
def isLineEdge (neighbour : Option Char) : Bool :=
  neighbour.all (· == '\n')

def Look.holds (look : Look) (position : Position) : Bool :=
  let left := isWordAt position.before
  let right := isWordAt position.behind
  match look with
  | start => position.before.isNone
  | finish => position.behind.isNone
  | lineStart => isLineEdge position.before
  | lineEnd => isLineEdge position.behind
  | boundary => left != right
  | notBoundary => left == right
  | wordStart => !left && right
  | wordEnd => left && !right
  | wordStartHalf => !left
  | wordEndHalf => !right

/-- A regular expression. -/
inductive Regex
  | empty
  | set (ignoreCase : Bool) (set : CharSet)
  | look (look : Look)
  | seq (a b : Regex)
  | alt (a b : Regex)
  | times (r : Regex) (least : Nat) (most : Option Nat)
  deriving DecidableEq, Repr

namespace Regex

/-- Whether an expression matches without taking a character at a place. -/
def nullable (position : Position) : Regex → Bool
  | empty => true
  | set _ _ => false
  | look l => l.holds position
  | seq a b => nullable position a && nullable position b
  | alt a b => nullable position a || nullable position b
  | times r least _ => least == 0 || nullable position r

def andThen (a b : Regex) : Regex :=
  if a = empty then b else seq a b

/-- What is left to be matched behind a character that is taken at a place. A repetition may take
its first rounds without a character if its body can do so there. -/
def step (position : Position) (c : Char) : Regex → List Regex
  | empty => []
  | set ignoreCase s => if s.mem ignoreCase c then [empty] else []
  | look _ => []
  | seq a b =>
    (step position c a).map (andThen · b) ++ (if nullable position a then step position c b else [])
  | alt a b => step position c a ++ step position c b
  | times r least most =>
    if most = some 0 then []
    else
      let left := if nullable position r then 0 else least - 1
      (step position c r).map (andThen · (times r left (most.map (· - 1))))

def distinct (states : List Regex) : List Regex :=
  states.foldr (fun r others => if r ∈ others then others else r :: others) []

/-- Whether one of some expressions, or a new attempt at the whole expression, matches from here
on. The character before is known. -/
def searchFrom (whole : Regex) (before : Option Char) (states : List Regex) : List Char → Bool
  | [] => (whole :: states).any (nullable ⟨before, none⟩)
  | c :: rest =>
    let position : Position := ⟨before, some c⟩
    (whole :: states).any (nullable position)
      || searchFrom whole (some c) (distinct ((whole :: states).flatMap (step position c))) rest

/-- Whether an expression matches some part of a text. -/
def search (r : Regex) (text : List Char) : Bool :=
  searchFrom r none [] text

end Regex

end GoldenRun.Pattern
