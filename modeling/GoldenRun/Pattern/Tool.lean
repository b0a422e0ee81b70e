import GoldenRun.Failure
import GoldenRun.Pattern.Reader
import GoldenRun.Settings.Basic

/-!
# Patterns for tools

The file name of a tool is recognised by a pattern: a regular expression, or a text that must occur
in it. A text is turned into the expression that matches it and nothing else. No bound is set on the
size of an expression, so that a text of any length becomes a pattern; an engine that compiles
expressions into a limited amount of memory refuses the longest ones.
-/

namespace GoldenRun

/-- A pattern as it was asked for, with the expression that decides. -/
structure ToolPattern where
  source : String
  regex : Pattern.Regex

namespace ToolPattern

open Pattern

def compile? (text : List Char) : Option Regex :=
  (Expr.parse? text).map Expr.toRegex

/-- A text in which no character has a meaning of its own. -/
def escape (text : List Char) : List Char :=
  text.flatMap fun c => if isMeta c then ['\\', c] else [c]

def ofRegex (text : String) : Except Failure ToolPattern :=
  match compile? text.toList with
  | some regex => .ok ⟨text, regex⟩
  | none => .error (.badPattern text)

/-- The pattern of a text that must occur. It exists for every text, since the size of its
expression is not limited here. -/
def ofSubstring (text : String) : Except Failure ToolPattern :=
  match compile? (escape text.toList) with
  | some regex => .ok ⟨text, regex⟩
  | none => .error (.badPattern (String.ofList (escape text.toList)))

def ofSpec : PatternSpec → Except Failure ToolPattern
  | .substring text => ofSubstring text
  | .regex text => ofRegex text

def recognises (pattern : ToolPattern) (name : String) : Bool :=
  pattern.regex.search name.toList

end ToolPattern

end GoldenRun
