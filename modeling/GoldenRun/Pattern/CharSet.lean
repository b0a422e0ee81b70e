import GoldenRun.Text.Blank
import GoldenRun.Text.Digit
import GoldenRun.Text.Folding
import GoldenRun.Text.Word

/-!
# Sets of characters

The sets that a pattern can name: single characters and ranges, digits, white space and word
characters, and what brackets make of them. Where letter case does not count, a bracket holds every
case variant of what it lists, before it is negated.
-/

namespace GoldenRun.Pattern

/-- How two sets inside a bracket are combined. -/
inductive SetOperation
  | both
  | without
  | either
  deriving DecidableEq, Repr

/-- Whether a combination holds a character, given whether its sides do. -/
def SetOperation.apply : SetOperation → Bool → Bool → Bool
  | both, a, b => a && b
  | without, a, b => a && !b
  | either, a, b => a != b

/-- A set of characters as it is written. -/
inductive CharSet
  | none
  | range (first last : Char)
  | digit
  | blank
  | word
  | complement (set : CharSet)
  | union (a b : CharSet)
  | bracket (negated : Bool) (set : CharSet)
  | combination (operation : SetOperation) (a b : CharSet)
  deriving DecidableEq, Repr

namespace CharSet

def single (c : Char) : CharSet :=
  range c c

/-- Whether a property holds of a character, or of one of its variants where case does not count. -/
def upToCase (ignoreCase : Bool) (p : Char → Bool) (c : Char) : Bool :=
  if ignoreCase then (Text.caseVariants c).any p else p c

def mem (ignoreCase : Bool) : CharSet → Char → Bool
  | none, _ => false
  | range first last, c => first ≤ c && c ≤ last
  | digit, c => Text.isDigit c
  | blank, c => Text.isBlank c
  | word, c => Text.isWord c
  | complement set, c => !mem ignoreCase set c
  | union a b, c => mem ignoreCase a c || mem ignoreCase b c
  | bracket negated set, c => upToCase ignoreCase (fun x => mem ignoreCase set x) c != negated
  | combination operation a b, c =>
    operation.apply (upToCase ignoreCase (fun x => mem ignoreCase a x) c)
      (upToCase ignoreCase (fun x => mem ignoreCase b x) c)

theorem mem_single {c d : Char} : mem false (single c) d = decide (d = c) := by
  simp only [single, mem]
  by_cases h : d = c
  · subst h
    simp
  · have : ¬(c ≤ d ∧ d ≤ c) := fun ⟨h₁, h₂⟩ => h (Char.le_antisymm h₂ h₁)
    simp only [h, decide_false]
    simpa using this

end CharSet

end GoldenRun.Pattern
