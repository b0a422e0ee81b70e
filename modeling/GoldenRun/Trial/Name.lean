import GoldenRun.Failure

/-!
# Names of tests

A test is named by its category and its own name. Both are parts of paths, so neither may be blank,
a relative segment, or hold a separator.
-/

namespace GoldenRun.Trial

/-- Whether a character separates the segments of a path, on any system. -/
def isSeparator (c : Char) : Bool :=
  c == '/' || c == '\\'

/-- Why a text cannot be a name, if it cannot. -/
def flaw? (text : String) : Option NameFlaw :=
  if text = "" then some .blank
  else if text = "." ∨ text = ".." then some .relative
  else if text.toList.any isSeparator then some .separator
  else none

def checkName (category name : String) : Except Failure Unit :=
  match flaw? category with
  | some flaw => .error (.badName category name flaw)
  | none =>
    match flaw? name with
    | some flaw => .error (.badName category name flaw)
    | none => .ok ()

theorem checkName_eq_ok_iff {category name : String} :
    checkName category name = .ok () ↔ flaw? category = none ∧ flaw? name = none := by
  unfold checkName
  cases flaw? category <;> cases flaw? name <;> simp

end GoldenRun.Trial
