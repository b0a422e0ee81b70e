import GoldenRun.Trial.Basic

/-!
# Batches

Several tests of one category are run one after the other, whatever becomes of each. Only a failure
that ends the whole run stops a batch. Every test has a line in the report, and a summary counts
them by kind.
-/

namespace GoldenRun

/-- A test of a batch and what became of it. -/
structure Entrant where
  name : String
  result : Except Failure Comparison

namespace Entrant

/-- What a line of the report begins with. -/
inductive Kind
  | passed
  | failed
  | errored
  deriving DecidableEq, Repr

def kind (entrant : Entrant) : Kind :=
  match entrant.result with
  | .ok answer => if answer.passed then .passed else .failed
  | .error _ => .errored

def line (category : String) (entrant : Entrant) : String :=
  let id := category ++ "/" ++ entrant.name
  match entrant.result with
  | .ok answer =>
    if answer.passed then "PASS  " ++ id ++ "\n"
    else "FAIL  " ++ id ++ ": " ++ answer.display ++ "\n"
  | .error failure => "ERROR " ++ id ++ ": " ++ failure.report ++ "\n"

end Entrant

namespace Batch

/-- Runs one test from beginning to end. -/
def runOne (rig : Rig) (category name : String) : Job (Except Failure Comparison) :=
  match Trial.new rig category name with
  | .error failure => pure (.error failure)
  | .ok trial => do
    let (result, after) ← trial.run rig
    after.discard rig
    pure result

/-- The failure that ends a whole run, if a result is one. -/
def fatal? : Except Failure Comparison → Option Failure
  | .ok _ => none
  | .error failure => if failure.isFatal then some failure else none

/-- Runs tests in turn, up to a failure that ends the run. -/
def runAll (rig : Rig) (category : String) : List String → Job (List Entrant × Option Failure)
  | [] => pure ([], none)
  | name :: rest => do
    let result ← runOne rig category name
    match fatal? result with
    | some failure => pure ([], some failure)
    | none =>
      let (others, failure) ← runAll rig category rest
      pure (⟨name, result⟩ :: others, failure)

def count (kind : Entrant.Kind) (entrants : List Entrant) : Nat :=
  entrants.countP (·.kind = kind)

def allPassed (entrants : List Entrant) : Bool :=
  count .failed entrants + count .errored entrants = 0

def lines (category : String) (entrants : List Entrant) : String :=
  String.join (entrants.map (·.line category))

def summary (entrants : List Entrant) : String :=
  "\n" ++ Nat.repr entrants.length ++ " tests: "
    ++ Nat.repr (count .passed entrants) ++ " passed, "
    ++ Nat.repr (count .failed entrants) ++ " failed, "
    ++ Nat.repr (count .errored entrants) ++ " errored\n"

end Batch

end GoldenRun
