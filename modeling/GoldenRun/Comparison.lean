import GoldenRun.Listing.Cursor

/-!
# Dump against golden result

A dump and its golden result are gone through in step, line by line, up to the first pair of lines
that differ. The letter case of ASCII does not count, nor does one carriage return at the end of a
line. A comparison without a single pair of lines never passes. Whether one of the two may go on
when the other has ended is up to a rule.
-/

namespace GoldenRun

/-- What becomes of lines that only one side has. -/
inductive LengthRule
  | lenient
  | strict
  deriving DecidableEq, Repr

/-- One of the two contents of a comparison. -/
inductive Side
  | expected
  | actual
  deriving DecidableEq, Repr

/-- The first pair of lines that differ, by their number and their texts. A side that has ended has
no text. -/
structure Difference where
  line : Nat
  expected : Option String
  actual : Option String
  deriving DecidableEq

/-- The answer of a comparison. -/
structure Comparison where
  passed : Bool
  matched : Nat
  difference : Option Difference
  leftover : Option Side
  deriving DecidableEq

def Difference.showLine : Option String → String
  | some text => "`" ++ text ++ "`"
  | none => "<end of file>"

def Difference.display (d : Difference) : String :=
  "line " ++ Nat.repr d.line ++ ": expected " ++ showLine d.expected ++ ", actual "
    ++ showLine d.actual

namespace Comparison

def display (c : Comparison) : String :=
  match c.difference with
  | some d => "mismatch at " ++ d.display
  | none =>
    if c.passed then Nat.repr c.matched ++ " lines match"
    else "nothing to compare: the expected or actual result is empty"

def lowerByte (b : UInt8) : UInt8 :=
  if 0x41 ≤ b ∧ b ≤ 0x5A then b + 0x20 else b

/-- What counts of a line. -/
def essence (line : Bytes) : Bytes :=
  (Lines.trimOne line).map lowerByte

def linesEqual (a b : Bytes) : Bool :=
  essence a == essence b

def lineText (line : Bytes) : String :=
  String.ofList (Utf8.decodeLossy (Lines.trimOne line))

/-- The answer where two lines differ behind a number of equal pairs. -/
def differing (matched : Nat) (expected actual : Bytes) : Comparison where
  passed := false
  matched := matched
  difference := some ⟨matched + 1, some (lineText expected), some (lineText actual)⟩
  leftover := none

/-- The answer where one side goes on behind a number of equal pairs. -/
def uneven (rule : LengthRule) (matched : Nat) (side : Side) (line : Bytes) : Comparison :=
  let difference : Option Difference :=
    match rule, side with
    | .lenient, _ => none
    | .strict, .expected => some ⟨matched + 1, some (lineText line), none⟩
    | .strict, .actual => some ⟨matched + 1, none, some (lineText line)⟩
  ⟨difference.isNone && 0 < matched, matched, difference, some side⟩

def complete (matched : Nat) : Comparison :=
  ⟨0 < matched, matched, none, none⟩

/-- Goes through the lines of both sides in step, behind a number of equal pairs. The expected line
is read first. -/
def walk (rule : LengthRule) (expectedFault actualFault : Option Fault) (matched : Nat) :
    List Bytes → List Bytes → Except (Side × Fault) Comparison
  | e :: es, a :: as =>
    if linesEqual e a then walk rule expectedFault actualFault (matched + 1) es as
    else .ok (differing matched e a)
  | e :: _, [] =>
    match actualFault with
    | some fault => .error (.actual, fault)
    | none => .ok (uneven rule matched .expected e)
  | [], a :: _ =>
    match expectedFault with
    | some fault => .error (.expected, fault)
    | none => .ok (uneven rule matched .actual a)
  | [], [] =>
    match expectedFault, actualFault with
    | some fault, _ => .error (.expected, fault)
    | none, some fault => .error (.actual, fault)
    | none, none => .ok (complete matched)

/-- Compares two streams. -/
def ofStreams (rule : LengthRule) (expected actual : Stream) : Except (Side × Fault) Comparison :=
  walk rule expected.fault actual.fault 0 expected.lines actual.lines

end Comparison

end GoldenRun
