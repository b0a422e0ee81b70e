import GoldenRun.Listing.Instruction
import GoldenRun.Stream
import GoldenRun.Text.Lines

/-!
# Going through a listing

A cursor goes through the lines of a listing and stops at each instruction and at each line that
is not text. Other lines are skipped and counted. Where reading past the content meets a fault,
only lines that a newline ends are there, and behind them the fault is met again and again.
-/

namespace GoldenRun

namespace Stream

/-- The lines of a stream that can be read: a last line without newline is known to be complete
only where the stream ends cleanly. -/
def lines (stream : Stream) : List Bytes :=
  match stream.fault with
  | none => Lines.all stream.content
  | some _ => Lines.ended stream.content

end Stream

/-- Where a listing has been read up to. -/
structure Cursor where
  lines : List Bytes
  fault : Option Fault
  skipped : Nat
  deriving DecidableEq

namespace Cursor

def start (listing : Stream) : Cursor :=
  ⟨listing.lines, listing.fault, 0⟩

/-- What a line holds: an instruction, nothing of interest, or no text at all. Carriage returns at
its end do not belong to it. -/
def readLine (line : Bytes) : Except Fault (Option Instruction) :=
  match Utf8.decode? line with
  | none => .error .notText
  | some text => .ok (Instruction.parse? (Text.dropEndWhile (· == '\r') text))

/-- Goes through lines up to the next thing to report, and counts the lines that are skipped. -/
def advance (fault : Option Fault) (skipped : Nat) :
    List Bytes → Option (Except Fault Instruction) × Cursor
  | [] => (fault.map .error, ⟨[], fault, skipped⟩)
  | line :: rest =>
    match readLine line with
    | .error found => (some (.error found), ⟨rest, fault, skipped⟩)
    | .ok (some instruction) => (some (.ok instruction), ⟨rest, fault, skipped⟩)
    | .ok none => advance fault (skipped + 1) rest

/-- The next instruction or fault, if the listing has not come to its end. -/
def next (cursor : Cursor) : Option (Except Fault Instruction) × Cursor :=
  advance cursor.fault cursor.skipped cursor.lines

end Cursor

/-- The instructions of lines up to the first one that is not text, and the fault that ends them;
behind the last line it is a given one. -/
def Cursor.collect (fault : Option Fault) : List Bytes → List Instruction × Option Fault
  | [] => ([], fault)
  | line :: rest =>
    match readLine line with
    | .error found => ([], some found)
    | .ok (some instruction) =>
      (instruction :: (collect fault rest).1, (collect fault rest).2)
    | .ok none => collect fault rest

def Stream.instructions (listing : Stream) : List Instruction × Option Fault :=
  Cursor.collect listing.fault listing.lines

end GoldenRun
