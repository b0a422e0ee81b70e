import GoldenRun.Text.Pieces
import GoldenRun.Text.Utf8

/-!
# Lines of bytes

A line is what stands between newline bytes. Bytes after the last newline make up a line of their
own, unless there are none: a final newline ends the last line and begins no other.
-/

namespace GoldenRun.Lines

def newline : UInt8 := 0x0A

def carriageReturn : UInt8 := 0x0D

def ended (bytes : Bytes) : List Bytes :=
  (pieces newline bytes).dropLast

def remainder (bytes : Bytes) : Bytes :=
  (pieces newline bytes).getLast (pieces_ne_nil newline bytes)

theorem ended_append_remainder (bytes : Bytes) :
    ended bytes ++ [remainder bytes] = pieces newline bytes :=
  List.dropLast_concat_getLast (pieces_ne_nil newline bytes)

/-- All lines, with the bytes after the last newline as a last line if there are any. -/
def all (bytes : Bytes) : List Bytes :=
  if remainder bytes = [] then ended bytes else pieces newline bytes

/-- A line without a single carriage return at its end. -/
def trimOne (line : Bytes) : Bytes :=
  if line.getLast? = some carriageReturn then line.dropLast else line

end GoldenRun.Lines
