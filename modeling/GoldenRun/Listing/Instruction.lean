import GoldenRun.Text.Blank
import GoldenRun.Text.Hex

/-!
# Instructions in a listing

A line of a disassembly listing that holds an instruction has an address, an optional colon, and
an instruction word of eight hexadecimal digits, between white space; what follows the word behind
white space is ignored. In a memory image an instruction is written as its address and its word.
-/

namespace GoldenRun

/-- An instruction of a listing: its address as it is written there, and its word. -/
structure Instruction where
  address : List Char
  encoding : UInt32
  deriving DecidableEq

namespace Instruction

def width : Nat := 8

def separator : List Char := [':', ' ', ' ', ' ']

def display (i : Instruction) : List Char :=
  i.address ++ separator ++ Hex.fixed width i.encoding.toNat

def dropColon : List Char → List Char
  | ':' :: rest => rest
  | text => text

/-- Whether a text may follow an instruction word: it is empty, or begins with white space and goes
on without a newline. -/
def isIgnored : List Char → Bool
  | [] => true
  | c :: rest => Text.isBlank c && !rest.contains '\n'

/-- Reads the instruction word and what follows it. -/
def parseWord? (text : List Char) : Option UInt32 :=
  let digits := text.take width
  if digits.length = width ∧ digits.all Hex.isDigit ∧ isIgnored (text.drop width) then
    some (UInt32.ofNat (Hex.value digits))
  else none

/-- Reads what follows the address. -/
def parseField? (text : List Char) : Option UInt32 :=
  match dropColon text with
  | [] => none
  | c :: rest => if Text.isBlank c then parseWord? (rest.dropWhile Text.isBlank) else none

def parse? (line : List Char) : Option Instruction :=
  let text := line.dropWhile Text.isBlank
  let address := text.takeWhile Hex.isDigit
  if address = [] then none
  else (parseField? (text.dropWhile Hex.isDigit)).map (⟨address, ·⟩)

end Instruction

end GoldenRun
