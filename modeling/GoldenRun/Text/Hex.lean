/-!
# Hexadecimal numbers

Reading and writing numbers in base sixteen. Digits above nine are written in lower case and read
in either.
-/

namespace GoldenRun.Hex

def digit? (c : Char) : Option Nat :=
  if '0' ≤ c ∧ c ≤ '9' then some (c.toNat - 48)
  else if 'a' ≤ c ∧ c ≤ 'f' then some (c.toNat - 87)
  else if 'A' ≤ c ∧ c ≤ 'F' then some (c.toNat - 55)
  else none

def isDigit (c : Char) : Bool :=
  (digit? c).isSome

/-- The number that a row of digits denotes; other characters count as zero. -/
def value (digits : List Char) : Nat :=
  digits.foldl (fun n c => n * 16 + (digit? c).getD 0) 0

def digit (n : Nat) : Char :=
  if n < 10 then Char.ofNat (48 + n) else Char.ofNat (87 + n)

/-- The lowest digits of a number, a given number of them, the highest first. -/
def fixed : Nat → Nat → List Char
  | 0, _ => []
  | width + 1, n => fixed width (n / 16) ++ [digit (n % 16)]

@[simp]
theorem length_fixed (width n : Nat) : (fixed width n).length = width := by
  induction width generalizing n with
  | zero => rfl
  | succ width ih => simp [fixed, ih]

/-- The digits of a number without leading zeros; zero has one digit. -/
def shortest (n : Nat) : List Char :=
  if n < 16 then [digit n] else shortest (n / 16) ++ [digit (n % 16)]
termination_by n

end GoldenRun.Hex
