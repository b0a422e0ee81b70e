/-!
# Binary fractions of limited precision

A fraction is counted in units of `2 ^ -90`. It is representable if its significant bits fit into
53 places. `nearest` rounds a quotient to the representable fraction nearest to it, a tie going to
the even one. Quotients below `2 ^ -37`, save zero, are out of range.
-/

namespace GoldenRun.Decimal

/-- How many places after the binary point a unit is. -/
def unitBits : Nat := 90

/-- How many significant bits a representable fraction has. -/
def precision : Nat := 53

/-- The quotient of two numbers rounded to a whole number, a tie going to the even one. -/
def roundHalfEven (num den : Nat) : Nat :=
  let q := num / den
  let r := num % den
  if 2 * r < den then q
  else if den < 2 * r then q + 1
  else if q % 2 = 0 then q else q + 1

/-- The number of low bits of a whole number that exceed the precision. -/
def excess (n : Nat) : Nat :=
  n.log2 + 1 - precision

/-- The representable fraction nearest to a quotient, in units. -/
def nearest (num den : Nat) : Nat :=
  let units := num * Nat.pow 2 unitBits
  let grain := Nat.pow 2 (excess (units / den))
  roundHalfEven units (den * grain) * grain

end GoldenRun.Decimal
