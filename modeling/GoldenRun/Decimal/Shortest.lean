import GoldenRun.Decimal.Binary

/-!
# Shortest decimal form

A representable fraction is written with the fewest digits that are nearer to it than to any other
representable fraction: on the coarsest decimal grid with such a point, and there by the point
nearest to the fraction, the greater of two that are equally near. The digits are written by
position, without an exponent.
-/

namespace GoldenRun.Decimal

/-- A decimal number: `digits * 10 ^ exponent`. -/
structure Point where
  digits : Nat
  exponent : Int
  deriving DecidableEq, Repr

namespace Point

/-- The factor between a whole number of quarter units and the grid of an exponent: quarter units
times `scale.1` and grid points times `scale.2` are on one scale. -/
def scale (exponent : Int) : Nat × Nat :=
  (Nat.pow 10 (-exponent).toNat, Nat.pow 10 exponent.toNat * Nat.pow 2 (unitBits + 2))

/-- Whether a point rounds to a fraction of so many units. The lower half gap is smaller at a power
of two, and a tie rounds to the even neighbour. -/
def roundsTo (units : Nat) (p : Point) : Bool :=
  let gap := Nat.pow 2 (excess units)
  let mantissa := units / gap
  let low := 4 * units - (if mantissa = Nat.pow 2 (precision - 1) then gap else 2 * gap)
  let high := 4 * units + 2 * gap
  let (up, down) := scale p.exponent
  if mantissa % 2 = 0 then low * up ≤ p.digits * down && p.digits * down ≤ high * up
  else low * up < p.digits * down && p.digits * down < high * up

/-- The distance between a point and a fraction of so many units, on the scale of the point. -/
def distance (units : Nat) (p : Point) : Nat :=
  let (up, down) := scale p.exponent
  (4 * units * up - p.digits * down) + (p.digits * down - 4 * units * up)

/-- The neighbours of a fraction on a decimal grid. -/
def neighbours (units : Nat) (exponent : Int) : Point × Point :=
  let (up, down) := scale exponent
  let below := 4 * units * up / down
  (⟨below, exponent⟩, ⟨below + 1, exponent⟩)

/-- The point of a grid that stands for a fraction, if the grid is fine enough. Of two that are
equally near the greater one does. -/
def onGrid? (units : Nat) (exponent : Int) : Option Point :=
  let (below, above) := neighbours units exponent
  match roundsTo units below, roundsTo units above with
  | true, true => if distance units below < distance units above then some below else some above
  | true, false => some below
  | false, true => some above
  | false, false => none

def exponents : List Int :=
  (List.range 80).map fun i => 20 - Int.ofNat i

/-- The decimal form of a fraction of so many units. -/
def ofUnits (units : Nat) : Point :=
  if units = 0 then ⟨0, 0⟩ else (exponents.findSome? (onGrid? units)).getD ⟨0, 0⟩

def toString (p : Point) : String :=
  let digits := Nat.repr p.digits
  if 0 ≤ p.exponent then
    if p.digits = 0 then digits else digits ++ String.ofList (List.replicate p.exponent.toNat '0')
  else
    let places := (-p.exponent).toNat
    let padded := List.replicate (places + 1 - digits.length) '0' ++ digits.toList
    let whole := padded.take (padded.length - places)
    let fraction := padded.drop (padded.length - places)
    String.ofList whole ++ "." ++ String.ofList fraction

end Point

end GoldenRun.Decimal
