import GoldenRun.Decimal.Shortest

/-!
# Lengths of time

A length of time in seconds and nanoseconds. It is written in seconds: the two parts are rounded
to representable fractions, then their sum is, and the sum has its shortest decimal form.
-/

namespace GoldenRun

structure Duration where
  seconds : Nat
  nanoseconds : Nat
  deriving DecidableEq, Repr

namespace Duration

def perSecond : Nat := 1000000000

def ofSeconds (seconds : Nat) : Duration :=
  ⟨seconds, 0⟩

def ofMilliseconds (milliseconds : Nat) : Duration :=
  ⟨milliseconds / 1000, milliseconds % 1000 * 1000000⟩

def total (d : Duration) : Nat :=
  d.seconds * perSecond + d.nanoseconds

/-- The representable number of seconds, in binary units. -/
def units (d : Duration) : Nat :=
  let whole := Decimal.nearest d.seconds 1
  let fraction := Decimal.nearest d.nanoseconds perSecond
  Decimal.nearest (whole + fraction) (Nat.pow 2 Decimal.unitBits)

/-- The number of seconds in decimal digits. -/
def display (d : Duration) : String :=
  (Decimal.Point.ofUnits d.units).toString

end Duration

end GoldenRun
