import ComputedFields.Decimal.Binary

/-!
# Rounding to decimal places

- `power`: a power by repeated squaring, with one division at the end for a negative exponent;
- `towardZero`, `awayFromZero`, `halfAway`: the three ways to a whole number;
- `roundTo`: a number rounded at a decimal place.
-/

namespace ComputedFields.Decimal

/-- The sign as a factor; zeros have the sign of their sign bit. -/
def signum (x : Float) : Float := if x.isNaN then x else if signBit x then -1 else 1

def towardZero (x : Float) : Float := if x < 0 then x.ceil else x.floor

def awayFromZero (x : Float) : Float := signum x * x.abs.ceil

/-- To the nearest whole number, halves away from zero. -/
def halfAway (x : Float) : Float := signum x * (x.abs + 0.5).floor

/-- Repeated squaring: the factor so far times `base ^ n`. -/
def powerTimes (factor base : Float) (n : Nat) : Float :=
  if n = 0 then factor
  else
    let factor := if n % 2 = 1 then factor * base else factor
    powerTimes factor (base * base) (n / 2)
termination_by n

def power (base : Float) (n : Int) : Float :=
  let p := powerTimes 1 base n.natAbs
  if n < 0 then 1 / p else p

/-- The nearest 32-bit integer toward zero; what is not a number counts as zero. -/
def toPlaces (x : Float) : Int := x.toInt32.toInt

/-- Rounding at a decimal place; negative places are left of the decimal point. -/
def roundTo (mode : Float → Float) (x places : Float) : Float :=
  let factor := power 10 (toPlaces places)
  mode (x * factor) / factor

/-- A count read from a number: no less than `least`, whole, and within 64 bits. -/
def toCount (least x : Float) : Nat := (if least < x then x else least).toUInt64.toNat

end ComputedFields.Decimal
