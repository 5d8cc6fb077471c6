import ComputedFields.Decimal.Binary

/-!
# Shortest decimals

- `Rounding`: the interval of numbers that are nearer to a double than to any other;
- `shortest`: the decimal with the fewest digits in that interval, and of those the one nearest to the double; of two
  that are equally near the larger one.
-/

namespace ComputedFields.Decimal

/-- The number `coefficient * 10 ^ exponent`. -/
structure Scaled where
  coefficient : Nat
  exponent : Int

/-- The numbers that round to a double: from `low` over `value` to `high`, all with the denominator `denominator`. -/
structure Rounding where
  low : Nat
  value : Nat
  high : Nat
  denominator : Nat
  /-- Whether the two ends round to the double as well. -/
  closed : Bool

/-- Half a unit to both sides; below a power of two, where the doubles are twice as dense, a quarter. -/
def Rounding.ofMagnitude (m : Magnitude) : Rounding :=
  let scale := Nat.pow 2 (m.exponent - 2).toNat
  let below := if m.significand = leadingBit ∧ m.exponent ≠ -1074 then 1 else 2
  { low := (4 * m.significand - below) * scale
    value := 4 * m.significand * scale
    high := (4 * m.significand + 2) * scale
    denominator := Nat.pow 2 (2 - m.exponent).toNat
    closed := m.significand % 2 == 0 }

/-- The number of decimal digits. -/
def digitCount (n : Nat) : Nat := (Nat.toDigits 10 n).length

/-- The least `p` with `value < 10 ^ p`. -/
def Rounding.decimalPoint (r : Rounding) : Int :=
  let p : Int := (digitCount r.value : Int) - digitCount r.denominator
  if r.denominator * Nat.pow 10 p.toNat ≤ r.value * Nat.pow 10 (-p).toNat then p + 1 else p

/-- The multiple of `10 ^ e` in the interval that is nearest to the value, if one of its two neighbours is in it. -/
def Rounding.nearest? (r : Rounding) (e : Int) : Option Scaled :=
  let up := Nat.pow 10 (-e).toNat
  let unit := r.denominator * Nat.pow 10 e.toNat
  let within (d : Nat) : Bool :=
    if r.closed then r.low * up ≤ d * unit && d * unit ≤ r.high * up
    else r.low * up < d * unit && d * unit < r.high * up
  let d := r.value * up / unit
  let rest := r.value * up - d * unit
  if rest = 0 then some ⟨d, e⟩
  else if within d && !(within (d + 1) && unit ≤ 2 * rest) then some ⟨d, e⟩
  else if within (d + 1) then some ⟨d + 1, e⟩
  else none

/-- The shortest decimal that reads back as the double of this magnitude. -/
def shortest (m : Magnitude) : Scaled :=
  let r := Rounding.ofMagnitude m
  ((List.range 17).findSome? fun (n : Nat) => r.nearest? (r.decimalPoint - (n + 1))).getD ⟨0, 0⟩

end ComputedFields.Decimal
