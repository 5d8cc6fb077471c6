/-!
# Binary numbers

A finite double is `significand * 2 ^ exponent` up to its sign. `Magnitude.ofFloat?` reads the two numbers off its bits.
-/

namespace ComputedFields.Decimal

/-- The number `significand * 2 ^ exponent`. -/
structure Magnitude where
  significand : Nat
  exponent : Int

/-- Infinity, which every sum or product too large for a double becomes. -/
def infinity : Float := Float.ofBits 0x7FF0000000000000

/-- The sign bit, which is set also for the negative zero. -/
def signBit (x : Float) : Bool := x.toBits >>> 63 == 1

/-- The weight `2 ^ 52` of the leading bit of a significand, which is not stored. -/
def leadingBit : Nat := 0x10000000000000

/-- The absolute value of a finite double, and nothing for infinities and values that are not numbers. -/
def Magnitude.ofFloat? (x : Float) : Option Magnitude :=
  let biased : Nat := x.toBits.toNat / leadingBit % 2048
  let fraction : Nat := x.toBits.toNat % leadingBit
  if biased = 2047 then none
  else if biased = 0 then some ⟨fraction, -1074⟩
  else some ⟨leadingBit + fraction, (biased : Int) - 1075⟩

end ComputedFields.Decimal
