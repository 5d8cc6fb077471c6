import ComputedFields.Decimal.Shortest

/-!
# Decimal notation

- `Digits`: significant digits and the place of the decimal point;
- `Style`: which numbers are written with an exponent, and whether whole numbers show a fraction;
- `write`: a double in a style.
-/

namespace ComputedFields.Decimal

/-- The number `0.d₁d₂… * 10 ^ point`. -/
structure Digits where
  digits : List Char
  point : Int

def dropTrailingZeros (ds : List Char) : List Char := (ds.reverse.dropWhile (· == '0')).reverse

/-- Significant digits without zeros at the end; zero is the digit `0` before the point. -/
def Digits.ofScaled (s : Scaled) : Digits :=
  let ds := Nat.toDigits 10 s.coefficient
  match dropTrailingZeros ds with
  | [] => ⟨['0'], 1⟩
  | d :: rest => ⟨d :: rest, ds.length + s.exponent⟩

/-- How numbers are written. -/
structure Style where
  /-- Whether a number with this decimal point is written with an exponent. -/
  scientific : Int → Bool
  /-- What follows a whole number. -/
  wholeSuffix : List Char

def zeros (n : Nat) : List Char := List.replicate n '0'

/-- All digits around the decimal point. -/
def Digits.positional (d : Digits) (style : Style) : List Char :=
  if d.point ≤ 0 then ['0', '.'] ++ zeros (-d.point).toNat ++ d.digits
  else if d.digits.length ≤ d.point.toNat then d.digits ++ zeros (d.point.toNat - d.digits.length) ++ style.wholeSuffix
  else d.digits.take d.point.toNat ++ ['.'] ++ d.digits.drop d.point.toNat

/-- An integer in decimal. -/
def integer (n : Int) : List Char := (if n < 0 then ['-'] else []) ++ Nat.toDigits 10 n.natAbs

/-- One digit before the decimal point, and an exponent. -/
def Digits.scientific (d : Digits) : List Char :=
  d.digits.take 1 ++ (if d.digits.length ≤ 1 then [] else '.' :: d.digits.drop 1) ++ ['e'] ++ integer (d.point - 1)

/-- A number that is not negative. -/
def Digits.write (d : Digits) (style : Style) : List Char :=
  if style.scientific d.point then d.scientific else d.positional style

/-- A double with the fewest digits that read back. -/
def write (style : Style) (x : Float) : String :=
  if x.isNaN then "NaN"
  else
    (if signBit x then "-" else "") ++
      match Magnitude.ofFloat? x with
      | none => "inf"
      | some m => String.ofList ((Digits.ofScaled (if m.significand = 0 then ⟨0, 0⟩ else shortest m)).write style)

/-- Positional notation throughout; whole numbers have no fraction. -/
def plain : Style := ⟨fun _ => false, []⟩

/-- An exponent below `10 ^ -4` and from `10 ^ 16` on; whole numbers show a fraction of zero. -/
def technical : Style := ⟨fun point => point ≤ -4 || 17 ≤ point, ['.', '0']⟩

end ComputedFields.Decimal
