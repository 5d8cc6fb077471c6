import ComputedFields.Decimal.Shortest

/-!
# Reading numerals

- `Numeral`: a whole number times a power of ten;
- `Numeral.toFloat`: the double nearest to it;
- `read?`: the number that a text denotes, with an optional sign and the words for infinity and for no number.
-/

namespace ComputedFields.Decimal

/-- The number `coefficient * 10 ^ exponent`. -/
abbrev Numeral := Scaled

/-- The number that decimal digits denote. -/
def ofDigits (ds : List Char) : Nat := ds.foldl (fun n d => 10 * n + (d.toNat - '0'.toNat)) 0

/-- The nearest double, ties to the even one. Numerals far outside the range of doubles need no arithmetic. -/
def Numeral.toFloat (n : Numeral) : Float :=
  let point := digitCount n.coefficient + n.exponent
  if n.coefficient = 0 then 0
  else if point > 310 then infinity
  else if point < -330 then 0
  else Float.ofScientific n.coefficient (n.exponent < 0) n.exponent.natAbs

/-- What follows the mantissa: nothing, or an exponent that ends the text. -/
def readExponent? : List Char → Option Int
  | [] => some 0
  | e :: cs =>
    if e = 'e' ∨ e = 'E' then
      let (negative, ds) := match cs with
        | '-' :: ds => (true, ds)
        | '+' :: ds => (false, ds)
        | ds => (false, ds)
      if ds.isEmpty || !ds.all Char.isDigit then none
      else some (if negative then -(ofDigits ds : Int) else ofDigits ds)
    else none

/-- Digits with an optional fraction and exponent; at least one digit stands in the whole part or the fraction. -/
def readUnsigned? (cs : List Char) : Option Numeral :=
  let whole := cs.takeWhile Char.isDigit
  let afterWhole := cs.dropWhile Char.isDigit
  let (fraction, rest) := match afterWhole with
    | '.' :: ds => (ds.takeWhile Char.isDigit, ds.dropWhile Char.isDigit)
    | ds => ([], ds)
  if whole.isEmpty && fraction.isEmpty then none
  else (readExponent? rest).map fun e => ⟨ofDigits (whole ++ fraction), e - fraction.length⟩

/-- The words for infinity and for a value that is no number, in any case. -/
def readWord? (cs : List Char) : Option Float :=
  let word := String.ofList (cs.map Char.toLower)
  if word = "inf" ∨ word = "infinity" then some infinity
  else if word = "nan" then some (0 / 0)
  else none

def readMagnitude? (cs : List Char) : Option Float :=
  ((readUnsigned? cs).map Numeral.toFloat).orElse fun _ => readWord? cs

/-- The number that a whole text denotes. -/
def readChars? : List Char → Option Float
  | '-' :: cs => (readMagnitude? cs).map (- ·)
  | '+' :: cs => readMagnitude? cs
  | cs => readMagnitude? cs

def read? (s : String) : Option Float := readChars? s.toList

end ComputedFields.Decimal
