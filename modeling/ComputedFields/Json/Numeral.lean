import ComputedFields.Decimal.Numeral
import ComputedFields.Json.Draft

/-!
# Numbers of JSON texts

- `numeral`: the number at the beginning of a text, cut into its parts;
- `Numeral.scaled`: a whole number of at most 64 bits and a power of ten, which stand for the number;
- `Numeral.isOutOfRange`: whether the number is too large to be read.

A number is read as the product of two doubles, the one nearest to the whole number and the one nearest to the power of
ten. Close to the largest double this product can be infinite for a number that still has a double near to it.
-/

namespace ComputedFields.Json

/-- The parts of a number as they are written: the fraction with its point, and the exponent with its letter. -/
structure Numeral where
  sign : List Char
  whole : List Char
  fraction : List Char
  exponent : List Char
deriving DecidableEq, Repr

/-! ## Parts -/

/-- At least one digit. A text that ends instead is only noticed by those who read the number. -/
def someDigits (cs : List Char) : Except Break (List Char) :=
  match cs with
  | [] => .error (.inScalar .truncated .malformed)
  | c :: _ => if c.isDigit then .ok (cs.takeWhile Char.isDigit) else .error (.inScalar .malformed .malformed)

def sign : List Char → List Char
  | '-' :: _ => ['-']
  | _ => []

/-- The whole part, without superfluous zeros in front. -/
def whole (cs : List Char) : Except Break (List Char) := do
  let ds ← someDigits cs
  if ds.head? = some '0' ∧ 1 < ds.length then .error (.inScalar .malformed .malformed) else .ok ds

def fraction : List Char → Except Break (List Char)
  | '.' :: cs => do return '.' :: (← someDigits cs)
  | _ => .ok []

def exponentSign : List Char → List Char
  | '-' :: _ => ['-']
  | '+' :: _ => ['+']
  | _ => []

def exponent : List Char → Except Break (List Char)
  | [] => .ok []
  | c :: cs =>
    if c = 'e' ∨ c = 'E' then do
      let s := exponentSign cs
      return c :: s ++ (← someDigits (cs.drop s.length))
    else .ok []

/-- The number at the beginning of a text. -/
def numeral (cs : List Char) : Except Break Numeral := do
  let s := sign cs
  let afterSign := cs.drop s.length
  let w ← whole afterSign
  let afterWhole := afterSign.drop w.length
  let f ← fraction afterWhole
  let e ← exponent (afterWhole.drop f.length)
  return ⟨s, w, f, e⟩

namespace Numeral

/-- The number as it is written. -/
def text (n : Numeral) : List Char := n.sign ++ n.whole ++ n.fraction ++ n.exponent

/-! ## Size -/

/-- The number that the exponent denotes; zero if there is none. -/
def power (n : Numeral) : Int :=
  match n.exponent.drop 1 with
  | '-' :: ds => -(Decimal.ofDigits ds : Int)
  | '+' :: ds => Decimal.ofDigits ds
  | ds => Decimal.ofDigits ds

/-- Appends digits to a number as long as it has at most 64 bits; gives back the digits that are left. -/
def absorb (n : Nat) : List Char → Nat × List Char
  | [] => (n, [])
  | d :: ds =>
    let longer := 10 * n + Decimal.ofDigits [d]
    if longer < UInt64.size then absorb longer ds else (n, d :: ds)

/-- The number without its sign, up to digits that do not fit. Those of the whole part count for the power of ten. -/
def scaled (n : Numeral) : Decimal.Scaled :=
  let digits := n.fraction.drop 1
  let (head, dropped) := absorb 0 n.whole
  let (coefficient, left) := absorb head digits
  ⟨coefficient, dropped.length - (digits.length - left.length) + n.power⟩

/-- Whether the product of the two doubles is infinite. No power of ten from the 309th on is a double. -/
def isOutOfRange (n : Numeral) : Bool :=
  let s := n.scaled
  if s.exponent < 0 then false
  else if 308 < s.exponent then s.coefficient != 0
  else (Float.ofNat s.coefficient * Float.ofScientific 1 false s.exponent.toNat).isInf

end Numeral

end ComputedFields.Json
