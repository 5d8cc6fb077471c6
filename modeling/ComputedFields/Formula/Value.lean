import ComputedFields.Decimal.Numeral
import ComputedFields.Formula.Basic
import ComputedFields.Text.Shown
import ComputedFields.Text.Spacing

/-!
# Values

- `Value`: what a formula computes and what a record holds;
- `Value.asNumber?`, `Value.asText`, `Value.isTruthy`: the conversions that operators and functions apply;
- `Value.compare?`: the order of values that can be compared, in which a blank counts as the zero of the other side;
- `Value.flatten`: the values in nested arrays;
- `Value.shown`: a value in a message.
-/

namespace ComputedFields

inductive Value where
  | number (value : Float)
  | text (value : String)
  | boolean (value : Bool)
  /-- The values of several linked records. -/
  | array (items : List Value)
  | blank

instance : Inhabited Value := ⟨.blank⟩

namespace Value

def ofLiteral : Literal → Value
  | .number x => number x
  | .text s => text s
  | .boolean b => boolean b

def isBlank : Value → Bool
  | blank => true
  | _ => false

/-- The number a value stands for: booleans are one and zero, blanks are zero, text is read, and an array of one value
stands for that value. -/
def asNumber? : Value → Option Float
  | number x => some x
  | boolean b => some (if b then 1 else 0)
  | text s => Decimal.readChars? (Text.trimChars s.toList)
  | blank => some 0
  | array [v] => asNumber? v
  | array _ => none

mutual

/-- The text of a value: blanks are empty and the values of an array are listed. -/
def asText : Value → String
  | number x => numberText x
  | text s => s
  | boolean b => if b then "1" else "0"
  | blank => ""
  | array items => ", ".intercalate (asTexts items)

def asTexts : List Value → List String
  | [] => []
  | v :: vs => asText v :: asTexts vs

end

/-- Zero, empty text, blanks and empty arrays are false. -/
def isTruthy : Value → Bool
  | number x => x != 0
  | text s => !s.isEmpty
  | boolean b => b
  | array items => !items.isEmpty
  | blank => false

mutual

/-- The values in an array and in the arrays inside it; any other value is alone. -/
def flatten : Value → List Value
  | array items => flattenAll items
  | number x => [number x]
  | text s => [text s]
  | boolean b => [boolean b]
  | blank => [blank]

def flattenAll : List Value → List Value
  | [] => []
  | v :: vs => flatten v ++ flattenAll vs

end

mutual

/-- Equality of values, by which no value that is not a number equals itself and the two zeros are equal. -/
def same : Value → Value → Bool
  | number x, number y => x == y
  | text s, text t => s == t
  | boolean a, boolean b => a == b
  | blank, blank => true
  | array vs, array ws => sameAll vs ws
  | _, _ => false

def sameAll : List Value → List Value → Bool
  | [], [] => true
  | v :: vs, w :: ws => same v w && sameAll vs ws
  | _, _ => false

end

/-- Whether a value is a blank or the empty text. -/
def isVoid : Value → Bool
  | blank => true
  | text s => s.isEmpty
  | _ => false

/-- The order of two numbers; none if one of them is not a number. -/
def compareNumbers? (x y : Float) : Option Ordering :=
  if x < y then some .lt else if x == y then some .eq else if y < x then some .gt else none

/-- The order of texts by code points. -/
def compareTexts (s t : String) : Ordering := if s < t then .lt else if s = t then .eq else .gt

/-- The order of two values. Text is comparable with text and blanks only, and arrays with nothing. -/
def compare? : Value → Value → Option Ordering
  | text s, text t => some (compareTexts s t)
  | blank, text t => some (compareTexts "" t)
  | text s, blank => some (compareTexts s "")
  | text _, _ => none
  | _, text _ => none
  | array _, _ => none
  | _, array _ => none
  | v, w => (asNumber? v).bind fun x => (asNumber? w).bind fun y => compareNumbers? x y

mutual

/-- A value in a message. -/
def shown : Value → String
  | number x => "Number(" ++ Decimal.write Decimal.technical x ++ ")"
  | text s => "String(" ++ Text.shown s ++ ")"
  | boolean b => "Boolean(" ++ (if b then "true" else "false") ++ ")"
  | array items => "Array([" ++ ", ".intercalate (shownAll items) ++ "])"
  | blank => "Empty"

def shownAll : List Value → List String
  | [] => []
  | v :: vs => shown v :: shownAll vs

end

end Value

end ComputedFields
