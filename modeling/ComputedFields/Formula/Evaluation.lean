import ComputedFields.Decimal.Rounding
import ComputedFields.Formula.Builtin
import ComputedFields.Formula.Error
import ComputedFields.Text.Bytes
import ComputedFields.Text.Search

/-!
# Evaluation

- `evaluate`: the value of a formula for a record;
- `Builtin.apply`: the value of a call, given its arguments as computations that run when the function asks for them, so
  that a choice never runs the branch it does not take;
- `Builtin.evaluated?`: the function that a name means here;
- `BinaryOp.apply`: the value of an operator.

Functions ask for their arguments in a fixed order, which decides which failure wins. An argument that is left off is a
blank. Places and sizes of texts are words: where one is too large, evaluation breaks off.
-/

namespace ComputedFields

/-- The value of every field of a record; fields it does not hold are blank. -/
abbrev Record := String → Value

/-- A value, or why there is none. -/
abbrev Outcome := Except Failure Value

/-- An argument that has not been asked for. -/
abbrev Pending := Thunk Outcome

/-- The number that an operator or function needs. -/
def Value.toNumber (v : Value) : Except Failure Float :=
  match v.asNumber? with
  | some x => .ok x
  | none => .error (.reported (.notANumber v))

/-! ## Arguments -/

/-- The argument with a number, counted from zero. -/
def argument (args : List Pending) (i : Nat) : Outcome :=
  match args[i]? with
  | some a => a.get
  | none => .ok .blank

def textAt (args : List Pending) (i : Nat) : Except Failure (List Char) := do
  return (← argument args i).asText.toList

def numberAt (args : List Pending) (i : Nat) : Except Failure Float := do
  (← argument args i).toNumber

/-- An argument that stands for `default` when it is left off. -/
def numberAtOr (default : Float) (args : List Pending) (i : Nat) : Except Failure Float :=
  if i < args.length then numberAt args i else .ok default

/-- All arguments, asked for from left to right, with arrays opened. -/
def allValues : List Pending → Except Failure (List Value)
  | [] => .ok []
  | a :: args => do
    let v ← a.get
    let vs ← allValues args
    return v.flatten ++ vs

/-- Refuses a call with a wrong number of arguments. -/
def checkCount (name : String) (arity : Arity) (args : List Pending) : Except Failure Unit :=
  if arity.admits args.length then .ok () else .error (.reported (.wrongArity name arity args.length))

/-! ## Operators -/

/-- The answer to a comparison; values that cannot be compared differ and are not ordered. -/
def BinaryOp.holds (op : BinaryOp) (o : Option Ordering) : Bool :=
  match op with
  | .equal => o == some .eq
  | .notEqual => o != some .eq
  | .less => o == some .lt
  | .lessEqual => o == some .lt || o == some .eq
  | .greater => o == some .gt
  | .greaterEqual => o == some .gt || o == some .eq
  | _ => false

/-- An arithmetic operation on the numbers of two values. -/
def arithmetic (f : Float → Float → Float) (l r : Value) : Outcome := do
  let x ← l.toNumber
  let y ← r.toNumber
  return .number (f x y)

/-- Division looks at the divisor first. -/
def quotient (l r : Value) : Outcome := do
  let y ← r.toNumber
  if y == 0 then throw (.reported .divisionByZero)
  let x ← l.toNumber
  return .number (x / y)

def BinaryOp.apply (op : BinaryOp) (l r : Value) : Outcome :=
  match op with
  | .add => arithmetic (· + ·) l r
  | .subtract => arithmetic (· - ·) l r
  | .multiply => arithmetic (· * ·) l r
  | .divide => quotient l r
  | .concat => .ok (.text (l.asText ++ r.asText))
  | op => .ok (.boolean (op.holds (l.compare? r)))

def UnaryOp.apply (op : UnaryOp) (v : Value) : Outcome :=
  match op with
  | .negate => do return .number (-(← v.toNumber))
  | .not => .ok (.boolean !v.isTruthy)

/-! ## Choices -/

/-- The result after the first candidate that equals the subject, the default, or a blank. -/
def switchOn (subject : Value) : List Pending → Outcome
  | candidate :: result :: rest => do
    if subject.compare? (← candidate.get) == some .eq then result.get else switchOn subject rest
  | [default] => default.get
  | [] => .ok .blank

/-! ## Text -/

/-- The place of the first occurrence of `needle` at or after the place `start`, counted from one; zero if there is
none. -/
def findPosition (needle haystack : List Char) (start : Nat) : Nat :=
  let skipped := start - 1
  if skipped ≤ haystack.length then
    match Text.indexOf? needle (haystack.drop skipped) with
    | some i => skipped + i + 1
    | none => 0
  else 0

/-- The last characters of a text. -/
def takeLast (n : Nat) (cs : List Char) : List Char := cs.drop (cs.length - n)

/-- How many characters stand before a hole that begins at the place `start`, counted from one. -/
def holeStart (cs : List Char) (start : Nat) : Nat := min (start - 1) cs.length

/-- How many characters stand before the end of a hole of `count` characters. -/
def holeEnd (cs : List Char) (first count : Nat) : Except Failure Nat :=
  if first + count < UInt64.size then .ok (min (first + count) cs.length) else .error (.panic .placeOverflow)

/-- A text with the characters of a hole replaced. -/
def fillHole (cs : List Char) (first last : Nat) (new : List Char) : List Char := cs.take first ++ new ++ cs.drop last

/-- The characters of numerals, wherever they stand in a text. -/
def isNumeralChar (c : Char) : Bool := c.isDigit || c == '.' || c == '-' || c == 'e' || c == 'E'

/-- The largest number `2 ^ 63 - 1` of bytes of a text. -/
def maxBytes : Nat := 9223372036854775807

/-- A text over and over. -/
def repeated (n : Nat) (cs : List Char) : Except Failure (List Char) :=
  if Text.byteLength cs * n ≤ maxBytes then .ok (if cs.isEmpty then [] else (List.replicate n cs).flatten)
  else .error (.panic .capacityOverflow)

/-! ## Numbers and arrays -/

/-- The numbers among values. -/
def numbersIn (vs : List Value) : List Float :=
  vs.filterMap fun v => match v with
    | .number x => some x
    | _ => none

/-- The sum from left to right; without summands it is the negative zero. -/
def total (xs : List Float) : Float := xs.foldl (· + ·) (-0.0)

/-- The larger of two numbers, where what is not a number does not count. Of two zeros it is the second. -/
def larger (x y : Float) : Float := if y.isNaN || y < x then x else y

/-- The smaller of two numbers, where what is not a number does not count. Of two zeros it is the second. -/
def smaller (x y : Float) : Float := if y.isNaN || x < y then x else y

/-- The numbers put together pairwise from the left; a blank if there are none. -/
def reduce (f : Float → Float → Float) : List Float → Value
  | [] => .blank
  | x :: xs => .number (xs.foldl f x)

def countValue (n : Nat) : Value := .number (Float.ofNat n)

/-- The first of all values that are the same. -/
def uniqueAfter (seen : List Value) : List Value → List Value
  | [] => []
  | v :: vs => if seen.any (·.same v) then uniqueAfter seen vs else v :: uniqueAfter (seen ++ [v]) vs

def unique (vs : List Value) : List Value := uniqueAfter [] vs

/-- The members of an array; a blank has none and any other value is its own only member. -/
def members : Value → List Value
  | .array items => items
  | .blank => []
  | v => [v]

/-! ## Calls -/

/-- The value of a call. Errors give the name it is called by. -/
def Builtin.apply (b : Builtin) (name : String) (args : List Pending) : Outcome :=
  match b with
  | .ifThenElse => do
    checkCount name (.between 2 3) args
    if (← argument args 0).isTruthy then argument args 1 else argument args 2
  | .switch => do
    checkCount name (.atLeast 3) args
    switchOn (← argument args 0) (args.drop 1)
  | .and => do return .boolean ((← allValues args).all (·.isTruthy))
  | .or => do return .boolean ((← allValues args).any (·.isTruthy))
  | .xor => do return .boolean (((← allValues args).countP (·.isTruthy)) % 2 == 1)
  | .blank => .ok .blank
  | .trueValue => .ok (.boolean true)
  | .falseValue => .ok (.boolean false)
  | .concatenate => do return .text (String.join ((← allValues args).map (·.asText)))
  | .len => do return countValue (← textAt args 0).length
  | .lower => do return .text (String.ofList (Text.lowerChars (← textAt args 0)))
  | .upper => do return .text (String.ofList (Text.upperChars (← textAt args 0)))
  | .trim => do return .text (String.ofList (Text.trimChars (← textAt args 0)))
  | .textOnly => do
    match ← argument args 0 with
    | .text s => return .text s
    | _ => return .text ""
  | .left => do
    let n ← numberAtOr 1 args 1
    return .text (String.ofList ((← textAt args 0).take (Decimal.toCount 0 n)))
  | .right => do
    let n ← numberAtOr 1 args 1
    return .text (String.ofList (takeLast (Decimal.toCount 0 n) (← textAt args 0)))
  | .mid => do
    checkCount name (.exactly 3) args
    let start := Decimal.toCount 1 (← numberAt args 1)
    let count := Decimal.toCount 0 (← numberAt args 2)
    return .text (String.ofList (((← textAt args 0).drop (start - 1)).take count))
  | .find => do
    checkCount name (.between 2 3) args
    let start := Decimal.toCount 1 (← numberAtOr 1 args 2)
    let needle ← textAt args 0
    return countValue (findPosition needle (← textAt args 1) start)
  | .search => do
    checkCount name (.between 2 3) args
    let start := Decimal.toCount 1 (← numberAtOr 1 args 2)
    let needle ← textAt args 0
    match findPosition (Text.lowerChars needle) (Text.lowerChars (← textAt args 1)) start with
    | 0 => return .blank
    | p => return countValue p
  | .substitute => do
    checkCount name (.between 3 4) args
    let nth ← if 3 < args.length then some <$> numberAt args 3 else pure none
    let cs ← textAt args 0
    let old ← textAt args 1
    let new ← textAt args 2
    match nth with
    | none => return .text (String.ofList (Text.replaceAll cs old new))
    | some n => return .text (String.ofList (Text.replaceNth cs old new (Decimal.toCount 0 n)))
  | .replace => do
    checkCount name (.exactly 4) args
    let cs ← textAt args 0
    let first := holeStart cs (Decimal.toCount 1 (← numberAt args 1))
    let last ← holeEnd cs first (Decimal.toCount 0 (← numberAt args 2))
    return .text (String.ofList (fillHole cs first last (← textAt args 3)))
  | .repeatText => do
    let cs ← textAt args 0
    return .text (String.ofList (← repeated (Decimal.toCount 0 (← numberAt args 1)) cs))
  | .value => do
    match Decimal.readChars? ((← textAt args 0).filter isNumeralChar) with
    | some x => return .number x
    | none => return .blank
  | .abs => do return .number (← numberAt args 0).abs
  | .round => do
    let x ← numberAt args 0
    return .number (Decimal.roundTo Decimal.halfAway x (← numberAt args 1))
  | .roundUp => do
    let x ← numberAt args 0
    return .number (Decimal.roundTo Decimal.awayFromZero x (← numberAt args 1))
  | .roundDown => do
    let x ← numberAt args 0
    return .number (Decimal.roundTo Decimal.towardZero x (← numberAt args 1))
  | .ceiling => do
    let significance ← numberAtOr 1 args 1
    if significance == 0 then return .number 0
    return .number (((← numberAt args 0) / significance).ceil * significance)
  | .floor => do
    let significance ← numberAtOr 1 args 1
    if significance == 0 then return .number 0
    return .number (((← numberAt args 0) / significance).floor * significance)
  | .int => do return .number (← numberAt args 0).floor
  | .mod => do
    let divisor ← numberAt args 1
    if divisor == 0 then throw (.reported .divisionByZero)
    let x ← numberAt args 0
    return .number (x - divisor * (x / divisor).floor)
  | .power => do
    let x ← numberAt args 0
    return .number (x.pow (← numberAt args 1))
  | .sqrt => do return .number (← numberAt args 0).sqrt
  | .exp => do return .number (← numberAt args 0).exp
  | .log => do
    let base ← numberAtOr 10 args 1
    return .number ((← numberAt args 0).log / base.log)
  | .sum => do return .number (total (numbersIn (← allValues args)))
  | .average => do
    match numbersIn (← allValues args) with
    | [] => return .number 0
    | x :: xs => return .number (total (x :: xs) / Float.ofNat (x :: xs).length)
  | .max => do return reduce larger (numbersIn (← allValues args))
  | .min => do return reduce smaller (numbersIn (← allValues args))
  | .count => do return countValue (numbersIn (← allValues args)).length
  | .countA => do return countValue ((← allValues args).countP (!·.isVoid))
  | .countAll => do return countValue (← allValues args).length
  | .arrayJoin => do
    let vs := members (← argument args 0)
    let separator ← if 1 < args.length then String.ofList <$> textAt args 1 else pure ", "
    return .text (separator.intercalate ((vs.filter (!·.isBlank)).map (·.asText)))
  | .arrayUnique => do return .array (unique (← allValues args))
  | .arrayCompact => do return .array ((← allValues args).filter (!·.isVoid))
  | .arrayFlatten => do return .array (← allValues args)
  | .now => .error (.reported (.unsupported name))
  | .today => .error (.reported (.unsupported name))
  | .recordId => .error (.reported (.unsupported name))

/-- The functions that have a value, by their names. What the time or the record's own id decides has none. -/
def Builtin.evaluated? : String → Option Builtin
  | "IF" => some .ifThenElse
  | "SWITCH" => some .switch
  | "AND" => some .and
  | "OR" => some .or
  | "XOR" => some .xor
  | "BLANK" => some .blank
  | "TRUE" => some .trueValue
  | "FALSE" => some .falseValue
  | "CONCATENATE" => some .concatenate
  | "LEN" => some .len
  | "LOWER" => some .lower
  | "UPPER" => some .upper
  | "TRIM" => some .trim
  | "T" => some .textOnly
  | "LEFT" => some .left
  | "RIGHT" => some .right
  | "MID" => some .mid
  | "FIND" => some .find
  | "SEARCH" => some .search
  | "SUBSTITUTE" => some .substitute
  | "REPLACE" => some .replace
  | "REPT" => some .repeatText
  | "VALUE" => some .value
  | "ABS" => some .abs
  | "ROUND" => some .round
  | "ROUNDUP" => some .roundUp
  | "ROUNDDOWN" => some .roundDown
  | "CEILING" => some .ceiling
  | "FLOOR" => some .floor
  | "INT" => some .int
  | "MOD" => some .mod
  | "POWER" => some .power
  | "SQRT" => some .sqrt
  | "EXP" => some .exp
  | "LOG" => some .log
  | "SUM" => some .sum
  | "AVERAGE" => some .average
  | "MAX" => some .max
  | "MIN" => some .min
  | "COUNT" => some .count
  | "COUNTA" => some .countA
  | "COUNTALL" => some .countAll
  | "ARRAYJOIN" => some .arrayJoin
  | "ARRAYUNIQUE" => some .arrayUnique
  | "ARRAYCOMPACT" => some .arrayCompact
  | "ARRAYFLATTEN" => some .arrayFlatten
  | _ => none

/-- The value of a call of the function with a name. -/
def applyNamed (name : String) (args : List Pending) : Outcome :=
  match Builtin.evaluated? name with
  | some b => b.apply name args
  | none => .error (.reported (.unsupported name))

mutual

/-- The value of a formula for a record. -/
def evaluate (record : Record) : Formula → Outcome
  | .literal l => .ok (Value.ofLiteral l)
  | .field r => .ok (record r.id)
  | .call name args => applyNamed name (evaluateAll record args)
  | .binary op left right => do
    let l ← evaluate record left
    let r ← evaluate record right
    op.apply l r
  | .unary op operand => do
    op.apply (← evaluate record operand)

/-- The arguments of a call, to be asked for. -/
def evaluateAll (record : Record) : List Formula → List Pending
  | [] => []
  | f :: fs => Thunk.mk (fun _ => evaluate record f) :: evaluateAll record fs

end

end ComputedFields
