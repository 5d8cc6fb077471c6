import ComputedFields.Decimal.Notation
import ComputedFields.Schema.FieldType

/-!
# Formulas

- `Formula`: literals, references to fields, calls of builtin functions and operators;
- `Formula.references`, `Formula.fieldIds`, `Formula.functionNames`: what a formula mentions, from left to right;
- `numberText`: how a number is written wherever it becomes text.
-/

namespace ComputedFields

/-- A constant of a formula. -/
inductive Literal where
  | number (value : Float)
  | text (value : String)
  | boolean (value : Bool)

/-- A reference to a field; name and type are known once it is resolved against a schema. -/
structure FieldRef where
  id : String
  name : Option String := none
  type : Option FieldType := none
deriving DecidableEq, Repr

/-- The name if it is known, else the id. -/
def FieldRef.displayName (r : FieldRef) : String := r.name.getD r.id

inductive BinaryOp where
  | add
  | subtract
  | multiply
  | divide
  | concat
  | equal
  | notEqual
  | less
  | lessEqual
  | greater
  | greaterEqual
deriving DecidableEq, Repr

namespace BinaryOp

/-- The operator as formulas spell it. -/
def symbol : BinaryOp → String
  | add => "+"
  | subtract => "-"
  | multiply => "*"
  | divide => "/"
  | concat => "&"
  | equal => "="
  | notEqual => "!="
  | less => "<"
  | lessEqual => "<="
  | greater => ">"
  | greaterEqual => ">="

def all : List BinaryOp :=
  [add, subtract, multiply, divide, concat, equal, notEqual, less, lessEqual, greater, greaterEqual]

def ofSymbol? (s : String) : Option BinaryOp := all.find? (·.symbol == s)

def isArithmetic : BinaryOp → Bool
  | add | subtract | multiply | divide => true
  | _ => false

def isComparison : BinaryOp → Bool
  | equal | notEqual | less | lessEqual | greater | greaterEqual => true
  | _ => false

end BinaryOp

inductive UnaryOp where
  | negate
  | not
deriving DecidableEq, Repr

/-- A formula. Names of functions are in upper case. -/
inductive Formula where
  | literal (value : Literal)
  | field (ref : FieldRef)
  | call (name : String) (arguments : List Formula)
  | binary (op : BinaryOp) (left right : Formula)
  | unary (op : UnaryOp) (operand : Formula)

/-- A number as text: the fewest digits that read back, without an exponent; the negative zero is written as zero. -/
def numberText (x : Float) : String := if x == 0 then "0" else Decimal.write Decimal.plain x

/-- The text of a literal in a concatenation. -/
def Literal.asText : Literal → String
  | .number x => numberText x
  | .text s => s
  | .boolean b => if b then "1" else "0"

namespace Formula

mutual

/-- The ids of all references, from left to right, with repetitions. -/
def references : Formula → List String
  | literal _ => []
  | field r => [r.id]
  | call _ arguments => referencesIn arguments
  | binary _ left right => references left ++ references right
  | unary _ operand => references operand

def referencesIn : List Formula → List String
  | [] => []
  | f :: fs => references f ++ referencesIn fs

end

mutual

/-- The names of all calls, outer ones first, with repetitions. -/
def calls : Formula → List String
  | literal _ => []
  | field _ => []
  | call name arguments => name :: callsIn arguments
  | binary _ left right => calls left ++ calls right
  | unary _ operand => calls operand

def callsIn : List Formula → List String
  | [] => []
  | f :: fs => calls f ++ callsIn fs

end

/-- The ids a formula refers to, each once, in the order of their first mention. -/
def fieldIds (f : Formula) : List String := f.references.eraseDups

/-- The functions a formula calls, each once, in the order of their first mention. -/
def functionNames (f : Formula) : List String := f.calls.eraseDups

end Formula

end ComputedFields
