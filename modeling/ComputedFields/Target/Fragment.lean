import ComputedFields.Formula.Basic
import ComputedFields.Target.Basic
import ComputedFields.Target.Quoting

/-!
# Fragments of code

- `Fragment`: code with the kind of formula it was made of;
- `Target.literal`, `Target.read`, `Target.binary`, `Target.unary`: literals, fields and operators in a target;
- `Target.toText`, `Target.coalescedText`, `Target.toNumber`: operands as text and as numbers.
-/

namespace ComputedFields

/-- What a fragment was made of. -/
inductive FragmentKind where
  | text
  /-- A number, a boolean or a null. -/
  | literal
  | field
  | call
  | concat
  /-- Any other operator. -/
  | operator
deriving DecidableEq, Repr

structure Fragment where
  code : String
  kind : FragmentKind
deriving DecidableEq, Repr

/-- The code as an operand: results of operators are put in parentheses. -/
def Fragment.wrapped (f : Fragment) : String :=
  match f.kind with
  | .concat | .operator => "(" ++ f.code ++ ")"
  | _ => f.code

/-- How the value of a field is read. -/
inductive FieldAccess where
  /-- From the record, under a key. -/
  | stored (key : String)
  /-- By calling a getter. -/
  | computed (getter : String)
  /-- The code itself. -/
  | inline (code : String)
deriving DecidableEq, Repr

namespace Target

/-- The value that is no value. -/
def null : Target → String
  | python => "None"
  | javascript => "null"
  | sql => "NULL"

def quotedText : Target → String → String
  | python, s => doubleQuoted s
  | javascript, s => doubleQuoted s
  | sql, s => sqlText s

def boolean : Target → Bool → String
  | python, b => if b then "True" else "False"
  | javascript, b => if b then "true" else "false"
  | sql, b => if b then "TRUE" else "FALSE"

def literal (t : Target) : Literal → String
  | .number x => numberText x
  | .text s => t.quotedText s
  | .boolean b => t.boolean b

/-- Columns of one query do not see each other, so SQL has no way to call a getter. -/
def read : Target → FieldAccess → String
  | _, .inline code => code
  | python, .stored key => "record.get(" ++ doubleQuoted key ++ ")"
  | javascript, .stored key => "record[" ++ doubleQuoted key ++ "]"
  | sql, .stored key => "t." ++ sqlName key
  | python, .computed getter => getter ++ "(record, data)"
  | javascript, .computed getter => getter ++ "(record, data)"
  | sql, .computed _ => "NULL"

/-- The symbol of an operator. -/
def symbol : Target → BinaryOp → String
  | python, .concat => "+"
  | python, .equal => "=="
  | javascript, .concat => "+"
  | javascript, .equal => "==="
  | javascript, .notEqual => "!=="
  | sql, .concat => "||"
  | sql, .notEqual => "<>"
  | _, op => op.symbol

/-- An operator between operands. A quotient in SQL is exact, and null if the divisor is zero. -/
def binary : Target → BinaryOp → String → String → String
  | sql, .divide, left, right => "CAST(" ++ left ++ " AS NUMERIC) / NULLIF(" ++ right ++ ", 0)"
  | t, op, left, right => left ++ " " ++ t.symbol op ++ " " ++ right

def unary : Target → UnaryOp → String → String
  | _, .negate, operand => "-" ++ operand
  | python, .not, operand => "not " ++ operand
  | javascript, .not, operand => "!" ++ operand
  | sql, .not, operand => "NOT " ++ operand

/-- Code as text, where a null is the empty text. -/
def coalescedText : Target → String → String
  | python, code => "_text(" ++ code ++ ")"
  | javascript, code => "_text(" ++ code ++ ")"
  | sql, code => "COALESCE(CAST(" ++ code ++ " AS TEXT), '')"

/-- Code as text. -/
def toText : Target → String → String
  | python, code => "_text(" ++ code ++ ")"
  | javascript, code => "_text(" ++ code ++ ")"
  | sql, code => "CAST(" ++ code ++ " AS TEXT)"

/-- A fragment as a number. The operators of SQL know what to do with a null. -/
def toNumber : Target → Fragment → String
  | python, f => "_num(" ++ f.code ++ ")"
  | javascript, f => "_num(" ++ f.code ++ ")"
  | sql, f => f.wrapped

end Target

end ComputedFields
