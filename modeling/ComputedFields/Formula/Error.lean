import ComputedFields.Formula.Arity
import ComputedFields.Formula.Lexeme
import ComputedFields.Formula.Value

/-!
# Errors of formulas

Each error is a cause; `FormulaError.message` is the only place that puts them into words.
-/

namespace ComputedFields

/-- What a parser needs at a place where it finds something else. -/
inductive Expected where
  | expression
  | rightParen
  /-- The arguments of a function follow its name. -/
  | arguments
  /-- The formula is complete. -/
  | finish
  | notOperand
  | notSingleOperand
deriving DecidableEq, Repr

def Expected.display : Expected → String
  | expression => "expression"
  | rightParen => "')'"
  | arguments => "'(' after function name"
  | finish => "end of formula"
  | notOperand => "one argument to NOT"
  | notSingleOperand => "')' after the single argument to NOT"

/-- What a parser finds instead. -/
inductive Found where
  | token (kind : TokenKind)
  | noArguments

def Found.display : Found → String
  | token kind => kind.display
  | noArguments => "no arguments"

/-- Why tokens are no formula. -/
structure ParseError where
  position : Nat
  expected : Expected
  found : Found

/-- Why a formula has no value. -/
inductive EvalError where
  | notANumber (value : Value)
  | divisionByZero
  | wrongArity (function : String) (arity : Arity) (found : Nat)
  | unsupported (function : String)

def EvalError.message : EvalError → String
  | notANumber v => "Cannot convert " ++ v.shown ++ " to number"
  | divisionByZero => "Division by zero"
  | wrongArity function arity found => arity.mismatch function found
  | unsupported function => "Function " ++ function ++ " is not supported by the evaluator"

/-- Why evaluation breaks off: a number that it needs does not fit into its word. -/
inductive Panic where
  /-- The place where a hole in a text ends is no word of 64 bits. -/
  | placeOverflow
  /-- A text would have more bytes than a text can have. -/
  | capacityOverflow
deriving DecidableEq, Repr

/-- How evaluation ends without a value. -/
inductive Failure where
  /-- It says why there is none. -/
  | reported (cause : EvalError)
  /-- It breaks off and gives nothing back. -/
  | panic (cause : Panic)

/-- Everything that can be wrong with a formula. -/
inductive FormulaError where
  | lex (error : LexError)
  | parse (error : ParseError)
  | unresolved (fieldId : String)
  | cycle (fieldIds : List String)
  | evaluation (error : EvalError)

namespace FormulaError

def message : FormulaError → String
  | lex e => "Lex error at " ++ toString e.position ++ ": " ++ e.fault.message
  | parse e =>
    "Parse error at " ++ toString e.position ++ ": expected " ++ e.expected.display ++ ", found " ++ e.found.display
  | unresolved id => "Unresolved field reference: \x7b" ++ id ++ "\x7d"
  | cycle ids => "Circular dependency: " ++ " -> ".intercalate ids
  | evaluation e => "Evaluation error: " ++ e.message

/-- The place in the formula text, where the error has one. -/
def position? : FormulaError → Option Nat
  | lex e => some e.position
  | parse e => some e.position
  | _ => none

end FormulaError

end ComputedFields
