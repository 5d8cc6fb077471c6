import ComputedFields.Formula.Builtin
import ComputedFields.Target.Error

/-!
# Supported calls

- `pythonSignature?`, `javascriptSignature?`, `sqlSignature?`: the functions that each target has, and the arguments
  they take there;
- `Target.supports`: whether a target can express a call, which depends on the name and on the number of arguments
  alone.
-/

namespace ComputedFields

/-- A function with the numbers of arguments that it takes. -/
structure Signature where
  builtin : Builtin
  arity : Arity
deriving DecidableEq, Repr

/-- The functions that can be written in Python, by their names. -/
def pythonSignature? : String → Option Signature
  | "IF" => some ⟨.ifThenElse, .between 2 3⟩
  | "SWITCH" => some ⟨.switch, .atLeast 3⟩
  | "AND" => some ⟨.and, .any⟩
  | "OR" => some ⟨.or, .any⟩
  | "XOR" => some ⟨.xor, .any⟩
  | "BLANK" => some ⟨.blank, .exactly 0⟩
  | "TRUE" => some ⟨.trueValue, .any⟩
  | "FALSE" => some ⟨.falseValue, .any⟩
  | "CONCATENATE" => some ⟨.concatenate, .any⟩
  | "LEN" => some ⟨.len, .exactly 1⟩
  | "LOWER" => some ⟨.lower, .exactly 1⟩
  | "UPPER" => some ⟨.upper, .exactly 1⟩
  | "TRIM" => some ⟨.trim, .exactly 1⟩
  | "T" => some ⟨.textOnly, .exactly 1⟩
  | "LEFT" => some ⟨.left, .between 1 2⟩
  | "RIGHT" => some ⟨.right, .between 1 2⟩
  | "MID" => some ⟨.mid, .exactly 3⟩
  | "FIND" => some ⟨.find, .between 2 3⟩
  | "SEARCH" => some ⟨.search, .between 2 3⟩
  | "SUBSTITUTE" => some ⟨.substitute, .between 3 4⟩
  | "REPLACE" => some ⟨.replace, .exactly 4⟩
  | "REPT" => some ⟨.repeatText, .exactly 2⟩
  | "VALUE" => some ⟨.value, .exactly 1⟩
  | "ABS" => some ⟨.abs, .exactly 1⟩
  | "ROUND" => some ⟨.round, .between 1 2⟩
  | "ROUNDUP" => some ⟨.roundUp, .between 1 2⟩
  | "ROUNDDOWN" => some ⟨.roundDown, .between 1 2⟩
  | "CEILING" => some ⟨.ceiling, .between 1 2⟩
  | "FLOOR" => some ⟨.floor, .between 1 2⟩
  | "INT" => some ⟨.int, .exactly 1⟩
  | "MOD" => some ⟨.mod, .exactly 2⟩
  | "POWER" => some ⟨.power, .exactly 2⟩
  | "SQRT" => some ⟨.sqrt, .exactly 1⟩
  | "EXP" => some ⟨.exp, .exactly 1⟩
  | "LOG" => some ⟨.log, .between 1 2⟩
  | "SUM" => some ⟨.sum, .any⟩
  | "AVERAGE" => some ⟨.average, .any⟩
  | "MAX" => some ⟨.max, .any⟩
  | "MIN" => some ⟨.min, .any⟩
  | "COUNT" => some ⟨.count, .any⟩
  | "COUNTA" => some ⟨.countA, .any⟩
  | "COUNTALL" => some ⟨.countAll, .any⟩
  | "ARRAYJOIN" => some ⟨.arrayJoin, .between 1 2⟩
  | "ARRAYUNIQUE" => some ⟨.arrayUnique, .any⟩
  | "ARRAYCOMPACT" => some ⟨.arrayCompact, .any⟩
  | "ARRAYFLATTEN" => some ⟨.arrayFlatten, .any⟩
  | "NOW" => some ⟨.now, .any⟩
  | "TODAY" => some ⟨.today, .any⟩
  | "RECORD_ID" => some ⟨.recordId, .any⟩
  | _ => none

/-- The functions that can be written in JavaScript, by their names. -/
def javascriptSignature? : String → Option Signature
  | "IF" => some ⟨.ifThenElse, .between 2 3⟩
  | "SWITCH" => some ⟨.switch, .atLeast 3⟩
  | "AND" => some ⟨.and, .any⟩
  | "OR" => some ⟨.or, .any⟩
  | "XOR" => some ⟨.xor, .any⟩
  | "BLANK" => some ⟨.blank, .exactly 0⟩
  | "TRUE" => some ⟨.trueValue, .any⟩
  | "FALSE" => some ⟨.falseValue, .any⟩
  | "CONCATENATE" => some ⟨.concatenate, .any⟩
  | "LEN" => some ⟨.len, .exactly 1⟩
  | "LOWER" => some ⟨.lower, .exactly 1⟩
  | "UPPER" => some ⟨.upper, .exactly 1⟩
  | "TRIM" => some ⟨.trim, .exactly 1⟩
  | "T" => some ⟨.textOnly, .exactly 1⟩
  | "LEFT" => some ⟨.left, .between 1 2⟩
  | "RIGHT" => some ⟨.right, .between 1 2⟩
  | "MID" => some ⟨.mid, .exactly 3⟩
  | "FIND" => some ⟨.find, .between 2 3⟩
  | "SEARCH" => some ⟨.search, .between 2 3⟩
  | "SUBSTITUTE" => some ⟨.substitute, .between 3 4⟩
  | "REPLACE" => some ⟨.replace, .exactly 4⟩
  | "REPT" => some ⟨.repeatText, .exactly 2⟩
  | "VALUE" => some ⟨.value, .exactly 1⟩
  | "ABS" => some ⟨.abs, .exactly 1⟩
  | "ROUND" => some ⟨.round, .between 1 2⟩
  | "ROUNDUP" => some ⟨.roundUp, .between 1 2⟩
  | "ROUNDDOWN" => some ⟨.roundDown, .between 1 2⟩
  | "CEILING" => some ⟨.ceiling, .between 1 2⟩
  | "FLOOR" => some ⟨.floor, .between 1 2⟩
  | "INT" => some ⟨.int, .exactly 1⟩
  | "MOD" => some ⟨.mod, .exactly 2⟩
  | "POWER" => some ⟨.power, .exactly 2⟩
  | "SQRT" => some ⟨.sqrt, .exactly 1⟩
  | "EXP" => some ⟨.exp, .exactly 1⟩
  | "LOG" => some ⟨.log, .between 1 2⟩
  | "SUM" => some ⟨.sum, .any⟩
  | "AVERAGE" => some ⟨.average, .any⟩
  | "MAX" => some ⟨.max, .any⟩
  | "MIN" => some ⟨.min, .any⟩
  | "COUNT" => some ⟨.count, .any⟩
  | "COUNTA" => some ⟨.countA, .any⟩
  | "COUNTALL" => some ⟨.countAll, .any⟩
  | "ARRAYJOIN" => some ⟨.arrayJoin, .between 1 2⟩
  | "ARRAYUNIQUE" => some ⟨.arrayUnique, .any⟩
  | "ARRAYCOMPACT" => some ⟨.arrayCompact, .any⟩
  | "ARRAYFLATTEN" => some ⟨.arrayFlatten, .any⟩
  | "NOW" => some ⟨.now, .any⟩
  | "TODAY" => some ⟨.today, .any⟩
  | "RECORD_ID" => some ⟨.recordId, .any⟩
  | _ => none

/-- The functions that can be written in SQL, by their names. SQL has no arrays of values, and a connective or an
aggregate has something to work on. -/
def sqlSignature? : String → Option Signature
  | "IF" => some ⟨.ifThenElse, .between 2 3⟩
  | "SWITCH" => some ⟨.switch, .atLeast 3⟩
  | "AND" => some ⟨.and, .atLeast 1⟩
  | "OR" => some ⟨.or, .atLeast 1⟩
  | "BLANK" => some ⟨.blank, .exactly 0⟩
  | "TRUE" => some ⟨.trueValue, .any⟩
  | "FALSE" => some ⟨.falseValue, .any⟩
  | "CONCATENATE" => some ⟨.concatenate, .any⟩
  | "LEN" => some ⟨.len, .exactly 1⟩
  | "LOWER" => some ⟨.lower, .exactly 1⟩
  | "UPPER" => some ⟨.upper, .exactly 1⟩
  | "TRIM" => some ⟨.trim, .exactly 1⟩
  | "LEFT" => some ⟨.left, .between 1 2⟩
  | "RIGHT" => some ⟨.right, .between 1 2⟩
  | "MID" => some ⟨.mid, .exactly 3⟩
  | "FIND" => some ⟨.find, .between 2 3⟩
  | "SEARCH" => some ⟨.search, .between 2 3⟩
  | "SUBSTITUTE" => some ⟨.substitute, .between 3 4⟩
  | "REPLACE" => some ⟨.replace, .exactly 4⟩
  | "REPT" => some ⟨.repeatText, .exactly 2⟩
  | "ABS" => some ⟨.abs, .exactly 1⟩
  | "ROUND" => some ⟨.round, .between 1 2⟩
  | "ROUNDDOWN" => some ⟨.roundDown, .between 1 2⟩
  | "CEILING" => some ⟨.ceiling, .between 1 2⟩
  | "FLOOR" => some ⟨.floor, .between 1 2⟩
  | "INT" => some ⟨.int, .exactly 1⟩
  | "MOD" => some ⟨.mod, .exactly 2⟩
  | "POWER" => some ⟨.power, .exactly 2⟩
  | "SQRT" => some ⟨.sqrt, .exactly 1⟩
  | "EXP" => some ⟨.exp, .exactly 1⟩
  | "LOG" => some ⟨.log, .between 1 2⟩
  | "SUM" => some ⟨.sum, .atLeast 1⟩
  | "MAX" => some ⟨.max, .atLeast 1⟩
  | "MIN" => some ⟨.min, .atLeast 1⟩
  | "NOW" => some ⟨.now, .any⟩
  | "TODAY" => some ⟨.today, .any⟩
  | "RECORD_ID" => some ⟨.recordId, .any⟩
  | _ => none

namespace Target

/-- The function with a name, if the target has it. -/
def signature? : Target → String → Option Signature
  | python => pythonSignature?
  | javascript => javascriptSignature?
  | sql => sqlSignature?

/-- Why a call with an admissible number of arguments cannot be expressed. -/
def refusal? : Target → Builtin → Nat → Option GenerationError
  | sql, .find, 3 => some (.startPosition Builtin.find.name sql)
  | sql, .search, 3 => some (.startPosition Builtin.search.name sql)
  | sql, .substitute, 4 => some (.oneOccurrence Builtin.substitute.name sql)
  | _, _, _ => none

/-- The function that a call means, or why the target cannot express the call. -/
def supports (t : Target) (name : String) (count : Nat) : Except GenerationError Builtin :=
  match t.signature? name with
  | none => .error (.unsupportedFunction name t)
  | some ⟨b, arity⟩ =>
    if arity.admits count then
      match t.refusal? b count with
      | some e => .error e
      | none => .ok b
    else .error (.argumentCount name arity count)

end Target

end ComputedFields
