import ComputedFields.Formula.Error
import ComputedFields.Target.Error

/-!
# Problems of fields

A field that cannot be generated, or not as it is meant, is a problem that is reported next to the module.
-/

namespace ComputedFields

inductive Severity where
  /-- The module can be used, though perhaps not this field. -/
  | warning
  /-- The field could not be generated. -/
  | error
deriving DecidableEq, Repr

def Severity.name : Severity → String
  | warning => "warning"
  | error => "error"

inductive Problem where
  /-- The field is on a cycle. -/
  | cycle (fieldIds : List String)
  /-- The field needs one that is on a cycle. -/
  | behindCycle
  | notComputed
  /-- The formula cannot be read. -/
  | formula (error : FormulaError)
  /-- The formula refers to an id that no field has. -/
  | unresolved (fieldId : String)
  /-- The formula needs a field for which there is no code. -/
  | notInlined (fieldId : String)
  | generation (error : GenerationError)

namespace Problem

def message : Problem → String
  | cycle ids => "circular dependency: " ++ " -> ".intercalate ids
  | behindCycle => "depends on a field in a circular dependency"
  | notComputed => "not a computed field"
  | formula e => e.message
  | unresolved id => (FormulaError.unresolved id).message ++ "; read as a stored value"
  | notInlined id => "depends on \x7b" ++ id ++ "\x7d, which was not generated; read as NULL"
  | generation e => e.message

/-- A missing option is an error; what a target cannot express is not. -/
def severity : Problem → Severity
  | cycle _ => .error
  | behindCycle => .error
  | notComputed => .error
  | formula _ => .error
  | unresolved _ => .warning
  | notInlined _ => .warning
  | generation (.missingOption _ _) => .error
  | generation _ => .warning

end Problem

/-- A problem of a field. -/
structure Diagnostic where
  fieldId : String
  fieldName : String
  problem : Problem

namespace Diagnostic

def message (d : Diagnostic) : String := d.problem.message

def severity (d : Diagnostic) : Severity := d.problem.severity

/-- A diagnostic on one line. -/
def display (d : Diagnostic) : String :=
  d.severity.name ++ ": " ++ d.fieldName ++ " (" ++ d.fieldId ++ "): " ++ d.message

end Diagnostic

end ComputedFields
