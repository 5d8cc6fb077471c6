import ComputedFields.Formula.Arity
import ComputedFields.Target.Basic

/-!
# Errors of code generation

Each error is a cause; `GenerationError.message` is the only place that puts them into words.
-/

namespace ComputedFields

/-- An option without which a field has no getter. -/
inductive RequiredOption where
  | formula
  | aggregation
  | recordLink
  | linkedTable
  | targetField
deriving DecidableEq, Repr

def RequiredOption.name : RequiredOption → String
  | formula => "formula"
  | aggregation => "aggregation"
  | recordLink => "recordLinkFieldId"
  | linkedTable => "linkedTableId"
  | targetField => "fieldIdInLinkedTable"

inductive GenerationError where
  /-- The target has nothing for a function. -/
  | unsupportedFunction (function : String) (target : Target)
  | argumentCount (function : String) (arity : Arity) (found : Nat)
  | unsupportedAggregation (text : String)
  | missingOption (fieldId : String) (option : RequiredOption)
  /-- The field does not read through a link. -/
  | notLinked (fieldId : String)
  /-- The target cannot search from a place on. -/
  | startPosition (function : String) (target : Target)
  /-- The target cannot replace one occurrence alone. -/
  | oneOccurrence (function : String) (target : Target)
  /-- The target cannot read a computed field of linked records. -/
  | computedThroughLink (fieldId : String) (target : Target)
deriving DecidableEq, Repr

def GenerationError.message : GenerationError → String
  | unsupportedFunction function target => "Function " ++ function ++ " is not supported for " ++ target.name
  | argumentCount function arity found => arity.mismatch function found
  | unsupportedAggregation text => "Unsupported rollup aggregation: " ++ text
  | missingOption fieldId option => "Field " ++ fieldId ++ " is missing option " ++ option.name
  | notLinked fieldId => "field " ++ fieldId ++ " is not a lookup, rollup or count"
  | startPosition function target => function ++ " with a start position is not supported for " ++ target.name
  | oneOccurrence function target => function ++ " of one occurrence is not supported for " ++ target.name
  | computedThroughLink fieldId target =>
    "reading computed field " ++ fieldId ++ " through a link is not supported for " ++ target.name

end ComputedFields
