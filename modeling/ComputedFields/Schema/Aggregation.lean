import ComputedFields.Text.Casing
import ComputedFields.Text.Spacing

/-!
# Aggregations of rollup fields

`Aggregation.parse` reads `SUM`, `sum(values)` or `ARRAYJOIN(values, "; ")`. The name may be spelled in any case and the
arguments matter only for the separator of a join. Text that names no aggregation is kept as it is.
-/

namespace ComputedFields

/-- How the values of linked records become one value. -/
inductive Aggregation where
  | sum
  | count
  | countA
  | countAll
  | max
  | min
  | average
  | arrayUnique
  | arrayFlatten
  | arrayCompact
  | arrayJoin (separator : String)
  /-- Text that is not understood. -/
  | unknown (text : String)
deriving DecidableEq, Repr

namespace Aggregation

/-- The separator of a join that names none. -/
def defaultSeparator : String := ", "

/-- The text between two equal quotes. -/
def unquote? : List Char → Option (List Char)
  | q :: cs => if (q = '"' ∨ q = '\'') ∧ cs.getLast? = some q then some cs.dropLast else none
  | [] => none

/-- The separator in the arguments of a join: what stands in quotes after the first comma. -/
def separator (arguments : List Char) : String :=
  match arguments.dropWhile (· != ',') with
  | [] => defaultSeparator
  | _ :: rest =>
    match unquote? (Text.trimChars rest) with
    | some inner => String.ofList inner
    | none => defaultSeparator

/-- The text before the first opening bracket and the text between it and a closing bracket at the end. -/
def nameAndArguments (cs : List Char) : List Char × List Char :=
  match cs.dropWhile (· != '(') with
  | _ :: inner => if inner.getLast? = some ')' then (cs.takeWhile (· != '('), inner.dropLast) else (cs, [])
  | [] => (cs, [])

/-- The aggregation with an upper case name. -/
def ofName? (name : String) (arguments : List Char) : Option Aggregation :=
  if name = "SUM" then some sum
  else if name = "COUNT" then some count
  else if name = "COUNTA" then some countA
  else if name = "COUNTALL" then some countAll
  else if name = "MAX" then some max
  else if name = "MIN" then some min
  else if name = "AVERAGE" then some average
  else if name = "ARRAYUNIQUE" then some arrayUnique
  else if name = "ARRAYFLATTEN" then some arrayFlatten
  else if name = "ARRAYCOMPACT" then some arrayCompact
  else if name = "ARRAYJOIN" then some (arrayJoin (separator arguments))
  else none

/-- Reads the aggregation of a rollup field. -/
def parse (text : String) : Aggregation :=
  let trimmed := Text.trimChars text.toList
  let (name, arguments) := nameAndArguments trimmed
  (ofName? (String.ofList (Text.upperChars (Text.trimChars name))) arguments).getD (unknown (String.ofList trimmed))

/-- The upper case name; unknown text is its own name. -/
def name : Aggregation → String
  | sum => "SUM"
  | count => "COUNT"
  | countA => "COUNTA"
  | countAll => "COUNTALL"
  | max => "MAX"
  | min => "MIN"
  | average => "AVERAGE"
  | arrayUnique => "ARRAYUNIQUE"
  | arrayFlatten => "ARRAYFLATTEN"
  | arrayCompact => "ARRAYCOMPACT"
  | arrayJoin _ => "ARRAYJOIN"
  | unknown text => text

/-- Whether the result is a list of values. -/
def isArray : Aggregation → Bool
  | arrayUnique | arrayFlatten | arrayCompact => true
  | _ => false

end Aggregation

end ComputedFields
