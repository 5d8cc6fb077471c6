import ComputedFields.Decimal.Numeral
import ComputedFields.Text.Search

/-!
# Places in messages

A message about a JSON text ends with the place it speaks of: ` at line 3 column 7`.

- `Place.split?`: a message cut into what it says and the place at its end;
- `withPlace`: a message with the place at its end, if it has one, in its usual form.
-/

namespace ComputedFields.Json

/-- A place in a text. Lines are counted from one, so that the line zero is no place. -/
structure Place where
  line : Nat
  column : Nat
deriving DecidableEq, Repr

/-- What stands before and after the last occurrence of a separator. -/
def splitAtLast? (separator cs : List Char) : Option (List Char × List Char) :=
  (Text.indexOf? separator.reverse cs.reverse).map fun n =>
    (cs.take (cs.length - n - separator.length), cs.drop (cs.length - n))

/-- A number of at most 64 bits, written with digits alone. -/
def count? (ds : List Char) : Option Nat :=
  let n := Decimal.ofDigits ds
  if ds.isEmpty || !ds.all Char.isDigit || UInt64.size ≤ n then none else some n

namespace Place

def lineMark : List Char := " at line ".toList

def columnMark : List Char := " column ".toList

/-- Reads the numbers of a place. -/
def read? (cs : List Char) : Option Place := do
  let (line, column) ← splitAtLast? columnMark cs
  return ⟨← count? line, ← count? column⟩

/-- A message without the place at its end, and that place. -/
def split? (message : List Char) : Option (List Char × Place) := do
  let (said, numbers) ← splitAtLast? lineMark message
  return (said, ← read? numbers)

/-- The place as it ends a message. -/
def suffix (p : Place) : String :=
  if p.line = 0 then "" else " at line " ++ toString p.line ++ " column " ++ toString p.column

end Place

/-- A message with the place at its end in its usual form: without zeros in front, and left out if it is none. -/
def withPlace (message : String) : String :=
  match Place.split? message.toList with
  | some (said, place) => String.ofList said ++ place.suffix
  | none => message

end ComputedFields.Json
