import ComputedFields.Json.Basic

/-!
# JSON as far as it can be read

A draft is a JSON value with the faults of its text in it: where reading a text breaks off, the draft has a `Break`.
Those who walk through a draft from left to right meet, of a break and a value of the wrong kind, whichever comes
first in the text.

- `Draft.skipFault?`: the first fault met when a value is passed over;
- `Draft.unwanted`: the fault met when a value of another kind is needed;
- `Json.draft`: a value as a draft without faults.
-/

namespace ComputedFields.Json

/-- How reading JSON fails. -/
inductive Fault where
  /-- A value is not of the kind that is needed. -/
  | shape
  /-- The text is not JSON. -/
  | malformed
  /-- The text ends too early. -/
  | truncated
deriving DecidableEq, Repr

/-- A place where reading breaks off, with the fault that each kind of reader meets there. -/
structure Break where
  /-- For those who read what is there. -/
  read : Fault
  /-- For those who pass over it. -/
  skip : Fault
  /-- For those who allow one form only: a tag, or the end of a list that is full. -/
  strict : Fault
deriving DecidableEq, Repr

/-- A break that is the same for all. -/
def Break.all (f : Fault) : Break := ⟨f, f, f⟩

/-- The break after the first characters of a number or a word, which are no tag. -/
def Break.inScalar (read skip : Fault) : Break := ⟨read, skip, .malformed⟩

inductive Draft where
  | null
  | bool (value : Bool)
  /-- A number, with the fault of reading one that is out of range. -/
  | number (fault : Option Fault)
  /-- A string; one that can be passed over need not be readable. -/
  | string (content : Except Fault String)
  /-- An array, with the break where its end should be. -/
  | array (items : List Draft) (ending : Option Break)
  | object (members : List (Except Fault String × Draft)) (ending : Option Break)
  | broken (place : Break)

namespace Draft

instance : Inhabited Draft := ⟨.null⟩

mutual

/-- The first fault met when a value is passed over. -/
def skipFault? : Draft → Option Fault
  | .array items ending => (skipItems? items).orElse fun _ => ending.map (·.skip)
  | .object members ending => (skipMembers? members).orElse fun _ => ending.map (·.skip)
  | .broken b => some b.skip
  | _ => none

def skipItems? : List Draft → Option Fault
  | [] => none
  | d :: ds => (skipFault? d).orElse fun _ => skipItems? ds

def skipMembers? : List (Except Fault String × Draft) → Option Fault
  | [] => none
  | (_, d) :: ms => (skipFault? d).orElse fun _ => skipMembers? ms

end

/-- The fault met when a value of another kind is needed: scalars are read before they are refused. -/
def unwanted : Draft → Fault
  | .number fault => fault.getD .shape
  | .string (.error f) => f
  | .broken b => b.read
  | _ => .shape

end Draft

mutual

/-- A value as a draft without faults. -/
def draft : Json → Draft
  | .null => .null
  | .bool b => .bool b
  | .number _ => .number none
  | .string s => .string (.ok s)
  | .array items => .array (draftItems items) none
  | .object members => .object (draftMembers members) none

def draftItems : List Json → List Draft
  | [] => []
  | j :: js => draft j :: draftItems js

def draftMembers : List (String × Json) → List (Except Fault String × Draft)
  | [] => []
  | (k, j) :: ms => (.ok k, draft j) :: draftMembers ms

end

end ComputedFields.Json
