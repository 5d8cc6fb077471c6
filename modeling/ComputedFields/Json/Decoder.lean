import ComputedFields.Json.Draft

/-!
# Decoding

- `Decoder`: reads a draft as a value of a type;
- `decodeRecord`: reads a record from an object, or from an array that lists its slots in order;
- `decodeTag`: reads one of several names, from a string or from an object whose only member has the name as its key.

In an object, unknown keys are passed over and known ones are read when they come, so the first problem in the text is
the one that is reported; what is missing shows at the end.
-/

namespace ComputedFields.Json

/-- Reads a draft as a value of a type. -/
abbrev Decoder (α : Type) := Draft → Except Fault α

/-- Where a draft comes from. -/
inductive Origin where
  | text
  | value
deriving DecidableEq, Repr

/-- The fault of something that is there beyond what is allowed: in a text it is the next character that is wrong. -/
def Origin.excess : Origin → Fault
  | text => .malformed
  | value => .shape

def decodeText : Decoder String
  | .string content => content
  | d => .error d.unwanted

def decodeFlag : Decoder Bool
  | .bool b => .ok b
  | d => .error d.unwanted

/-- Reads null as nothing. -/
def decodeOptional {α : Type} (decode : Decoder α) : Decoder (Option α)
  | .null => .ok none
  | d => (decode d).map some

/-- The end of an array or object. -/
def checkEnding : Option Break → Except Fault Unit
  | none => .ok ()
  | some b => .error b.read

def decodeList {α : Type} (decode : Decoder α) : Decoder (List α)
  | .array items ending => do
    let values ← items.mapM decode
    checkEnding ending
    return values
  | d => .error d.unwanted

/-- Reads a name. An object says the same as the key of its only member, whose value is null. -/
def decodeTag (origin : Origin) : Decoder String
  | .string content => content
  | .object [] none => .error origin.excess
  | .object [] (some b) => .error b.strict
  | .object ((key, d) :: more) ending => do
    let name ← key
    match d with
    | .null => pure ()
    | d => throw d.unwanted
    match more, ending with
    | _ :: _, _ => .error origin.excess
    | [], some b => .error b.strict
    | [], none => .ok name
  | .broken b => .error b.strict
  | _ => .error origin.excess

/-! ## Records -/

/-- A part of a record. -/
structure Slot (σ : Type) where
  name : String
  /-- Another key for the same part. -/
  synonym : Option String := none
  isRequired : Bool := false
  /-- Reads the part into a record. -/
  read : σ → Decoder σ

namespace Slot

variable {σ : Type}

def answersTo (slot : Slot σ) (key : String) : Bool := key == slot.name || slot.synonym == some key

/-- A part that has to be there. -/
def required {α : Type} (name : String) (decode : Decoder α) (set : σ → α → σ) : Slot σ where
  name := name
  isRequired := true
  read s d := (decode d).map (set s)

/-- A part that may be left out. -/
def preset {α : Type} (name : String) (decode : Decoder α) (set : σ → α → σ) : Slot σ where
  name := name
  read s d := (decode d).map (set s)

/-- A part that may be left out or null. -/
def optional {α : Type} (name : String) (decode : Decoder α) (set : σ → Option α → σ) : Slot σ :=
  preset name (decodeOptional decode) set

end Slot

variable {σ : Type}

/-- Reads the members of an object, given the slots that are filled. -/
def readMembersInto (slots : List (Slot σ)) (filled : List String) (s : σ) :
    List (Except Fault String × Draft) → Except Fault (σ × List String)
  | [] => .ok (s, filled)
  | (key, d) :: ms => do
    let k ← key
    match slots.find? (·.answersTo k) with
    | none =>
      match d.skipFault? with
      | some f => .error f
      | none => readMembersInto slots filled s ms
    | some slot =>
      if slot.name ∈ filled then .error .shape
      else readMembersInto slots (slot.name :: filled) (← slot.read s d) ms

/-- Reads the items of an array into the slots in order; gives back what is left. -/
def readItemsInto (ending : Option Break) : List (Slot σ) → σ → List Draft → Except Fault (σ × List Draft)
  | [], s, ds => .ok (s, ds)
  | slot :: slots, s, d :: ds => do readItemsInto ending slots (← slot.read s d) ds
  | slot :: slots, s, [] => do
    checkEnding ending
    if slot.isRequired then .error .shape else readItemsInto ending slots s []

/-- Reads a record with the given slots; those that are left out stay as in `start`. -/
def decodeRecord (origin : Origin) (slots : List (Slot σ)) (start : σ) : Decoder σ
  | .object members ending => do
    let (s, filled) ← readMembersInto slots [] start members
    checkEnding ending
    if slots.all fun slot => !slot.isRequired || slot.name ∈ filled then .ok s else .error .shape
  | .array items ending => do
    let (s, surplus) ← readItemsInto ending slots start items
    match surplus, ending with
    | _ :: _, _ => .error origin.excess
    | [], some b => .error b.strict
    | [], none => .ok s
  | d => .error d.unwanted

end ComputedFields.Json
