import ComputedFields.Json.Decoder
import ComputedFields.Schema.Basic
import ComputedFields.Target.Basic

/-!
# Options of a generator

`GeneratorOptions` with its defaults, and its JSON form: every option may be left out, only the header may be null.
-/

namespace ComputedFields

open Json

/-- How identifiers are spelled. -/
inductive Naming where
  /-- As the target is used to. -/
  | targetDefault
  | snakeCase
  | camelCase
deriving DecidableEq, Repr

namespace Naming

def all : List Naming := [targetDefault, snakeCase, camelCase]

def name : Naming → String
  | targetDefault => "targetDefault"
  | snakeCase => "snakeCase"
  | camelCase => "camelCase"

def ofName? (s : String) : Option Naming := all.find? (·.name == s)

end Naming

/-- What the values of a record are stored under. -/
inductive RecordKeys where
  | fieldId
  | fieldName
deriving DecidableEq, Repr

namespace RecordKeys

def all : List RecordKeys := [fieldId, fieldName]

def name : RecordKeys → String
  | fieldId => "fieldId"
  | fieldName => "fieldName"

def ofName? (s : String) : Option RecordKeys := all.find? (·.name == s)

/-- What the value of a field is stored under. -/
def key : RecordKeys → Field → String
  | fieldId, f => f.id
  | fieldName, f => f.name

/-- What the records of a table are stored under. -/
def tableKey : RecordKeys → Table → String
  | fieldId, t => t.id
  | fieldName, t => t.name

end RecordKeys

structure GeneratorOptions where
  target : Target := .python
  naming : Naming := .targetDefault
  recordKeys : RecordKeys := .fieldId
  /-- Whether blanks in operands, and links without records, are caught. -/
  nullSafety : Bool := true
  /-- Whether the depth of a field is written above its getter. -/
  depthComments : Bool := true
  /-- The name of the file without its ending. -/
  moduleName : String := "computed_fields"
  /-- The comment at the top of the file, in place of the usual one. -/
  headerComment : Option String := none
deriving DecidableEq, Repr

namespace GeneratorOptions

/-- The defaults for a target. -/
def forTarget (target : Target) : GeneratorOptions := { target }

def fileName (o : GeneratorOptions) : String := o.moduleName ++ "." ++ o.target.extension

end GeneratorOptions

/-! ## JSON -/

/-- Reads one of several names. -/
def decodeNamed {α : Type} (ofName? : String → Option α) : Decoder α := fun d => do
  match ofName? (← decodeTag .value d) with
  | some v => .ok v
  | none => .error .shape

def decodeTarget : Decoder Target := decodeNamed Target.ofName?

def decodeNaming : Decoder Naming := decodeNamed Naming.ofName?

def decodeRecordKeys : Decoder RecordKeys := decodeNamed RecordKeys.ofName?

def generatorOptionSlots : List (Slot GeneratorOptions) :=
  [.preset "target" decodeTarget fun o v => { o with target := v },
    .preset "naming" decodeNaming fun o v => { o with naming := v },
    .preset "recordKeys" decodeRecordKeys fun o v => { o with recordKeys := v },
    .preset "nullSafety" decodeFlag fun o v => { o with nullSafety := v },
    .preset "depthComments" decodeFlag fun o v => { o with depthComments := v },
    .preset "moduleName" decodeText fun o v => { o with moduleName := v },
    .optional "headerComment" decodeText fun o v => { o with headerComment := v }]

namespace GeneratorOptions

def ofJson (j : Json) : Except Fault GeneratorOptions := decodeRecord .value generatorOptionSlots {} j.draft

def toJson (o : GeneratorOptions) : Json :=
  .object
    [("target", .string o.target.name), ("naming", .string o.naming.name), ("recordKeys", .string o.recordKeys.name),
      ("nullSafety", .bool o.nullSafety), ("depthComments", .bool o.depthComments),
      ("moduleName", .string o.moduleName),
      ("headerComment", match o.headerComment with
        | some s => .string s
        | none => .null)]

end GeneratorOptions

end ComputedFields
