import ComputedFields.Json.Decoder
import ComputedFields.Json.Place
import ComputedFields.Json.Text
import ComputedFields.Schema.Basic

/-!
# Schemas from JSON

- `Schema.ofText`: the schema that a JSON text describes;
- `Schema.ofJson`: the schema that a JSON value describes;
- `decodeTables`: a list of tables, before it is known to be a schema.

A text that goes on after the schema is malformed, but a fault among the tables is found first.
-/

namespace ComputedFields

open Json

/-- Why JSON describes no schema. -/
inductive SchemaDecodeError where
  | json (fault : Fault)
  | invalid (error : SchemaError)
deriving DecidableEq, Repr

/-- The message for tables that are no schema; faults of the JSON have none. -/
def SchemaDecodeError.message? : SchemaDecodeError → Option String
  | json _ => none
  | invalid e => some ("Schema JSON error: " ++ withPlace e.message)

def fieldOptionSlots : List (Slot FieldOptions) :=
  [.optional "formula" decodeText fun o v => { o with formula := v },
    .optional "referencedFieldIds" (decodeList decodeText) fun o v => { o with referencedFieldIds := v },
    .optional "linkedTableId" decodeText fun o v => { o with linkedTableId := v },
    .optional "inverseLinkFieldId" decodeText fun o v => { o with inverseLinkFieldId := v },
    .optional "prefersSingleRecordLink" decodeFlag fun o v => { o with prefersSingleRecordLink := v },
    { Slot.optional "recordLinkFieldId" decodeText fun (o : FieldOptions) v => { o with recordLinkFieldId := v } with
      synonym := some "linkedFieldId" },
    .optional "fieldIdInLinkedTable" decodeText fun o v => { o with fieldIdInLinkedTable := v },
    .optional "aggregation" decodeText fun o v => { o with aggregation := v }]

def decodeFieldOptions (origin : Origin) : Decoder FieldOptions := decodeRecord origin fieldOptionSlots {}

/-- Unknown names are the type of other fields. -/
def decodeFieldType (origin : Origin) : Decoder FieldType := fun d => (decodeTag origin d).map FieldType.ofName

def fieldSlots (origin : Origin) : List (Slot Field) :=
  [.required "id" decodeText fun f v => { f with id := v },
    .required "name" decodeText fun f v => { f with name := v },
    .required "type" (decodeFieldType origin) fun f v => { f with type := v },
    .preset "options" (decodeFieldOptions origin) fun f v => { f with options := v },
    .optional "description" decodeText fun f v => { f with description := v }]

def decodeField (origin : Origin) : Decoder Field :=
  decodeRecord origin (fieldSlots origin) { id := "", name := "", type := .other }

def tableSlots (origin : Origin) : List (Slot Table) :=
  [.required "id" decodeText fun t v => { t with id := v },
    .required "name" decodeText fun t v => { t with name := v },
    .optional "primaryFieldId" decodeText fun t v => { t with primaryFieldId := v },
    .preset "fields" (decodeList (decodeField origin)) fun t v => { t with fields := v }]

def decodeTable (origin : Origin) : Decoder Table := decodeRecord origin (tableSlots origin) { id := "", name := "" }

def decodeTables (origin : Origin) : Decoder (List Table) := decodeList (decodeTable origin)

/-- The tables of a schema. -/
def decodeSchemaTables (origin : Origin) : Decoder (List Table) :=
  decodeRecord origin [.required "tables" (decodeTables origin) fun _ v => v] []

namespace Schema

def ofDraft (origin : Origin) (d : Draft) : Except SchemaDecodeError Schema :=
  match decodeSchemaTables origin d with
  | .error f => .error (.json f)
  | .ok tables =>
    match ofTables tables with
    | .error e => .error (.invalid e)
    | .ok s => .ok s

/-- The schema that a JSON value describes. -/
def ofJson (j : Json) : Except SchemaDecodeError Schema := ofDraft .value j.draft

/-- The schema that a JSON text describes. -/
def ofText (text : String) : Except SchemaDecodeError Schema := do
  let (d, rest) := read text.toList
  let s ← ofDraft .text d
  if (skipBlanks rest.1).isEmpty then .ok s else .error (.json .malformed)

end Schema

end ComputedFields
