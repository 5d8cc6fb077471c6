import ComputedFields.Json.Basic
import ComputedFields.Schema.Basic

/-!
# Schemas as JSON

Options, a primary field and a description that are not set are left out; the table of a field is not written, since
the field stands in it.
-/

namespace ComputedFields

open Json

/-- A member that is left out if there is no value. -/
def optionalMember {α : Type} (name : String) (encode : α → Json) : Option α → List (String × Json)
  | some v => [(name, encode v)]
  | none => []

def FieldOptions.toJson (o : FieldOptions) : Json :=
  .object <|
    optionalMember "formula" .string o.formula ++
    optionalMember "referencedFieldIds" (fun ids => .array (ids.map .string)) o.referencedFieldIds ++
    optionalMember "linkedTableId" .string o.linkedTableId ++
    optionalMember "inverseLinkFieldId" .string o.inverseLinkFieldId ++
    optionalMember "prefersSingleRecordLink" .bool o.prefersSingleRecordLink ++
    optionalMember "recordLinkFieldId" .string o.recordLinkFieldId ++
    optionalMember "fieldIdInLinkedTable" .string o.fieldIdInLinkedTable ++
    optionalMember "aggregation" .string o.aggregation

def Field.toJson (f : Field) : Json :=
  .object <|
    [("id", .string f.id), ("name", .string f.name), ("type", .string f.type.name), ("options", f.options.toJson)] ++
    optionalMember "description" .string f.description

def Table.toJson (t : Table) : Json :=
  .object <|
    [("id", .string t.id), ("name", .string t.name)] ++ optionalMember "primaryFieldId" .string t.primaryFieldId ++
    [("fields", .array (t.fields.map Field.toJson))]

/-- The tables of a schema. -/
def Schema.tablesToJson (s : Schema) : Json := .array (s.tables.map Table.toJson)

/-- The value that describes a schema. -/
def Schema.toJson (s : Schema) : Json := .object [("tables", s.tablesToJson)]

end ComputedFields
