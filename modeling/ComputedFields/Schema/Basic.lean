import ComputedFields.Schema.Aggregation
import ComputedFields.Schema.FieldType

/-!
# Schemas

A schema is a list of tables with fields, in which every table and every field has an id of its own.

- `Schema.fault?`: the first table or field of a list of tables that breaks this rule;
- `Schema.ofTables`: the schema of a list of tables without fault, in which every field knows its table;
- `Schema.field?`, `Schema.table?`, `Schema.tableOf?`, `Schema.position?`: look-up by id.
-/

namespace ComputedFields

/-- The settings of a field; which ones matter depends on its type. -/
structure FieldOptions where
  formula : Option String := none
  /-- The fields a formula is said to refer to, for formulas that cannot be read. -/
  referencedFieldIds : Option (List String) := none
  /-- The table whose records a link field holds. -/
  linkedTableId : Option String := none
  /-- The link field of the other table that holds the same links. -/
  inverseLinkFieldId : Option String := none
  prefersSingleRecordLink : Option Bool := none
  /-- The link field that a lookup, rollup or count reads through. -/
  recordLinkFieldId : Option String := none
  /-- The field that a lookup or rollup reads in the linked table. -/
  fieldIdInLinkedTable : Option String := none
  aggregation : Option String := none
deriving DecidableEq, Repr

/-- A field of a table. -/
structure Field where
  id : String
  name : String
  type : FieldType
  /-- The table the field belongs to, known once the field is part of a schema. -/
  tableId : String := ""
  options : FieldOptions := {}
  description : Option String := none
deriving DecidableEq, Repr

namespace Field

def computedKind? (f : Field) : Option ComputedKind := f.type.computedKind?

def isComputed (f : Field) : Bool := f.type.isComputed

/-- The formula of a formula field. -/
def formulaText? (f : Field) : Option String := if f.type = .formula then f.options.formula else none

/-- The link field that a lookup, rollup or count reads through. -/
def linkId? (f : Field) : Option String := f.options.recordLinkFieldId

/-- The field that a lookup or rollup reads in each linked record. -/
def targetId? (f : Field) : Option String := f.options.fieldIdInLinkedTable

/-- Whether a link field holds at most one record. -/
def isSingle (f : Field) : Bool := f.options.prefersSingleRecordLink.getD false

def aggregation? (f : Field) : Option Aggregation := f.options.aggregation.map Aggregation.parse

end Field

/-- A table and its fields in declaration order. -/
structure Table where
  id : String
  name : String
  primaryFieldId : Option String := none
  fields : List Field := []
deriving DecidableEq, Repr

/-- The table with its id written into its fields. -/
def Table.owned (t : Table) : Table := { t with fields := t.fields.map fun f => { f with tableId := t.id } }

/-- Why a list of tables is no schema. -/
inductive SchemaError where
  | emptyTableId (table : String)
  | emptyFieldId (field table : String)
  | duplicateTable (id : String)
  | duplicateField (id : String)
deriving DecidableEq, Repr

def SchemaError.message : SchemaError → String
  | emptyTableId table => "Invalid schema: table '" ++ table ++ "' has an empty id"
  | emptyFieldId field table => "Invalid schema: field '" ++ field ++ "' in table '" ++ table ++ "' has an empty id"
  | duplicateTable id => "Duplicate table id: " ++ id
  | duplicateField id => "Duplicate field id: " ++ id

namespace Schema

/-- The first fault among the fields of a table, given the ids of the fields before them. -/
def fieldFault? (table : Table) (seen : List String) : List Field → Option SchemaError
  | [] => none
  | f :: fs =>
    if f.id = "" then some (.emptyFieldId f.name table.name)
    else if f.id ∈ seen then some (.duplicateField f.id)
    else fieldFault? table (f.id :: seen) fs

/-- The first fault among tables, given the ids of the tables and fields before them. -/
def faultAfter? (tables fields : List String) : List Table → Option SchemaError
  | [] => none
  | t :: ts =>
    if t.id = "" then some (.emptyTableId t.name)
    else if t.id ∈ tables then some (.duplicateTable t.id)
    else (fieldFault? t fields t.fields).orElse fun _ => faultAfter? (t.id :: tables) (t.fields.map (·.id) ++ fields) ts

/-- The first table or field, in document order, whose id is empty or taken. -/
def fault? (tables : List Table) : Option SchemaError := faultAfter? [] [] tables

end Schema

/-- Tables whose ids, and the ids of whose fields, are not empty and all different. -/
structure Schema where
  declared : List Table
  sound : Schema.fault? declared = none

/-- Where a field stands in a schema. -/
structure Placement where
  tableIndex : Nat
  fieldIndex : Nat
  table : Table
  field : Field
deriving DecidableEq, Repr

namespace Schema

/-- The schema of a list of tables, or its first fault. -/
def ofTables (tables : List Table) : Except SchemaError Schema :=
  match h : fault? tables with
  | some e => .error e
  | none => .ok ⟨tables, h⟩

/-- The tables in declaration order, with fields that know their table. -/
def tables (s : Schema) : List Table := s.declared.map Table.owned

/-- All fields in declaration order, table by table. -/
def fields (s : Schema) : List Field := s.tables.flatMap (·.fields)

def computedFields (s : Schema) : List Field := s.fields.filter (·.isComputed)

/-- The fields of one table with their places. -/
def placementsIn (tableIndex : Nat) (t : Table) : List Placement :=
  t.fields.mapIdx fun fieldIndex f => ⟨tableIndex, fieldIndex, t, f⟩

/-- All fields with their places, in declaration order. -/
def placements (s : Schema) : List Placement := (s.tables.mapIdx placementsIn).flatten

/-- The place of the field with an id. -/
def place? (s : Schema) (id : String) : Option Placement := s.placements.find? (·.field.id == id)

def field? (s : Schema) (id : String) : Option Field := (s.place? id).map (·.field)

def table? (s : Schema) (id : String) : Option Table := s.tables.find? (·.id == id)

/-- The table that contains a field. -/
def tableOf? (s : Schema) (fieldId : String) : Option Table := (s.place? fieldId).map (·.table)

/-- The numbers of a field's table and of the field in it. -/
def position? (s : Schema) (fieldId : String) : Option (Nat × Nat) :=
  (s.place? fieldId).map fun p => (p.tableIndex, p.fieldIndex)

/-- The table whose records a field links to. -/
def linkedTable? (s : Schema) (fieldId : String) : Option Table :=
  (s.field? fieldId).bind fun f => f.options.linkedTableId.bind s.table?

def fieldCount (s : Schema) : Nat := s.fields.length

end Schema

end ComputedFields
