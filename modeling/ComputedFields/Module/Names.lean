import ComputedFields.Target.Identifier

/-!
# Names in a module

`ModuleNames.ofSchema` gives every computed field a getter and every table an identifier. Getters of functions share
one space of names. Columns of a view share theirs with the stored columns of the table.
-/

namespace ComputedFields

/-- New identifiers for several names, one after the other, each under a key. -/
def Allocator.allocateAll (a : Allocator) : List (String × List String) → List (String × String)
  | [] => []
  | (key, parts) :: rest =>
    let (name, a) := a.allocate parts
    (key, name) :: a.allocateAll rest

structure ModuleNames where
  /-- The getters of computed fields, by the ids of the fields. -/
  getters : List (String × String)
  /-- The identifiers of tables, by the ids of the tables. -/
  tables : List (String × String)

namespace ModuleNames

def computedIn (t : Table) : List Field := t.fields.filter (·.isComputed)

/-- The getters of all tables of a module with functions. -/
def functionNames (a : Allocator) (tables : List Table) : List (String × String) :=
  a.allocateAll (tables.flatMap fun t => (computedIn t).map fun f => (f.id, ["get", t.name, f.name]))

/-- The names of the columns that a view takes over from its table. -/
def storedColumns (keys : RecordKeys) (t : Table) : List String :=
  "id" :: (t.fields.filter (!·.isComputed)).map keys.key

/-- The columns that a view adds to those of its table. -/
def columnNames (a : Allocator) (keys : RecordKeys) (t : Table) : List (String × String) :=
  ((storedColumns keys t).foldl Allocator.reserve a).allocateAll ((computedIn t).map fun f => (f.id, [f.name]))

/-- The parts of the name of a table; a view is named after its table, and for what it holds. -/
def tableParts (target : Target) (t : Table) : List String :=
  match target with
  | .sql => [t.name, "computed"]
  | _ => [t.name]

/-- The names in the module of a schema. -/
def ofSchema (s : Schema) (o : GeneratorOptions) : ModuleNames where
  getters :=
    let a := Allocator.new o.target o.naming
    match o.target with
    | .sql => s.tables.flatMap (columnNames a o.recordKeys)
    | _ => functionNames a s.tables
  tables := (Allocator.new o.target o.naming).allocateAll (s.tables.map fun t => (t.id, tableParts o.target t))

/-- The getter of a computed field. -/
def getter? (n : ModuleNames) (fieldId : String) : Option String := n.getters.lookup fieldId

/-- The identifier of a table. -/
def table (n : ModuleNames) (tableId : String) : String := (n.tables.lookup tableId).getD tableId

end ModuleNames

end ComputedFields
