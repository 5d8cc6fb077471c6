import ComputedFields.Module.OwnFunctions
import ComputedFields.Target.LinkBody
import ComputedFields.Text.Search
import ComputedFields.Text.Spacing

/-!
# The text of a module

- `Target.preamble`: the header, declarations and functions;
- `Target.beginTable`, `Target.endTable`: what stands around the getters of a table;
- `Target.getter`: a getter with the comments above it;
- `Target.epilogue`: what comes after all getters.

Everything that is not code stands in comments. Names of tables and fields, formulas and reasons are put on one line
there.
-/

namespace ComputedFields

/-- A getter, which is a column in SQL. -/
structure Getter where
  name : String
  fieldId : String
  fieldName : String
  /-- The formula, or what is read through a link. -/
  source : Option String
  /-- The depth of the field; blocked fields have none. -/
  depth : Option Nat
  body : GetterBody
deriving DecidableEq, Repr

/-- Lines, each with a line feed. -/
def unlines (ls : List String) : String := String.join (ls.map (· ++ "\n"))

/-- Text for a block comment of JavaScript, which it must not close. -/
def commentSafe (s : String) : String :=
  String.ofList (Text.replaceAll (Text.oneLine s).toList ['*', '/'] ['*', ' ', '/'])

/-- The lines at the top of a module. -/
def headerLines (o : GeneratorOptions) : List String :=
  (match o.headerComment with
    | some comment => Text.lines comment
    | none => ["Generated by formulary. Do not edit."]) ++ ["Module: " ++ o.moduleName]

namespace Target

/-- What begins a comment that goes on to the end of the line. -/
def commentMark : Target → String
  | python => "#"
  | javascript => "//"
  | sql => "--"

def headerLine (t : Target) (line : String) : String :=
  if line.isEmpty then t.commentMark else t.commentMark ++ " " ++ line

def header (t : Target) (o : GeneratorOptions) : List String := (headerLines o).map t.headerLine

/-- The tables of a list, or a word for none of them. -/
def tableList (none : String) (line : Table → String) (tables : List Table) : List String :=
  if tables.isEmpty then [none] else tables.map line

/-! ## Before the getters -/

/-- The comment on a table that is read through links. -/
def linkedTableComment (t : Target) (table : Table) : String :=
  t.commentMark ++ "   " ++ table.id ++ " (" ++ Text.oneLine table.name ++ ")"

def pythonImports : List String :=
  ["",
    "import datetime",
    "import math",
    "from typing import Any, Dict, List, Optional, Protocol",
    "",
    ""]

/-- The comments above the protocol through which records are read. -/
def pythonLinkedTables (linked : List Table) : List String :=
  "# Linked tables read through DataAccess:" :: tableList "#   (none)" python.linkedTableComment linked

def pythonProtocol : List String :=
  ["class DataAccess(Protocol):",
    "    def get_one(self, table_id: str, record_id: str) -> Optional[Dict[str, Any]]: ...",
    "",
    "    def get_batch(self, table_id: str, record_ids: List[str]) -> List[Dict[str, Any]]: ...",
    "",
    ""]

def pythonPreamble (o : GeneratorOptions) (linked : List Table) : List String :=
  python.header o ++ pythonImports ++ pythonLinkedTables linked ++ pythonProtocol ++ pythonFunctions

/-- The block comment on how records are read, without its first and last line. -/
def javascriptProtocol (linked : List Table) : List String :=
  [" * Record access for lookup, rollup and count getters.",
    " *",
    " * Linked tables:"] ++
  tableList " *   (none)" (fun t => " *   " ++ commentSafe t.id ++ " (" ++ commentSafe t.name ++ ")") linked ++
  [" *",
    " * @typedef \x7bObject\x7d DataAccess",
    " * @property \x7b(tableId: string, recordId: string) => (Object|null)\x7d getOne",
    " * @property \x7b(tableId: string, recordIds: string[]) => Object[]\x7d getBatch"]

def javascriptPreamble (o : GeneratorOptions) (linked : List Table) : List String :=
  javascript.header o ++ ["", "/**"] ++ javascriptProtocol linked ++ [" */", ""] ++ javascriptFunctions

def sqlPreamble (o : GeneratorOptions) (linked : List Table) : List String :=
  sql.header o ++
  ["--",
    "-- Link columns hold arrays of record ids; every table has an \"id\" column.",
    if linked.isEmpty then "-- Linked tables: (none)" else "-- Linked tables:"] ++
  linked.map sql.linkedTableComment

/-- The header, declarations and functions, with the tables that are read through links. -/
def preamble : Target → GeneratorOptions → List Table → String
  | python, o, linked => unlines (pythonPreamble o linked)
  | javascript, o, linked => unlines (javascriptPreamble o linked)
  | sql, o, linked => unlines (sqlPreamble o linked)

/-! ## Tables -/

/-- The comment above a table. -/
def tableComment (t : Target) (table : Table) : String :=
  t.commentMark ++ " Table: " ++ Text.oneLine table.name ++ " (" ++ table.id ++ ")"

/-- What stands before the getters of a table; the identifier of the table names its view. -/
def beginTable : Target → Table → String → String
  | python, table, _ => unlines ["", "", python.tableComment table]
  | javascript, table, _ => unlines ["", javascript.tableComment table]
  | sql, table, identifier =>
    unlines ["", sql.tableComment table, "CREATE OR REPLACE VIEW " ++ sqlName identifier ++ " AS", "SELECT"] ++
      "    t.*"

/-- What stands after the getters of a table. -/
def endTable : Target → GeneratorOptions → Table → String
  | sql, o, table => "\nFROM " ++ sqlName (o.recordKeys.tableKey table) ++ " AS t;\n"
  | _, _, _ => ""

/-! ## Getters -/

/-- The comments above a getter. -/
def getterComments (t : Target) (o : GeneratorOptions) (g : Getter) : List String :=
  (match o.depthComments, g.depth with
    | true, some depth => [t.commentMark ++ " depth " ++ toString depth]
    | _, _ => []) ++
  (match g.source with
    | some source => [t.commentMark ++ " " ++ Text.oneLine g.fieldName ++ " = " ++ Text.oneLine source]
    | none => [t.commentMark ++ " " ++ Text.oneLine g.fieldName])

/-- The comment in place of a body. -/
def stubComment (t : Target) (reason : String) : String := t.commentMark ++ " Not generated: " ++ Text.oneLine reason

/-- Statements on lines of their own. -/
def statementLines (indent : Nat) (lines : List String) : String := Text.indented indent ("\n".intercalate lines)

def pythonBody : GetterBody → String
  | .stub reason => unlines ["    " ++ python.stubComment reason, "    return None"]
  | .expression code =>
    unlines ["    try:", "        return " ++ code, "    except Exception:", "        return None"]
  | .statements lines =>
    unlines ["    try:"] ++ statementLines 8 lines ++ unlines ["    except Exception:", "        return None"]

def pythonGetter (o : GeneratorOptions) (g : Getter) : String :=
  unlines (["", ""] ++ python.getterComments o g ++
    ["def " ++ g.name ++ "(record: Dict[str, Any], data: DataAccess) -> Any:"]) ++ pythonBody g.body

def javascriptBody : GetterBody → String
  | .stub reason => unlines ["  " ++ javascript.stubComment reason, "  return null;"]
  | .expression code =>
    unlines ["  try \x7b", "    return " ++ code ++ ";", "  \x7d catch (err) \x7b", "    return null;", "  \x7d"]
  | .statements lines =>
    unlines ["  try \x7b"] ++ statementLines 4 lines ++
      unlines ["  \x7d catch (err) \x7b", "    return null;", "  \x7d"]

def javascriptGetter (o : GeneratorOptions) (g : Getter) : String :=
  unlines ([""] ++ javascript.getterComments o g ++ ["export function " ++ g.name ++ "(record, data) \x7b"]) ++
    javascriptBody g.body ++ "\x7d\n"

/-- A column; its last line is open, since a comma may follow. -/
def sqlColumn (g : Getter) : String :=
  match g.body with
  | .expression code => "    " ++ code ++ " AS " ++ sqlName g.name
  | .stub reason => "    " ++ sql.stubComment reason ++ "\n    NULL AS " ++ sqlName g.name
  | .statements _ =>
    "    " ++ sql.stubComment "statement bodies have no SQL form" ++ "\n    NULL AS " ++ sqlName g.name

def sqlGetter (o : GeneratorOptions) (g : Getter) : String :=
  ",\n" ++ unlines ((sql.getterComments o g).map ("    " ++ ·)) ++ sqlColumn g

/-- A getter with the comments above it. -/
def getter : Target → GeneratorOptions → Getter → String
  | python, o, g => pythonGetter o g
  | javascript, o, g => javascriptGetter o g
  | sql, o, g => sqlGetter o g

/-- What comes after all getters: Python lists the names it exports. -/
def epilogue : Target → List String → String
  | python, names =>
    unlines (["", "", "__all__ = [", "    \"DataAccess\","] ++
      names.map (fun n => "    " ++ doubleQuoted n ++ ",") ++ ["]"])
  | _, _ => ""

/-! ## Arrangement -/

/-- Whether getters see other fields of their table as code and not as getters. -/
def inlinesComputed : Target → Bool
  | sql => true
  | _ => false

/-- Whether the getters of a table stand together, whatever their depth. -/
def groupsByTable : Target → Bool
  | sql => true
  | _ => false

end Target

end ComputedFields
