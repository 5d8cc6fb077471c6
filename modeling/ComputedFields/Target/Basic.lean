/-!
# Targets

The languages that formulas are written in.
-/

namespace ComputedFields

inductive Target where
  | python
  | javascript
  | sql
deriving DecidableEq, Repr

namespace Target

def all : List Target := [python, javascript, sql]

def name : Target → String
  | python => "python"
  | javascript => "javascript"
  | sql => "sql"

/-- The target with a name, which may be short for JavaScript. -/
def ofName? (s : String) : Option Target := if s = "js" then some javascript else all.find? (·.name == s)

/-- The ending of the names of files. -/
def extension : Target → String
  | python => "py"
  | javascript => "js"
  | sql => "sql"

end Target

end ComputedFields
