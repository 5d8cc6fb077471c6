import ComputedFields.Target.Options
import ComputedFields.Text.WordCase

/-!
# Identifiers

- `identifier`: an identifier made of any text, by what is left of it once it is in its case (`Casing.sanitized`);
- `Target.isReserved`: the words that mean something else in a target;
- `Allocator.allocate`: an identifier that is neither reserved nor taken.
-/

namespace ComputedFields

/-- How the words of an identifier are put together. -/
inductive Casing where
  | snake
  | camel
deriving DecidableEq, Repr

/-- JavaScript is used to camel case, the other targets to snake case. -/
def Naming.casing : Naming → Target → Casing
  | .snakeCase, _ => .snake
  | .camelCase, _ => .camel
  | .targetDefault, .javascript => .camel
  | .targetDefault, _ => .snake

namespace Casing

def apply : Casing → List Char → List Char
  | snake, cs => Text.snakeCase cs
  | camel, cs => Text.camelCase cs

/-- What stands before an identifier that would begin with a digit. -/
def digitGuard : Casing → String
  | snake => "f_"
  | camel => "f"

/-- An identifier with a number after it. -/
def numbered : Casing → String → Nat → String
  | snake, base, n => base ++ "_" ++ toString n
  | camel, base, n => base ++ toString n

end Casing

def isIdentifierChar (c : Char) : Bool := c.isAlphanum || c == '_'

/-- An identifier made of a text that is in its case already: ASCII letters, digits and underscores, at least one of
them, and no digit in front. -/
def Casing.sanitized (casing : Casing) (text : List Char) : String :=
  let kept := text.filter isIdentifierChar
  match kept with
  | [] => "field"
  | c :: _ => if c.isDigit then casing.digitGuard ++ String.ofList kept else String.ofList kept

/-- An identifier made of any text. -/
def identifier (casing : Casing) (text : String) : String := casing.sanitized (casing.apply text.toList)

namespace Target

/-- The reserved words; those of SQL are meant in any case. -/
def reservedWords : Target → List String
  | python =>
    ["False", "None", "True", "and", "as", "assert", "async", "await", "break", "class", "continue", "def", "del",
      "elif", "else", "except", "finally", "for", "from", "global", "if", "import", "in", "is", "lambda",
      "nonlocal", "not", "or", "pass", "raise", "return", "try", "while", "with", "yield", "match", "case", "math",
      "datetime", "record", "data"]
  | javascript =>
    ["await", "break", "case", "catch", "class", "const", "continue", "debugger", "default", "delete", "do", "else",
      "enum", "export", "extends", "false", "finally", "for", "function", "if", "implements", "import", "in",
      "instanceof", "interface", "let", "new", "null", "package", "private", "protected", "public", "return",
      "static", "super", "switch", "this", "throw", "true", "try", "typeof", "undefined", "var", "void", "while",
      "with", "yield", "record", "data"]
  | sql =>
    ["all", "and", "any", "as", "asc", "between", "by", "case", "cast", "check", "column", "constraint", "create",
      "cross", "default", "delete", "desc", "distinct", "drop", "else", "end", "except", "exists", "false", "for",
      "foreign", "from", "full", "group", "having", "id", "in", "index", "inner", "insert", "intersect", "into",
      "is", "join", "key", "left", "like", "limit", "not", "null", "offset", "on", "or", "order", "outer",
      "primary", "references", "right", "select", "set", "table", "then", "to", "true", "union", "unique", "update",
      "user", "using", "values", "view", "when", "where", "with"]

/-- The form in which two names collide: SQL does not tell upper from lower case. -/
def fold : Target → String → String
  | sql, name => String.ofList (name.toList.map Char.toLower)
  | _, name => name

def isReserved (t : Target) (word : String) : Bool := t.reservedWords.contains (t.fold word)

end Target

/-- The names taken in one place of a module. -/
structure Allocator where
  target : Target
  casing : Casing
  /-- The names taken, in the form in which they collide. -/
  used : List String

namespace Allocator

def new (target : Target) (naming : Naming) : Allocator := ⟨target, naming.casing target, []⟩

def isUsed (a : Allocator) (name : String) : Bool := a.used.contains (a.target.fold name)

/-- Takes a name, whatever it is. -/
def reserve (a : Allocator) (name : String) : Allocator := { a with used := a.target.fold name :: a.used }

/-- The identifier of a text that is in its case already, kept apart from reserved words. -/
def base (a : Allocator) (text : List Char) : String :=
  let name := a.casing.sanitized text
  if a.target.isReserved name then name ++ "_" else name

/-- The identifiers to try: one more than there are names taken. Their numbers may be of any size. A counter of 32 bits
would hold them only while fewer than `2 ^ 31 - 2` names are taken, which is more than any module has. -/
def candidates (a : Allocator) (base : String) : List String :=
  base :: (List.range a.used.length).map fun i => a.casing.numbered base (i + 2)

/-- The first candidate that is not taken. -/
def choose (a : Allocator) (base : String) : String := ((a.candidates base).find? (!a.isUsed ·)).getD base

/-- A new identifier for a name that has several parts, given how a text is put into a case. -/
def allocateWith (convert : Casing → List Char → List Char) (a : Allocator) (parts : List String) :
    String × Allocator :=
  let name := a.choose (a.base (convert a.casing (" ".intercalate parts).toList))
  (name, a.reserve name)

/-- A new identifier for a name that has several parts. -/
def allocate (a : Allocator) (parts : List String) : String × Allocator := a.allocateWith Casing.apply parts

end Allocator

end ComputedFields
