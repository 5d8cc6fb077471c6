import ComputedFields.Formula.Basic
import ComputedFields.Schema.Basic

/-!
# Resolution

- `Formula.resolve`: a formula whose references carry the names and types that a schema gives to their fields;
- `Formula.unresolvedIds`: the references of a resolved formula that the schema does not know.
-/

namespace ComputedFields

/-- The reference to an id as a schema knows it. -/
def FieldRef.ofId (s : Schema) (id : String) : FieldRef :=
  match s.field? id with
  | some f => ⟨id, some f.name, some f.type⟩
  | none => ⟨id, none, none⟩

namespace Formula

mutual

/-- The formula with the names and types that a schema gives to the fields it refers to. -/
def resolve (s : Schema) : Formula → Formula
  | literal l => literal l
  | field r => field (FieldRef.ofId s r.id)
  | call name arguments => call name (resolveAll s arguments)
  | binary op left right => binary op (resolve s left) (resolve s right)
  | unary op operand => unary op (resolve s operand)

def resolveAll (s : Schema) : List Formula → List Formula
  | [] => []
  | f :: fs => resolve s f :: resolveAll s fs

end

mutual

/-- The ids of all references without a type, from left to right, with repetitions. -/
def untyped : Formula → List String
  | literal _ => []
  | field r => if r.type.isNone then [r.id] else []
  | call _ arguments => untypedIn arguments
  | binary _ left right => untyped left ++ untyped right
  | unary _ operand => untyped operand

def untypedIn : List Formula → List String
  | [] => []
  | f :: fs => untyped f ++ untypedIn fs

end

/-- The ids without a type, each once, in the order of their first mention. -/
def unresolvedIds (f : Formula) : List String := f.untyped.eraseDups

/-- Whether every reference has a type. -/
def isResolved (f : Formula) : Bool := f.unresolvedIds.isEmpty

end Formula

end ComputedFields
