/-!
# JSON values
-/

namespace ComputedFields

/-- A JSON value. Members of an object keep their order; of a number only its numeral is kept. -/
inductive Json where
  | null
  | bool (value : Bool)
  | number (numeral : String)
  | string (value : String)
  | array (items : List Json)
  | object (members : List (String × Json))

instance : Inhabited Json := ⟨.null⟩

end ComputedFields
