import ComputedFields.Target.Error
import ComputedFields.Target.Options

/-!
# Reading through links

- `LinkRead`: what a lookup, rollup or count field needs to know about its link, the linked table and the target field;
- `LinkRead.ofField`: the same, found in a schema;
- `LinkRead.emptyDefault`: the value of the field when no record is linked.
-/

namespace ComputedFields

/-- The value of a field when no record is linked. -/
inductive EmptyDefault where
  | zero
  | emptyText
  | emptyList
  | null
deriving DecidableEq, Repr

/-- The value of an aggregation of nothing. -/
def Aggregation.emptyDefault : Aggregation → EmptyDefault
  | sum | count | countA | countAll | average => .zero
  | arrayUnique | arrayFlatten | arrayCompact => .emptyList
  | arrayJoin _ => .emptyText
  | max | min | unknown _ => .null

inductive LinkReadKind where
  | lookup
  | rollup (aggregation : Aggregation)
  | count
deriving DecidableEq, Repr

/-- How the target field of a linked record is read. -/
inductive TargetRead where
  | stored (key : String)
  | computed (fieldId getter : String)
deriving DecidableEq, Repr

structure LinkRead where
  fieldId : String
  kind : LinkReadKind
  /-- What the link is stored under. -/
  linkKey : String
  tableId : String
  /-- What the linked table is stored under. -/
  tableKey : String
  /-- Whether at most one record is linked. -/
  isSingle : Bool
  /-- The target field; counts have none. -/
  read : Option TargetRead
deriving DecidableEq, Repr

namespace LinkRead

/-- The value of an option, or the error that it is missing. -/
def require {α : Type} (f : Field) (option : RequiredOption) : Option α → Except GenerationError α
  | some v => .ok v
  | none => .error (.missingOption f.id option)

/-- What a field makes of the records behind its link. -/
def kindOf (f : Field) : Except GenerationError LinkReadKind :=
  match f.computedKind? with
  | some .lookup => .ok .lookup
  | some .count => .ok .count
  | some .rollup => do
    match ← require f .aggregation f.aggregation? with
    | .unknown text => .error (.unsupportedAggregation text)
    | aggregation => .ok (.rollup aggregation)
  | _ => .error (.notLinked f.id)

/-- The target field; counts have none. -/
def targetOf (s : Schema) (f : Field) : LinkReadKind → Except GenerationError (Option Field)
  | .count => .ok none
  | _ => (require f .targetField (f.targetId?.bind s.field?)).map some

/-- The table that a link leads to: the one it names or else the one of the target field. -/
def tableBehind? (s : Schema) (linkId : String) (target : Option Field) : Option Table :=
  (s.linkedTable? linkId).or (target.bind fun f => s.tableOf? f.id)

/-- How a target field is read, given the getters of computed fields. -/
def targetRead (keys : RecordKeys) (getterOf : String → Option String) (f target : Field) :
    Except GenerationError TargetRead :=
  if target.isComputed then (require f .targetField (getterOf target.id)).map (.computed target.id)
  else .ok (.stored (keys.key target))

/-- What a field needs to know to be read through its link. -/
def ofField (s : Schema) (keys : RecordKeys) (getterOf : String → Option String) (f : Field) :
    Except GenerationError LinkRead := do
  let kind ← kindOf f
  let linkId ← require f .recordLink f.linkId?
  let link ← require f .recordLink (s.field? linkId)
  let target ← targetOf s f kind
  let table ← require f .linkedTable (tableBehind? s linkId target)
  let read ← match target with
    | some t => (targetRead keys getterOf f t).map some
    | none => .ok none
  return {
    fieldId := f.id
    kind := kind
    linkKey := keys.key link
    tableId := table.id
    tableKey := keys.tableKey table
    isSingle := link.isSingle
    read := read }

def emptyDefault (r : LinkRead) : EmptyDefault :=
  match r.kind with
  | .count => .zero
  | .lookup => if r.isSingle then .null else .emptyList
  | .rollup aggregation => aggregation.emptyDefault

/-- Whether one record is fetched, and not a list of them. -/
def fetchesOne (r : LinkRead) : Bool := r.isSingle && r.kind == .lookup

/-- The target field as it is named in a description. -/
def targetName (r : LinkRead) : String :=
  match r.read with
  | some (.stored key) => key
  | some (.computed fieldId _) => fieldId
  | none => ""

/-- The description above the getter. -/
def description (r : LinkRead) : String :=
  match r.kind with
  | .lookup => "lookup " ++ r.targetName ++ " via " ++ r.linkKey
  | .rollup aggregation => aggregation.name ++ "(" ++ r.targetName ++ ") via " ++ r.linkKey
  | .count => "count of " ++ r.linkKey

end LinkRead

end ComputedFields
