import ComputedFields.Formula.Parser
import ComputedFields.Schema.Basic

/-!
# The dependency graph

An edge points from a field to a field that it needs.

- `Field.mentions`: the fields that a computed field names, with the kind of each dependency;
- `DependencyGraph.ofSchema`: the edges between known fields, each once, and what could not be read or found;
- `DependencyGraph.dependencies`, `DependencyGraph.dependents`: the neighbours of a field along the edges that order
  computation;
- `DependencyGraph.downstream`: all fields that need a field, nearest first.
-/

namespace ComputedFields

/-- What an edge says about its source. -/
inductive EdgeKind where
  /-- Its formula refers to the target. -/
  | formulaRef
  /-- It looks the target up in linked records. -/
  | lookup
  /-- It reads through the target, a link. -/
  | lookupVia
  /-- It aggregates the target over linked records. -/
  | rollup
  | rollupVia
  /-- It counts the records of the target, a link. -/
  | count
  /-- It is a link whose other side is the target. -/
  | recordLink
deriving DecidableEq, Repr

namespace EdgeKind

def all : List EdgeKind := [formulaRef, lookup, lookupVia, rollup, rollupVia, count, recordLink]

def name : EdgeKind → String
  | formulaRef => "formula-ref"
  | lookup => "lookup"
  | lookupVia => "lookup-via"
  | rollup => "rollup"
  | rollupVia => "rollup-via"
  | count => "count"
  | recordLink => "record-link"

def ofName? (s : String) : Option EdgeKind := all.find? (·.name == s)

/-- Whether the source can only be computed after the target. -/
def isHierarchical : EdgeKind → Bool
  | formulaRef | lookup | rollup | count => true
  | _ => false

end EdgeKind

structure Edge where
  source : String
  target : String
  kind : EdgeKind
deriving DecidableEq, Repr

/-- A table or a field. -/
inductive Node where
  | table (id name : String)
  | field (id name tableId : String) (type : FieldType)
deriving DecidableEq, Repr

namespace Field

/-- The formula of a formula field, if it has one. -/
def formula? (f : Field) : Option (Except FormulaError Formula) := f.formulaText?.map parse

/-- The fields that a formula field refers to: those in its formula or, if there is none that can be read, those it is
said to refer to. -/
def formulaReferences (f : Field) : List String :=
  match f.formula? with
  | some (.ok formula) => formula.fieldIds
  | _ => f.options.referencedFieldIds.getD []

/-- The fields that a computed field names. -/
def mentions (f : Field) : List (String × EdgeKind) :=
  match f.computedKind? with
  | some .formula => f.formulaReferences.map (·, .formulaRef)
  | some .lookup => f.linkId?.toList.map (·, .lookupVia) ++ f.targetId?.toList.map (·, .lookup)
  | some .rollup => f.linkId?.toList.map (·, .rollupVia) ++ f.targetId?.toList.map (·, .rollup)
  | some .count => f.linkId?.toList.map (·, .count)
  | none => []

end Field

structure DependencyGraph where
  nodes : List Node
  edges : List Edge
  /-- Formulas that cannot be read, by the ids of their fields. -/
  parseFailures : List (String × FormulaError)
  /-- Pairs of a field and an id it names that no field has. -/
  unresolved : List (String × String)

namespace DependencyGraph

/-- The edges between a link field and its other side, in both directions. -/
def linkEdges (s : Schema) (f : Field) : List Edge :=
  match f.options.inverseLinkFieldId with
  | some inverse =>
    if f.type.isLink && (s.field? inverse).isSome then
      [⟨f.id, inverse, .recordLink⟩, ⟨inverse, f.id, .recordLink⟩]
    else []
  | none => []

/-- The edges that a field brings about. -/
def edgesOf (s : Schema) (f : Field) : List Edge :=
  (f.mentions.filter fun m => (s.field? m.1).isSome).map (fun m => ⟨f.id, m.1, m.2⟩) ++ linkEdges s f

/-- The ids a field names that no field has. -/
def missingOf (s : Schema) (f : Field) : List (String × String) :=
  (f.mentions.filter fun m => (s.field? m.1).isNone).map fun m => (f.id, m.1)

def failureOf? (f : Field) : Option (String × FormulaError) :=
  match f.formula? with
  | some (.error e) => some (f.id, e)
  | _ => none

/-- A table before its fields. -/
def nodesOf (t : Table) : List Node := .table t.id t.name :: t.fields.map fun f => .field f.id f.name f.tableId f.type

/-- The dependency graph of a schema. -/
def ofSchema (s : Schema) : DependencyGraph where
  nodes := s.tables.flatMap nodesOf
  edges := (s.fields.flatMap (edgesOf s)).eraseDups
  parseFailures := s.fields.filterMap failureOf?
  unresolved := s.fields.flatMap (missingOf s)

/-- The fields in declaration order. -/
def fieldIds (g : DependencyGraph) : List String :=
  g.nodes.filterMap fun n => match n with
    | .field id .. => some id
    | .table .. => none

/-- The computed fields in declaration order. -/
def computedIds (g : DependencyGraph) : List String :=
  g.nodes.filterMap fun n => match n with
    | .field id _ _ type => if type.isComputed then some id else none
    | .table .. => none

/-- The name of the table with an id. -/
def tableName? (g : DependencyGraph) (id : String) : Option String :=
  g.nodes.findSome? fun n => match n with
    | .table i name => if i = id then some name else none
    | .field .. => none

/-- The name of the field with an id. -/
def fieldName? (g : DependencyGraph) (id : String) : Option String :=
  g.nodes.findSome? fun n => match n with
    | .field i name .. => if i = id then some name else none
    | .table .. => none

def isComputed (g : DependencyGraph) (id : String) : Bool := g.computedIds.contains id

def edgesFrom (g : DependencyGraph) (id : String) : List Edge := g.edges.filter (·.source == id)

def edgesTo (g : DependencyGraph) (id : String) : List Edge := g.edges.filter (·.target == id)

def edgesOfKind (g : DependencyGraph) (kind : EdgeKind) : List Edge := g.edges.filter (·.kind == kind)

/-- The fields that have to be known before a field. -/
def dependencies (g : DependencyGraph) (id : String) : List String :=
  ((g.edgesFrom id).filter (·.kind.isHierarchical)).map (·.target)

/-- The fields that cannot be known before a field. -/
def dependents (g : DependencyGraph) (id : String) : List String :=
  ((g.edgesTo id).filter (·.kind.isHierarchical)).map (·.source)

/-! ## Reachability -/

/-- The fields of `unseen` that need a field of `layer`, in the order in which they are found. -/
def nextLayer (g : DependencyGraph) (unseen layer : List String) : List String :=
  (layer.flatMap g.dependents).eraseDups.filter (· ∈ unseen)

/-- The fields that are left after the next layer. -/
def unseenAfter (g : DependencyGraph) (unseen layer : List String) : List String :=
  unseen.filter (· ∉ g.nextLayer unseen layer)

theorem length_unseenAfter_lt {g : DependencyGraph} {unseen layer : List String} (h : g.nextLayer unseen layer ≠ []) :
    (g.unseenAfter unseen layer).length < unseen.length := by
  obtain ⟨x, hx⟩ := List.exists_mem_of_ne_nil _ h
  have seen : x ∈ unseen := by simpa using (List.mem_filter.mp hx).2
  exact List.length_filter_lt_length_iff_exists.mpr ⟨x, seen, by simpa using hx⟩

/-- All fields of `unseen` that need a field of `layer`, layer by layer. -/
def layersAfter (g : DependencyGraph) (unseen layer : List String) : List String :=
  if _h : g.nextLayer unseen layer = [] then []
  else g.nextLayer unseen layer ++ layersAfter g (g.unseenAfter unseen layer) (g.nextLayer unseen layer)
termination_by unseen.length
decreasing_by exact length_unseenAfter_lt _h

/-- All fields that need a field, directly or through others, nearest first. -/
def downstream (g : DependencyGraph) (id : String) : List String := g.layersAfter (g.fieldIds.filter (· != id)) [id]

end DependencyGraph

end ComputedFields
