import ComputedFields.Dependency.Order
import ComputedFields.Formula.Inlining
import ComputedFields.Module.Generation
import ComputedFields.Schema.Decoding

/-!
# Sessions

A session is a schema with its dependency graph and its order of computation, which everything that is asked about the
schema shares.
-/

namespace ComputedFields

structure Session where
  schema : Schema
  graph : DependencyGraph
  order : ComputationOrder

/-- Numbers about a schema. -/
structure SessionStats where
  computedFields : Nat
  orderedFields : Nat
  levels : Nat
  cycles : Nat
  blockedFields : Nat
  parseFailures : Nat
  unresolvedReferences : Nat
deriving DecidableEq, Repr

namespace Session

def ofSchema (s : Schema) : Session :=
  let g := DependencyGraph.ofSchema s
  ⟨s, g, g.order⟩

def stats (x : Session) : SessionStats where
  computedFields := x.schema.computedFields.length
  orderedFields := x.order.size
  levels := x.order.levels.length
  cycles := x.order.cycles.length
  blockedFields := x.order.blocked.length
  parseFailures := x.graph.parseFailures.length
  unresolvedReferences := x.graph.unresolved.length

def generate (x : Session) (options : GeneratorOptions) : GeneratedModule := generateInOrder x.schema x.order options

/-- The formula of a field with other formulas inlined up to a depth. -/
def inlineField? (x : Session) (maxDepth : Nat) (fieldId : String) : Option Inlined :=
  x.schema.inlineField? maxDepth fieldId

/-- Whether a change of `changed` can change `field`. -/
def requiresRecompute (x : Session) (changed field : String) : Bool := x.order.requiresRecompute x.graph changed field

end Session

end ComputedFields
