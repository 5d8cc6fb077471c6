import ComputedFields.Dependency.Graph

/-!
# The order of computation

The depth of a computed field is zero if it needs no computed field, and else one more than the greatest depth of
those it needs. A field on a cycle, or that needs one on a cycle, has no depth: it is blocked.

- `DependencyGraph.visit`: the depths found by a walk along dependencies, and the cycles met on the way;
- `ComputationOrder.levels`: the fields of each depth in declaration order;
- `ComputationOrder.requiresRecompute`: whether a change of one field can change another.
-/

namespace ComputedFields

/-- What a walk has found out: the depths of the fields it has left, none for those that have no depth, and closed
cycles. -/
structure Walk where
  settled : List (String × Option Nat)
  cycles : List (List String)

namespace DependencyGraph

/-- The computed fields that have to be known before a field. -/
def computedDependencies (g : DependencyGraph) (id : String) : List String := (g.dependencies id).filter g.isComputed

/-- The depth of a field that needs a field of the first depth and others that make it at least as deep as the second
says. -/
def deeper : Option Nat → Option Nat → Option Nat
  | some d, some least => some (max (d + 1) least)
  | _, _ => none

mutual

/-- Visits a field. The fields on the way to it are on `path`; the others are `free`. A field that is neither free nor
settled closes a cycle. -/
def visit (g : DependencyGraph) (free path : List String) (id : String) (w : Walk) : Option Nat × Walk :=
  match w.settled.lookup id with
  | some depth => (depth, w)
  | none =>
    if id ∈ free then
      let (depth, w) := visitAll g (free.erase id) (path ++ [id]) (g.computedDependencies id) w
      (depth, { w with settled := w.settled ++ [(id, depth)] })
    else (none, { w with cycles := w.cycles ++ [path.dropWhile (· != id) ++ [id]] })
termination_by (free.length, 0)
decreasing_by
  have := List.length_erase_of_mem (by assumption : id ∈ free)
  have := List.length_pos_of_mem (by assumption : id ∈ free)
  exact Prod.Lex.left _ _ (by omega)

/-- Visits fields one after the other; the result is the depth of a field that needs them all. -/
def visitAll (g : DependencyGraph) (free path : List String) (ids : List String) (w : Walk) : Option Nat × Walk :=
  match ids with
  | [] => (some 0, w)
  | id :: ids =>
    let (depth, w) := visit g free path id w
    let (least, w) := visitAll g free path ids w
    (deeper depth least, w)
termination_by (free.length, ids.length + 1)
decreasing_by
  · exact Prod.Lex.right _ (by omega)
  · exact Prod.Lex.right _ (by simp)

end

/-- The walk through all computed fields in declaration order. -/
def walk (g : DependencyGraph) : Walk := (g.visitAll g.computedIds [] g.computedIds ⟨[], []⟩).2

end DependencyGraph

/-- The computed fields in declaration order with their depths, none for those that are blocked, and the cycles that
block them. -/
structure ComputationOrder where
  depths : List (String × Option Nat)
  /-- Each cycle starts and ends with the same field. -/
  cycles : List (List String)
deriving DecidableEq, Repr

/-- The order in which the fields of a graph can be computed. -/
def DependencyGraph.order (g : DependencyGraph) : ComputationOrder :=
  let w := g.walk
  ⟨g.computedIds.map fun id => (id, (w.settled.lookup id).join), w.cycles⟩

namespace ComputationOrder

variable (o : ComputationOrder)

def depth? (id : String) : Option Nat := (o.depths.lookup id).join

/-- The fields that have no depth. -/
def blocked : List String := (o.depths.filter (·.2.isNone)).map (·.1)

def isBlocked (id : String) : Bool := o.blocked.contains id

/-- The fields of a depth. -/
def level (depth : Nat) : List String := (o.depths.filter (·.2 == some depth)).map (·.1)

def maxDepth? : Option Nat := (o.depths.filterMap (·.2)).max?

/-- The depths that occur, in increasing order, with their fields. -/
def levels : List (Nat × List String) :=
  match o.maxDepth? with
  | none => []
  | some m => ((List.range (m + 1)).map fun d => (d, o.level d)).filter fun l => !l.2.isEmpty

/-- The fields that have a depth, those of lower depth first. -/
def orderedFields : List String := o.levels.flatMap (·.2)

/-- The number of fields that have a depth. -/
def size : Nat := o.depths.countP (·.2.isSome)

def isEmpty : Bool := o.size == 0

/-- The first cycle that a field is on. -/
def cycleOf? (id : String) : Option (List String) := o.cycles.find? (·.contains id)

/-- The order, if there is no cycle. -/
def strict : Except FormulaError ComputationOrder :=
  match o.cycles with
  | [] => .ok o
  | c :: _ => .error (.cycle c)

/-- Whether a change of `changed` can change `field`. Fields that are not deeper than the changed one need no search. -/
def requiresRecompute (g : DependencyGraph) (changed field : String) : Bool :=
  if changed = field then true
  else
    match o.depth? changed, o.depth? field with
    | some d, some e => if e ≤ d then false else (g.downstream changed).contains field
    | _, _ => (g.downstream changed).contains field

end ComputationOrder

end ComputedFields
