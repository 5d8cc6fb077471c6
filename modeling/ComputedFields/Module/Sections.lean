import ComputedFields.Dependency.Order
import ComputedFields.Module.Layout

/-!
# Sections of a module

A module consists of sections, each with computed fields of one table. Fields that need others come after them: they
are sorted by depth, then by their place in the schema, and blocked fields are last. Where a target wants one section
for a table, its fields are sorted in this way among themselves.
-/

namespace ComputedFields

/-- Fields of one table that stand together. -/
structure Section where
  table : Table
  fields : List Field
deriving DecidableEq, Repr

namespace Section

/-- What fields are sorted by. -/
def sortKey (grouped : Bool) (o : ComputationOrder) (p : Placement) : List Nat :=
  let depth := o.depth? p.field.id
  [if grouped then p.tableIndex else 0, if depth.isSome then 0 else 1, depth.getD 0, p.tableIndex, p.fieldIndex]

/-- The order of keys: the first number that differs decides. -/
def keyLe : List Nat → List Nat → Bool
  | [], _ => true
  | _ :: _, [] => false
  | a :: as, b :: bs => a < b || (a == b && keyLe as bs)

/-- The computed fields in the order in which they are written. -/
def sorted (s : Schema) (o : ComputationOrder) (grouped : Bool) : List Placement :=
  (s.placements.filter (·.field.isComputed)).mergeSort fun p q => keyLe (sortKey grouped o p) (sortKey grouped o q)

/-- A field put in front of sections: it joins the first one if that is of its table. -/
def prepend (p : Placement) : List Section → List Section
  | [] => [⟨p.table, [p.field]⟩]
  | s :: rest =>
    if s.table.id = p.table.id then ⟨p.table, p.field :: s.fields⟩ :: rest else ⟨p.table, [p.field]⟩ :: s :: rest

/-- The sections of fields in a given order. -/
def ofPlacements (ps : List Placement) : List Section := ps.foldr prepend []

/-- The sections of a module. -/
def ofSchema (s : Schema) (o : ComputationOrder) (target : Target) : List Section :=
  ofPlacements (sorted s o target.groupsByTable)

end Section

end ComputedFields
