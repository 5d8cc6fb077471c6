import ComputedFields.Proofs.Order
import Mathlib.Order.Bounds.Basic

/-!
# The depth equation

The depth of a field bounds all paths of dependencies from it (`HasDepth`). Here this becomes an equation between the
depth of a field and those of the fields that it needs:

- `depth?_eq_zero_iff`: a field has depth zero if it needs no computed field;
- `exists_needs_depth?`: a field that is deeper needs one that is less deep by one, and no deeper one
  (`exists_depth?_lt`);
- `exists_depth?_of_le`: so there is a field of every depth up to that of a given one, and no level is missing
  (`map_fst_levels`);
- `exactDepths_order`: the depths of a schema satisfy the equation.
-/

namespace ComputedFields

namespace DependencyGraph

variable {g : DependencyGraph} {x y : String} {d m : Nat}

/-! ## The equation -/

theorem HasDepth.eq_zero_iff (h : g.HasDepth x d) : d = 0 ↔ ∀ y, ¬ g.Needs x y := by
  have hone : d < 1 ↔ ∀ y, g.Needs x y → False := (h 1).symm
  rw [← Nat.lt_one_iff, hone]

theorem depth?_eq_zero_iff (hx : g.isComputed x = true) : g.order.depth? x = some 0 ↔ ∀ y, ¬ g.Needs x y := by
  constructor
  · intro h
    exact ((depth?_eq_some_iff hx).1 h).eq_zero_iff.1 rfl
  · intro h
    -- A field that needs nothing reaches no cycle, so it has a depth.
    cases hd : g.order.depth? x with
    | none =>
      obtain ⟨y, hy, -⟩ := ((depth?_eq_none_iff hx).1 hd).exists_needs
      exact absurd hy (h y)
    | some d => rw [((depth?_eq_some_iff hx).1 hd).eq_zero_iff.2 h]

/-- A field that is not of depth zero needs one that is less deep by one. -/
theorem exists_needs_depth? (hx : g.isComputed x = true) (hd : g.order.depth? x = some (m + 1)) :
    ∃ y, g.Needs x y ∧ g.order.depth? y = some m := by
  by_contra hnone
  push Not at hnone
  have hbelow : g.DepthBelow (m + 1) x := by
    intro y hy
    obtain ⟨e, he, hye⟩ := exists_depth?_lt hy hd
    have hne : e ≠ m := fun h => hnone y hy (h ▸ hye)
    exact ((depth?_eq_some_iff hy.2.1).1 hye m).2 (by omega)
  exact Nat.lt_irrefl _ (((depth?_eq_some_iff hx).1 hd (m + 1)).1 hbelow)

/-- The depths of the fields that a field needs. -/
def neededDepths (g : DependencyGraph) (o : ComputationOrder) (x : String) : Set Nat :=
  {d | ∃ y, g.Needs x y ∧ o.depth? y = some d}

theorem isGreatest_neededDepths (hx : g.isComputed x = true) (hd : g.order.depth? x = some (m + 1)) :
    IsGreatest (g.neededDepths g.order x) m := by
  refine ⟨exists_needs_depth? hx hd, ?_⟩
  rintro e ⟨y, hy, he⟩
  obtain ⟨e', hlt, he'⟩ := exists_depth?_lt hy hd
  rw [he] at he'
  cases he'
  omega

/-! ## Levels -/

/-- There are fields of all depths up to that of a field. -/
theorem exists_depth?_of_le (hx : g.isComputed x = true) (hd : g.order.depth? x = some d) {e : Nat} (he : e ≤ d) :
    ∃ y, g.isComputed y = true ∧ g.order.depth? y = some e := by
  induction d generalizing x with
  | zero =>
    obtain rfl : e = 0 := by omega
    exact ⟨x, hx, hd⟩
  | succ d ih =>
    rcases Nat.lt_or_eq_of_le he with hlt | rfl
    · obtain ⟨y, hy, hyd⟩ := exists_needs_depth? hx hd
      exact ih hy.2.1 hyd (by omega)
    · exact ⟨x, hx, hd⟩

/-- The greatest depth is that of a field. -/
theorem exists_maxDepth?_eq (h : g.order.maxDepth? = some m) :
    ∃ x, g.isComputed x = true ∧ g.order.depth? x = some m := by
  have hm := List.max?_mem h
  obtain ⟨⟨x, depth⟩, hmem, hdepth⟩ := List.mem_filterMap.1 hm
  have hlevel : x ∈ g.order.level m :=
    List.mem_map.2 ⟨(x, depth), List.mem_filter.2 ⟨hmem, by simpa using hdepth⟩, rfl⟩
  exact ⟨x, mem_level_iff.1 hlevel⟩

/-- The levels are those of all depths up to the greatest. -/
theorem map_fst_levels (h : g.order.maxDepth? = some m) : g.order.levels.map (·.1) = List.range (m + 1) := by
  obtain ⟨x, hx, hd⟩ := exists_maxDepth?_eq h
  have hfull : ∀ l ∈ (List.range (m + 1)).map fun d => (d, g.order.level d), (!l.2.isEmpty) = true := by
    refine List.forall_mem_map.2 fun e he => ?_
    obtain ⟨y, hy⟩ := exists_depth?_of_le hx hd (Nat.lt_succ_iff.1 (List.mem_range.1 he))
    have hne := List.ne_nil_of_mem (mem_level_iff.2 hy)
    simpa using hne
  rw [ComputationOrder.levels, h]
  simp only [List.filter_eq_self.2 hfull, List.map_map, Function.comp_def, List.map_id']

end DependencyGraph

/-! ## Schemas -/

open DependencyGraph

/-- The depths of an order are those that the edges of a graph ask for. -/
structure ExactDepths (g : DependencyGraph) (o : ComputationOrder) : Prop where
  /-- The computed fields that an ordered field needs are ordered. -/
  closed : ∀ x ∈ o.orderedFields, ∀ y, g.Needs x y → y ∈ o.orderedFields
  /-- An ordered field has depth zero if it needs no computed field, -/
  zero : ∀ x ∈ o.orderedFields, (¬ ∃ y, g.Needs x y) → o.depth? x = some 0
  /-- and else it is one deeper than the deepest of those that it needs. -/
  succ : ∀ x ∈ o.orderedFields, (∃ y, g.Needs x y) →
    ∃ m, IsGreatest (g.neededDepths o x) m ∧ o.depth? x = some (m + 1)
  /-- Without ordered fields there is no level. -/
  unordered : o.maxDepth? = none → o.levels = [] ∧ o.orderedFields = []
  /-- Else the levels are those of the depths from zero to the greatest, each once, -/
  keys : ∀ m, o.maxDepth? = some m → o.levels.map (·.1) = List.range (m + 1)
  /-- and none of them is empty. -/
  nonempty : ∀ l ∈ o.levels, l.2 ≠ []
  /-- An ordered field is in the level of its depth and in no other. -/
  level : ∀ x ∈ o.orderedFields, ∃ l ∈ o.levels, o.depth? x = some l.1 ∧ ∀ l' ∈ o.levels, x ∈ l'.2 ↔ l' = l
  /-- An edge that orders computation leads from a deeper field to one that is less deep. -/
  deeper : ∀ e ∈ g.edges, e.kind.isHierarchical = true → e.source ∈ o.orderedFields → e.target ∈ o.orderedFields →
    ∃ d d', o.depth? e.source = some d ∧ o.depth? e.target = some d' ∧ d' < d

/-- The depths of the computed fields of a schema satisfy the depth equation. -/
theorem exactDepths_order (s : Schema) : ExactDepths (ofSchema s) (ofSchema s).order where
  closed x hx y hy := by
    obtain ⟨-, d, hd⟩ := mem_orderedFields_iff.1 hx
    obtain ⟨e, -, he⟩ := exists_depth?_lt hy hd
    exact mem_orderedFields_iff.2 ⟨hy.2.1, e, he⟩
  zero x hx hnone := (depth?_eq_zero_iff (mem_orderedFields_iff.1 hx).1).2 (not_exists.1 hnone)
  succ x hx hsome := by
    obtain ⟨hc, d, hd⟩ := mem_orderedFields_iff.1 hx
    cases d with
    | zero => exact absurd hsome (not_exists.2 ((depth?_eq_zero_iff hc).1 hd))
    | succ m => exact ⟨m, isGreatest_neededDepths hc hd, hd⟩
  unordered h := by
    have hlevels : (ofSchema s).order.levels = [] := by rw [ComputationOrder.levels, h]
    exact ⟨hlevels, by rw [ComputationOrder.orderedFields, hlevels, List.flatMap_nil]⟩
  keys m h := map_fst_levels h
  nonempty l hl := (ComputationOrder.mem_levels_iff.1 hl).2
  level x hx := by
    obtain ⟨hc, hd⟩ := mem_orderedFields_iff.1 hx
    have hfree : x ∉ (ofSchema s).order.blocked := fun hb => by simp [(mem_blocked_iff.1 hb).2] at hd
    obtain ⟨l, ⟨hl, hxl⟩, hunique⟩ := existsUnique_level hc hfree
    refine ⟨l, hl, (depth?_of_mem_levels hl hxl).2, fun l' hl' => ⟨fun hx' => hunique l' ⟨hl', hx'⟩, ?_⟩⟩
    rintro rfl
    exact hxl
  deeper e he hk hsource htarget := by
    obtain ⟨hs, d, hd⟩ := mem_orderedFields_iff.1 hsource
    have hneeds : (ofSchema s).Needs e.source e.target :=
      ⟨hs, (mem_orderedFields_iff.1 htarget).1, e, he, rfl, rfl, hk⟩
    obtain ⟨d', hlt, hd'⟩ := exists_depth?_lt hneeds hd
    exact ⟨d, d', hd, hd', hlt⟩

end ComputedFields
