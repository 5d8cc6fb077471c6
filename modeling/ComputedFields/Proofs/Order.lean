import ComputedFields.Proofs.Fields
import ComputedFields.Proofs.Walk
import ComputedFields.Session

/-!
# Levels and blocked fields

The order of computation lists the computed fields with their depths, so a level and the blocked fields are the
computed fields that pass a test on the depth (`filter_depths`):

- the depth of a field is the one that it has, and it has none if it reaches a cycle (`depth?_eq_some_iff`,
  `depth?_eq_none_iff`);
- what a field needs has a lower depth (`exists_depth?_lt`);
- the levels are the depths that occur (`mem_levels_iff`), and together with the blocked fields they are all computed
  fields (`orderedFields_append_blocked_perm`);
- for the graph of a schema this classifies its computed fields (`classifies_order`).
-/

namespace ComputedFields

/-! ## Computed fields -/

namespace DependencyGraph

theorem computedIds_ofSchema (s : Schema) : (ofSchema s).computedIds = s.computedFields.map (·.id) := by
  have h (fs : List Field) : (fs.filterMap fun f => if f.type.isComputed = true then some f.id else none) =
      (fs.filter (·.isComputed)).map (·.id) := by
    rw [← List.filterMap_eq_map, List.filterMap_filter]
    rfl
  simp only [computedIds, ofSchema, List.filterMap_flatMap, nodesOf, List.filterMap_cons, List.filterMap_map,
    Function.comp_def, h, Schema.computedFields, Schema.fields, List.filter_flatMap, List.map_flatMap]

theorem computedIds_sublist (s : Schema) : (ofSchema s).computedIds.Sublist (s.fields.map (·.id)) := by
  rw [computedIds_ofSchema]
  exact List.filter_sublist.map _

theorem nodup_computedIds (s : Schema) : (ofSchema s).computedIds.Nodup := by
  rw [computedIds_ofSchema]
  exact s.nodup_computedFieldIds

theorem isComputed_ofSchema_iff {s : Schema} {id : String} :
    (ofSchema s).isComputed id = true ↔ ∃ f ∈ s.computedFields, f.id = id := by
  rw [isComputed_iff, computedIds_ofSchema, List.mem_map]

theorem isComputed_ofSchema {s : Schema} {f : Field} (hf : f ∈ s.fields) :
    (ofSchema s).isComputed f.id = f.isComputed := by
  rw [Bool.eq_iff_iff, isComputed_ofSchema_iff, Schema.exists_computed_iff hf]

/-! ## Depths -/

variable {g : DependencyGraph}

theorem depths_order : g.order.depths = g.computedIds.map fun id => (id, (g.walk.settled.lookup id).join) := rfl

theorem lookup_map_pair {l : List String} (f : String → Option Nat) {x : String} (hx : x ∈ l) :
    (l.map fun id => (id, f id)).lookup x = some (f x) := by
  induction l with
  | nil => cases hx
  | cons y l ih =>
    rw [List.map_cons, List.lookup_cons]
    by_cases he : x = y
    · simp [he]
    · have hb : (x == y) = false := by simpa using he
      rw [hb]
      exact ih ((List.mem_cons.1 hx).resolve_left he)

theorem depth?_order {x : String} (hx : g.isComputed x = true) :
    g.order.depth? x = (g.walk.settled.lookup x).join := by
  rw [ComputationOrder.depth?, depths_order, lookup_map_pair _ (isComputed_iff.1 hx), Option.join_some]

theorem filter_depths (p : Option Nat → Bool) : (g.order.depths.filter fun e => p e.2).map (·.1) =
    g.computedIds.filter fun x => p (g.order.depth? x) := by
  rw [depths_order, List.filter_map, List.map_map]
  simp only [Function.comp_def, List.map_id']
  exact List.filter_congr fun x hx => by rw [depth?_order (isComputed_iff.2 hx)]

theorem level_order (d : Nat) : g.order.level d = g.computedIds.filter (g.order.depth? · == some d) :=
  filter_depths (· == some d)

theorem blocked_order : g.order.blocked = g.computedIds.filter (g.order.depth? · |>.isNone) :=
  filter_depths (·.isNone)

theorem mem_level_iff {x : String} {d : Nat} :
    x ∈ g.order.level d ↔ g.isComputed x = true ∧ g.order.depth? x = some d := by
  rw [level_order, List.mem_filter, beq_iff_eq, isComputed_iff]

theorem mem_blocked_iff {x : String} :
    x ∈ g.order.blocked ↔ g.isComputed x = true ∧ g.order.depth? x = none := by
  rw [blocked_order, List.mem_filter, Option.isNone_iff_eq_none, isComputed_iff]

/-- The depth of a computed field is right: the field has it, or reaches a cycle if it has none. -/
theorem settles_depth? {x : String} (hx : g.isComputed x = true) : g.Settles x (g.order.depth? x) := by
  obtain ⟨depth, h, hs⟩ := settles_walk hx
  rwa [depth?_order hx, h]

theorem depth?_eq_some_iff {x : String} {d : Nat} (hx : g.isComputed x = true) :
    g.order.depth? x = some d ↔ g.HasDepth x d := by
  have hs := settles_depth? hx
  constructor
  · intro h
    rwa [h] at hs
  · intro h
    cases hd : g.order.depth? x with
    | none =>
      rw [hd] at hs
      exact absurd hs h.not_reachesCycle
    | some d' =>
      rw [hd] at hs
      rw [HasDepth.unique hs h]

theorem depth?_eq_none_iff {x : String} (hx : g.isComputed x = true) :
    g.order.depth? x = none ↔ g.ReachesCycle x := by
  have hs := settles_depth? hx
  constructor
  · intro h
    rwa [h] at hs
  · intro h
    cases hd : g.order.depth? x with
    | none => rfl
    | some d =>
      rw [hd] at hs
      exact absurd h (HasDepth.not_reachesCycle hs)

/-- What a field needs has a lower depth. -/
theorem exists_depth?_lt {x y : String} {d : Nat} (h : g.Needs x y)
    (hd : g.order.depth? x = some d) : ∃ e < d, g.order.depth? y = some e := by
  have hb := ((depth?_eq_some_iff h.1).1 hd).below h
  have hs := settles_depth? h.2.1
  cases he : g.order.depth? y with
  | none =>
    rw [he] at hs
    exact absurd hs hb.not_reachesCycle
  | some e =>
    rw [he] at hs
    exact ⟨e, (hs d).1 hb, rfl⟩

end DependencyGraph

/-! ## Levels -/

namespace ComputationOrder

variable {o : ComputationOrder}

theorem exists_maxDepth? {d : Nat} {x : String} (h : x ∈ o.level d) : ∃ m, o.maxDepth? = some m ∧ d ≤ m := by
  obtain ⟨e, he, _⟩ := List.mem_map.1 h
  obtain ⟨he, hd⟩ := List.mem_filter.1 he
  have hm : d ∈ o.depths.filterMap (·.2) := List.mem_filterMap.2 ⟨e, he, eq_of_beq hd⟩
  obtain ⟨m, hmax⟩ := Option.isSome_iff_exists.1 (List.isSome_max?_of_mem hm)
  exact ⟨m, hmax, List.max?_le_iff hmax |>.1 (Nat.le_refl m) d hm⟩

/-- The levels are the depths that occur with their fields. -/
theorem mem_levels_iff {l : Nat × List String} : l ∈ o.levels ↔ l.2 = o.level l.1 ∧ l.2 ≠ [] := by
  constructor
  · intro h
    unfold levels at h
    split at h
    · cases h
    · obtain ⟨hl, hne⟩ := List.mem_filter.1 h
      obtain ⟨d, _, rfl⟩ := List.mem_map.1 hl
      exact ⟨rfl, by simpa using hne⟩
  · rintro ⟨hl, hne⟩
    obtain ⟨x, hx⟩ := List.exists_mem_of_ne_nil _ hne
    obtain ⟨m, hm, hle⟩ := exists_maxDepth? (hl ▸ hx)
    unfold levels
    rw [hm]
    refine List.mem_filter.2 ⟨List.mem_map.2 ⟨l.1, List.mem_range.2 (by omega), ?_⟩, by simpa using hne⟩
    rw [← hl]

/-- Levels come in increasing order. -/
theorem pairwise_levels : o.levels.Pairwise (·.1 < ·.1) := by
  unfold levels
  split
  · exact .nil
  · apply List.Pairwise.filter
    exact List.pairwise_map.2 List.pairwise_lt_range

end ComputationOrder

namespace DependencyGraph

variable {g : DependencyGraph}

theorem depth?_of_mem_levels {l : Nat × List String} (hl : l ∈ g.order.levels) {x : String} (hx : x ∈ l.2) :
    g.isComputed x = true ∧ g.order.depth? x = some l.1 := by
  rw [(ComputationOrder.mem_levels_iff.1 hl).1] at hx
  exact mem_level_iff.1 hx

theorem exists_level {x : String} {d : Nat} (hx : g.isComputed x = true) (hd : g.order.depth? x = some d) :
    (d, g.order.level d) ∈ g.order.levels ∧ x ∈ g.order.level d := by
  have hm := mem_level_iff.2 ⟨hx, hd⟩
  exact ⟨ComputationOrder.mem_levels_iff.2 ⟨rfl, List.ne_nil_of_mem hm⟩, hm⟩

theorem mem_orderedFields_iff {x : String} :
    x ∈ g.order.orderedFields ↔ g.isComputed x = true ∧ ∃ d, g.order.depth? x = some d := by
  rw [ComputationOrder.orderedFields, List.mem_flatMap]
  constructor
  · rintro ⟨l, hl, hx⟩
    obtain ⟨hc, hd⟩ := depth?_of_mem_levels hl hx
    exact ⟨hc, l.1, hd⟩
  · rintro ⟨hc, d, hd⟩
    exact ⟨_, exists_level hc hd⟩

theorem nodup_orderedFields (h : g.computedIds.Nodup) : g.order.orderedFields.Nodup := by
  refine List.nodup_flatMap.2 ⟨fun l hl => ?_, ?_⟩
  · rw [(ComputationOrder.mem_levels_iff.1 hl).1, level_order]
    exact h.filter _
  · refine (ComputationOrder.pairwise_levels.imp_of_mem fun {l l'} hl hl' hlt x hx hx' => ?_)
    have hd := (depth?_of_mem_levels hl hx).2.symm.trans (depth?_of_mem_levels hl' hx').2
    exact Nat.ne_of_lt hlt (Option.some.inj hd)

/-- Levels and blocked fields are all computed fields. -/
theorem orderedFields_append_blocked_perm (h : g.computedIds.Nodup) :
    (g.order.orderedFields ++ g.order.blocked).Perm g.computedIds := by
  have hb : g.order.blocked.Nodup := by
    rw [blocked_order]
    exact h.filter _
  have hd : g.order.orderedFields.Disjoint g.order.blocked := by
    intro x hx hx'
    obtain ⟨_, d, hd⟩ := mem_orderedFields_iff.1 hx
    rw [(mem_blocked_iff.1 hx').2] at hd
    cases hd
  refine (List.perm_ext_iff_of_nodup (List.nodup_append'.2 ⟨nodup_orderedFields h, hb, hd⟩) h).2 fun x => ?_
  rw [List.mem_append, mem_orderedFields_iff, mem_blocked_iff, ← and_or_left, ← isComputed_iff]
  refine and_iff_left_of_imp fun _ => ?_
  cases g.order.depth? x with
  | none => exact .inr rfl
  | some d => exact .inl ⟨d, rfl⟩

/-- The blocked fields are those from which a cycle can be reached. -/
theorem mem_blocked_iff_reachesCycle {x : String} (hx : g.isComputed x = true) :
    x ∈ g.order.blocked ↔ g.ReachesCycle x := by
  rw [mem_blocked_iff, depth?_eq_none_iff hx]
  exact and_iff_right hx

theorem existsUnique_level {x : String} (hx : g.isComputed x = true) (hb : x ∉ g.order.blocked) :
    ∃! l, l ∈ g.order.levels ∧ x ∈ l.2 := by
  cases hd : g.order.depth? x with
  | none => exact absurd (mem_blocked_iff.2 ⟨hx, hd⟩) hb
  | some d =>
    refine ⟨_, exists_level hx hd, ?_⟩
    rintro l ⟨hl, hm⟩
    have he := (depth?_of_mem_levels hl hm).2
    rw [hd] at he
    cases he
    exact Prod.ext rfl (ComputationOrder.mem_levels_iff.1 hl).1

theorem level_sublist {l : Nat × List String} (hl : l ∈ g.order.levels) : l.2.Sublist g.computedIds := by
  rw [(ComputationOrder.mem_levels_iff.1 hl).1, level_order]
  exact List.filter_sublist

theorem blocked_sublist : g.order.blocked.Sublist g.computedIds := by
  rw [blocked_order]
  exact List.filter_sublist

theorem size_add_length_blocked : g.order.size + g.order.blocked.length = g.computedIds.length := by
  have hl : g.order.depths.length = g.computedIds.length := by rw [depths_order, List.length_map]
  have hp (e : String × Option Nat) : e.2.isNone = decide (¬ e.2.isSome = true) := by cases e.2 <;> rfl
  rw [ComputationOrder.blocked, List.length_map, ← List.countP_eq_length_filter, funext hp, ComputationOrder.size,
    ← List.length_eq_countP_add_countP, hl]

end DependencyGraph

/-! ## Classification -/

/-- An order puts every computed field of a schema where it belongs. -/
structure Classifies (s : Schema) (o : ComputationOrder) : Prop where
  /-- The blocked fields are those from which a cycle can be reached. -/
  blocked_iff : ∀ f ∈ s.computedFields, f.id ∈ o.blocked ↔ (DependencyGraph.ofSchema s).ReachesCycle f.id
  /-- Every other computed field is in exactly one level. -/
  existsUnique_level : ∀ f ∈ s.computedFields, f.id ∉ o.blocked → ∃! l, l ∈ o.levels ∧ f.id ∈ l.2
  /-- No computed field is lost. -/
  perm : (o.levels.flatMap (·.2) ++ o.blocked).Perm (s.computedFields.map (·.id))
  /-- No field is listed twice. -/
  nodup : (o.levels.flatMap (·.2) ++ o.blocked).Nodup
  /-- Stored fields are not listed. -/
  basic : ∀ f ∈ s.fields, f.isComputed = false → f.id ∉ o.blocked ∧ ∀ l ∈ o.levels, f.id ∉ l.2
  /-- The fields of a level are in declaration order. -/
  level_sublist : ∀ l ∈ o.levels, l.2.Sublist (s.fields.map (·.id))
  /-- The blocked fields are in declaration order. -/
  blocked_sublist : o.blocked.Sublist (s.fields.map (·.id))

open DependencyGraph

/-- The order of computation puts every computed field where it belongs, and the numbers of ordered and blocked fields
add up. -/
theorem classifies_order (s : Schema) : Classifies s (ofSchema s).order ∧
    (Session.ofSchema s).stats.computedFields =
      (Session.ofSchema s).stats.orderedFields + (Session.ofSchema s).stats.blockedFields := by
  have hcomputed (f : Field) (hf : f ∈ s.computedFields) : (ofSchema s).isComputed f.id = true :=
    isComputed_ofSchema_iff.2 ⟨f, hf, rfl⟩
  have hperm := orderedFields_append_blocked_perm (nodup_computedIds s)
  constructor
  · exact {
      blocked_iff := fun f hf => mem_blocked_iff_reachesCycle (hcomputed f hf)
      existsUnique_level := fun f hf hb => existsUnique_level (hcomputed f hf) hb
      perm := by rwa [← computedIds_ofSchema]
      nodup := hperm.nodup_iff.2 (nodup_computedIds s)
      basic := fun f hf h => by
        rw [← isComputed_ofSchema hf, ← Bool.not_eq_true] at h
        exact ⟨fun hb => h (mem_blocked_iff.1 hb).1, fun l hl hx => h (depth?_of_mem_levels hl hx).1⟩
      level_sublist := fun l hl => (level_sublist hl).trans (computedIds_sublist s)
      blocked_sublist := blocked_sublist.trans (computedIds_sublist s) }
  · show s.computedFields.length = (ofSchema s).order.size + (ofSchema s).order.blocked.length
    rw [size_add_length_blocked, computedIds_ofSchema, List.length_map]

end ComputedFields
