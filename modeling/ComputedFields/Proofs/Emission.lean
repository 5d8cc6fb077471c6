import ComputedFields.Proofs.Columns
import ComputedFields.Proofs.Order
import Mathlib.Data.List.Chain

/-!
# The order in which fields are written

Fields are written in the order in which they can be computed: level by level, and blocked fields last. The sections
sort the fields by a key; the order of computation collects them by depth. Both are the same since keys tell fields
apart, so that there is only one way to sort them.

- `Section.eq_of_perm`: fields that are sorted by their keys are in one order only;
- `Section.sorted_eq_byLevel`: this is the order of the levels;
- `Section.filter_sorted`: where tables stand apart, the fields of a table are in the same order among themselves;
- `Section.map_table_ofSchema`: the tables are then those that have computed fields;
- `followsOrder_ofSchema`: so the sections of a module follow the order of computation.
-/

namespace ComputedFields

/-! ## Numbers of tables -/

namespace Schema

variable {s : Schema} {p : Placement}

/-- The number of a table, found by its id. -/
def tableNumber (s : Schema) (t : Table) : Nat := (s.tables.map (·.id)).idxOf t.id

theorem tableNumber_getElem {i : Nat} (hi : i < s.tables.length) : s.tableNumber s.tables[i] = i := by
  have h := s.nodup_tableIds.idxOf_getElem i (by rwa [List.length_map])
  rwa [List.getElem_map] at h

theorem eq_of_tableNumber_eq {t u : Table} (ht : t ∈ s.tables) (hu : u ∈ s.tables)
    (h : s.tableNumber t = s.tableNumber u) : t = u := by
  obtain ⟨i, hi, rfl⟩ := List.getElem_of_mem ht
  obtain ⟨j, hj, rfl⟩ := List.getElem_of_mem hu
  rw [tableNumber_getElem, tableNumber_getElem] at h
  subst h
  rfl

theorem tableNumber_of_mem (h : p ∈ s.placements) : s.tableNumber p.table = p.tableIndex := by
  obtain ⟨hi, he⟩ := List.getElem?_eq_some_iff.1 (getElem?_tableIndex h)
  rw [← he, tableNumber_getElem]

theorem pairwise_tables (s : Schema) : s.tables.Pairwise (s.tableNumber · < s.tableNumber ·) :=
  List.pairwise_iff_getElem.2 fun i j hi hj h => by rwa [tableNumber_getElem, tableNumber_getElem]

end Schema

namespace Section

variable {s : Schema} {o : ComputationOrder} {grouped : Bool} {p q : Placement}

/-! ## Keys -/

theorem keyLe_antisymm : ∀ {a b : List Nat}, keyLe a b = true → keyLe b a = true → a = b
  | [], [], _, _ => rfl
  | [], _ :: _, _, h => by cases h
  | _ :: _, [], h, _ => by cases h
  | x :: a, y :: b, h, h' => by
    simp only [keyLe, Bool.or_eq_true, Bool.and_eq_true, decide_eq_true_eq, beq_iff_eq] at h h'
    obtain rfl : x = y := by omega
    rw [keyLe_antisymm (a := a) (b := b) (by simpa using h) (by simpa using h')]

/-- Fields that come before each other are the same. -/
theorem eq_of_keyLe (hp : p ∈ s.placements) (hq : q ∈ s.placements)
    (h : keyLe (sortKey grouped o p) (sortKey grouped o q) = true)
    (h' : keyLe (sortKey grouped o q) (sortKey grouped o p) = true) : p = q := by
  have hk := keyLe_antisymm h h'
  simp only [sortKey, List.cons.injEq] at hk
  exact Schema.eq_of_index_eq hp hq hk.2.2.2.1 hk.2.2.2.2.1

/-- There is only one way to sort fields by their keys. -/
theorem eq_of_perm {ps qs : List Placement} (hs : ∀ p ∈ ps, p ∈ s.placements) (hperm : ps.Perm qs)
    (hp : ps.Pairwise fun p q => keyLe (sortKey grouped o p) (sortKey grouped o q) = true)
    (hq : qs.Pairwise fun p q => keyLe (sortKey grouped o p) (sortKey grouped o q) = true) : ps = qs :=
  List.Perm.eq_of_pairwise
    (fun p q hp hq => eq_of_keyLe (hs p hp) (hs q (hperm.mem_iff.2 hq))) hp hq hperm

/-! ## Levels -/

/-- The computed fields with their places, in declaration order. -/
def candidates (s : Schema) : List Placement := s.placements.filter (·.field.isComputed)

theorem sorted_perm : (sorted s o grouped).Perm (candidates s) := List.mergeSort_perm _ _

theorem map_id_candidates (s : Schema) :
    (candidates s).map (·.field.id) = (DependencyGraph.ofSchema s).computedIds := by
  rw [DependencyGraph.computedIds_ofSchema, Schema.computedFields, ← Schema.map_field_placements, List.filter_map,
    List.map_map]
  rfl

/-- The computed fields level by level, and those without a depth last. -/
def byLevel (s : Schema) (o : ComputationOrder) : List Placement :=
  (o.levels.flatMap fun l => (candidates s).filter (o.depth? ·.field.id == some l.1)) ++
    (candidates s).filter (o.depth? ·.field.id |>.isNone)

theorem keyLe_of_depth?_eq
    (h : p.tableIndex < q.tableIndex ∨ p.tableIndex = q.tableIndex ∧ p.fieldIndex < q.fieldIndex)
    (hd : o.depth? p.field.id = o.depth? q.field.id) : keyLe (sortKey false o p) (sortKey false o q) = true := by
  simp only [sortKey, hd, Bool.false_eq_true, if_false, keyLe, Bool.or_eq_true, Bool.and_eq_true, decide_eq_true_eq,
    beq_iff_eq, Nat.lt_irrefl, false_or, true_and, and_true]
  omega

theorem keyLe_of_depth?_lt {d e : Nat} (hp : o.depth? p.field.id = some d) (hq : o.depth? q.field.id = some e)
    (h : d < e) : keyLe (sortKey false o p) (sortKey false o q) = true := by
  simp [sortKey, hp, hq, keyLe, h]

theorem keyLe_of_depth?_eq_none {d : Nat} (hp : o.depth? p.field.id = some d) (hq : o.depth? q.field.id = none) :
    keyLe (sortKey false o p) (sortKey false o q) = true := by
  simp [sortKey, hp, hq, keyLe]

theorem pairwise_filter_candidates {P : Option Nat → Bool} (hP : ∀ d e, P d = true → P e = true → d = e) :
    ((candidates s).filter fun p => P (o.depth? p.field.id)).Pairwise fun p q =>
      keyLe (sortKey false o p) (sortKey false o q) = true := by
  refine ((s.pairwise_placements.filter _).filter _).imp_of_mem fun {p q} hp hq h => ?_
  exact keyLe_of_depth?_eq h (hP _ _ (List.mem_filter.1 hp).2 (List.mem_filter.1 hq).2)

/-- Level by level, fields are sorted by their keys. -/
theorem pairwise_byLevel : (byLevel s o).Pairwise fun p q =>
    keyLe (sortKey false o p) (sortKey false o q) = true := by
  have hdepth {l : Nat × List String} {p : Placement}
      (hp : p ∈ (candidates s).filter (o.depth? ·.field.id == some l.1)) : o.depth? p.field.id = some l.1 := by
    simpa using (List.mem_filter.1 hp).2
  refine List.pairwise_append.2 ⟨List.pairwise_flatMap.2 ⟨fun l _ => ?_, ?_⟩, ?_, ?_⟩
  · exact pairwise_filter_candidates (P := (· == some l.1)) fun d e hd he => by simp_all
  · exact ComputationOrder.pairwise_levels.imp fun h p hp q hq => keyLe_of_depth?_lt (hdepth hp) (hdepth hq) h
  · exact pairwise_filter_candidates (P := Option.isNone) fun d e hd he => by simp_all
  · intro p hp q hq
    obtain ⟨l, -, hp⟩ := List.mem_flatMap.1 hp
    exact keyLe_of_depth?_eq_none (hdepth hp) (by simpa using (List.mem_filter.1 hq).2)

theorem map_id_byLevel (s : Schema) : (byLevel s (DependencyGraph.ofSchema s).order).map (·.field.id) =
    (DependencyGraph.ofSchema s).order.orderedFields ++ (DependencyGraph.ofSchema s).order.blocked := by
  have hmap (P : Option Nat → Bool) (o : ComputationOrder) :
      ((candidates s).filter fun p => P (o.depth? p.field.id)).map (·.field.id) =
        (DependencyGraph.ofSchema s).computedIds.filter fun id => P (o.depth? id) := by
    rw [← map_id_candidates, List.filter_map]
    rfl
  rw [byLevel, List.map_append, List.map_flatMap, hmap Option.isNone, ← DependencyGraph.blocked_order]
  congr 1
  refine List.flatMap_congr fun l hl => ?_
  rw [hmap (· == some l.1), ← DependencyGraph.level_order]
  exact (ComputationOrder.mem_levels_iff.1 hl).1.symm

theorem mem_candidates_of_mem_byLevel (h : p ∈ byLevel s o) : p ∈ candidates s := by
  rcases List.mem_append.1 h with h | h
  · obtain ⟨l, -, h⟩ := List.mem_flatMap.1 h
    exact (List.mem_filter.1 h).1
  · exact (List.mem_filter.1 h).1

/-- The levels and the blocked fields are all computed fields. -/
theorem byLevel_perm (s : Schema) : (byLevel s (DependencyGraph.ofSchema s).order).Perm (candidates s) := by
  have hids : ((byLevel s (DependencyGraph.ofSchema s).order).map (·.field.id)).Perm
      ((candidates s).map (·.field.id)) := by
    rw [map_id_byLevel, map_id_candidates]
    exact DependencyGraph.orderedFields_append_blocked_perm (DependencyGraph.nodup_computedIds s)
  have hn : ((candidates s).map (·.field.id)).Nodup := by
    rw [map_id_candidates]
    exact DependencyGraph.nodup_computedIds s
  refine (List.perm_ext_iff_of_nodup (.of_map _ (hids.nodup_iff.2 hn)) (.of_map _ hn)).2 fun p => ?_
  refine ⟨mem_candidates_of_mem_byLevel, fun hp => ?_⟩
  obtain ⟨q, hq, he⟩ := List.mem_map.1 (hids.mem_iff.2 (List.mem_map_of_mem hp))
  rwa [← List.inj_on_of_nodup_map hn (mem_candidates_of_mem_byLevel hq) hp he]

/-- Without regard to tables, fields are sorted level by level. -/
theorem sorted_eq_byLevel (s : Schema) :
    sorted s (DependencyGraph.ofSchema s).order false = byLevel s (DependencyGraph.ofSchema s).order :=
  eq_of_perm (fun _ hp => mem_placements_of_mem_sorted hp) (sorted_perm.trans (byLevel_perm s).symm) pairwise_sorted
    pairwise_byLevel

/-! ## Tables -/

/-- Where tables stand apart, the fields of a table are in the same order among themselves. -/
theorem filter_sorted (tableId : String) : (sorted s o true).filter (·.table.id == tableId) =
    (sorted s o false).filter (·.table.id == tableId) := by
  have hgrouped : (sorted s o true).Pairwise _ := pairwise_sorted
  have hsorted : (sorted s o false).Pairwise _ := pairwise_sorted
  refine eq_of_perm (s := s) ?_ ?_ ?_ (hsorted.filter _)
  · exact fun p hp => mem_placements_of_mem_sorted (List.mem_filter.1 hp).1
  · exact (sorted_perm.trans sorted_perm.symm).filter _
  · refine (hgrouped.filter _).imp_of_mem fun {p q} hp hq h => ?_
    obtain ⟨hp, hpt⟩ := List.mem_filter.1 hp
    obtain ⟨hq, hqt⟩ := List.mem_filter.1 hq
    have hi : p.tableIndex = q.tableIndex :=
      (Schema.tableIndex_eq_iff (mem_placements_of_mem_sorted hp) (mem_placements_of_mem_sorted hq)).2
        ((eq_of_beq hpt).trans (eq_of_beq hqt).symm)
    simp only [sortKey, hi, keyLe] at h ⊢
    simpa using h

/-! ## Sections -/

/-- A field begins a section, or joins the first one if that is of its table. -/
theorem ofPlacements_cons (p : Placement) (ps : List Placement) :
    (ofPlacements (p :: ps) = ⟨p.table, [p.field]⟩ :: ofPlacements ps ∧
      ∀ x ∈ (ofPlacements ps).head?, p.table.id ≠ x.table.id) ∨
    ∃ x xs, ofPlacements ps = x :: xs ∧ x.table.id = p.table.id ∧
      ofPlacements (p :: ps) = ⟨p.table, p.field :: x.fields⟩ :: xs := by
  have he : ofPlacements (p :: ps) = prepend p (ofPlacements ps) := rfl
  rw [he]
  cases ofPlacements ps with
  | nil => exact .inl ⟨rfl, by simp⟩
  | cons x xs =>
    rw [prepend]
    split
    · next ht => exact .inr ⟨x, xs, rfl, ht, rfl⟩
    · next ht => exact .inl ⟨rfl, by simpa using Ne.symm ht⟩

/-- Sections that follow each other are of different tables. -/
theorem isChain_ofPlacements (ps : List Placement) : (ofPlacements ps).IsChain (·.table.id ≠ ·.table.id) := by
  induction ps with
  | nil => exact .nil
  | cons p ps ih =>
    rcases ofPlacements_cons p ps with ⟨he, hne⟩ | ⟨x, xs, hx, ht, he⟩ <;> rw [he]
    · exact List.isChain_cons.2 ⟨hne, ih⟩
    · rw [hx, List.isChain_cons, ht] at ih
      exact List.isChain_cons.2 ih

theorem map_table_ofPlacements_sublist (ps : List Placement) :
    ((ofPlacements ps).map (·.table)).Sublist (ps.map (·.table)) := by
  induction ps with
  | nil => exact .slnil
  | cons p ps ih =>
    rcases ofPlacements_cons p ps with ⟨he, -⟩ | ⟨x, xs, hx, -, he⟩ <;> rw [he]
    · exact ih.cons_cons p.table
    · rw [hx] at ih
      exact (List.sublist_of_cons_sublist ih).cons_cons p.table

/-- A section holds fields of its table, and at least one. -/
theorem exists_placement_of_mem_fields {ps : List Placement} :
    ∀ x ∈ ofPlacements ps, x.fields ≠ [] ∧ ∀ f ∈ x.fields, ∃ p ∈ ps, p.field = f ∧ p.table.id = x.table.id := by
  induction ps with
  | nil => exact nofun
  | cons p ps ih =>
    have hself : ∃ q ∈ p :: ps, q.field = p.field ∧ q.table.id = p.table.id := ⟨p, List.mem_cons_self, rfl, rfl⟩
    have hrest {f : Field} {id : String} (h : ∃ q ∈ ps, q.field = f ∧ q.table.id = id) :
        ∃ q ∈ p :: ps, q.field = f ∧ q.table.id = id := h.imp fun q hq => ⟨List.mem_cons_of_mem p hq.1, hq.2⟩
    rcases ofPlacements_cons p ps with ⟨he, -⟩ | ⟨x, xs, hx, ht, he⟩ <;> rw [he]
    · refine List.forall_mem_cons.2 ⟨⟨by simp, by simp⟩, fun y hy => ?_⟩
      exact ⟨(ih y hy).1, fun f hf => hrest ((ih y hy).2 f hf)⟩
    · rw [hx] at ih
      obtain ⟨⟨-, hfields⟩, hxs⟩ := List.forall_mem_cons.1 ih
      refine List.forall_mem_cons.2 ⟨⟨by simp, List.forall_mem_cons.2 ⟨hself, fun f hf => ?_⟩⟩, fun y hy => ?_⟩
      · exact ht ▸ hrest (hfields f hf)
      · exact ⟨(hxs y hy).1, fun f hf => hrest ((hxs y hy).2 f hf)⟩

variable {t : Target} {x : Section}

theorem table_mem_of_mem_ofSchema (hx : x ∈ ofSchema s o t) : x.table ∈ s.tables := by
  obtain ⟨p, hp, ht⟩ := exists_placement_of_mem hx
  exact ht ▸ Schema.table_mem_of_mem_placements (mem_placements_of_mem_sorted hp)

theorem field_mem_of_mem_ofSchema (hx : x ∈ ofSchema s o t) {f : Field} (hf : f ∈ x.fields) : f ∈ x.table.fields := by
  obtain ⟨p, hp, rfl, hid⟩ := (exists_placement_of_mem_fields x hx).2 f hf
  have hp := mem_placements_of_mem_sorted hp
  rw [← Schema.eq_of_tableId_eq (Schema.table_mem_of_mem_placements hp) (table_mem_of_mem_ofSchema hx) hid]
  exact Schema.field_mem_of_mem_placements hp

theorem flatMap_fields_ofSchema_perm : ((ofSchema s o t).flatMap (·.fields)).Perm s.computedFields := by
  rw [ofSchema, flatMap_fields_ofPlacements]
  exact map_field_sorted_perm

/-! ## One section for each table -/

/-- The tables of sections are those with computed fields. -/
theorem mem_map_table_iff {u : Table} :
    u ∈ (ofSchema s o t).map (·.table) ↔ u ∈ s.tables ∧ ∃ f ∈ u.fields, f.isComputed = true := by
  constructor
  · intro h
    obtain ⟨x, hx, rfl⟩ := List.mem_map.1 h
    obtain ⟨f, hf⟩ := List.exists_mem_of_ne_nil _ (exists_placement_of_mem_fields x hx).1
    have hc := flatMap_fields_ofSchema_perm.mem_iff.1 (List.mem_flatMap.2 ⟨x, hx, hf⟩)
    exact ⟨table_mem_of_mem_ofSchema hx, f, field_mem_of_mem_ofSchema hx hf, (List.mem_filter.1 hc).2⟩
  · rintro ⟨hu, f, hf, hc⟩
    have hmem : f ∈ s.computedFields := List.mem_filter.2 ⟨List.mem_flatMap.2 ⟨u, hu, hf⟩, hc⟩
    obtain ⟨x, hx, hfx⟩ := List.mem_flatMap.1 (flatMap_fields_ofSchema_perm.mem_iff.2 hmem)
    have htable := table_mem_of_mem_ofSchema hx
    have hid := (Schema.tableId_of_mem_fields hu hf).symm.trans
      (Schema.tableId_of_mem_fields htable (field_mem_of_mem_ofSchema hx hfx))
    exact List.mem_map.2 ⟨x, hx, (Schema.eq_of_tableId_eq hu htable hid).symm⟩

/-- Where tables stand apart, sections come in the order of tables. -/
theorem pairwise_map_table : ((ofSchema s o .sql).map (·.table)).Pairwise (s.tableNumber · < s.tableNumber ·) := by
  have hle : ((sorted s o true).map (·.table)).Pairwise (s.tableNumber · ≤ s.tableNumber ·) := by
    refine List.pairwise_map.2 (byTable_sorted.sorted.imp_of_mem fun {p q} hp hq h => ?_)
    rwa [Schema.tableNumber_of_mem (mem_placements_of_mem_sorted hp),
      Schema.tableNumber_of_mem (mem_placements_of_mem_sorted hq)]
  have hne : ((ofSchema s o .sql).map (·.table)).Pairwise (·.id ≠ ·.id) :=
    List.pairwise_map.2 (fields_ofPlacements byTable_sorted).1
  have hle : ((ofSchema s o .sql).map (·.table)).Pairwise (s.tableNumber · ≤ s.tableNumber ·) :=
    hle.sublist (map_table_ofPlacements_sublist _)
  refine (hle.and hne).imp_of_mem fun {u v} hu hv h => Nat.lt_of_le_of_ne h.1 fun he => h.2 ?_
  rw [Schema.eq_of_tableNumber_eq (mem_map_table_iff.1 hu).1 (mem_map_table_iff.1 hv).1 he]

/-- Where tables stand apart, there is one section for each table with computed fields. -/
theorem map_table_ofSchema :
    (ofSchema s o .sql).map (·.table) = s.tables.filter fun u => u.fields.any (·.isComputed) := by
  have hl := pairwise_map_table (s := s) (o := o)
  have hr := s.pairwise_tables.filter fun u => u.fields.any (·.isComputed)
  have hn {l : List Table} (h : l.Pairwise (s.tableNumber · < s.tableNumber ·)) : l.Nodup :=
    h.imp fun hlt he => by simp [he] at hlt
  refine List.Perm.eq_of_pairwise (fun u v _ _ h h' => absurd h (Nat.lt_asymm h')) hl hr ?_
  refine (List.perm_ext_iff_of_nodup (hn hl) (hn hr)).2 fun u => ?_
  rw [mem_map_table_iff, List.mem_filter, List.any_eq_true]

/-- The fields of a section are those of its table, in the order of computation. -/
theorem map_id_fields_ofSchema (hx : x ∈ ofSchema s (DependencyGraph.ofSchema s).order .sql) :
    x.fields.map (·.id) =
      ((DependencyGraph.ofSchema s).order.orderedFields ++ (DependencyGraph.ofSchema s).order.blocked).filter
        fun id => (s.tableOf? id).any (·.id == x.table.id) := by
  have hof {p : Placement} (hp : p ∈ sorted s (DependencyGraph.ofSchema s).order false) :
      (p.table.id == x.table.id) = (s.tableOf? p.field.id).any (·.id == x.table.id) := by
    rw [Schema.tableOf?, Schema.place?_of_mem (mem_placements_of_mem_sorted hp)]
    rfl
  calc x.fields.map (·.id)
    _ = ((sorted s (DependencyGraph.ofSchema s).order true).filter (·.table.id == x.table.id)).map (·.field.id) := by
      rw [(fields_ofPlacements byTable_sorted).2 x hx, List.map_map]
      rfl
    _ = ((sorted s (DependencyGraph.ofSchema s).order false).filter
          fun p => (s.tableOf? p.field.id).any (·.id == x.table.id)).map (·.field.id) := by
      rw [filter_sorted, List.filter_congr fun p hp => hof hp]
    _ = _ := by
      rw [← map_id_byLevel, ← sorted_eq_byLevel, List.filter_map]
      rfl

end Section

/-! ## Modules -/

/-- The sections of a module follow the order of computation. -/
structure FollowsOrder (s : Schema) (o : ComputationOrder) (target : Target) (xs : List Section) : Prop where
  /-- The fields of all sections, one after the other, are the ordered fields and then the blocked ones. -/
  sequence : target ≠ .sql → (xs.flatMap (·.fields)).map (·.id) = o.orderedFields ++ o.blocked
  /-- In SQL there is one section for each table with computed fields, in the order of tables. -/
  tables : target = .sql → xs.map (·.table) = s.tables.filter fun t => t.fields.any (·.isComputed)
  /-- It holds the ordered fields of its table and then the blocked ones. -/
  columns : target = .sql → ∀ x ∈ xs, x.fields.map (·.id) =
    o.orderedFields.filter (fun id => (s.tableOf? id).any (·.id == x.table.id)) ++
      o.blocked.filter fun id => (s.tableOf? id).any (·.id == x.table.id)
  /-- Sections that follow each other are of different tables. -/
  apart : xs.IsChain (·.table.id ≠ ·.table.id)
  /-- A section holds fields of its table, and at least one. -/
  own : ∀ x ∈ xs, x.table ∈ s.tables ∧ x.fields ≠ [] ∧ ∀ f ∈ x.fields, f ∈ x.table.fields
  /-- Every computed field is in one section, once. -/
  once : (xs.flatMap (·.fields)).Perm s.computedFields ∧ ((xs.flatMap (·.fields)).map (·.id)).Nodup

open Section

/-- For every schema and target, the sections follow the order of computation, and the getters of a module are those of
its sections. -/
theorem followsOrder_ofSchema (s : Schema) :
    (∀ t, FollowsOrder s (DependencyGraph.ofSchema s).order t
      (Section.ofSchema s (DependencyGraph.ofSchema s).order t)) ∧
    ∀ options, (generateModule s options).getters.map (·.getter.fieldId) =
      ((Section.ofSchema s (DependencyGraph.ofSchema s).order options.target).flatMap (·.fields)).map (·.id) := by
  refine ⟨fun t => ?_, fun options => map_fieldId_getters⟩
  exact {
    sequence := fun ht => by
      rw [Section.ofSchema, flatMap_fields_ofPlacements, Target.groupsByTable_eq_false ht, sorted_eq_byLevel,
        List.map_map, ← map_id_byLevel]
      rfl
    tables := fun ht => ht ▸ map_table_ofSchema
    columns := fun ht x hx => by
      rw [← List.filter_append]
      exact map_id_fields_ofSchema (ht ▸ hx)
    apart := isChain_ofPlacements _
    own := fun x hx => ⟨table_mem_of_mem_ofSchema hx, (exists_placement_of_mem_fields x hx).1,
      fun f hf => field_mem_of_mem_ofSchema hx hf⟩
    once := ⟨flatMap_fields_ofSchema_perm,
      (flatMap_fields_ofSchema_perm.map _).nodup_iff.2 s.nodup_computedFieldIds⟩ }

end ComputedFields
