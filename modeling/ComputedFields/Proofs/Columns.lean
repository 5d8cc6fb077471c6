import ComputedFields.Proofs.Places
import ComputedFields.Proofs.Sequence

/-!
# Columns of views

In SQL all computed fields of a table are columns of one view, sorted by depth. Columns do not see each other, so a
column that refers to another one has its code inlined if that comes first.

- `Section.fields_ofPlacements`: where placements are sorted by table, there is one section for each table;
- `ModuleContext.inlinedBy`, `lookup_inlinedBy`: the code that can be inlined after some columns is that of their
  expressions, and of no column of another view (`Section.notMem_before`);
- `generate_mem_getters`: the column of a field is generated with the code of the columns before it;
- `GeneratedModule.filter_fieldId`, `GeneratedModule.diagnosticsFor_eq`: a field has one getter, in every target, and
  its diagnostics are the problems of that getter.
-/

namespace ComputedFields

/-! ## One section for each table -/

namespace Section

theorem eq_nil_of_ofPlacements {ps : List Placement} (h : ofPlacements ps = []) : ps = [] := by
  have hf := flatMap_fields_ofPlacements ps
  rw [h] at hf
  exact List.map_eq_nil_iff.1 hf.symm

/-- The first section is of the table of the first placement. -/
theorem head_ofPlacements {p : Placement} {ps : List Placement} {x : Section} {xs : List Section}
    (h : ofPlacements (p :: ps) = x :: xs) : x.table = p.table := by
  rw [ofPlacements, List.foldr_cons, ← ofPlacements] at h
  unfold prepend at h
  split at h
  · cases h
    rfl
  · split at h <;> cases h <;> rfl

/-- Placements are sorted by the numbers of their tables, which stand for the ids of the tables. -/
structure ByTable (ps : List Placement) : Prop where
  sorted : ps.Pairwise (·.tableIndex ≤ ·.tableIndex)
  index_iff : ∀ p ∈ ps, ∀ q ∈ ps, p.tableIndex = q.tableIndex ↔ p.table.id = q.table.id

theorem ByTable.tail {p : Placement} {ps : List Placement} (h : ByTable (p :: ps)) : ByTable ps :=
  ⟨(List.pairwise_cons.1 h.sorted).2,
    fun q hq r hr => h.index_iff q (List.mem_cons_of_mem _ hq) r (List.mem_cons_of_mem _ hr)⟩

/-- A table that is not the next one does not come again. -/
theorem ByTable.ne_of_ne_head {p q : Placement} {ps : List Placement} (h : ByTable (p :: q :: ps))
    (hq : q.table.id ≠ p.table.id) : ∀ r ∈ q :: ps, r.table.id ≠ p.table.id := by
  intro r hr he
  have hpr := (h.index_iff r (List.mem_cons_of_mem _ hr) p List.mem_cons_self).2 he
  have hpq : p.tableIndex ≤ q.tableIndex := (List.pairwise_cons.1 h.sorted).1 q List.mem_cons_self
  have hqr : q.tableIndex ≤ r.tableIndex := by
    obtain rfl | hr := List.mem_cons.1 hr
    · exact Nat.le_refl _
    · exact (List.pairwise_cons.1 h.tail.sorted).1 r hr
  exact hq ((h.index_iff q (by simp) p List.mem_cons_self).1 (by omega))

/-- Sections are of different tables, and each holds all fields of its table. -/
theorem fields_ofPlacements {ps : List Placement} (h : ByTable ps) :
    (ofPlacements ps).Pairwise (·.table.id ≠ ·.table.id) ∧
      ∀ x ∈ ofPlacements ps, x.fields = (ps.filter (·.table.id == x.table.id)).map (·.field) := by
  induction ps with
  | nil => exact ⟨.nil, nofun⟩
  | cons p ps ih =>
    obtain ⟨hne, hfields⟩ := ih h.tail
    rw [ofPlacements, List.foldr_cons, ← ofPlacements]
    cases hps : ofPlacements ps with
    | nil =>
      rw [eq_nil_of_ofPlacements hps]
      simp [prepend]
    | cons y ys =>
      rw [hps] at hne hfields
      have other {z : Section} (hz : p.table.id ≠ z.table.id) (hf : z ∈ y :: ys) :
          z.fields = ((p :: ps).filter (·.table.id == z.table.id)).map (·.field) := by
        rw [List.filter_cons_of_neg (by simpa using hz)]
        exact hfields z hf
      rw [prepend]
      split
      next he =>
        -- The field joins the first section.
        obtain ⟨hy, hys⟩ := List.pairwise_cons.1 hne
        rw [he] at hy
        refine ⟨List.pairwise_cons.2 ⟨hy, hys⟩, List.forall_mem_cons.2 ⟨?_, fun z hz => ?_⟩⟩
        · rw [List.filter_cons_of_pos (by simp), List.map_cons, hfields y List.mem_cons_self, he]
        · exact other (hy z hz) (List.mem_cons_of_mem _ hz)
      next he =>
        -- The field begins a section, and no later field is of its table.
        have hno : ∀ r ∈ ps, r.table.id ≠ p.table.id := by
          cases ps with
          | nil => cases hps
          | cons q ps => exact h.ne_of_ne_head (head_ofPlacements hps ▸ he)
        have hnew : ∀ z ∈ y :: ys, p.table.id ≠ z.table.id := fun z hz => by
          obtain ⟨r, hr, ht⟩ := exists_placement_of_mem (hps ▸ hz)
          exact ht ▸ (hno r hr).symm
        refine ⟨List.pairwise_cons.2 ⟨hnew, hne⟩, List.forall_mem_cons.2 ⟨?_, fun z hz => other (hnew z hz) hz⟩⟩
        have hnone : ps.filter (·.table.id == p.table.id) = [] :=
          List.filter_eq_nil_iff.2 fun r hr => by simpa using hno r hr
        rw [List.filter_cons_of_pos (by simp), hnone]
        rfl

/-! ## Columns of a table -/

variable {s : Schema} {o : ComputationOrder}

theorem mem_placements_of_mem_sorted {grouped : Bool} {p : Placement} (h : p ∈ sorted s o grouped) :
    p ∈ s.placements := (List.mem_filter.1 ((List.mergeSort_perm _ _).mem_iff.1 h)).1

theorem byTable_sorted : ByTable (sorted s o true) where
  sorted := by
    have hs : (sorted s o true).Pairwise _ := pairwise_sorted
    refine hs.imp fun h => ?_
    simp only [sortKey, if_true, keyLe, Bool.or_eq_true, Bool.and_eq_true, decide_eq_true_eq, beq_iff_eq] at h
    omega
  index_iff p hp q hq :=
    Schema.tableIndex_eq_iff (mem_placements_of_mem_sorted hp) (mem_placements_of_mem_sorted hq)

/-- The computed fields of a table, sorted by depth. -/
def columns (s : Schema) (o : ComputationOrder) (tableId : String) : List Field :=
  ((sorted s o true).map (·.field)).filter (·.tableId == tableId)

theorem fields_ofSchema {x : Section} (h : x ∈ ofSchema s o .sql) : x.fields = columns s o x.table.id := by
  rw [(fields_ofPlacements byTable_sorted).2 x h, columns, List.filter_map]
  refine congrArg _ (List.filter_congr fun p hp => ?_)
  rw [Function.comp_apply, Schema.tableId_of_mem_placements (mem_placements_of_mem_sorted hp)]

theorem mem_columns_iff {f : Field} {tableId : String} :
    f ∈ columns s o tableId ↔ f ∈ s.computedFields ∧ f.tableId = tableId := by
  rw [columns, List.mem_filter, map_field_sorted_perm.mem_iff, beq_iff_eq]

theorem nodup_columns {tableId : String} : ((columns s o tableId).map (·.id)).Nodup := by
  have hn : (((sorted s o true).map (·.field)).map (·.id)).Nodup :=
    ((map_field_sorted_perm.map _).nodup_iff).2 s.nodup_computedFieldIds
  exact hn.sublist (List.filter_sublist.map _)

theorem pairwise_columns {tableId : String} : (columns s o tableId).Pairwise fun f h =>
    ∀ d e, o.depth? f.id = some d → o.depth? h.id = some e → d ≤ e := by
  rw [columns, List.filter_map, List.pairwise_map]
  have hs : (sorted s o true).Pairwise _ := pairwise_sorted
  refine (hs.filter _).imp_of_mem fun {p q} hp hq hle d e hd he => ?_
  obtain ⟨hp, hpt⟩ := List.mem_filter.1 hp
  obtain ⟨hq, hqt⟩ := List.mem_filter.1 hq
  have hp := mem_placements_of_mem_sorted hp
  have hq := mem_placements_of_mem_sorted hq
  simp only [Function.comp_apply, beq_iff_eq, Schema.tableId_of_mem_placements hp,
    Schema.tableId_of_mem_placements hq] at hpt hqt
  have hi := (Schema.tableIndex_eq_iff hp hq).2 (hpt.trans hqt.symm)
  simp only [sortKey, hi, hd, he, Option.isSome_some, Option.getD_some, if_true, keyLe, Bool.or_eq_true,
    Bool.and_eq_true, decide_eq_true_eq, beq_iff_eq] at hle
  omega

/-- A column of lower depth comes first. -/
theorem mem_before_of_depth?_lt {tableId : String} {f h : Field} {pre post : List Field} {d e : Nat}
    (hc : columns s o tableId = pre ++ f :: post) (hm : h ∈ columns s o tableId) (hd : o.depth? h.id = some d)
    (he : o.depth? f.id = some e) (hlt : d < e) : h ∈ pre := by
  have hs : (columns s o tableId).Pairwise _ := pairwise_columns
  rw [hc] at hm hs
  have hs := (List.pairwise_append.1 hs).2.1
  obtain hm | hm := List.mem_append.1 hm
  · exact hm
  · obtain rfl | hm := List.mem_cons.1 hm
    · rw [hd] at he
      cases he
      exact absurd hlt (Nat.lt_irrefl d)
    · have hle := (List.pairwise_cons.1 hs).1 h hm e d he hd
      omega

/-- No column of another view comes first. -/
theorem notMem_before {tableId : String} {f h : Field} {pre post : List Field} (hm : h ∈ s.fields)
    (hne : h.tableId ≠ tableId) (hc : columns s o tableId = pre ++ f :: post) : h.id ∉ pre.map (·.id) := by
  intro hid
  obtain ⟨u, hu, he⟩ := List.mem_map.1 hid
  obtain ⟨hus, hut⟩ := mem_columns_iff.1 (hc ▸ List.mem_append_left _ hu)
  exact hne (Schema.eq_of_id_eq (List.mem_filter.1 hus).1 hm he ▸ hut)

end Section

/-! ## Inlined code -/

/-- The code of a column as part of others. -/
def GetterBody.inlined? : GetterBody → Option String
  | expression code => some ("(" ++ code ++ ")")
  | _ => none

namespace ModuleContext

variable (ctx : ModuleContext)

/-- The code that can be inlined after the getters of some fields. -/
def inlinedBy (inlined : List (String × String)) : List Field → List (String × String)
  | [] => inlined
  | f :: fs => inlinedBy (inlineAfter inlined (ctx.generate inlined f).getter) fs

theorem generateAll_append (inlined : List (String × String)) (fs fs' : List Field) :
    ctx.generateAll inlined (fs ++ fs') =
      ctx.generateAll inlined fs ++ ctx.generateAll (ctx.inlinedBy inlined fs) fs' := by
  induction fs generalizing inlined with
  | nil => rfl
  | cons f fs ih =>
    rw [List.cons_append, generateAll, ih]
    rfl

theorem inlinedBy_append (inlined : List (String × String)) (fs fs' : List Field) :
    ctx.inlinedBy inlined (fs ++ fs') = ctx.inlinedBy (ctx.inlinedBy inlined fs) fs' := by
  induction fs generalizing inlined with
  | nil => rfl
  | cons f fs ih => exact ih _

theorem map_fieldId_generateAll (inlined : List (String × String)) (fs : List Field) :
    (ctx.generateAll inlined fs).map (·.getter.fieldId) = fs.map (·.id) := by
  induction fs generalizing inlined with
  | nil => rfl
  | cons f fs ih =>
    rw [generateAll, List.map_cons, ih]
    rfl

theorem exists_of_mem_generateAll {ctx : ModuleContext} {inlined : List (String × String)} {fs : List Field}
    {g : GeneratedGetter} (h : g ∈ ctx.generateAll inlined fs) : ∃ inlined', ∃ f ∈ fs, g = ctx.generate inlined' f := by
  induction fs generalizing inlined with
  | nil => cases h
  | cons f fs ih =>
    rw [generateAll] at h
    rcases List.mem_cons.1 h with rfl | h
    · exact ⟨inlined, f, List.mem_cons_self, rfl⟩
    · obtain ⟨inlined', f', hf', rfl⟩ := ih h
      exact ⟨inlined', f', List.mem_cons_of_mem _ hf', rfl⟩

theorem lookup_inlineAfter (inlined : List (String × String)) (g : Getter) (id : String) :
    (inlineAfter inlined g).lookup id =
      if id = g.fieldId then g.body.inlined?.or (inlined.lookup id) else inlined.lookup id := by
  unfold inlineAfter
  split
  next code hb =>
    rw [List.lookup_cons, hb]
    by_cases he : id = g.fieldId
    · simp [he, GetterBody.inlined?]
    · rw [beq_eq_false_iff_ne.2 he, if_neg he]
  next hb =>
    have hn : g.body.inlined? = none := by
      cases hg : g.body with
      | expression code => exact absurd hg (hb code)
      | _ => rfl
    simp [hn]

theorem lookup_inlinedBy_of_not_mem {inlined : List (String × String)} {fs : List Field} {id : String}
    (h : id ∉ fs.map (·.id)) : (ctx.inlinedBy inlined fs).lookup id = inlined.lookup id := by
  induction fs generalizing inlined with
  | nil => rfl
  | cons f fs ih =>
    rw [List.map_cons, List.mem_cons, not_or] at h
    rw [inlinedBy, ih h.2, lookup_inlineAfter]
    exact if_neg h.1

/-- After a column its expression can be inlined. -/
theorem lookup_inlinedBy {pre post : List Field} {f : Field} (h : ((pre ++ f :: post).map (·.id)).Nodup) :
    (ctx.inlinedBy [] (pre ++ f :: post)).lookup f.id = (ctx.draft (ctx.inlinedBy [] pre) f).body.inlined? := by
  rw [List.map_append, List.map_cons] at h
  have hpre : f.id ∉ pre.map (·.id) := fun hm =>
    (List.nodup_append'.1 h).2.2 hm List.mem_cons_self
  have hpost : f.id ∉ post.map (·.id) := (List.nodup_cons.1 (List.nodup_append'.1 h).2.1).1
  rw [inlinedBy_append, inlinedBy, lookup_inlinedBy_of_not_mem ctx hpost, lookup_inlineAfter]
  simp [generate, lookup_inlinedBy_of_not_mem ctx hpre]

/-- The code of a column for the columns after it, which is generated with the code of those before it. -/
theorem exists_lookup_inlinedBy {s : Schema} {o : ComputationOrder} {f h : Field} {pre post : List Field}
    (hc : Section.columns s o f.tableId = pre ++ f :: post) (hm : h ∈ pre) :
    ∃ before after, Section.columns s o h.tableId = before ++ h :: after ∧
      (ctx.inlinedBy [] pre).lookup h.id = (ctx.draft (ctx.inlinedBy [] before) h).body.inlined? := by
  have htable : h.tableId = f.tableId := (Section.mem_columns_iff.1 (hc ▸ List.mem_append_left _ hm)).2
  have hn : ((Section.columns s o f.tableId).map (·.id)).Nodup := Section.nodup_columns
  obtain ⟨before, after, rfl⟩ := List.append_of_mem hm
  rw [hc, List.map_append] at hn
  refine ⟨before, after ++ f :: post, ?_, ctx.lookup_inlinedBy (List.nodup_append'.1 hn).1⟩
  rw [htable, hc, List.append_assoc, List.cons_append]

end ModuleContext

/-! ## Getters of a module -/

section Getters

variable {s : Schema} {options : GeneratorOptions}

theorem getters_eq_flatMap : (generateModule s options).getters =
    (Section.ofSchema s (DependencyGraph.ofSchema s).order options.target).flatMap fun x =>
      (ModuleContext.ofSchema s options).generateAll [] x.fields := by
  rw [GeneratedModule.getters]
  exact List.flatMap_map _ _ _

theorem map_fieldId_getters : (generateModule s options).getters.map (·.getter.fieldId) =
    ((Section.ofSchema s (DependencyGraph.ofSchema s).order options.target).flatMap (·.fields)).map (·.id) := by
  rw [getters_eq_flatMap, List.map_flatMap, List.map_flatMap]
  simp only [ModuleContext.map_fieldId_generateAll]

theorem map_fieldId_getters_perm :
    ((generateModule s options).getters.map (·.getter.fieldId)).Perm (s.computedFields.map (·.id)) := by
  rw [map_fieldId_getters, Section.ofSchema, Section.flatMap_fields_ofPlacements]
  exact Section.map_field_sorted_perm.map _

theorem nodup_getters : ((generateModule s options).getters.map (·.getter.fieldId)).Nodup :=
  map_fieldId_getters_perm.nodup_iff.2 s.nodup_computedFieldIds

/-- A column is generated with the code of the columns before it. -/
theorem generate_mem_getters (ht : options.target = .sql) {f : Field} {pre post : List Field}
    (h : Section.columns s (DependencyGraph.ofSchema s).order f.tableId = pre ++ f :: post) :
    (ModuleContext.ofSchema s options).generate ((ModuleContext.ofSchema s options).inlinedBy [] pre) f ∈
      (generateModule s options).getters := by
  have hf : f ∈ Section.columns s (DependencyGraph.ofSchema s).order f.tableId := by simp [h]
  have hf := (List.mem_filter.1 hf).1
  rw [← Section.flatMap_fields_ofPlacements] at hf
  obtain ⟨x, hx, hf⟩ := List.mem_flatMap.1 hf
  have hfields := Section.fields_ofSchema hx
  have htable : f.tableId = x.table.id := by
    rw [hfields] at hf
    exact (Section.mem_columns_iff.1 hf).2
  rw [getters_eq_flatMap, ht]
  refine List.mem_flatMap.2 ⟨x, hx, ?_⟩
  rw [hfields, ← htable, h, ModuleContext.generateAll_append]
  exact List.mem_append_right _ List.mem_cons_self

end Getters

namespace GeneratedModule

/-- The diagnostics of a field are the problems of its getters. -/
theorem diagnosticsFor_eq (m : GeneratedModule) (id : String) : m.diagnosticsFor id =
    (m.getters.filter (·.getter.fieldId == id)).flatMap fun g =>
      g.problems.map fun p => ⟨g.getter.fieldId, g.getter.fieldName, p⟩ := by
  rw [diagnosticsFor, diagnostics]
  induction m.getters with
  | nil => rfl
  | cons g gs ih =>
    rw [List.flatMap_cons, List.filter_append, ih]
    by_cases he : g.getter.fieldId = id
    · rw [List.filter_cons_of_pos (by simpa using he), List.flatMap_cons]
      congr 1
      exact List.filter_eq_self.2 (List.forall_mem_map.2 fun p _ => by simpa using he)
    · rw [List.filter_cons_of_neg (by simpa using he)]
      refine (List.append_left_eq_self).2 ?_
      exact List.filter_eq_nil_iff.2 (List.forall_mem_map.2 fun p _ => by simpa using he)

/-- Where fields have one getter each, it is found by the id of the field. -/
theorem filter_fieldId {gs : List GeneratedGetter} (h : (gs.map (·.getter.fieldId)).Nodup) {x : GeneratedGetter}
    (hx : x ∈ gs) : gs.filter (·.getter.fieldId == x.getter.fieldId) = [x] := by
  induction gs with
  | nil => cases hx
  | cons y gs ih =>
    rw [List.map_cons, List.nodup_cons] at h
    obtain rfl | hx := List.mem_cons.1 hx
    · rw [List.filter_cons_of_pos (by simp), List.filter_eq_nil_iff.2 fun z hz he => ?_]
      exact h.1 (eq_of_beq he ▸ List.mem_map_of_mem hz)
    · rw [List.filter_cons_of_neg ?_, ih h.2 hx]
      intro he
      exact h.1 (eq_of_beq he ▸ List.mem_map_of_mem hx)

end GeneratedModule

end ComputedFields
