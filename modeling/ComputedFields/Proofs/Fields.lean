import ComputedFields.Proofs.Declarations
import Mathlib.Data.List.Induction

/-!
# Fields of a schema

- `Schema.fault?_map`: whether tables are a schema is seen from the ids of their fields, not from the rest of them;
- `Schema.nodup_fieldIds`, `Schema.nodup_tableIds`: every field and every table has an id of its own;
- `Schema.exists_computed_iff`: so an id tells whether a field is computed;
- `Schema.field?_eq_some_iff`: look-up by id finds exactly the fields of the schema;
- `eraseDups_concat`: of the mentions of an element the first one counts.
-/

namespace ComputedFields

/-- Look-up by a key that every element has for itself finds the element with the key. -/
theorem find?_eq_some_iff_of_nodup {α : Type} {key : α → String} {l : List α} (hn : (l.map key).Nodup) {k : String}
    {x : α} : l.find? (key · == k) = some x ↔ x ∈ l ∧ key x = k := by
  constructor
  · intro h
    exact ⟨List.mem_of_find?_eq_some h, by simpa using List.find?_some h⟩
  · rintro ⟨hx, rfl⟩
    cases hy : l.find? (key · == key x) with
    | none => simpa using List.find?_eq_none.1 hy x hx
    | some y =>
      have he : key y = key x := by simpa using List.find?_some hy
      rw [List.inj_on_of_nodup_map hn (List.mem_of_find?_eq_some hy) hx he]

/-- Without its duplicates a list has every element once. -/
theorem nodup_eraseDups {α : Type} [BEq α] [LawfulBEq α] (l : List α) : l.eraseDups.Nodup := by
  induction hn : l.length using Nat.strongRecOn generalizing l with
  | ind n ih =>
    cases l with
    | nil => exact List.nodup_nil
    | cons a l =>
      have hle := List.length_filter_le (fun b => !b == a) l
      have hlt : (l.filter fun b => !b == a).length < n := by
        rw [List.length_cons] at hn
        omega
      rw [List.eraseDups_cons]
      exact List.nodup_cons.2 ⟨by simp [List.mem_eraseDups], ih _ hlt _ rfl⟩

/-- The first mention of an element counts. -/
theorem eraseDups_concat {α : Type} [BEq α] [LawfulBEq α] (l : List α) (a : α) :
    (l ++ [a]).eraseDups = if a ∈ l then l.eraseDups else l.eraseDups ++ [a] := by
  rw [List.eraseDups_append]
  split
  · next h => simp [List.removeAll, h]
  · next h => simp [List.removeAll, h, List.eraseDups_cons]

theorem eraseDups_filter {α : Type} [BEq α] [LawfulBEq α] (p : α → Bool) (l : List α) :
    (l.filter p).eraseDups = l.eraseDups.filter p := by
  induction l using List.reverseRecOn with
  | nil => rfl
  | append_singleton l a ih =>
    rw [List.filter_append, eraseDups_concat]
    by_cases hp : p a = true
    · rw [List.filter_cons_of_pos hp, List.filter_nil, eraseDups_concat, ih]
      by_cases ha : a ∈ l <;> simp [ha, hp, List.mem_filter]
    · rw [List.filter_cons_of_neg hp, List.filter_nil, List.append_nil, ih]
      by_cases ha : a ∈ l <;> simp [ha, hp]

theorem eraseDups_of_nodup {α : Type} [BEq α] [LawfulBEq α] {l : List α} (h : l.Nodup) : l.eraseDups = l := by
  induction l using List.reverseRecOn with
  | nil => rfl
  | append_singleton l a ih =>
    rw [← List.concat_eq_append, List.nodup_concat] at h
    rw [eraseDups_concat, if_neg h.1, ih h.2]

theorem Field.type_of_formulaText? {f : Field} {t : String} (h : f.formulaText? = some t) : f.type = .formula := by
  unfold formulaText? at h
  split at h
  · assumption
  · cases h

namespace Schema

/-! ## Ids -/

section

variable (g : Field → Field) (hid : ∀ f, (g f).id = f.id) (hname : ∀ f, (g f).name = f.name)
include hid hname

theorem fieldFault?_map (t : Table) (fields : List Field) (seen : List String) (fs : List Field) :
    fieldFault? { t with fields := fields } seen (fs.map g) = fieldFault? t seen fs := by
  induction fs generalizing seen with
  | nil => rfl
  | cons f fs ih => rw [List.map_cons, fieldFault?, fieldFault?, ih, hid, hname]

theorem faultAfter?_map (ids fields : List String) (ts : List Table) :
    faultAfter? ids fields (ts.map fun t => { t with fields := t.fields.map g }) = faultAfter? ids fields ts := by
  induction ts generalizing ids fields with
  | nil => rfl
  | cons t ts ih =>
    have hids : (t.fields.map g).map (·.id) = t.fields.map (·.id) := by simp [Function.comp_def, hid]
    rw [List.map_cons, faultAfter?, faultAfter?, ih, hids, fieldFault?_map g hid hname]

/-- Fields may be changed in all but their ids and names. -/
theorem fault?_map (ts : List Table) : fault? (ts.map fun t => { t with fields := t.fields.map g }) = fault? ts :=
  faultAfter?_map g hid hname [] [] ts

end

theorem map_id_fields (s : Schema) : s.fields.map (·.id) = (s.declared.flatMap (·.fields)).map (·.id) := by
  simp [fields, tables, List.flatMap_map, List.map_flatMap, Table.owned, Function.comp_def]

/-- Every field has an id of its own. -/
theorem nodup_fieldIds (s : Schema) : (s.fields.map (·.id)).Nodup := by
  rw [map_id_fields]
  exact (fault?_eq_none_iff.1 s.sound).2.2

/-- Every table has an id of its own. -/
theorem nodup_tableIds (s : Schema) : (s.tables.map (·.id)).Nodup := by
  rw [tables, List.map_map]
  exact (fault?_eq_none_iff.1 s.sound).1.2

theorem nodup_computedFieldIds (s : Schema) : (s.computedFields.map (·.id)).Nodup :=
  s.nodup_fieldIds.sublist (List.filter_sublist.map _)

theorem eq_of_id_eq {s : Schema} {f g : Field} (hf : f ∈ s.fields) (hg : g ∈ s.fields) (h : f.id = g.id) : f = g :=
  List.inj_on_of_nodup_map s.nodup_fieldIds hf hg h

theorem eq_of_tableId_eq {s : Schema} {t u : Table} (ht : t ∈ s.tables) (hu : u ∈ s.tables) (h : t.id = u.id) : t = u :=
  List.inj_on_of_nodup_map s.nodup_tableIds ht hu h

theorem exists_computed_iff {s : Schema} {f : Field} (hf : f ∈ s.fields) :
    (∃ g ∈ s.computedFields, g.id = f.id) ↔ f.isComputed = true := by
  constructor
  · rintro ⟨g, hg, he⟩
    obtain ⟨hm, hc⟩ := List.mem_filter.1 hg
    rwa [eq_of_id_eq hm hf he] at hc
  · exact fun hc => ⟨f, List.mem_filter.2 ⟨hf, hc⟩, rfl⟩

/-- Every field knows its table. -/
theorem tableId_of_mem_fields {s : Schema} {t : Table} {f : Field} (ht : t ∈ s.tables) (hf : f ∈ t.fields) :
    f.tableId = t.id := by
  obtain ⟨u, -, rfl⟩ := List.mem_map.1 ht
  obtain ⟨g, -, rfl⟩ := List.mem_map.1 hf
  rfl

/-! ## Look-up -/

theorem map_field_placements (s : Schema) : s.placements.map (·.field) = s.fields := by
  have ht (i : Nat) (t : Table) : (placementsIn i t).map (·.field) = t.fields :=
    List.ext_getElem (by simp [placementsIn]) (by simp [placementsIn])
  have hs : (s.tables.mapIdx placementsIn).map (List.map (·.field)) = s.tables.map (·.fields) :=
    List.ext_getElem (by simp) (by simp [ht])
  rw [placements, List.map_flatten, hs, fields, List.flatMap_def]

theorem table_mem_of_mem_placements {s : Schema} {p : Placement} (h : p ∈ s.placements) : p.table ∈ s.tables := by
  obtain ⟨ps, hps, hp⟩ := List.mem_flatten.1 h
  obtain ⟨i, hi, rfl⟩ := List.mem_mapIdx.1 hps
  obtain ⟨j, hj, rfl⟩ := List.mem_mapIdx.1 hp
  exact List.getElem_mem hi

theorem mem_tables_of_tableOf? {s : Schema} {id : String} {t : Table} (h : s.tableOf? id = some t) : t ∈ s.tables := by
  obtain ⟨p, hp, rfl⟩ := Option.map_eq_some_iff.1 h
  exact table_mem_of_mem_placements (List.mem_of_find?_eq_some hp)

theorem mem_tables_of_linkedTable? {s : Schema} {id : String} {t : Table} (h : s.linkedTable? id = some t) :
    t ∈ s.tables := by
  obtain ⟨f, -, h⟩ := Option.bind_eq_some_iff.1 h
  obtain ⟨tableId, -, h⟩ := Option.bind_eq_some_iff.1 h
  exact List.mem_of_find?_eq_some h

theorem field?_eq_find? (s : Schema) (id : String) : s.field? id = s.fields.find? (·.id == id) := by
  rw [← map_field_placements, List.find?_map]
  rfl

theorem field?_eq_some_iff {s : Schema} {id : String} {f : Field} :
    s.field? id = some f ↔ f ∈ s.fields ∧ f.id = id := by
  rw [field?_eq_find?]
  exact find?_eq_some_iff_of_nodup s.nodup_fieldIds

theorem field?_of_mem {s : Schema} {f : Field} (h : f ∈ s.fields) : s.field? f.id = some f :=
  field?_eq_some_iff.2 ⟨h, rfl⟩

theorem isSome_field?_iff {s : Schema} {id : String} : (s.field? id).isSome = true ↔ ∃ f ∈ s.fields, f.id = id := by
  simp only [Option.isSome_iff_exists, field?_eq_some_iff]

end Schema

end ComputedFields
