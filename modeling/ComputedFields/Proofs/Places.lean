import ComputedFields.Proofs.Fields
import Mathlib.Data.Set.Card

/-!
# Places of fields

A schema is looked up by id. What is found is described by the tables and fields alone:

- `Schema.mem_placements_iff`: the places of a schema are the numbers of its fields, and they come in increasing order
  (`Schema.pairwise_placements`);
- `Schema.place?_eq_some_iff`, `Schema.table?_eq_some_iff`: look-up finds the one field, or table, with an id;
- `Schema.indexes_ofTables`: so a document is a schema in which look-up is exact, or has a first fault.
-/

namespace ComputedFields

namespace Schema

variable {s : Schema} {p q : Placement} {id : String}

/-! ## Places -/

/-- A place says where a field is found. -/
theorem mem_placements_iff : p ∈ s.placements ↔
    s.tables[p.tableIndex]? = some p.table ∧ p.table.fields[p.fieldIndex]? = some p.field := by
  rw [placements, List.mem_flatten]
  constructor
  · rintro ⟨ps, hps, hp⟩
    obtain ⟨i, hi, rfl⟩ := List.mem_mapIdx.1 hps
    obtain ⟨j, hj, rfl⟩ := List.mem_mapIdx.1 hp
    exact ⟨List.getElem?_eq_getElem hi, List.getElem?_eq_getElem hj⟩
  · rintro ⟨ht, hf⟩
    obtain ⟨hi, ht⟩ := List.getElem?_eq_some_iff.1 ht
    obtain ⟨hj, hf⟩ := List.getElem?_eq_some_iff.1 hf
    refine ⟨_, List.mem_mapIdx.2 ⟨p.tableIndex, hi, rfl⟩, List.mem_mapIdx.2 ⟨p.fieldIndex, by rwa [ht], ?_⟩⟩
    simp only [ht, hf]

theorem getElem?_tableIndex (h : p ∈ s.placements) : s.tables[p.tableIndex]? = some p.table :=
  (mem_placements_iff.1 h).1

theorem field_mem_of_mem_placements (h : p ∈ s.placements) : p.field ∈ p.table.fields :=
  List.mem_of_getElem? (mem_placements_iff.1 h).2

theorem tableId_of_mem_placements (h : p ∈ s.placements) : p.field.tableId = p.table.id :=
  tableId_of_mem_fields (table_mem_of_mem_placements h) (field_mem_of_mem_placements h)

/-- A place is known by its numbers. -/
theorem eq_of_index_eq (hp : p ∈ s.placements) (hq : q ∈ s.placements) (ht : p.tableIndex = q.tableIndex)
    (hf : p.fieldIndex = q.fieldIndex) : p = q := by
  obtain ⟨hpt, hpf⟩ := mem_placements_iff.1 hp
  obtain ⟨hqt, hqf⟩ := mem_placements_iff.1 hq
  have htable : p.table = q.table := Option.some.inj (hpt.symm.trans (ht ▸ hqt))
  have hfield : p.field = q.field := Option.some.inj (hpf.symm.trans (htable ▸ hf ▸ hqf))
  cases p
  cases q
  simp_all

theorem tableIndex_eq_iff (hp : p ∈ s.placements) (hq : q ∈ s.placements) :
    p.tableIndex = q.tableIndex ↔ p.table.id = q.table.id := by
  have hp := getElem?_tableIndex hp
  have hq := getElem?_tableIndex hq
  constructor
  · intro h
    rw [h, hq] at hp
    rw [Option.some.inj hp]
  · intro h
    obtain ⟨hi, -⟩ := List.getElem?_eq_some_iff.1 hp
    refine (List.getElem?_inj (by rwa [List.length_map]) s.nodup_tableIds).1 ?_
    rw [List.getElem?_map, List.getElem?_map, hp, hq, Option.map_some, Option.map_some, h]

/-- Places come in declaration order. -/
theorem pairwise_placements (s : Schema) : s.placements.Pairwise fun p q =>
    p.tableIndex < q.tableIndex ∨ p.tableIndex = q.tableIndex ∧ p.fieldIndex < q.fieldIndex := by
  refine List.pairwise_flatten.2 ⟨?_, ?_⟩
  · intro ps hps
    obtain ⟨i, hi, rfl⟩ := List.mem_mapIdx.1 hps
    refine List.pairwise_iff_getElem.2 fun j k hj hk hlt => ?_
    simp [placementsIn, hlt]
  · refine List.pairwise_iff_getElem.2 fun i j hi hj hlt p hp q hq => ?_
    rw [List.getElem_mapIdx] at hp hq
    obtain ⟨k, hk, rfl⟩ := List.mem_mapIdx.1 hp
    obtain ⟨l, hl, rfl⟩ := List.mem_mapIdx.1 hq
    exact .inl hlt

theorem nodup_placementIds (s : Schema) : (s.placements.map (·.field.id)).Nodup := by
  have h := s.nodup_fieldIds
  rw [← map_field_placements, List.map_map] at h
  exact h

/-! ## Look-up -/

theorem place?_eq_some_iff : s.place? id = some p ↔ p ∈ s.placements ∧ p.field.id = id :=
  find?_eq_some_iff_of_nodup s.nodup_placementIds

theorem place?_of_mem (h : p ∈ s.placements) : s.place? p.field.id = some p := place?_eq_some_iff.2 ⟨h, rfl⟩

theorem place?_eq_none_iff : s.place? id = none ↔ id ∉ s.fields.map (·.id) := by
  rw [place?, List.find?_eq_none, ← map_field_placements, List.map_map]
  simp

theorem tableOf?_eq_some_iff {t : Table} : s.tableOf? id = some t ↔ t ∈ s.tables ∧ ∃ f ∈ t.fields, f.id = id := by
  rw [tableOf?, Option.map_eq_some_iff]
  constructor
  · rintro ⟨p, h, rfl⟩
    obtain ⟨hp, rfl⟩ := place?_eq_some_iff.1 h
    exact ⟨table_mem_of_mem_placements hp, p.field, field_mem_of_mem_placements hp, rfl⟩
  · rintro ⟨ht, f, hf, rfl⟩
    obtain ⟨i, hi⟩ := List.mem_iff_getElem?.1 ht
    obtain ⟨j, hj⟩ := List.mem_iff_getElem?.1 hf
    have hp : (⟨i, j, t, f⟩ : Placement) ∈ s.placements := mem_placements_iff.2 ⟨hi, hj⟩
    exact ⟨_, place?_of_mem hp, rfl⟩

theorem position?_eq_some_iff {i j : Nat} : s.position? id = some (i, j) ↔
    ∃ t f, s.tables[i]? = some t ∧ t.fields[j]? = some f ∧ f.id = id := by
  rw [position?, Option.map_eq_some_iff]
  constructor
  · rintro ⟨p, h, he⟩
    obtain ⟨rfl, rfl⟩ := Prod.mk.inj he
    obtain ⟨hp, rfl⟩ := place?_eq_some_iff.1 h
    obtain ⟨ht, hf⟩ := mem_placements_iff.1 hp
    exact ⟨p.table, p.field, ht, hf, rfl⟩
  · rintro ⟨t, f, ht, hf, rfl⟩
    have hp : (⟨i, j, t, f⟩ : Placement) ∈ s.placements := mem_placements_iff.2 ⟨ht, hf⟩
    exact ⟨_, place?_of_mem hp, rfl⟩

theorem table?_eq_some_iff {t : Table} : s.table? id = some t ↔ t ∈ s.tables ∧ t.id = id :=
  find?_eq_some_iff_of_nodup s.nodup_tableIds

theorem table?_eq_none_iff : s.table? id = none ↔ id ∉ s.tables.map (·.id) := by
  rw [table?, List.find?_eq_none]
  simp

/-- Fields come in the order of their numbers. -/
theorem pairwise_fields (s : Schema) : s.fields.Pairwise fun f g =>
    ∃ m n, s.position? f.id = some m ∧ s.position? g.id = some n ∧ Prod.Lex (· < ·) (· < ·) m n := by
  rw [← map_field_placements, List.pairwise_map]
  refine s.pairwise_placements.imp_of_mem fun {p q} hp hq h => ?_
  refine ⟨(p.tableIndex, p.fieldIndex), (q.tableIndex, q.fieldIndex), ?_, ?_, Prod.lex_def.2 h⟩
  · rw [position?, place?_of_mem hp, Option.map_some]
  · rw [position?, place?_of_mem hq, Option.map_some]

/-- There are as many fields as ids that are found. -/
theorem ncard_field? (s : Schema) : {id | (s.field? id).isSome = true}.ncard = s.fieldCount := by
  have hset : {id | (s.field? id).isSome = true} = ((s.fields.map (·.id)).toFinset : Set String) := by
    ext id
    simp only [Set.mem_ofPred_eq, Option.isSome_iff_exists, field?_eq_some_iff, List.coe_toFinset, List.mem_map]
  rw [hset, Set.ncard_coe_finset, List.toFinset_card_of_nodup s.nodup_fieldIds, List.length_map, fieldCount]

/-! ## Documents -/

theorem ofTables_declared (s : Schema) : ofTables s.declared = .ok s := by
  rw [ofTables]
  split
  · next e he =>
    rw [s.sound] at he
    cases he
  · rfl

theorem declared_of_ofTables {tables : List Table} {s : Schema} (h : ofTables tables = .ok s) :
    s.declared = tables := by
  rw [ofTables] at h
  split at h
  · cases h
  · cases h
    rfl

theorem ofTables_eq_error_iff {ts : List Table} {e : SchemaError} : ofTables ts = .error e ↔ fault? ts = some e := by
  unfold ofTables
  split
  next e' he => rw [he, Except.error.injEq, Option.some.injEq]
  next h => simp [h]

/-- Look-up by id is exact: it finds what tables declare, and nothing else. -/
structure Indexes (s : Schema) (ts : List Table) : Prop where
  /-- The tables are those of the document, with fields that know their table. -/
  tables : s.tables = ts.map Table.owned
  /-- The field with an id is found, and it is the only one. -/
  field : ∀ id f, s.field? id = some f ↔ f ∈ s.fields ∧ f.id = id
  /-- The table of a field is the one that contains it, -/
  tableOf : ∀ id t, s.tableOf? id = some t ↔ t ∈ s.tables ∧ ∃ f ∈ t.fields, f.id = id
  /-- and the field knows it. -/
  owner : ∀ id f, s.field? id = some f → ∃ t, s.tableOf? id = some t ∧ f ∈ t.fields ∧ f.tableId = t.id
  /-- The numbers of a field lead to it. -/
  position : ∀ id i j, s.position? id = some (i, j) ↔
    ∃ t f, s.tables[i]? = some t ∧ t.fields[j]? = some f ∧ f.id = id
  /-- The table with an id is found, and it is the only one. -/
  table : ∀ id t, s.table? id = some t ↔ t ∈ s.tables ∧ t.id = id
  /-- What is not declared is not found. -/
  undeclared : ∀ id, id ∉ (ts.flatMap (·.fields)).map (·.id) →
    s.field? id = none ∧ s.tableOf? id = none ∧ s.position? id = none
  undeclaredTable : ∀ id, id ∉ ts.map (·.id) → s.table? id = none
  /-- The fields are those of all tables, in the order of their numbers. -/
  fields : (∀ f, f ∈ s.fields ↔ ∃ t ∈ s.tables, f ∈ t.fields) ∧ s.fields.Pairwise fun f g =>
    ∃ m n, s.position? f.id = some m ∧ s.position? g.id = some n ∧ Prod.Lex (· < ·) (· < ·) m n
  /-- They are counted, and so are the ids that are found. -/
  count : s.fieldCount = s.fields.length ∧ s.fieldCount = {id | (s.field? id).isSome = true}.ncard

theorem indexes_declared (s : Schema) : s.Indexes s.declared where
  tables := rfl
  field id f := field?_eq_some_iff
  tableOf id t := tableOf?_eq_some_iff
  owner id f h := by
    obtain ⟨hf, rfl⟩ := field?_eq_some_iff.1 h
    obtain ⟨t, ht, hft⟩ := List.mem_flatMap.1 hf
    exact ⟨t, tableOf?_eq_some_iff.2 ⟨ht, f, hft, rfl⟩, hft, tableId_of_mem_fields ht hft⟩
  position id i j := position?_eq_some_iff
  table id t := table?_eq_some_iff
  undeclared id h := by
    rw [← map_id_fields, ← place?_eq_none_iff] at h
    simp [field?, tableOf?, position?, h]
  undeclaredTable id h := by
    have hids : s.tables.map (·.id) = s.declared.map (·.id) := List.map_map
    rwa [← hids, ← table?_eq_none_iff] at h
  fields := ⟨fun f => List.mem_flatMap, s.pairwise_fields⟩
  count := ⟨rfl, s.ncard_field?.symm⟩

/-- A document is a schema if ids are not empty and all different, and then look-up is exact. Else it is refused for its
first fault. -/
theorem indexes_ofTables (ts : List Table) :
    ((∃ s, ofTables ts = .ok s) ↔
      Declaration.AreIds (ts.map (·.id)) ∧ Declaration.AreIds ((ts.flatMap (·.fields)).map (·.id))) ∧
    (∀ e, ofTables ts = .error e ↔ Declaration.FirstFault (declarations ts) e) ∧
    ∀ s, ofTables ts = .ok s → s.Indexes ts := by
  refine ⟨?_, fun e => ?_, fun s hs => ?_⟩
  · rw [← fault?_eq_none_iff]
    constructor
    · rintro ⟨s, hs⟩
      exact declared_of_ofTables hs ▸ s.sound
    · intro h
      exact ⟨⟨ts, h⟩, ofTables_declared ⟨ts, h⟩⟩
  · rw [ofTables_eq_error_iff, fault?_eq_some_iff]
  · exact declared_of_ofTables hs ▸ s.indexes_declared

/-- Two tables with a field each, of which one has the name of the other. -/
def travelTables : List Table :=
  [{ id := "trips", name := "Trips", fields := [{ id := "goal", name := "Goal", type := .multipleRecordLinks }] },
    { id := "places", name := "Places", fields := [{ id := "trips", name := "Trips", type := .number }] }]

theorem indexes_ofTables_travelTables :
    (∃ s, ofTables travelTables = .ok s ∧ s.Indexes travelTables) ∧
      Declaration.FirstFault (declarations (travelTables ++ travelTables.drop 1)) (.duplicateTable "places") := by
  constructor
  · obtain ⟨s, hs⟩ := (indexes_ofTables travelTables).1.2 (by decide)
    exact ⟨s, hs, (indexes_ofTables travelTables).2.2 s hs⟩
  · exact ((indexes_ofTables _).2.1 _).1 (ofTables_eq_error_iff.2 (by decide))

end Schema

end ComputedFields
