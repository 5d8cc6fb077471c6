import ComputedFields.Schema.Basic
import Mathlib.Data.List.Induction
import Mathlib.Data.List.Nodup

/-!
# Declarations of a document

A document declares tables, each before its fields. Whether it is a schema is said here of the declarations one after
the other, without regard to the tables they stand in:

- `Declaration.fault?`: what is wrong with a declaration, given those before it;
- `Declaration.IsSound`, `Declaration.FirstFault`: all declarations are right, or a first one is not;
- `Schema.fault?_eq_faultAmong?`: the search for a fault goes through the declarations in their order, so it finds the
  first one (`Schema.fault?_eq_some_iff`);
- `Schema.fault?_eq_none_iff`: there is none exactly if no id is empty and all are different.
-/

namespace ComputedFields

/-- A table, or a field of a table. -/
inductive Declaration where
  | table (t : Table)
  | field (t : Table) (f : Field)

/-- The declarations of a document: each table before its fields. -/
def declarations (ts : List Table) : List Declaration :=
  ts.flatMap fun t => .table t :: t.fields.map (.field t)

namespace Declaration

def tableId? : Declaration → Option String
  | table t => some t.id
  | field .. => none

def fieldId? : Declaration → Option String
  | table _ => none
  | field _ f => some f.id

def tableIds (ds : List Declaration) : List String := ds.filterMap tableId?

def fieldIds (ds : List Declaration) : List String := ds.filterMap fieldId?

/-- What is wrong with a declaration: its id is empty, or that of an earlier one. -/
def fault? (before : List Declaration) : Declaration → Option SchemaError
  | table t =>
    if t.id = "" then some (.emptyTableId t.name)
    else if t.id ∈ tableIds before then some (.duplicateTable t.id) else none
  | field t f =>
    if f.id = "" then some (.emptyFieldId f.name t.name)
    else if f.id ∈ fieldIds before then some (.duplicateField f.id) else none

/-- No declaration has a fault. -/
def IsSound (ds : List Declaration) : Prop := ∀ before d after, ds = before ++ d :: after → d.fault? before = none

/-- The fault of the first declaration that has one. -/
def FirstFault (ds : List Declaration) (e : SchemaError) : Prop :=
  ∃ before d after, ds = before ++ d :: after ∧ d.fault? before = some e ∧ IsSound before

/-! ## Ids -/

theorem tableIds_append (ds es : List Declaration) : tableIds (ds ++ es) = tableIds ds ++ tableIds es :=
  List.filterMap_append

theorem fieldIds_append (ds es : List Declaration) : fieldIds (ds ++ es) = fieldIds ds ++ fieldIds es :=
  List.filterMap_append

theorem tableIds_declarations (ts : List Table) : tableIds (declarations ts) = ts.map (·.id) := by
  have hfields (t : Table) : (t.fields.map (field t)).filterMap tableId? = [] := by
    simp [List.filterMap_eq_nil_iff, tableId?]
  simp only [tableIds, declarations, List.filterMap_flatMap, List.filterMap_cons, tableId?, hfields]
  exact List.map_eq_flatMap.symm

theorem fieldIds_declarations (ts : List Table) :
    fieldIds (declarations ts) = (ts.flatMap (·.fields)).map (·.id) := by
  have hfields (t : Table) : (t.fields.map (field t)).filterMap fieldId? = t.fields.map (·.id) := by
    rw [List.filterMap_map, ← List.filterMap_eq_map]
    rfl
  simp only [fieldIds, declarations, List.filterMap_flatMap, List.filterMap_cons, fieldId?, hfields,
    List.map_flatMap]

/-- Ids that are not empty and all different. -/
def AreIds (ids : List String) : Prop := "" ∉ ids ∧ ids.Nodup

instance (ids : List String) : Decidable (AreIds ids) := inferInstanceAs (Decidable (_ ∧ _))

theorem areIds_concat_iff {ids : List String} {id : String} :
    AreIds (ids ++ [id]) ↔ AreIds ids ∧ id ≠ "" ∧ id ∉ ids := by
  simp only [AreIds, List.mem_append, List.mem_singleton, List.nodup_append', List.nodup_singleton,
    List.disjoint_singleton]
  tauto

/-! ## Soundness -/

theorem isSound_nil : IsSound [] := fun before d after h => by simp at h

theorem isSound_concat_iff {ds : List Declaration} {d : Declaration} :
    IsSound (ds ++ [d]) ↔ IsSound ds ∧ d.fault? ds = none := by
  constructor
  · intro h
    exact ⟨fun before d' after he => h before d' (after ++ [d]) (by simp [he]), h ds d [] rfl⟩
  · rintro ⟨hs, hd⟩ before d' after he
    -- The declaration is the last one, or one of those before it.
    rcases List.eq_nil_or_concat after with rfl | ⟨after, last, rfl⟩
    · obtain ⟨rfl, hlast⟩ := List.append_inj' he rfl
      cases hlast
      exact hd
    · rw [List.concat_eq_append, ← List.cons_append, ← List.append_assoc] at he
      exact hs before d' after (List.append_inj' he rfl).1

theorem isSound_iff {ds : List Declaration} : IsSound ds ↔ AreIds (tableIds ds) ∧ AreIds (fieldIds ds) := by
  induction ds using List.reverseRecOn with
  | nil => simp [isSound_nil, AreIds, tableIds, fieldIds]
  | append_singleton ds d ih =>
    rw [isSound_concat_iff, ih, tableIds_append, fieldIds_append]
    cases d with
    | table t =>
      have ht : (table t).fault? ds = none ↔ t.id ≠ "" ∧ t.id ∉ tableIds ds := by
        simp only [fault?]
        split <;> simp_all
      have hi : tableIds [table t] = [t.id] := rfl
      have hf : fieldIds [table t] = [] := rfl
      rw [ht, hi, hf, List.append_nil, areIds_concat_iff, and_right_comm]
    | field t f =>
      have hf : (field t f).fault? ds = none ↔ f.id ≠ "" ∧ f.id ∉ fieldIds ds := by
        simp only [fault?]
        split <;> simp_all
      have ht : tableIds [field t f] = [] := rfl
      have hi : fieldIds [field t f] = [f.id] := rfl
      rw [hf, ht, hi, List.append_nil, areIds_concat_iff, and_assoc]

/-! ## The search -/

/-- The first fault of declarations, given those before them. -/
def faultAmong? (before : List Declaration) : List Declaration → Option SchemaError
  | [] => none
  | d :: ds => (d.fault? before).or (faultAmong? (before ++ [d]) ds)

theorem faultAmong?_append (before ds es : List Declaration) :
    faultAmong? before (ds ++ es) = (faultAmong? before ds).or (faultAmong? (before ++ ds) es) := by
  induction ds generalizing before with
  | nil => simp [faultAmong?]
  | cons d ds ih => simp [faultAmong?, ih, Option.or_assoc]

theorem faultAmong?_eq_none_iff {ds : List Declaration} : faultAmong? [] ds = none ↔ IsSound ds := by
  induction ds using List.reverseRecOn with
  | nil => simp [faultAmong?, isSound_nil]
  | append_singleton ds d ih =>
    rw [faultAmong?_append, isSound_concat_iff, ← ih, List.nil_append, Option.or_eq_none_iff]
    simp [faultAmong?]

theorem faultAmong?_eq_some_iff {ds : List Declaration} {e : SchemaError} :
    faultAmong? [] ds = some e ↔ FirstFault ds e := by
  constructor
  · intro h
    induction ds using List.reverseRecOn with
    | nil => simp [faultAmong?] at h
    | append_singleton ds d ih =>
      rw [faultAmong?_append, List.nil_append, Option.or_eq_some_iff] at h
      rcases h with h | ⟨hnone, h⟩
      · obtain ⟨before, d', after, rfl, hd⟩ := ih h
        exact ⟨before, d', after ++ [d], by simp, hd⟩
      · exact ⟨ds, d, [], rfl, by simpa [faultAmong?] using h, faultAmong?_eq_none_iff.1 hnone⟩
  · rintro ⟨before, d, after, rfl, hd, hs⟩
    rw [faultAmong?_append, faultAmong?_eq_none_iff.2 hs, Option.none_or, List.nil_append, faultAmong?, hd,
      Option.some_or]

end Declaration

/-! ## Documents -/

namespace Schema

variable {ts : List Table}

open Declaration (tableIds fieldIds faultAmong?)

theorem fieldFault?_eq_faultAmong? {t : Table} {fs : List Field} {seen : List String} {before : List Declaration}
    (h : ∀ id, id ∈ seen ↔ id ∈ fieldIds before) : fieldFault? t seen fs = faultAmong? before (fs.map (.field t)) := by
  induction fs generalizing seen before with
  | nil => rfl
  | cons f fs ih =>
    have hnext : ∀ id, id ∈ f.id :: seen ↔ id ∈ fieldIds (before ++ [.field t f]) := by
      intro id
      rw [Declaration.fieldIds_append, List.mem_append, List.mem_cons, h id, or_comm]
      exact or_congr_right List.mem_singleton.symm
    rw [fieldFault?, List.map_cons, faultAmong?, ih hnext, Declaration.fault?]
    simp only [h f.id]
    split
    · rfl
    · split <;> rfl

theorem faultAfter?_eq_faultAmong? {tables fields : List String} {before : List Declaration}
    (ht : ∀ id, id ∈ tables ↔ id ∈ tableIds before) (hf : ∀ id, id ∈ fields ↔ id ∈ fieldIds before) :
    faultAfter? tables fields ts = faultAmong? before (declarations ts) := by
  induction ts generalizing tables fields before with
  | nil => rfl
  | cons t ts ih =>
    have hfields : ∀ id, id ∈ fields ↔ id ∈ fieldIds (before ++ [.table t]) := by
      intro id
      have hnone : fieldIds [.table t] = [] := rfl
      rw [Declaration.fieldIds_append, hnone, List.append_nil, hf id]
    have htables' : ∀ id, id ∈ t.id :: tables ↔ id ∈ tableIds (before ++ declarations [t]) := by
      intro id
      rw [Declaration.tableIds_append, Declaration.tableIds_declarations, List.mem_append, ← ht id]
      simp [or_comm]
    have hfields' : ∀ id, id ∈ t.fields.map (·.id) ++ fields ↔ id ∈ fieldIds (before ++ declarations [t]) := by
      intro id
      rw [Declaration.fieldIds_append, Declaration.fieldIds_declarations, List.mem_append, List.mem_append, ← hf id]
      simp [or_comm]
    have hsplit : declarations (t :: ts) = .table t :: (t.fields.map (.field t) ++ declarations ts) := by
      simp [declarations]
    have hone : before ++ declarations [t] = (before ++ [.table t]) ++ t.fields.map (.field t) := by
      simp [declarations]
    rw [faultAfter?, hsplit, faultAmong?, Declaration.faultAmong?_append, fieldFault?_eq_faultAmong? hfields,
      ih htables' hfields', hone, Declaration.fault?]
    simp only [ht t.id]
    split
    · rfl
    · split
      · rfl
      · rw [Option.none_or, Option.orElse_eq_or]

/-- The fault of a document is looked for in the order of its declarations. -/
theorem fault?_eq_faultAmong? : fault? ts = faultAmong? [] (declarations ts) :=
  faultAfter?_eq_faultAmong? (fun _ => Iff.rfl) (fun _ => Iff.rfl)

theorem fault?_eq_none_iff : fault? ts = none ↔
    Declaration.AreIds (ts.map (·.id)) ∧ Declaration.AreIds ((ts.flatMap (·.fields)).map (·.id)) := by
  rw [fault?_eq_faultAmong?, Declaration.faultAmong?_eq_none_iff, Declaration.isSound_iff,
    Declaration.tableIds_declarations, Declaration.fieldIds_declarations]

theorem fault?_eq_some_iff {e : SchemaError} : fault? ts = some e ↔ Declaration.FirstFault (declarations ts) e := by
  rw [fault?_eq_faultAmong?, Declaration.faultAmong?_eq_some_iff]

end Schema

end ComputedFields
