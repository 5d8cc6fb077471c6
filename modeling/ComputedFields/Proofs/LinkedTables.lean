import ComputedFields.Proofs.Reads
import ComputedFields.Proofs.Sequence

/-!
# Linked tables

A module lists the tables that its getters read through links. The list is made from the options of the fields, while
the code of a getter comes from a `LinkRead`, for which the link and the target have been looked up.

- `LinkRead.tableBehind?_eq`: the table behind a link, from which a field is read, is the one that the options of the
  field lead to;
- `listsLinkedTables_generateInOrder`: so the table of every link read is listed, and every table once.
-/

namespace ComputedFields

variable {s : Schema} {f : Field}

/-! ## The table of a link read -/

namespace LinkRead

variable {kind : LinkReadKind}

/-- A field that is read through a link is computed, and not by a formula. -/
theorem isComputed_of_kindOf (h : kindOf f = .ok kind) :
    f.isComputed = true ∧ f.computedKind? ≠ some .formula := by
  rw [Field.isComputed, FieldType.isComputed, ← Field.computedKind?]
  unfold kindOf at h
  split at h
  · next hk => simp [hk]
  · next hk => simp [hk]
  · next hk => simp [hk]
  · cases h

/-- A target that has been looked up has the id by which the field names it, so both lead to the same table. -/
theorem tableBehind?_eq {linkId : String} {target : Option Field} (h : targetOf s f kind = .ok target) {t : Table}
    (ht : tableBehind? s linkId target = some t) :
    (s.linkedTable? linkId).or (f.targetId?.bind s.tableOf?) = some t := by
  cases target with
  | none =>
    have hlinked : s.linkedTable? linkId = some t := by simpa [tableBehind?] using ht
    rw [hlinked, Option.some_or]
  | some g =>
    obtain ⟨-, hb⟩ := targetOf_eq_ok_some h
    obtain ⟨id, hid, hg⟩ := Option.bind_eq_some_iff.1 hb
    rw [hid, Option.bind_some, ← (Schema.field?_eq_some_iff.1 hg).2]
    exact ht

end LinkRead

/-! ## The list -/

theorem ModuleContext.linkedTable?_eq_some_of_ofField (ctx : ModuleContext) {keys : RecordKeys}
    {getterOf : String → Option String} {r : LinkRead} (h : LinkRead.ofField ctx.schema keys getterOf f = .ok r) :
    ∃ t, ctx.linkedTable? f = some t ∧ r.tableId = t.id ∧ r.tableKey = keys.tableKey t := by
  obtain ⟨linkId, target, t, -, hlink, htarget, ht, hid, hkey, -⟩ := LinkRead.exists_of_ofField h
  refine ⟨t, ?_, hid, hkey⟩
  rw [linkedTable?, hlink, Option.bind_some]
  exact LinkRead.tableBehind?_eq htarget ht

/-- `ListsLinkedTables s tables`: the tables of a schema that its fields are read from through links. -/
structure ListsLinkedTables (s : Schema) (tables : List Table) : Prop where
  /-- The table of every link read is listed, whatever records are keyed by and getters are called. -/
  complete : ∀ f ∈ s.fields, ∀ keys getterOf r, LinkRead.ofField s keys getterOf f = .ok r →
    ∃ t ∈ tables, t.id = r.tableId ∧ keys.tableKey t = r.tableKey
  nodup : (tables.map (·.id)).Nodup
  declared : ∀ t ∈ tables, t ∈ s.tables
  /-- Every table is the one that the link of a field names, or the one of its target. -/
  used : ∀ t ∈ tables, ∃ f ∈ s.computedFields, f.computedKind? ≠ some .formula ∧
    ((∃ linkId, f.linkId? = some linkId ∧ s.linkedTable? linkId = some t) ∨
      ∃ targetId, f.targetId? = some targetId ∧ s.tableOf? targetId = some t)

/-- The list of linked tables of a module is complete. -/
theorem listsLinkedTables_generateInOrder (s : Schema) (order : ComputationOrder) (options : GeneratorOptions) :
    ListsLinkedTables s (generateInOrder s order options).linkedTables := by
  have hdeclared : ∀ t ∈ (generateModule s options).linkedTables, t ∈ s.tables := fun t ht =>
    mem_tables_of_mem_linkedTables ht
  refine ⟨fun f hf keys getterOf r h => ?_, ?_, hdeclared, fun t ht => ?_⟩
  · obtain ⟨_, _, _, hk, -⟩ := LinkRead.exists_of_ofField h
    obtain ⟨hcomputed, hformula⟩ := LinkRead.isComputed_of_kindOf hk
    obtain ⟨t, ht, hid, hkey⟩ := ModuleContext.linkedTable?_eq_some_of_ofField
      ⟨s, order, options, ModuleNames.ofSchema s options⟩ h
    refine ⟨t, List.mem_eraseDups.2 (List.mem_filterMap.2 ⟨f, ?_, ht⟩), hid.symm, hkey.symm⟩
    exact List.mem_filter.2 ⟨List.mem_filter.2 ⟨hf, hcomputed⟩, by simpa using hformula⟩
  · refine (nodup_eraseDups _).map_on fun t ht u hu he => ?_
    exact Schema.eq_of_tableId_eq (hdeclared t ht) (hdeclared u hu) he
  · obtain ⟨f, hf, ht⟩ := List.mem_filterMap.1 (List.mem_eraseDups.1 ht)
    obtain ⟨hf, hformula⟩ := List.mem_filter.1 hf
    refine ⟨f, hf, by simpa using hformula, ?_⟩
    obtain ht | ⟨-, ht⟩ := Option.or_eq_some_iff.1 ht
    · exact .inl (Option.bind_eq_some_iff.1 ht)
    · exact .inr (Option.bind_eq_some_iff.1 ht)

/-- Loans of books from shelves. The link to the book does not say what table it leads to. -/
def loanSchema : Schema where
  declared := [
    { id := "loans", name := "Loans", fields := [
      { id := "book", name := "Book", type := .multipleRecordLinks },
      { id := "shelf", name := "Shelf", type := .multipleRecordLinks,
        options := { linkedTableId := some "shelves" } },
      { id := "title", name := "Title", type := .multipleLookupValues,
        options := { recordLinkFieldId := some "book", fieldIdInLinkedTable := some "bookTitle" } },
      { id := "shelved", name := "Shelved", type := .count, options := { recordLinkFieldId := some "shelf" } }] },
    { id := "books", name := "Books", fields := [{ id := "bookTitle", name := "Title", type := .singleLineText }] },
    { id := "shelves", name := "Shelves" }]
  sound := by decide

/-- The title of a lent book. -/
def lentTitle : Field where
  id := "title"
  name := "Title"
  type := .multipleLookupValues
  tableId := "loans"
  options := { recordLinkFieldId := some "book", fieldIdInLinkedTable := some "bookTitle" }

def lentTitleRead : LinkRead := ⟨"title", .lookup, "Book", "books", "Books", false, some (.stored "Title")⟩

/-- The table of the books is known from the title alone. -/
theorem listsLinkedTables_generateInOrder_loanSchema :
    LinkRead.ofField loanSchema .fieldName (fun _ => none) lentTitle = .ok lentTitleRead ∧
      (∃ t ∈ (generateModule loanSchema {}).linkedTables, t.id = "books") ∧
      (generateModule loanSchema {}).linkedTables.map (·.id) = ["books", "shelves"] := by
  have h : LinkRead.ofField loanSchema .fieldName (fun _ => none) lentTitle = .ok lentTitleRead := rfl
  have hlists := listsLinkedTables_generateInOrder loanSchema (DependencyGraph.ofSchema loanSchema).order {}
  obtain ⟨t, ht, hid, -⟩ := hlists.complete lentTitle (by decide) _ _ _ h
  exact ⟨h, ⟨t, ht, hid⟩, by decide⟩

end ComputedFields
