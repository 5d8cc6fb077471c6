import ComputedFields.Proofs.Columns
import ComputedFields.Proofs.GetterTexts
import ComputedFields.Proofs.Identifiers
import ComputedFields.Proofs.NameWords
import ComputedFields.Proofs.Reads

/-!
# Names of views and of the tables that they read

A view is named after its table, with `computed` as the last word. The tables that views read are named by their ids,
or by their names as they are, and these are not reserved when views are named:

- `GeneratedSection.ReadsFrom`: the tables that a view reads, which stand in its text (`occursIn_sectionText`);
- `Casing.NamesView`: the names that a view can have, and `exists_finds_identifier`: how it comes by its own;
- `separatesViews_generateModule`: so a view is called as a table that is read only if the id or name of this looks like
  that of a view, and never as its own table where tables go by their names;
- `readsFrom_ordersSchema`: a view that is called as its own table.
-/

namespace ComputedFields

/-! ## The last word of a name -/

namespace Casing

/-- The word `computed` after others. -/
def viewWord : Casing → String
  | snake => "_computed"
  | camel => "Computed"

/-- What a view can be named: the last word is `computed`, and a number may follow it. -/
def NamesView (casing : Casing) (name : String) : Prop :=
  ∃ n, name = "computed" ++ casing.suffix n ∨ ∃ front, name = front ++ casing.viewWord ++ casing.suffix n

variable (casing : Casing)

theorem apply_append_computed (cs : List Char) :
    casing.apply (cs ++ ' ' :: "computed".toList) = "computed".toList ∨
      ∃ front, casing.apply (cs ++ ' ' :: "computed".toList) = front ++ casing.viewWord.toList := by
  have hne : "computed".toList ≠ [] := by decide
  have hlower : ∀ c ∈ "computed".toList, c.isLower = true := by simp
  cases casing with
  | snake =>
    rw [apply, Text.snakeCase_append_word cs hne hlower]
    split
    · exact .inl rfl
    · exact .inr ⟨_, rfl⟩
  | camel =>
    have hcapital : Text.capitalWord "computed".toList = "Computed".toList := by decide
    rw [apply, Text.camelCase_append_word cs hne hlower, hcapital]
    split
    · exact .inl rfl
    · exact .inr ⟨_, rfl⟩

/-- An identifier keeps the end of its text. -/
theorem exists_sanitized_append (front : List Char) {w : String} (hne : w ≠ "")
    (hw : ∀ c ∈ w.toList, isIdentifierChar c = true) : ∃ kept, casing.sanitized (front ++ w.toList) = kept ++ w := by
  have hkept : (front ++ w.toList).filter isIdentifierChar = front.filter isIdentifierChar ++ w.toList := by
    rw [List.filter_append, List.filter_eq_self.2 hw]
  simp only [sanitized, hkept]
  split
  next h => simp [hne] at h
  next c cs h =>
    split
    · exact ⟨casing.digitGuard ++ String.ofList (front.filter isIdentifierChar), by simp [String.append_assoc]⟩
    · exact ⟨String.ofList (front.filter isIdentifierChar), by simp⟩

theorem countP_le_apply (cs : List Char) : cs.countP Char.isAlphanum ≤ (casing.apply cs).countP Char.isAlphanum := by
  cases casing with
  | snake => exact Text.countP_le_snakeCase cs
  | camel => exact Text.countP_le_camelCase cs

/-- An identifier keeps the ASCII letters and digits of its text. -/
theorem countP_le_sanitized (text : List Char) :
    text.countP Char.isAlphanum ≤ (casing.sanitized text).toList.countP Char.isAlphanum := by
  have hkept : (text.filter isIdentifierChar).countP Char.isAlphanum = text.countP Char.isAlphanum := by
    rw [List.countP_filter]
    refine List.countP_congr fun c _ => ?_
    rw [Bool.and_eq_true]
    exact ⟨And.left, fun h => ⟨h, isIdentifierChar_iff.2 (.inl h)⟩⟩
  rw [← hkept]
  simp only [sanitized]
  split
  next h => simp [h]
  next c cs h =>
    split
    · simp
    · simp

end Casing

/-- No reserved word ends in `computed`. -/
theorem Target.isReserved_of_computed {name : String} (h : "computed".toList <:+ (sql.fold name).toList) :
    sql.isReserved name = false := by
  have hwords : (sql.reservedWords.all fun w => !"computed".toList.isSuffixOf w.toList) = true := by decide
  rw [isReserved, List.contains_eq_mem, decide_eq_false_iff_not]
  intro hmem
  have hnot := List.all_eq_true.1 hwords _ hmem
  rw [List.isSuffixOf_iff_suffix.2 h] at hnot
  cases hnot

namespace Allocator

variable {a : Allocator} {name : String}

theorem base_computed (ha : a.target = .sql) (cs : List Char) :
    a.base (a.casing.apply (cs ++ ' ' :: "computed".toList)) = "computed" ∨
      ∃ front, a.base (a.casing.apply (cs ++ ' ' :: "computed".toList)) = front ++ a.casing.viewWord := by
  rcases a.casing.apply_append_computed cs with h | ⟨front, h⟩
  · left
    have hname : a.casing.sanitized "computed".toList = "computed" := by cases a.casing <;> decide
    rw [h, Allocator.base, hname, ha, if_neg (by decide)]
  · right
    have hword : a.casing.viewWord ≠ "" ∧ a.casing.viewWord.toList.all isIdentifierChar = true ∧
        "computed".toList <:+ (Target.sql.fold a.casing.viewWord).toList := by
      cases a.casing <;> decide
    obtain ⟨kept, hkept⟩ := a.casing.exists_sanitized_append front hword.1 (List.all_eq_true.1 hword.2.1)
    have hfree : Target.sql.isReserved (kept ++ a.casing.viewWord) = false := by
      apply Target.isReserved_of_computed
      rw [Target.fold_append, String.toList_append]
      exact hword.2.2.trans (List.suffix_append _ _)
    refine ⟨kept, ?_⟩
    rw [h, Allocator.base, hkept, ha, hfree]
    rfl

theorem Finds.namesView (ha : a.target = .sql) {cs : List Char}
    (h : a.Finds (a.base (a.casing.apply (cs ++ ' ' :: "computed".toList))) name) : a.casing.NamesView name := by
  obtain ⟨n, -, rfl, -, -⟩ := h
  refine ⟨n, ?_⟩
  rcases base_computed ha cs with h | ⟨front, h⟩
  · exact .inl (by rw [h])
  · exact .inr ⟨front, by rw [h]⟩

theorem Finds.countP_le {cs : List Char} (h : a.Finds (a.base (a.casing.apply cs)) name) :
    cs.countP Char.isAlphanum ≤ name.toList.countP Char.isAlphanum := by
  obtain ⟨n, -, rfl, -, -⟩ := h
  have hbase : (a.casing.sanitized (a.casing.apply cs)).toList.countP Char.isAlphanum ≤
      (a.base (a.casing.apply cs)).toList.countP Char.isAlphanum := by
    simp only [Allocator.base]
    split <;> simp
  have happly := a.casing.countP_le_apply cs
  have hsanitized := a.casing.countP_le_sanitized (a.casing.apply cs)
  rw [String.toList_append, List.countP_append]
  omega

end Allocator

/-! ## The names of views -/

section Names

variable {s : Schema} {o : GeneratorOptions} {x : GeneratedSection}

theorem identifier_of_mem_sections (hx : x ∈ (generateModule s o).sections) :
    x.identifier = (ModuleNames.ofSchema s o).table x.table.id := by
  obtain ⟨y, -, rfl⟩ := List.mem_map.1 hx
  rfl

/-- The identifier of a view is found for the name of its table with `computed` after it. -/
theorem exists_finds_identifier (ho : o.target = .sql) (hx : x ∈ (generateModule s o).sections) :
    ∃ a : Allocator, a.target = .sql ∧ a.casing = o.naming.casing .sql ∧
      a.Finds (a.base (a.casing.apply (x.table.name.toList ++ ' ' :: "computed".toList))) x.identifier := by
  have htable := table_mem_of_mem_sections hx
  have hkeys : x.table.id ∈ (ModuleNames.ofSchema s o).tables.map (·.1) := by
    rw [ModuleNames.ofSchema, map_fst_allocateAll, List.map_map]
    exact List.mem_map_of_mem htable
  obtain ⟨p, hp, he⟩ := List.mem_map.1 hkeys
  obtain ⟨name, hname⟩ := Option.isSome_iff_exists.1 (List.lookup_isSome_iff.2 ⟨p, hp, by simpa using he.symm⟩)
  have hmem : (x.table.id, name) ∈ (ModuleNames.ofSchema s o).tables := by
    obtain ⟨before, after, hlist, -⟩ := List.lookup_eq_some_iff.1 hname
    simp [hlist]
  obtain ⟨parts, a, hparts, htarget, hcasing, hfinds⟩ := Allocator.exists_finds_of_mem_allocateAll hmem
  -- The parts are those of the table, since no other has its id.
  obtain ⟨t, ht, he⟩ := List.mem_map.1 hparts
  rw [Prod.mk.injEq] at he
  obtain rfl : t = x.table := Schema.eq_of_tableId_eq ht htable he.1
  refine ⟨a, htarget.trans ho, hcasing.trans (by rw [Allocator.new, ho]), ?_⟩
  rw [identifier_of_mem_sections hx, ModuleNames.table, hname, Option.getD_some]
  rw [← he.2, ho] at hfinds
  simpa [ModuleNames.tableParts] using hfinds

theorem namesView_identifier (ho : o.target = .sql) (hx : x ∈ (generateModule s o).sections) :
    (o.naming.casing .sql).NamesView x.identifier := by
  obtain ⟨a, htarget, hcasing, hfinds⟩ := exists_finds_identifier ho hx
  exact hcasing ▸ hfinds.namesView htarget

/-- A view has more ASCII letters and digits in its name than its table. -/
theorem countP_lt_identifier (ho : o.target = .sql) (hx : x ∈ (generateModule s o).sections) :
    x.table.name.toList.countP Char.isAlphanum < x.identifier.toList.countP Char.isAlphanum := by
  obtain ⟨a, -, -, hfinds⟩ := exists_finds_identifier ho hx
  have hle := hfinds.countP_le
  have hword : (' ' :: "computed".toList).countP Char.isAlphanum = 8 := by decide
  rw [List.countP_append, hword] at hle
  omega

end Names

/-! ## The tables that views read -/

/-- The table behind a link is one of the schema. -/
theorem LinkRead.exists_tableKey_eq {s : Schema} {keys : RecordKeys} {getterOf : String → Option String} {f : Field}
    {r : LinkRead} (h : ofField s keys getterOf f = .ok r) : ∃ t ∈ s.tables, keys.tableKey t = r.tableKey := by
  obtain ⟨linkId, target, t, -, -, -, hbehind, -, hkey, -⟩ := exists_of_ofField h
  refine ⟨t, ?_, hkey.symm⟩
  rcases Option.or_eq_some_iff.1 hbehind with hlinked | ⟨-, htarget⟩
  · exact Schema.mem_tables_of_linkedTable? hlinked
  · obtain ⟨t, -, htarget⟩ := Option.bind_eq_some_iff.1 htarget
    exact Schema.mem_tables_of_tableOf? htarget

/-- The code of a lookup or rollup reads from the table behind its link. -/
theorem occursIn_sqlLinkExpression {r : LinkRead} {code : String} (hkind : r.kind ≠ .count)
    (h : sqlLinkExpression r = .ok code) : OccursIn ("FROM " ++ sqlName r.tableKey ++ " AS l") code := by
  have hfrom := OccursIn.refl ("FROM " ++ sqlName r.tableKey ++ " AS l")
  unfold sqlLinkExpression at h
  split at h
  next hcount => exact absurd hcount hkind
  next =>
    obtain ⟨target, -, h⟩ := bind_eq_ok_iff.1 h
    obtain ⟨value, -, h⟩ := bind_eq_ok_iff.1 h
    split at h
    · cases h
      exact (((hfrom.prepend _).append _).append _).append _
    · cases h
      exact (((((hfrom.prepend _).append _).append _).append _).append _).append _
  next =>
    obtain ⟨target, -, h⟩ := bind_eq_ok_iff.1 h
    obtain ⟨value, -, h⟩ := bind_eq_ok_iff.1 h
    obtain ⟨result, -, h⟩ := bind_eq_ok_iff.1 h
    cases h
    exact (((hfrom.prepend _).append _).append _).append _

theorem LinkRead.computedKind?_of_kindOf {f : Field} (h : kindOf f = .ok .count) : f.computedKind? = some .count := by
  unfold kindOf at h
  split at h
  next => cases h
  next hk => exact hk
  next =>
    obtain ⟨aggregation, -, h⟩ := bind_eq_ok_iff.1 h
    split at h <;> cases h
  next => cases h

/-- The code of a column that reads through a link is that of its link read. -/
theorem ModuleContext.exists_linkRead_of_body (ctx : ModuleContext) (ho : ctx.target = .sql)
    {inlined : List (String × String)} {f : Field} (hlink : f.computedKind? ≠ some .formula) {code : String}
    (h : (ctx.draft inlined f).body = .expression code) :
    ∃ r, LinkRead.ofField ctx.schema ctx.options.recordKeys ctx.names.getter? f = .ok r ∧
      sqlLinkExpression r = .ok code := by
  obtain ⟨reason, hs⟩ | ⟨-, ⟨formula, hk, -, -⟩ | ⟨-, hd⟩⟩ := ctx.body_draft inlined f
  · rw [hs] at h
    cases h
  · exact absurd hk hlink
  rw [hd] at h
  obtain ⟨reason, hs⟩ | ⟨r, hr, hl⟩ := ctx.body_linkDraft f
  · rw [hs] at h
    cases h
  refine ⟨r, hr, ?_⟩
  rw [h, ho, Target.linkBody] at hl
  cases hcode : sqlLinkExpression r with
  | error e =>
    rw [hcode] at hl
    cases hl
  | ok code' =>
    rw [hcode] at hl
    cases hl
    rfl

/-- The tables that the view of a section reads, by what they are stored under. Formulas read none on their own: the
code of other columns that stands in theirs is code of the same view. -/
inductive GeneratedSection.ReadsFrom (s : Schema) (o : GeneratorOptions) (x : GeneratedSection) : String → Prop
  /-- A view reads the table that it is made for, -/
  | table : ReadsFrom s o x (o.recordKeys.tableKey x.table)
  /-- and each lookup or rollup the table behind its link. -/
  | link {g : GeneratedGetter} {f : Field} {r : LinkRead} {code : String} (hg : g ∈ x.getters)
      (hf : s.field? g.getter.fieldId = some f)
      (hr : LinkRead.ofField s o.recordKeys (ModuleNames.ofSchema s o).getter? f = .ok r) (hkind : r.kind ≠ .count)
      (hcode : sqlLinkExpression r = .ok code) (hbody : g.getter.body = .expression code) : ReadsFrom s o x r.tableKey

section Tables

variable {s : Schema} {o : GeneratorOptions} {x : GeneratedSection} {key : String}

theorem exists_table_of_readsFrom (hx : x ∈ (generateModule s o).sections) (h : x.ReadsFrom s o key) :
    ∃ t ∈ s.tables, o.recordKeys.tableKey t = key := by
  cases h with
  | table => exact ⟨x.table, table_mem_of_mem_sections hx, rfl⟩
  | link _ _ hr _ _ _ => exact LinkRead.exists_tableKey_eq hr

/-- Every column that reads through a link reads the table behind it, unless it only counts. -/
theorem exists_readsFrom_of_body (ho : o.target = .sql) (hx : x ∈ (generateModule s o).sections) {g : GeneratedGetter}
    (hg : g ∈ x.getters) {f : Field} (hf : s.field? g.getter.fieldId = some f)
    (hlink : f.computedKind? ≠ some .formula) {code : String} (hbody : g.getter.body = .expression code) :
    f.computedKind? = some .count ∨
      ∃ key, x.ReadsFrom s o key ∧ OccursIn ("FROM " ++ sqlName key ++ " AS l") code := by
  obtain ⟨y, hy, rfl⟩ := List.mem_map.1 hx
  obtain ⟨inlined, f', hf', rfl⟩ := ModuleContext.exists_of_mem_generateAll hg
  have hfield : f' ∈ s.fields := by
    have hy : y ∈ Section.ofSchema s (DependencyGraph.ofSchema s).order .sql := ho ▸ hy
    rw [Section.fields_ofSchema hy] at hf'
    exact (List.mem_filter.1 (Section.mem_columns_iff.1 hf').1).1
  obtain rfl : f' = f := Option.some.inj ((Schema.field?_of_mem hfield).symm.trans hf)
  obtain ⟨r, hr, hcode⟩ := (ModuleContext.ofSchema s o).exists_linkRead_of_body ho hlink hbody
  by_cases hkind : r.kind = .count
  · obtain ⟨-, hk, -, -⟩ := LinkRead.read_ofField hr
    exact .inl (LinkRead.computedKind?_of_kindOf (hkind ▸ hk))
  · exact .inr ⟨r.tableKey, .link hg hf hr hkind hcode hbody, occursIn_sqlLinkExpression hkind hcode⟩

/-- The tables that a view reads stand in its text. -/
theorem occursIn_sectionText {m : GeneratedModule} (ho : m.options.target = .sql) (h : x.ReadsFrom s m.options key) :
    OccursIn ("FROM " ++ sqlName key ++ " AS ") (m.sectionText x) := by
  rw [GeneratedModule.sectionText, ho]
  cases h with
  | table =>
    refine OccursIn.prepend ⟨"\n".toList, "t;\n".toList, ?_⟩ _
    simp [Target.endTable]
  | @link g f r code hg _ _ hkind hcode hbody =>
    have hlink : OccursIn ("FROM " ++ sqlName r.tableKey ++ " AS ") ("FROM " ++ sqlName r.tableKey ++ " AS l") :=
      ⟨[], "l".toList, by simp⟩
    have hgetter : Target.sql.getter m.options g.getter ∈ x.getters.map fun g => Target.sql.getter m.options g.getter :=
      List.mem_map.2 ⟨g, hg, rfl⟩
    have hcolumn := hlink.trans (occursIn_sqlLinkExpression hkind hcode)
    exact (((hcolumn.trans (Target.sql.occursIn_code hbody)).trans (.join hgetter)).prepend _).append _

theorem occursIn_sectionText_identifier {m : GeneratedModule} (ho : m.options.target = .sql) (x : GeneratedSection) :
    OccursIn ("CREATE OR REPLACE VIEW " ++ sqlName x.identifier ++ " AS") (m.sectionText x) := by
  rw [GeneratedModule.sectionText, ho, Target.beginTable]
  refine (((OccursIn.line ?_).append _).append _).append _
  simp

end Tables

/-! ## Schemas -/

/-- Views are apart from the tables that they read, as far as the names of these keep them so. -/
structure SeparatesViews (s : Schema) (o : GeneratorOptions) (m : GeneratedModule) : Prop where
  /-- A view is created under its identifier. -/
  created : ∀ x ∈ m.sections, OccursIn ("CREATE OR REPLACE VIEW " ++ sqlName x.identifier ++ " AS") (m.sectionText x)
  /-- The tables that it reads stand in its text, -/
  reads : ∀ x ∈ m.sections, ∀ key, x.ReadsFrom s o key →
    OccursIn ("FROM " ++ sqlName key ++ " AS ") (m.sectionText x)
  /-- and no column that reads through a link is left out. -/
  columns : ∀ x ∈ m.sections, ∀ g ∈ x.getters, ∀ f code, s.field? g.getter.fieldId = some f →
    f.computedKind? ≠ some .formula → g.getter.body = .expression code →
      f.computedKind? = some .count ∨
        ∃ key, x.ReadsFrom s o key ∧ OccursIn ("FROM " ++ sqlName key ++ " AS l") code
  /-- If one of them is called as a view is, it is a table of the schema whose id or name is one for views. -/
  apart : ∀ x ∈ m.sections, ∀ y ∈ m.sections, y.ReadsFrom s o x.identifier →
    ∃ t ∈ s.tables, o.recordKeys.tableKey t = x.identifier ∧
      (o.naming.casing .sql).NamesView (o.recordKeys.tableKey t)
  /-- Where tables go by their names, no view is called as the table that it is made for. -/
  own : o.recordKeys = .fieldName → ∀ x ∈ m.sections, x.identifier ≠ o.recordKeys.tableKey x.table

/-- A view of a schema is called as a table that a view reads only if the id or name of this is one for views. -/
theorem separatesViews_generateModule (s : Schema) (o : GeneratorOptions) (ho : o.target = .sql) :
    SeparatesViews s o (generateModule s o) where
  created x _ := occursIn_sectionText_identifier ho x
  reads x _ key h := occursIn_sectionText ho h
  columns x hx g hg f code hf hlink hbody := exists_readsFrom_of_body ho hx hg hf hlink hbody
  apart x hx y hy h := by
    obtain ⟨t, ht, hkey⟩ := exists_table_of_readsFrom hy h
    exact ⟨t, ht, hkey, hkey ▸ namesView_identifier ho hx⟩
  own hkeys x hx he := by
    have hlt := countP_lt_identifier ho hx
    rw [he, hkeys] at hlt
    exact Nat.lt_irrefl _ hlt

def ordersTable : Table where
  id := "orders_computed"
  name := "Orders"
  fields := [{ id := "size", name := "Size", type := .formula, options := { formula := some "1" } }]

/-- The only table is stored under an id that looks like the name of its view. -/
def ordersSchema : Schema where
  declared := [ordersTable]
  sound := by decide

/-- The view of the orders has the name of the table that it reads. -/
theorem readsFrom_ordersSchema :
    ∃ x ∈ (generateModule ordersSchema { target := .sql }).sections,
      x.identifier = "orders_computed" ∧ x.ReadsFrom ordersSchema { target := .sql } x.identifier := by
  have hfields : ordersSchema.computedFields ≠ [] := by decide
  obtain ⟨x, hx⟩ := exists_mem_sections { target := .sql } hfields
  have hid : x.table.id = "orders_computed" := by
    rw [List.mem_singleton.1 (table_mem_of_mem_sections hx)]
    rfl
  have hname : x.identifier = "orders_computed" := by
    rw [identifier_of_mem_sections hx, hid]
    decide
  refine ⟨x, hx, hname, ?_⟩
  rw [hname, ← hid]
  exact .table

/-- The id of the orders is one for views. -/
theorem separatesViews_ordersSchema :
    ({ target := .sql } : GeneratorOptions).target = .sql ∧
      SeparatesViews ordersSchema { target := .sql } (generateModule ordersSchema { target := .sql }) :=
  ⟨rfl, separatesViews_generateModule ordersSchema { target := .sql } rfl⟩

end ComputedFields
