import ComputedFields.Proofs.Diagnostics
import ComputedFields.Proofs.Identifiers
import ComputedFields.Proofs.Isolation
import ComputedFields.Proofs.Operands

/-!
# Inlined columns

Columns are generated one after the other, each with the code of those before it. Seen from the finished module the
order does not matter: a column holds the code of every column of its view that it refers to and that is an expression,
and a null for every other computed field that it refers to, which is reported.

- `Problem.message_generation_ne`, `Problem.message_unresolved_ne`: nothing else that is reported about a formula reads
  like a field that is not inlined;
- `GeneratedModule.columnCode?`, `Schema.columnAccess`: the code of a column for the others of its view, and how a
  column reads a field, both taken from the finished module;
- `lookup_inlinedBy_eq_columnCode?`: a column that is referred to comes first, so its code is known in time;
- `ModuleContext.filter_problems_formulaDraft`: a formula reports a field once if it has no code, and not at all else;
- `inlinesColumns_generateModule`: so columns read and report what the finished module says.
-/

namespace ComputedFields

open DependencyGraph

/-! ## Messages -/

theorem getLast?_mismatch_ne (arity : Arity) (function : String) (found : Nat) :
    (arity.mismatch function found).toList.getLast? ≠ some 'L' := by
  rw [Arity.mismatch, String.toList_append, List.getLast?_append]
  cases hl : (toString found).toList.getLast? with
  | none =>
    rw [List.getLast?_eq_none_iff, Nat.toString_eq_repr, Nat.toList_repr] at hl
    exact absurd hl Nat.toDigits_ne_nil
  | some c =>
    have hdigit := Casing.isDigit_of_mem_toString (List.mem_of_getLast? hl)
    rintro ⟨⟩
    cases hdigit

namespace Problem

variable {id id' : String}

theorem message_notInlined :
    (notInlined id).message = "depends on \x7b" ++ id ++ "\x7d, which was not generated; read as NULL" := rfl

theorem lead_message_notInlined : Target.lead (notInlined id).message = some 'd' := by
  rw [message_notInlined]
  exact Target.lead_append (Target.lead_append Target.lead_chars _) _

theorem getLast?_message_notInlined : (notInlined id).message.toList.getLast? = some 'L' := by
  rw [message_notInlined, String.toList_append, List.getLast?_append]
  rfl

theorem message_notInlined_inj : (notInlined id).message = (notInlined id').message ↔ id = id' := by
  rw [message_notInlined, message_notInlined, String.append_left_inj, String.append_right_inj]

theorem message_unresolved_ne : (unresolved id').message ≠ (notInlined id).message := by
  intro h
  have hfirst : Target.lead (unresolved id').message = some 'U' :=
    Target.lead_append (Target.lead_append (Target.lead_append Target.lead_chars _) _) _
  rw [h, lead_message_notInlined] at hfirst
  exact absurd hfirst (by decide)

theorem message_generation_ne (e : GenerationError) : (generation e).message ≠ (notInlined id).message := by
  intro h
  have hfirst : Target.lead e.message = some 'd' := (congrArg Target.lead h).trans lead_message_notInlined
  have hlast : e.message.toList.getLast? = some 'L' :=
    (congrArg (·.toList.getLast?) h).trans getLast?_message_notInlined
  -- a message that begins with the name of a function is told apart by its end
  have first {c : Char} (hc : Target.lead e.message = some c) (hd : c ≠ 'd') : False :=
    hd (Option.some.inj (hc.symm.trans hfirst))
  have last {t : Target} {text : String} (he : e.message = text ++ t.name) : False := by
    have hname : ∃ c, t.name.toList.getLast? = some c ∧ c ≠ 'L' := by cases t <;> exact ⟨_, rfl, by decide⟩
    obtain ⟨c, hc, hne⟩ := hname
    rw [he, String.toList_append, List.getLast?_append, hc] at hlast
    exact hne (Option.some.inj hlast)
  cases e with
  | unsupportedFunction function target => exact last rfl
  | argumentCount function arity found => exact getLast?_mismatch_ne arity function found hlast
  | unsupportedAggregation text => exact first (Target.lead_append Target.lead_chars _) (by decide)
  | missingOption fieldId option =>
    exact first (Target.lead_append (Target.lead_append (Target.lead_append Target.lead_chars _) _) _) (by decide)
  | notLinked fieldId => exact first (Target.lead_append (Target.lead_append Target.lead_chars _) _) (by decide)
  | startPosition function target => exact last rfl
  | oneOccurrence function target => exact last rfl
  | computedThroughLink fieldId target => exact last rfl

end Problem

/-! ## Finished columns -/

namespace GeneratedModule

/-- The getter of a field. -/
def getter? (m : GeneratedModule) (id : String) : Option Getter :=
  (m.getters.find? (·.getter.fieldId == id)).map (·.getter)

/-- The code that a computed field has for the columns of a table: that of an expression in the same view. -/
def columnCode? (m : GeneratedModule) (tableId : String) (g : Field) : Option String :=
  if g.tableId = tableId then (m.getter? g.id).bind (·.body.inlined?) else none

end GeneratedModule

/-- How the columns of a table read a field. -/
def Schema.columnAccess (s : Schema) (m : GeneratedModule) (tableId : String) (r : FieldRef) : FieldAccess :=
  match s.field? r.id with
  | none => .stored r.id
  | some g =>
    if g.isComputed then .inline ((m.columnCode? tableId g).getD "NULL") else .stored (m.options.recordKeys.key g)

section Columns

variable {s : Schema} {m : GeneratedModule} {options : GeneratorOptions} {f g : Field} {tableId : String}

theorem columnCode?_eq_some_iff {x : Getter} (hx : m.getter? g.id = some x) {text : String} :
    m.columnCode? tableId g = some text ↔
      ∃ code, (g.tableId = tableId ∧ x.body = .expression code) ∧ text = "(" ++ code ++ ")" := by
  rw [GeneratedModule.columnCode?, hx]
  cases hb : x.body with
  | expression code =>
    by_cases htable : g.tableId = tableId
    · simp [htable, hb, GetterBody.inlined?, eq_comm]
    · simp [htable]
  | _ => simp [hb, GetterBody.inlined?]

theorem columnAccess_eq_inline (hg : g ∈ s.computedFields) {r : FieldRef} (hr : r.id = g.id) :
    s.columnAccess m tableId r = .inline ((m.columnCode? tableId g).getD "NULL") := by
  obtain ⟨hm, hc⟩ := List.mem_filter.1 hg
  rw [Schema.columnAccess, Schema.field?_eq_some_iff.2 ⟨hm, hr.symm⟩]
  exact if_pos hc

theorem getter?_of_mem_getters {x : GeneratedGetter} (h : x ∈ (generateModule s options).getters) :
    (generateModule s options).getter? x.getter.fieldId = some x.getter := by
  rw [GeneratedModule.getter?, (find?_eq_some_iff_of_nodup nodup_getters).2 ⟨h, rfl⟩, Option.map_some]

/-- The code of a column that is referred to is known in time. -/
theorem lookup_inlinedBy_eq_columnCode? (ht : options.target = .sql) {pre post : List Field} {d : Nat}
    (hc : Section.columns s (ofSchema s).order f.tableId = pre ++ f :: post) (hf : f ∈ s.computedFields)
    (hd : (ofSchema s).order.depth? f.id = some d) (hg : g ∈ s.computedFields) (hr : g.id ∈ f.reads) :
    ((ModuleContext.ofSchema s options).inlinedBy [] pre).lookup g.id =
      (generateModule s options).columnCode? f.tableId g := by
  rw [GeneratedModule.columnCode?]
  split
  · next htable =>
    obtain ⟨e, hlt, he⟩ := exists_depth?_lt (needs_of_mem_reads hf hg hr) hd
    have hm := Section.mem_before_of_depth?_lt hc (Section.mem_columns_iff.2 ⟨hg, htable⟩) he hd hlt
    obtain ⟨a, b, hcg, hlookup⟩ := (ModuleContext.ofSchema s options).exists_lookup_inlinedBy hc hm
    have hgetter := getter?_of_mem_getters (generate_mem_getters ht hcg)
    rw [hlookup]
    exact (congrArg (Option.bind · fun x => x.body.inlined?) hgetter).symm
  · next htable =>
    exact ModuleContext.lookup_inlinedBy_of_not_mem _ (Section.notMem_before (List.mem_filter.1 hg).1 htable hc)

end Columns

/-! ## Formulas -/

/-- The body of the getter of a formula: a stub if a call could not be expressed. -/
def Expression.toBody (e : Expression) : GetterBody :=
  if e.isClean then .expression e.code else .stub ("; ".intercalate (e.warnings.map (·.message)))

namespace ModuleContext

variable {ctx : ModuleContext} {inlined : List (String × String)} {source : Option String} {formula : Formula}

/-- A formula reports a field once if it refers to it and there is no code for it, and not at all else. -/
theorem filter_problems_formulaDraft (ht : ctx.target.inlinesComputed = true) (id : String) :
    (ctx.formulaDraft inlined source formula).problems.filter (·.message == (Problem.notInlined id).message) =
      if id ∈ formula.references ∧ ctx.isNotInlined inlined id = true then [.notInlined id] else [] := by
  have hunresolved (ids : List String) :
      (ids.map Problem.unresolved).filter (·.message == (Problem.notInlined id).message) = [] :=
    List.filter_eq_nil_iff.2 (List.forall_mem_map.2 fun _ _ => by simpa using Problem.message_unresolved_ne)
  have hgeneration (es : List GenerationError) :
      (es.map Problem.generation).filter (·.message == (Problem.notInlined id).message) = [] :=
    List.filter_eq_nil_iff.2 (List.forall_mem_map.2 fun e _ => by simpa using Problem.message_generation_ne e)
  have hnotInlined : (ctx.notInlined inlined (formula.resolve ctx.schema)).filter
      (·.message == (Problem.notInlined id).message) =
      if id ∈ formula.references ∧ ctx.isNotInlined inlined id = true then [.notInlined id] else [] := by
    have hbeq : ((fun p : Problem => p.message == (Problem.notInlined id).message) ∘ Problem.notInlined) =
        (· == id) := by
      funext id'
      rw [Function.comp_apply, Bool.eq_iff_iff, beq_iff_eq, beq_iff_eq, Problem.message_notInlined_inj]
    have hnodup : ((formula.resolve ctx.schema).fieldIds.filter (ctx.isNotInlined inlined)).Nodup :=
      (nodup_eraseDups _).filter _
    rw [notInlined, if_pos ht, List.filter_map, hbeq, List.filter_beq, hnodup.count]
    simp only [List.mem_filter, Formula.fieldIds, List.mem_eraseDups, Formula.references_resolve]
    split <;> rfl
  unfold formulaDraft
  dsimp only
  split
  · rw [List.filter_append, hunresolved, hnotInlined, List.nil_append]
  · rw [List.filter_append, List.filter_append, hunresolved, hnotInlined, hgeneration, List.nil_append, List.append_nil]

theorem body_formulaDraft_eq_toBody : (ctx.formulaDraft inlined source formula).body =
    (ExpressionContext.express ⟨ctx.target, ctx.access inlined, ctx.options.nullSafety⟩
      (formula.resolve ctx.schema)).toBody := by
  unfold formulaDraft Expression.toBody
  dsimp only
  split <;> rfl

/-- The getter of an ordered field whose formula can be read is made of the formula. -/
theorem draft_ofSchema_eq_formulaDraft {s : Schema} {options : GeneratorOptions} {f : Field}
    (ho : f.id ∈ (DependencyGraph.ofSchema s).order.orderedFields) (hp : f.formula? = some (.ok formula)) :
    (ofSchema s options).draft inlined f = (ofSchema s options).formulaDraft inlined f.formulaText? formula := by
  obtain ⟨hcomputed, d, hd⟩ := mem_orderedFields_iff.1 ho
  have hfree : f.id ∉ (DependencyGraph.ofSchema s).order.blocked := fun hb => by
    rw [(mem_blocked_iff.1 hb).2] at hd
    cases hd
  have hcycle : (ofSchema s options).order.cycleOf? f.id = none := cycleOf?_eq_none hcomputed hfree
  have hblocked : (ofSchema s options).order.isBlocked f.id = false := by
    simpa [ofSchema, ComputationOrder.isBlocked] using hfree
  simp only [draft, hcycle, hblocked, Field.computedKind?_of_formula? hp, hp, Bool.false_eq_true, if_false]

end ModuleContext

/-- The column of a formula in a finished module. -/
def Schema.columnBody (s : Schema) (m : GeneratedModule) (tableId : String) (formula : Formula) : GetterBody :=
  (ExpressionContext.express ⟨.sql, s.columnAccess m tableId, m.options.nullSafety⟩ (formula.resolve s)).toBody

section

variable {s : Schema} {options : GeneratorOptions} {tableId : String} {inlined : List (String × String)}
  {formula : Formula} (hi : ∀ g ∈ s.computedFields, g.id ∈ formula.references →
    inlined.lookup g.id = (generateModule s options).columnCode? tableId g)
include hi

theorem access_eq_columnAccess (ht : options.target = .sql) {r : FieldRef} (hr : r.id ∈ formula.references) :
    (ModuleContext.ofSchema s options).access inlined r = s.columnAccess (generateModule s options) tableId r := by
  have htarget : (ModuleContext.ofSchema s options).target = .sql := ht
  rw [ModuleContext.access, Schema.columnAccess, htarget]
  cases hg : s.field? r.id with
  | none => simp only [ModuleContext.ofSchema, hg]
  | some g =>
    obtain ⟨hm, hid⟩ := Schema.field?_eq_some_iff.1 hg
    cases hc : g.isComputed with
    | false =>
      simp only [ModuleContext.ofSchema, hg, hc]
      rfl
    | true =>
      have hlookup := hi g (List.mem_filter.2 ⟨hm, hc⟩) (hid ▸ hr)
      simp only [ModuleContext.ofSchema, hg, hc, hlookup]
      rfl

theorem body_formulaDraft (ht : options.target = .sql) (source : Option String) :
    ((ModuleContext.ofSchema s options).formulaDraft inlined source formula).body =
      s.columnBody (generateModule s options) tableId formula := by
  have htarget : (ModuleContext.ofSchema s options).target = .sql := ht
  rw [ModuleContext.body_formulaDraft_eq_toBody, htarget]
  refine congrArg Expression.toBody (ExpressionContext.express_congr fun r hr => access_eq_columnAccess hi ht ?_)
  exact Formula.references_resolve s formula ▸ hr

theorem isNotInlined_eq {g : Field} (hg : g ∈ s.computedFields) (hr : g.id ∈ formula.references) :
    (ModuleContext.ofSchema s options).isNotInlined inlined g.id =
      ((generateModule s options).columnCode? tableId g).isNone := by
  obtain ⟨hm, hc⟩ := List.mem_filter.1 hg
  have hfield : (ModuleContext.ofSchema s options).schema.field? g.id = some g :=
    Schema.field?_eq_some_iff.2 ⟨hm, rfl⟩
  rw [ModuleContext.isNotInlined, hfield, Option.any_some, hc, hi g hg hr, Bool.true_and]

end

/-! ## Modules -/

section Formulas

variable {s : Schema} {options : GeneratorOptions} {f g : Field} {formula : Formula}

/-- The column of an ordered field is made of its formula and of code that is found in the finished module. -/
theorem exists_generate_eq_formulaDraft (ht : options.target = .sql) (hf : f ∈ s.fields)
    (ho : f.id ∈ (ofSchema s).order.orderedFields) (hp : f.formula? = some (.ok formula)) :
    ∃ inlined, (ModuleContext.ofSchema s options).generate inlined f ∈ (generateModule s options).getters ∧
      (ModuleContext.ofSchema s options).draft inlined f =
        (ModuleContext.ofSchema s options).formulaDraft inlined f.formulaText? formula ∧
      ∀ g ∈ s.computedFields, g.id ∈ formula.references →
        inlined.lookup g.id = (generateModule s options).columnCode? f.tableId g := by
  obtain ⟨hcomputed, d, hd⟩ := mem_orderedFields_iff.1 ho
  have hfc : f ∈ s.computedFields := List.mem_filter.2 ⟨hf, (isComputed_ofSchema hf).symm.trans hcomputed⟩
  obtain ⟨pre, post, hc⟩ := List.append_of_mem (Section.mem_columns_iff (o := (ofSchema s).order).2 ⟨hfc, rfl⟩)
  refine ⟨_, generate_mem_getters ht hc, ModuleContext.draft_ofSchema_eq_formulaDraft ho hp, fun g hg hr => ?_⟩
  refine lookup_inlinedBy_eq_columnCode? ht hc hfc hd hg ?_
  rw [Field.reads_of_formula? hp]
  exact List.mem_eraseDups.2 hr

/-- The column of a formula reports a field that it refers to once if there is no code for it, and not at all else. -/
theorem filter_diagnosticsFor_eq (ht : options.target = .sql) (hf : f ∈ s.fields)
    (ho : f.id ∈ (ofSchema s).order.orderedFields) (hp : f.formula? = some (.ok formula)) (hg : g ∈ s.computedFields)
    (hr : g.id ∈ formula.references) :
    ((generateModule s options).diagnosticsFor f.id).filter (·.message == (Problem.notInlined g.id).message) =
      if ((generateModule s options).columnCode? f.tableId g).isNone = true then [⟨f.id, f.name, .notInlined g.id⟩]
      else [] := by
  obtain ⟨inlined, hmem, hdraft, hcode⟩ := exists_generate_eq_formulaDraft ht hf ho hp
  have hproblems : (generateModule s options).diagnosticsFor f.id =
      ((ModuleContext.ofSchema s options).formulaDraft inlined f.formulaText? formula).problems.map
        (⟨f.id, f.name, ·⟩) := by
    rw [← hdraft]
    exact diagnosticsFor_getter hmem
  have htarget : (ModuleContext.ofSchema s options).target.inlinesComputed = true := by
    rw [ModuleContext.target, ModuleContext.ofSchema, ht]
    rfl
  calc ((generateModule s options).diagnosticsFor f.id).filter (·.message == (Problem.notInlined g.id).message)
    _ = (((ModuleContext.ofSchema s options).formulaDraft inlined f.formulaText? formula).problems.filter
          (·.message == (Problem.notInlined g.id).message)).map (⟨f.id, f.name, ·⟩) := by
      rw [hproblems, List.filter_map]
      rfl
    _ = _ := by
      rw [ModuleContext.filter_problems_formulaDraft htarget, isNotInlined_eq hcode hg hr]
      simp only [hr, true_and]
      split <;> rfl

end Formulas

/-- A column reads and reports the computed fields that its formula refers to as the finished module says. -/
structure InlinesColumns (s : Schema) (m : GeneratedModule) (f : Field) (formula : Formula) : Prop where
  /-- Every computed field has a getter. -/
  getter : ∀ g ∈ s.computedFields, ∃ x, m.getter? g.id = some x
  /-- The column is made of its formula, with fields read as in the finished module, and so it stands in the text. -/
  body : ∃ x, m.getter? f.id = some x ∧ x.body = s.columnBody m f.tableId formula ∧ OccursIn (m.getterText x) m.source ∧
    ∀ code, x.body = .expression code → OccursIn (code ++ " AS " ++ sqlName x.name) (m.getterText x)
  /-- A field of the same table that is an expression is read as the expression in brackets, and it is not reported. -/
  inlined : ∀ g ∈ s.computedFields, g.id ∈ formula.references → ∀ x code, m.getter? g.id = some x →
    g.tableId = f.tableId ∧ x.body = .expression code →
    (∀ r : FieldRef, r.id = g.id → s.columnAccess m f.tableId r = .inline ("(" ++ code ++ ")") ∧
      Target.sql.read (s.columnAccess m f.tableId r) = "(" ++ code ++ ")") ∧
      (m.diagnosticsFor f.id).filter (·.message == (Problem.notInlined g.id).message) = []
  /-- Every other computed field is read as a null, and there is one warning about it. -/
  missing : ∀ g ∈ s.computedFields, g.id ∈ formula.references → ∀ x, m.getter? g.id = some x →
    (¬ ∃ code, g.tableId = f.tableId ∧ x.body = .expression code) →
    (∀ r : FieldRef, r.id = g.id → s.columnAccess m f.tableId r = .inline "NULL" ∧
      Target.sql.read (s.columnAccess m f.tableId r) = "NULL") ∧
      ∃ d, (m.diagnosticsFor f.id).filter (·.message == (Problem.notInlined g.id).message) = [d] ∧
        d.severity = .warning

/-- In SQL the column of every ordered field whose formula can be read holds the code of the expressions of its view
that it refers to, and a null for all other computed fields, each of which is reported once. -/
theorem inlinesColumns_generateModule {s : Schema} {options : GeneratorOptions} (ht : options.target = .sql) {f : Field}
    (hf : f ∈ s.fields) (ho : f.id ∈ (ofSchema s).order.orderedFields) {formula : Formula}
    (hp : f.formula? = some (.ok formula)) : InlinesColumns s (generateModule s options) f formula where
  getter g hg := by
    obtain ⟨x, hx, hid⟩ := List.mem_map.1 (map_fieldId_getters_perm.mem_iff.2 (List.mem_map_of_mem hg))
    exact ⟨x.getter, hid ▸ getter?_of_mem_getters hx⟩
  body := by
    obtain ⟨inlined, hmem, hdraft, hcode⟩ := exists_generate_eq_formulaDraft ht hf ho hp
    refine ⟨_, getter?_of_mem_getters hmem, (congrArg GetterDraft.body hdraft).trans (body_formulaDraft hcode ht _),
      (GeneratedModule.inOrder_source _).occursIn (List.mem_map_of_mem hmem), fun code hbody => ?_⟩
    have htarget : (generateModule s options).options.target = .sql := ht
    rw [GeneratedModule.getterText, htarget]
    exact Target.occursIn_column hbody
  inlined g hg hr x code hx hb := by
    have hcode : (generateModule s options).columnCode? f.tableId g = some ("(" ++ code ++ ")") :=
      (columnCode?_eq_some_iff hx).2 ⟨code, hb, rfl⟩
    refine ⟨fun r hid => ?_, ?_⟩
    · rw [columnAccess_eq_inline hg hid, hcode, Option.getD_some]
      exact ⟨rfl, rfl⟩
    · rw [filter_diagnosticsFor_eq ht hf ho hp hg hr, hcode]
      rfl
  missing g hg hr x hx hb := by
    have hcode : (generateModule s options).columnCode? f.tableId g = none := by
      refine Option.eq_none_iff_forall_ne_some.2 fun text htext => ?_
      obtain ⟨code, hbody, -⟩ := (columnCode?_eq_some_iff hx).1 htext
      exact hb ⟨code, hbody⟩
    refine ⟨fun r hid => ?_, ⟨f.id, f.name, .notInlined g.id⟩, ?_, rfl⟩
    · rw [columnAccess_eq_inline hg hid, hcode, Option.getD_none]
      exact ⟨rfl, rfl⟩
    · rw [filter_diagnosticsFor_eq ht hf ho hp hg hr, hcode]
      rfl

/-- A field that is computed from one of its own table and one of another table. -/
def headedLetterField : Field where
  id := "letter"
  name := "Letter"
  type := .formula
  tableId := "letters"
  options := { formula := some "\x7bgreeting\x7d&\x7bmotto\x7d" }

/-- The formula of `headedLetterField`. -/
def greetingThenMotto : Formula := .binary .concat (.field { id := "greeting" }) (.field { id := "motto" })

/-- Letters, and offices that they come from. -/
def officeSchema : Schema where
  declared := [
    { id := "letters", name := "Letters", fields :=
      [headedLetterField, greetingField, { id := "name", name := "Name", type := .singleLineText }] },
    { id := "offices", name := "Offices", fields :=
      [{ id := "motto", name := "Motto", type := .formula, options := { formula := some "\"Hail\"" } }] }]
  sound := by decide

theorem orderedFields_officeSchema : (ofSchema officeSchema).order.orderedFields = ["greeting", "motto", "letter"] := by
  have ho : (ofSchema officeSchema).order = ⟨[("letter", some 1), ("greeting", some 0), ("motto", some 0)], []⟩ := by
    cbv
  rw [ho]
  decide

theorem inlinesColumns_officeSchema :
    "letter" ∈ (ofSchema officeSchema).order.orderedFields ∧
    headedLetterField.formula? = some (.ok greetingThenMotto) ∧
    InlinesColumns officeSchema (generateModule officeSchema (.forTarget .sql)) headedLetterField
      greetingThenMotto := by
  have ho : "letter" ∈ (ofSchema officeSchema).order.orderedFields := by simp [orderedFields_officeSchema]
  have hp : headedLetterField.formula? = some (.ok greetingThenMotto) := by cbv
  exact ⟨ho, hp, inlinesColumns_generateModule (f := headedLetterField) rfl (by decide) ho hp⟩

end ComputedFields
