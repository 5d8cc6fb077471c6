import ComputedFields.Proofs.Lexing
import ComputedFields.Proofs.Reads
import ComputedFields.Proofs.Sequence
import Mathlib.Data.Option.Basic

/-!
# Errors

Whether a field has an error, and which one, is a matter of the schema and not of the target or other options.

- `Schema.missingOption?`, `Schema.fieldError?`: the error of a field, found without a generator;
- `LinkRead.Ready`: what `LinkRead.ofField` accepts can be written in every target, except that SQL does not read
  computed fields of linked records (`Target.linkBody_eq_error`);
- `ExpressionContext.missing?_of_mem_emit`: what a target has no expression for is no error;
- `ModuleContext.errors_draft`: the errors of a getter are those of its field;
- `errors_generateModule`: so all modules of a schema have the same errors.
-/

namespace ComputedFields

/-! ## The errors of fields -/

namespace Schema

/-- The first setting that a lookup, rollup or count lacks. An aggregation that is not known stands in the way of the
others. -/
def missingOption? (s : Schema) (f : Field) : Option RequiredOption :=
  match LinkRead.kindOf f with
  | .error (.missingOption _ option) => some option
  | .error _ => none
  | .ok kind =>
    let target := if kind = .count then none else f.targetId?.bind s.field?
    if (f.linkId?.bind s.field?).isNone then some .recordLink
    else if kind ≠ .count ∧ target.isNone then some .targetField
    else if (f.linkId?.bind (LinkRead.tableBehind? s · target)).isNone then some .linkedTable
    else none

/-- The error of a field: a cycle, a formula that cannot be read, or a setting that is missing. -/
def fieldError? (s : Schema) (o : ComputationOrder) (f : Field) : Option Problem :=
  match o.cycleOf? f.id with
  | some cycle => some (.cycle cycle)
  | none =>
    if o.isBlocked f.id then some .behindCycle
    else
      match f.computedKind? with
      | none => some .notComputed
      | some .formula =>
        match f.formula? with
        | none => some (.generation (.missingOption f.id .formula))
        | some (.error e) => some (.formula e)
        | some (.ok _) => none
      | some _ => (s.missingOption? f).map fun option => .generation (.missingOption f.id option)

end Schema

/-- The errors among problems. -/
def errorsIn (ps : List Problem) : List Problem := ps.filter (·.severity == .error)

theorem errorsIn_eq_nil {ps : List Problem} (h : ∀ p ∈ ps, p.severity = .warning) : errorsIn ps = [] :=
  List.filter_eq_nil_iff.2 fun p hp => by simp [h p hp]

/-- The error that an error of generation stands for, if it is one. -/
def GenerationError.missing? : GenerationError → Option (String × RequiredOption)
  | .missingOption id option => some (id, option)
  | _ => none

theorem errorsIn_generation (e : GenerationError) :
    errorsIn [.generation e] = (e.missing?.map fun m => Problem.generation (.missingOption m.1 m.2)).toList := by
  cases e <;> rfl

/-! ## Reading through links -/

namespace LinkRead

variable {s : Schema} {keys : RecordKeys} {getterOf : String → Option String} {f : Field}

theorem kindOf_ne_unknown {kind : LinkReadKind} (h : kindOf f = .ok kind) (text : String) :
    kind ≠ .rollup (.unknown text) := by
  rintro rfl
  unfold kindOf at h
  split at h
  · cases h
  · cases h
  · obtain ⟨aggregation, _, h⟩ := bind_eq_ok_iff.1 h
    split at h
    · cases h
    · next hne =>
      cases h
      exact hne text rfl
  · cases h

/-- What a link read needs to be written: a known aggregation, and a target unless it is a count. -/
structure Ready (r : LinkRead) : Prop where
  known : ∀ text, r.kind ≠ .rollup (.unknown text)
  target : r.kind ≠ .count → ∃ read, r.read = some read

theorem ready_ofField {r : LinkRead} (h : ofField s keys getterOf f = .ok r) : r.Ready := by
  obtain ⟨target, hk, ht, hr⟩ := read_ofField h
  refine ⟨kindOf_ne_unknown hk, fun hne => ?_⟩
  cases target with
  | none => exact absurd (targetOf_eq_ok_none ht) hne
  | some t =>
    obtain ⟨read, _, hr⟩ := hr
    exact ⟨read, hr⟩

/-- An error about the kind of a field names the field. -/
theorem missing?_kindOf {e : GenerationError} (h : kindOf f = .error e) :
    e.missing? = (s.missingOption? f).map (f.id, ·) := by
  have hm : ∀ id option, e = .missingOption id option → id = f.id := by
    rintro id option rfl
    unfold kindOf at h
    split at h
    · cases h
    · cases h
    · cases ha : f.aggregation? with
      | none =>
        rw [ha] at h
        cases h
        rfl
      | some aggregation =>
        rw [ha] at h
        cases aggregation <;> cases h
    · cases h
  rw [Schema.missingOption?, h]
  cases e with
  | missingOption id option =>
    rw [hm id option rfl]
    rfl
  | _ => rfl

theorem targetOf_of_ne_count {kind : LinkReadKind} (h : kind ≠ .count) :
    targetOf s f kind = (require f .targetField (f.targetId?.bind s.field?)).map some := by
  cases kind with
  | count => exact absurd rfl h
  | _ => rfl

/-- A target of a schema can be read, since computed fields have getters. -/
theorem exists_targetRead (hg : ∀ t ∈ s.computedFields, ∃ name, getterOf t.id = some name) (keys : RecordKeys)
    (f : Field) {t : Field} (ht : t ∈ s.fields) : ∃ read, targetRead keys getterOf f t = .ok read := by
  unfold targetRead
  split
  · next hc =>
    obtain ⟨name, hname⟩ := hg t (List.mem_filter.2 ⟨ht, hc⟩)
    rw [hname]
    exact ⟨_, rfl⟩
  · exact ⟨_, rfl⟩

/-- A generator misses the setting that a field lacks, and no other. -/
theorem missing?_ofField (hg : ∀ t ∈ s.computedFields, ∃ name, getterOf t.id = some name) (keys : RecordKeys)
    (f : Field) :
    match ofField s keys getterOf f with
    | .ok _ => s.missingOption? f = none
    | .error e => e.missing? = (s.missingOption? f).map (f.id, ·) := by
  unfold ofField
  cases hk : kindOf f with
  | error e => exact missing?_kindOf hk
  | ok kind =>
    rw [Schema.missingOption?, hk]
    cases hl : f.linkId? with
    | none => rfl
    | some linkId =>
      cases hf : s.field? linkId with
      | none => simp [hf, require, bind, Except.bind, GenerationError.missing?]
      | some link =>
        by_cases hc : kind = .count
        · subst hc
          cases ht : tableBehind? s linkId none <;>
            simp [hf, ht, require, targetOf, bind, Except.bind, pure, Except.pure, GenerationError.missing?]
        · cases htarget : f.targetId?.bind s.field? with
          | none =>
            simp [hf, hc, htarget, targetOf_of_ne_count, require, bind, Except.bind, Except.map,
              GenerationError.missing?]
          | some t =>
            have hmem : t ∈ s.fields := by
              obtain ⟨id, _, hid⟩ := Option.bind_eq_some_iff.1 htarget
              exact (Schema.field?_eq_some_iff.1 hid).1
            obtain ⟨read, hread⟩ := exists_targetRead hg keys f hmem
            cases ht : tableBehind? s linkId (some t) <;>
              simp [hf, hc, ht, htarget, hread, targetOf_of_ne_count, require, bind, Except.bind, Except.map, pure,
                Except.pure, GenerationError.missing?]

end LinkRead

/-! ## Bodies -/

namespace LinkRead

variable {r : LinkRead}

theorem Ready.exists_target (hr : r.Ready) (hne : r.kind ≠ .count) : ∃ read, r.target = .ok read := by
  obtain ⟨read, h⟩ := hr.target hne
  exact ⟨read, by rw [LinkRead.target, h]⟩

/-- All targets have code for the aggregations that are known. -/
theorem exists_aggregate {a : Aggregation} (ha : ∀ text, a ≠ .unknown text) (value : String) :
    (∃ code, pythonAggregate a = .ok code) ∧ (∃ code, javascriptAggregate a = .ok code) ∧
      ∃ code, sqlAggregate value a = .ok code := by
  cases a with
  | unknown text => exact absurd rfl (ha text)
  | _ => exact ⟨⟨_, rfl⟩, ⟨_, rfl⟩, ⟨_, rfl⟩⟩

theorem Ready.exists_aggregated (hr : r.Ready) {aggregate : Aggregation → Except GenerationError String}
    (ha : ∀ a, (∀ text, a ≠ .unknown text) → ∃ code, aggregate a = .ok code) :
    ∃ code, aggregated aggregate r.kind = .ok code := by
  cases hk : r.kind with
  | rollup a => exact ha a fun text he => hr.known text (by rw [hk, he])
  | _ => exact ⟨_, rfl⟩

theorem Ready.exists_pythonLinkLines (hr : r.Ready) (nullSafety : Bool) :
    ∃ lines, pythonLinkLines r nullSafety = .ok lines := by
  unfold pythonLinkLines
  by_cases hc : r.kind = .count
  · exact ⟨_, by rw [if_pos hc]; rfl⟩
  · obtain ⟨read, hread⟩ := hr.exists_target hc
    obtain ⟨code, hcode⟩ := hr.exists_aggregated fun a ha => (exists_aggregate ha "").1
    cases r.fetchesOne <;> simp [hc, hread, hcode, bind, Except.bind, pure, Except.pure]

theorem Ready.exists_javascriptLinkLines (hr : r.Ready) (nullSafety : Bool) :
    ∃ lines, javascriptLinkLines r nullSafety = .ok lines := by
  unfold javascriptLinkLines
  by_cases hc : r.kind = .count
  · exact ⟨_, by rw [if_pos hc]; rfl⟩
  · obtain ⟨read, hread⟩ := hr.exists_target hc
    obtain ⟨code, hcode⟩ := hr.exists_aggregated fun a ha => (exists_aggregate ha "").2.1
    cases r.fetchesOne <;> simp [hc, hread, hcode, bind, Except.bind, pure, Except.pure]

/-- SQL has no code for a computed target, and for nothing else. -/
theorem Ready.sqlLinkExpression_eq_error (hr : r.Ready) {e : GenerationError} (h : sqlLinkExpression r = .error e) :
    ∃ id, e = .computedThroughLink id .sql := by
  unfold sqlLinkExpression at h
  cases hk : r.kind with
  | count =>
    rw [hk] at h
    cases h
  | lookup =>
    obtain ⟨read, hread⟩ := hr.exists_target (by simp [hk])
    cases read with
    | computed id getter =>
      simp only [hk, hread] at h
      cases h
      exact ⟨id, rfl⟩
    | stored key =>
      cases hs : r.isSingle <;> simp [hk, hread, hs, sqlTarget, bind, Except.bind, pure, Except.pure] at h
  | rollup a =>
    obtain ⟨read, hread⟩ := hr.exists_target (by simp [hk])
    cases read with
    | computed id getter =>
      simp only [hk, hread] at h
      cases h
      exact ⟨id, rfl⟩
    | stored key =>
      have ha (text : String) : a ≠ .unknown text := fun he => hr.known text (by rw [hk, he])
      obtain ⟨_, _, code, hcode⟩ := exists_aggregate ha ("l." ++ sqlName key)
      simp [hk, hread, sqlTarget, hcode, bind, Except.bind, pure, Except.pure] at h

end LinkRead

/-- The only thing that a target cannot do with a link read that is ready is to read computed fields in SQL. -/
theorem Target.linkBody_eq_error {t : Target} {r : LinkRead} (hr : r.Ready) {nullSafety : Bool} {e : GenerationError}
    (h : t.linkBody r nullSafety = .error e) : ∃ id, e = .computedThroughLink id .sql := by
  cases t with
  | python =>
    obtain ⟨lines, hl⟩ := hr.exists_pythonLinkLines nullSafety
    rw [linkBody, hl] at h
    cases h
  | javascript =>
    obtain ⟨lines, hl⟩ := hr.exists_javascriptLinkLines nullSafety
    rw [linkBody, hl] at h
    cases h
  | sql =>
    cases hs : sqlLinkExpression r with
    | ok code =>
      rw [linkBody, hs] at h
      cases h
    | error e' =>
      rw [linkBody, hs] at h
      cases h
      exact hr.sqlLinkExpression_eq_error hs

/-! ## Expressions -/

namespace Target

theorem missing?_of_refusal? {t : Target} {b : Builtin} {count : Nat} {e : GenerationError}
    (h : t.refusal? b count = some e) : e.missing? = none := by
  unfold refusal? at h
  split at h <;> cases h <;> rfl

theorem missing?_of_call {t : Target} {name : String} {args : List Fragment} {e : GenerationError}
    (h : t.call name args = .error e) : e.missing? = none := by
  have hs : t.supports name args.length = .error e := by
    cases hs : t.supports name args.length with
    | ok b =>
      rw [call, hs] at h
      cases h
    | error e' =>
      rw [call, hs] at h
      cases h
      rfl
  unfold supports at hs
  split at hs
  · cases hs
    rfl
  · split at hs
    · split at hs
      · next hr =>
        cases hs
        exact missing?_of_refusal? hr
      · cases hs
    · cases hs
      rfl

end Target

namespace ExpressionContext

variable (ctx : ExpressionContext)

mutual

/-- What a target has no expression for is no missing setting. -/
theorem missing?_of_mem_emit : (f : Formula) → ∀ e ∈ (ctx.emit f).2, e.missing? = none
  | .literal _ => nofun
  | .field _ => nofun
  | .call name args => by
    intro e he
    rw [emit] at he
    rcases List.mem_append.1 he with he | he
    · exact missing?_of_mem_emitAll args e he
    · unfold callFragment at he
      split at he
      · cases he
      · next hc =>
        rw [List.mem_singleton.1 he]
        exact Target.missing?_of_call hc
  | .binary _ left right => by
    intro e he
    rw [emit] at he
    rcases List.mem_append.1 he with he | he
    · exact missing?_of_mem_emit left e he
    · exact missing?_of_mem_emit right e he
  | .unary _ operand => by
    intro e he
    rw [emit] at he
    exact missing?_of_mem_emit operand e he

theorem missing?_of_mem_emitAll : (fs : List Formula) → ∀ e ∈ (ctx.emitAll fs).2, e.missing? = none
  | [] => nofun
  | f :: fs => by
    intro e he
    rw [emitAll] at he
    rcases List.mem_append.1 he with he | he
    · exact missing?_of_mem_emit f e he
    · exact missing?_of_mem_emitAll fs e he

end

end ExpressionContext

/-! ## Getters -/

theorem severity_generation {e : GenerationError} (h : e.missing? = none) :
    (Problem.generation e).severity = .warning := by
  cases e with
  | missingOption id option => cases h
  | _ => rfl

namespace ModuleContext

/-- A formula that can be read causes no error. -/
theorem errors_formulaDraft (ctx : ModuleContext) (inlined : List (String × String)) (source : Option String)
    (formula : Formula) : errorsIn (ctx.formulaDraft inlined source formula).problems = [] := by
  have hmet : ∀ p ∈ (formula.resolve ctx.schema).unresolvedIds.map Problem.unresolved ++
      ctx.notInlined inlined (formula.resolve ctx.schema), p.severity = .warning := by
    refine List.forall_mem_append.2 ⟨List.forall_mem_map.2 fun _ _ => rfl, ?_⟩
    unfold notInlined
    split
    · exact List.forall_mem_map.2 fun _ _ => rfl
    · exact List.forall_mem_nil _
  unfold formulaDraft
  dsimp only
  split
  · exact errorsIn_eq_nil hmet
  · refine errorsIn_eq_nil (List.forall_mem_append.2 ⟨hmet, List.forall_mem_map.2 fun e he => ?_⟩)
    exact severity_generation (ExpressionContext.missing?_of_mem_emit _ _ e he)

variable {s : Schema} {options : GeneratorOptions}

theorem linkDraft_ofSchema (f : Field) : (ofSchema s options).linkDraft f =
    match LinkRead.ofField s options.recordKeys (ModuleNames.ofSchema s options).getter? f with
    | .ok r =>
      match options.target.linkBody r options.nullSafety with
      | .ok body => ⟨some r.description, body, []⟩
      | .error e => .stub none (.generation e)
    | .error e => .stub none (.generation e) := by
  unfold linkDraft
  dsimp only [ofSchema, target]
  cases LinkRead.ofField s options.recordKeys (ModuleNames.ofSchema s options).getter? f with
  | error e => rfl
  | ok r =>
    simp only [bind, Except.bind]
    cases options.target.linkBody r options.nullSafety <;> rfl

/-- The error of a field that reads through a link is the setting that it lacks. -/
theorem errors_linkDraft (f : Field) : errorsIn ((ofSchema s options).linkDraft f).problems =
    ((s.missingOption? f).map fun option => Problem.generation (.missingOption f.id option)).toList := by
  have hg (t : Field) (ht : t ∈ s.computedFields) := exists_getter? options ht
  have hm := LinkRead.missing?_ofField hg options.recordKeys f
  rw [linkDraft_ofSchema]
  cases hr : LinkRead.ofField s options.recordKeys (ModuleNames.ofSchema s options).getter? f with
  | error e =>
    rw [hr] at hm
    dsimp only [GetterDraft.stub] at hm ⊢
    rw [errorsIn_generation, hm, Option.map_map]
    rfl
  | ok r =>
    rw [hr] at hm
    dsimp only at hm ⊢
    rw [hm]
    cases hb : options.target.linkBody r options.nullSafety with
    | ok body => rfl
    | error e =>
      obtain ⟨id, rfl⟩ := Target.linkBody_eq_error (LinkRead.ready_ofField hr) hb
      rfl

/-- The error of a getter is that of its field. -/
theorem errors_draft (s : Schema) (options : GeneratorOptions) (inlined : List (String × String)) (f : Field) :
    errorsIn ((ofSchema s options).draft inlined f).problems =
      (s.fieldError? (DependencyGraph.ofSchema s).order f).toList := by
  have ho : (ofSchema s options).order = (DependencyGraph.ofSchema s).order := rfl
  unfold draft Schema.fieldError?
  rw [ho]
  cases (DependencyGraph.ofSchema s).order.cycleOf? f.id with
  | some cycle => rfl
  | none =>
    cases (DependencyGraph.ofSchema s).order.isBlocked f.id with
    | true => rfl
    | false =>
      cases f.computedKind? with
      | none => rfl
      | some kind =>
        cases kind with
        | formula =>
          cases f.formula? with
          | none => rfl
          | some r =>
            cases r with
            | error e => rfl
            | ok formula => exact errors_formulaDraft _ _ _ _
        | _ => exact errors_linkDraft f

end ModuleContext

/-! ## Modules -/

/-- The errors of a module: ids of fields and messages. -/
def GeneratedModule.errors (m : GeneratedModule) : List (String × String) :=
  (m.diagnostics.filter (·.severity == .error)).map fun d => (d.fieldId, d.message)

/-- The errors of a field: its id and a message, if there is one. -/
def Schema.errorsOf (s : Schema) (f : Field) : List (String × String) :=
  (s.fieldError? (DependencyGraph.ofSchema s).order f).toList.map fun p => (f.id, p.message)

theorem GeneratedModule.errors_eq (m : GeneratedModule) :
    m.errors = m.getters.flatMap fun g => (errorsIn g.problems).map fun p => (g.getter.fieldId, p.message) := by
  unfold errors diagnostics
  rw [List.filter_flatMap, List.map_flatMap]
  simp only [List.filter_map, List.map_map]
  rfl

theorem ModuleContext.errors_generateAll {s : Schema} {options : GeneratorOptions} (inlined : List (String × String))
    (fs : List Field) :
    ((ofSchema s options).generateAll inlined fs).flatMap
      (fun g => (errorsIn g.problems).map fun p => (g.getter.fieldId, p.message)) = fs.flatMap s.errorsOf := by
  induction fs generalizing inlined with
  | nil => rfl
  | cons f fs ih =>
    rw [generateAll, List.flatMap_cons, List.flatMap_cons, ih]
    congr 1
    show (errorsIn ((ofSchema s options).draft inlined f).problems).map _ = _
    rw [errors_draft]
    rfl

/-- The errors of a module are those of the computed fields, one after the other in some order. -/
theorem errors_perm (s : Schema) (options : GeneratorOptions) :
    (generateModule s options).errors.Perm (s.computedFields.flatMap s.errorsOf) := by
  have he : (generateModule s options).errors =
      ((Section.sorted s (DependencyGraph.ofSchema s).order options.target.groupsByTable).map (·.field)).flatMap
        s.errorsOf := by
    calc (generateModule s options).errors
      _ = (Section.ofSchema s (DependencyGraph.ofSchema s).order options.target).flatMap fun x =>
            ((ModuleContext.ofSchema s options).generateAll [] x.fields).flatMap
              fun g => (errorsIn g.problems).map fun p => (g.getter.fieldId, p.message) := by
        rw [GeneratedModule.errors_eq, GeneratedModule.getters, ← List.flatMap_assoc]
        congr 1
        exact List.flatMap_map _ _ _
      _ = ((Section.ofSchema s (DependencyGraph.ofSchema s).order options.target).flatMap (·.fields)).flatMap
            s.errorsOf := by
        simp only [ModuleContext.errors_generateAll, List.flatMap_assoc]
      _ = _ := by rw [Section.ofSchema, Section.flatMap_fields_ofPlacements]
  rw [he]
  exact Section.map_field_sorted_perm.flatMap_right _

theorem GeneratedModule.hasErrors_eq (m : GeneratedModule) : m.hasErrors = !m.errors.isEmpty := by
  rw [Bool.eq_iff_iff]
  simp [hasErrors, errors, List.any_eq_true, List.filter_eq_nil_iff]

/-- The modules of a schema have the same errors, whatever the options: those that can be found in the schema. What a
target cannot do with the fields behind a link is no error, and no setting is found to be missing or unknown when the
code is written. -/
theorem errors_generateModule (s : Schema) (options options' : GeneratorOptions) :
    (generateModule s options).errors.Perm (generateModule s options').errors ∧
    (generateModule s options).hasErrors = (generateModule s options').hasErrors ∧
    (∀ id message, (id, message) ∈ (generateModule s options).errors ↔
      ∃ f ∈ s.computedFields, f.id = id ∧
        ∃ p, s.fieldError? (DependencyGraph.ofSchema s).order f = some p ∧ p.message = message) ∧
    ∀ keys getterOf f r, LinkRead.ofField s keys getterOf f = .ok r →
      ∀ (t : Target) nullSafety e, t.linkBody r nullSafety = .error e →
        (∀ id option, e ≠ .missingOption id option) ∧ ∀ text, e ≠ .unsupportedAggregation text := by
  have hperm := (errors_perm s options).trans (errors_perm s options').symm
  refine ⟨hperm, ?_, fun id message => ?_, fun keys getterOf f r hr t nullSafety e h => ?_⟩
  · rw [GeneratedModule.hasErrors_eq, GeneratedModule.hasErrors_eq, hperm.isEmpty_eq]
  · rw [(errors_perm s options).mem_iff, List.mem_flatMap]
    simp [Schema.errorsOf, and_left_comm]
  · obtain ⟨id, rfl⟩ := Target.linkBody_eq_error (LinkRead.ready_ofField hr) h
    exact ⟨nofun, nofun⟩

/-- The salutation of a person, which is computed. -/
def salutationField : Field where
  id := "salutation"
  name := "Salutation"
  type := .formula
  tableId := "people"
  options := { formula := some "\x7bname\x7d" }

/-- The salutations of the readers of a letter. -/
def salutationsField : Field where
  id := "salutations"
  name := "Salutations"
  type := .multipleLookupValues
  tableId := "letters"
  options := { recordLinkFieldId := some "readers", fieldIdInLinkedTable := some "salutation" }

/-- The names of the readers of a letter, but it is not said how to put them together. -/
def readerNamesField : Field where
  id := "readerNames"
  name := "Reader Names"
  type := .rollup
  tableId := "letters"
  options := { recordLinkFieldId := some "readers", fieldIdInLinkedTable := some "name" }

/-- Letters and their readers. -/
def readerSchema : Schema where
  declared := [
    { id := "letters", name := "Letters", fields := [
      { id := "readers", name := "Readers", type := .multipleRecordLinks,
        options := { linkedTableId := some "people" } },
      salutationsField, readerNamesField] },
    { id := "people", name := "People", fields := [
      { id := "name", name := "Name", type := .singleLineText }, salutationField] }]
  sound := by decide

namespace DependencyGraph

theorem order_readerSchema : (ofSchema readerSchema).order =
    ⟨[("salutations", some 1), ("readerNames", some 0), ("salutation", some 0)], []⟩ := by
  have hids : (ofSchema readerSchema).computedIds = ["salutations", "readerNames", "salutation"] := by decide
  have hsalutations : (ofSchema readerSchema).computedDependencies "salutations" = ["salutation"] :=
    (computedDependencies_ofSchema (s := readerSchema) (f := salutationsField) (by decide)).trans (by decide)
  have hnames : (ofSchema readerSchema).computedDependencies "readerNames" = [] :=
    (computedDependencies_ofSchema (s := readerSchema) (f := readerNamesField) (by decide)).trans (by decide)
  have hname := parse_reference ['n', 'a', 'm', 'e'] rfl
  have hsalutation : (ofSchema readerSchema).computedDependencies "salutation" = [] :=
    (computedDependencies_of_parse rfl rfl rfl hname).trans (by decide)
  simp [order, walk, hids, visitAll, visit, hsalutations, hnames, hsalutation, deeper, List.lookup_cons]

end DependencyGraph

/-- How the salutations of readers are read. -/
def salutationsRead : LinkRead :=
  ⟨"salutations", .lookup, "readers", "people", "people", false, some (.computed "salutation" "salutation")⟩

/-- A missing setting is an error in every target; a lookup that SQL cannot express is none. -/
theorem errors_generateModule_readerSchema :
    ("readerNames", "Field readerNames is missing option aggregation") ∈
      (generateModule readerSchema { target := .python }).errors ∧
    (generateModule readerSchema { target := .python }).hasErrors =
      (generateModule readerSchema { target := .sql }).hasErrors ∧
    LinkRead.ofField readerSchema .fieldId some salutationsField = .ok salutationsRead ∧
    Target.sql.linkBody salutationsRead true = .error (.computedThroughLink "salutation" .sql) ∧
    ∀ text, GenerationError.computedThroughLink "salutation" .sql ≠ .unsupportedAggregation text := by
  have hr : LinkRead.ofField readerSchema .fieldId some salutationsField = .ok salutationsRead := rfl
  have hb : Target.sql.linkBody salutationsRead true = .error (.computedThroughLink "salutation" .sql) := rfl
  obtain ⟨_, herrors, hmem, hbody⟩ := errors_generateModule readerSchema { target := .python } { target := .sql }
  have herror : readerSchema.fieldError? (DependencyGraph.ofSchema readerSchema).order readerNamesField =
      some (.generation (.missingOption "readerNames" .aggregation)) := by
    rw [DependencyGraph.order_readerSchema]
    rfl
  exact ⟨(hmem _ _).2 ⟨readerNamesField, by decide, rfl, _, herror, rfl⟩, herrors, hr, hb,
    (hbody _ _ _ _ hr _ _ _ hb).2⟩

end ComputedFields
