import ComputedFields.Proofs.Downstream
import ComputedFields.Module.Generation

/-!
# What getters read

- `Field.reads`: the fields whose values the getter of a field asks for; they feed the field (`feeds_of_mem_reads`),
  which needs the computed ones among them (`needs_of_mem_reads`);
- `exists_getter?`: every computed field has a getter;
- `LinkRead.read_eq_computed_iff`, `LinkRead.ofField_congr`: what is read through a link is read by a call exactly if it
  is computed, and the names of other getters do not matter;
- `ModuleContext.body_draft`, `ModuleContext.body_linkDraft`: a getter is a stub, or it is made of a formula or of a
  link read;
- `ExpressionContext.express_congr`: the code of a formula depends on how its own references are read.
-/

namespace ComputedFields

open DependencyGraph

/-! ## Fields -/

theorem Field.type_eq_formula {f : Field} {r : Except FormulaError Formula} (h : f.formula? = some r) :
    f.type = .formula := by
  obtain ⟨text, ht, _⟩ := Option.map_eq_some_iff.1 h
  exact type_of_formulaText? ht

/-- The fields whose values a getter asks for: those that its formula refers to, or the target of its link. The link
itself is taken from the record. -/
def Field.reads (f : Field) : List String :=
  match f.computedKind? with
  | some .formula =>
    match f.formula? with
    | some (.ok formula) => formula.fieldIds
    | _ => []
  | some .lookup => f.targetId?.toList
  | some .rollup => f.targetId?.toList
  | _ => []

theorem Field.computedKind?_of_formula? {f : Field} {r : Except FormulaError Formula} (h : f.formula? = some r) :
    f.computedKind? = some .formula := by
  rw [computedKind?, type_eq_formula h]
  rfl

/-- A formula that can be read asks for the fields that it refers to. -/
theorem Field.reads_of_formula? {f : Field} {formula : Formula} (h : f.formula? = some (.ok formula)) :
    f.reads = formula.fieldIds := by
  simp only [reads, computedKind?_of_formula? h, h]

/-- What is read is mentioned in a way that orders computation. -/
theorem exists_mention_of_mem_reads {f : Field} {id : String} (h : id ∈ f.reads) :
    ∃ kind, (id, kind) ∈ f.mentions ∧ kind.isHierarchical = true := by
  unfold Field.reads at h
  unfold Field.mentions
  split at h
  · next hk =>
    split at h
    · next formula hf =>
      refine ⟨.formulaRef, ?_, rfl⟩
      simp only [hk, Field.formulaReferences, hf]
      exact List.mem_map_of_mem h
    · cases h
  · next hk =>
    refine ⟨.lookup, ?_, rfl⟩
    simp only [hk]
    exact List.mem_append_right _ (List.mem_map_of_mem h)
  · next hk =>
    refine ⟨.rollup, ?_, rfl⟩
    simp only [hk]
    exact List.mem_append_right _ (List.mem_map_of_mem h)
  · cases h

/-- Every known field that a computed field reads feeds it. -/
theorem feeds_of_mem_reads {s : Schema} {f t : Field} (hf : f ∈ s.computedFields) (ht : t ∈ s.fields)
    (h : t.id ∈ f.reads) : (ofSchema s).Feeds t.id f.id :=
  feeds_ofSchema_iff.2 ⟨f, hf, rfl, ⟨t, ht, rfl⟩, exists_mention_of_mem_reads h⟩

/-- A field needs the computed fields that it reads. -/
theorem needs_of_mem_reads {s : Schema} {f g : Field} (hf : f ∈ s.computedFields) (hg : g ∈ s.computedFields)
    (h : g.id ∈ f.reads) : (ofSchema s).Needs f.id g.id :=
  needs_iff_feeds.2 ⟨isComputed_ofSchema_iff.2 ⟨f, hf, rfl⟩, isComputed_ofSchema_iff.2 ⟨g, hg, rfl⟩,
    feeds_of_mem_reads hf (List.mem_filter.1 hg).1 h⟩

/-! ## Names -/

theorem map_fst_allocateAll (a : Allocator) (l : List (String × List String)) :
    (a.allocateAll l).map (·.1) = l.map (·.1) := by
  induction l generalizing a with
  | nil => rfl
  | cons p l ih => rw [Allocator.allocateAll, List.map_cons, ih, List.map_cons]

theorem map_fst_functionNames (a : Allocator) (s : Schema) :
    (ModuleNames.functionNames a s.tables).map (·.1) = s.computedFields.map (·.id) := by
  rw [ModuleNames.functionNames, map_fst_allocateAll, Schema.computedFields, Schema.fields, List.filter_flatMap,
    List.map_flatMap, List.map_flatMap]
  simp only [List.map_map, Function.comp_def, ModuleNames.computedIn]

theorem map_fst_columnNames (a : Allocator) (keys : RecordKeys) (s : Schema) :
    (s.tables.flatMap (ModuleNames.columnNames a keys)).map (·.1) = s.computedFields.map (·.id) := by
  rw [Schema.computedFields, Schema.fields, List.filter_flatMap, List.map_flatMap, List.map_flatMap]
  simp only [ModuleNames.columnNames, map_fst_allocateAll, List.map_map, Function.comp_def, ModuleNames.computedIn]

theorem map_fst_getters (s : Schema) (options : GeneratorOptions) :
    (ModuleNames.ofSchema s options).getters.map (·.1) = s.computedFields.map (·.id) := by
  unfold ModuleNames.ofSchema
  cases options.target with
  | sql => exact map_fst_columnNames _ _ s
  | _ => exact map_fst_functionNames _ s

/-- Every computed field has a getter. -/
theorem exists_getter? {s : Schema} (options : GeneratorOptions) {f : Field} (hf : f ∈ s.computedFields) :
    ∃ name, (ModuleNames.ofSchema s options).getter? f.id = some name := by
  have hm : f.id ∈ (ModuleNames.ofSchema s options).getters.map (·.1) := by
    rw [map_fst_getters]
    exact List.mem_map_of_mem hf
  obtain ⟨p, hp, he⟩ := List.mem_map.1 hm
  exact Option.isSome_iff_exists.1 (List.lookup_isSome_iff.2 ⟨p, hp, by simpa using he.symm⟩)

/-! ## Reading through links -/

theorem bind_eq_ok_iff {ε α β : Type} {x : Except ε α} {k : α → Except ε β} {b : β} :
    x >>= k = .ok b ↔ ∃ a, x = .ok a ∧ k a = .ok b := by
  cases x with
  | error e => exact ⟨nofun, nofun⟩
  | ok a => exact ⟨fun h => ⟨a, rfl, h⟩, fun ⟨_, ha, h⟩ => by cases ha; exact h⟩

theorem map_eq_ok_iff {ε α β : Type} {x : Except ε α} {k : α → β} {b : β} :
    x.map k = .ok b ↔ ∃ a, x = .ok a ∧ k a = b := by
  cases x with
  | error e => exact ⟨nofun, nofun⟩
  | ok a => exact ⟨fun h => ⟨a, rfl, Except.ok.inj h⟩, fun ⟨_, ha, h⟩ => by cases ha; exact congrArg _ h⟩

theorem bind_congr_ok {ε α β : Type} {x : Except ε α} {k k' : α → Except ε β} (h : ∀ a, x = .ok a → k a = k' a) :
    x >>= k = x >>= k' := by
  cases x with
  | error e => rfl
  | ok a => exact h a rfl

namespace LinkRead

variable {s : Schema} {keys : RecordKeys} {getterOf getterOf' : String → Option String} {f : Field}

theorem targetOf_eq_ok_some {kind : LinkReadKind} {t : Field} (h : targetOf s f kind = .ok (some t)) :
    kind ≠ .count ∧ f.targetId?.bind s.field? = some t := by
  cases kind with
  | count => cases h
  | _ =>
    refine ⟨nofun, ?_⟩
    cases ht : f.targetId?.bind s.field? with
    | none => simp [targetOf, ht, require, Except.map] at h
    | some t' => simpa [targetOf, ht, require, Except.map] using h

theorem targetOf_eq_ok_none {kind : LinkReadKind} (h : targetOf s f kind = .ok none) : kind = .count := by
  cases kind with
  | count => rfl
  | _ => cases ht : f.targetId?.bind s.field? <;> simp [targetOf, ht, require, Except.map] at h

/-- Counts read no field, lookups and rollups their target. -/
theorem reads_of_kindOf {kind : LinkReadKind} (h : kindOf f = .ok kind) :
    f.reads = if kind = .count then [] else f.targetId?.toList := by
  unfold kindOf at h
  unfold Field.reads
  split at h
  · next hk =>
    cases h
    simp only [hk]
    rfl
  · next hk =>
    cases h
    simp only [hk]
    rfl
  · next hk =>
    obtain ⟨aggregation, _, h⟩ := bind_eq_ok_iff.1 h
    have hne : kind ≠ .count := by
      rintro rfl
      split at h <;> cases h
    simp only [hk, if_neg hne]
  · cases h

theorem targetRead_eq_ok {t : Field} {read : TargetRead} (h : targetRead keys getterOf f t = .ok read) :
    (t.isComputed = true ∧ ∃ name, getterOf t.id = some name ∧ read = .computed t.id name) ∨
      (t.isComputed = false ∧ read = .stored (keys.key t)) := by
  unfold targetRead at h
  split at h
  · next hc =>
    cases hg : getterOf t.id with
    | none =>
      rw [hg] at h
      cases h
    | some name =>
      rw [hg] at h
      cases h
      exact .inl ⟨hc, name, rfl, rfl⟩
  · next hc =>
    cases h
    exact .inr ⟨by simpa using hc, rfl⟩

/-- The target of a link is the field that is read. -/
theorem mem_reads_of_targetOf {kind : LinkReadKind} {t : Field} (hk : kindOf f = .ok kind)
    (h : targetOf s f kind = .ok (some t)) : t ∈ s.fields ∧ f.reads = [t.id] := by
  obtain ⟨hne, hb⟩ := targetOf_eq_ok_some h
  obtain ⟨tid, htid, hfield⟩ := Option.bind_eq_some_iff.1 hb
  obtain ⟨hmem, rfl⟩ := Schema.field?_eq_some_iff.1 hfield
  rw [reads_of_kindOf hk, if_neg hne, htid]
  exact ⟨hmem, rfl⟩

theorem require_eq_ok_iff {α : Type} {option : RequiredOption} {v : Option α} {a : α} :
    require f option v = .ok a ↔ v = some a := by
  cases v <;> simp [require]

/-- What a link read is made of: the kind and the target of its field, and the table behind the link. -/
theorem exists_of_ofField {r : LinkRead} (h : ofField s keys getterOf f = .ok r) :
    ∃ linkId target t, kindOf f = .ok r.kind ∧ f.linkId? = some linkId ∧ targetOf s f r.kind = .ok target ∧
      tableBehind? s linkId target = some t ∧ r.tableId = t.id ∧ r.tableKey = keys.tableKey t ∧
      match target with
      | some g => ∃ read, targetRead keys getterOf f g = .ok read ∧ r.read = some read
      | none => r.read = none := by
  unfold ofField at h
  obtain ⟨kind, hk, h⟩ := bind_eq_ok_iff.1 h
  obtain ⟨linkId, hlink, h⟩ := bind_eq_ok_iff.1 h
  obtain ⟨link, _, h⟩ := bind_eq_ok_iff.1 h
  obtain ⟨target, ht, h⟩ := bind_eq_ok_iff.1 h
  obtain ⟨t, htable, h⟩ := bind_eq_ok_iff.1 h
  refine ⟨linkId, target, t, ?_⟩
  rw [require_eq_ok_iff] at hlink htable
  cases target with
  | none =>
    cases h
    exact ⟨hk, hlink, ht, htable, rfl, rfl, rfl⟩
  | some g =>
    obtain ⟨read, hr, h⟩ := bind_eq_ok_iff.1 h
    cases h
    cases hread : targetRead keys getterOf f g with
    | error e =>
      rw [hread] at hr
      cases hr
    | ok read' =>
      rw [hread] at hr
      cases hr
      exact ⟨hk, hlink, ht, htable, rfl, rfl, read', hread, rfl⟩

/-- A link read looks at the target of its field. -/
theorem read_ofField {r : LinkRead} (h : ofField s keys getterOf f = .ok r) :
    ∃ target, kindOf f = .ok r.kind ∧ targetOf s f r.kind = .ok target ∧
      match target with
      | some t => ∃ read, targetRead keys getterOf f t = .ok read ∧ r.read = some read
      | none => r.read = none := by
  obtain ⟨_, target, _, hk, _, ht, _, _, _, hr⟩ := exists_of_ofField h
  exact ⟨target, hk, ht, hr⟩

/-- A link read depends on the getters of the computed fields that its field reads, and on no others. -/
theorem ofField_congr (h : ∀ t ∈ s.computedFields, t.id ∈ f.reads → getterOf t.id = getterOf' t.id) :
    ofField s keys getterOf f = ofField s keys getterOf' f := by
  unfold ofField
  refine bind_congr_ok fun kind hk => bind_congr_ok fun linkId _ => bind_congr_ok fun link _ =>
    bind_congr_ok fun target ht => bind_congr_ok fun table _ => ?_
  cases target with
  | none => rfl
  | some t =>
    have hr : targetRead keys getterOf f t = targetRead keys getterOf' f t := by
      unfold targetRead
      split
      · next hc =>
        obtain ⟨hm, hreads⟩ := mem_reads_of_targetOf hk ht
        rw [h t (List.mem_filter.2 ⟨hm, hc⟩) (by simp [hreads])]
      · rfl
    simp only [hr]

/-- A link read calls the getter of a computed field exactly if its field reads that field. -/
theorem read_eq_computed_iff {r : LinkRead} (h : ofField s keys getterOf f = .ok r) {id name : String} :
    r.read = some (.computed id name) ↔
      id ∈ f.reads ∧ (∃ t ∈ s.computedFields, t.id = id) ∧ getterOf id = some name := by
  obtain ⟨target, hk, ht, hr⟩ := read_ofField h
  cases target with
  | none =>
    rw [show r.read = none from hr, reads_of_kindOf hk, targetOf_eq_ok_none ht, if_pos rfl]
    simp
  | some t =>
    obtain ⟨read, hread, hr⟩ := hr
    obtain ⟨hmem, hreads⟩ := mem_reads_of_targetOf hk ht
    rw [hr, hreads, List.mem_singleton, Option.some.injEq]
    obtain ⟨hc, getter, hg, rfl⟩ | ⟨hc, rfl⟩ := targetRead_eq_ok hread
    · constructor
      · rintro ⟨⟩
        exact ⟨rfl, ⟨t, List.mem_filter.2 ⟨hmem, hc⟩, rfl⟩, hg⟩
      · rintro ⟨rfl, _, hn⟩
        rw [hg] at hn
        cases hn
        rfl
    · refine ⟨nofun, ?_⟩
      rintro ⟨rfl, ht, _⟩
      rw [Schema.exists_computed_iff hmem, hc] at ht
      cases ht

end LinkRead

/-! ## Drafts -/

namespace ModuleContext

/-- How the body of a getter comes about if it is no stub. -/
theorem body_draft (ctx : ModuleContext) (inlined : List (String × String)) (f : Field) :
    (∃ reason, (ctx.draft inlined f).body = .stub reason) ∨
      ctx.order.isBlocked f.id = false ∧
        ((∃ formula, f.computedKind? = some .formula ∧ f.formula? = some (.ok formula) ∧
            ctx.draft inlined f = ctx.formulaDraft inlined f.formulaText? formula) ∨
          f.computedKind? ≠ some .formula ∧ ctx.draft inlined f = ctx.linkDraft f) := by
  unfold draft
  split
  · exact .inl ⟨_, rfl⟩
  · split
    · exact .inl ⟨_, rfl⟩
    · next hb =>
      have hb : ctx.order.isBlocked f.id = false := by simpa using hb
      split
      · exact .inl ⟨_, rfl⟩
      · next hk =>
        split
        · exact .inl ⟨_, rfl⟩
        · exact .inl ⟨_, rfl⟩
        · next formula hf => exact .inr ⟨hb, .inl ⟨formula, hk, hf, rfl⟩⟩
      · next kind hne hk =>
        refine .inr ⟨hb, .inr ⟨fun he => ?_, rfl⟩⟩
        rw [hk] at he
        exact hne (Option.some.inj he)

/-- A getter that reads through a link is a stub, or it is made of its link read. -/
theorem body_linkDraft (ctx : ModuleContext) (f : Field) :
    (∃ reason, (ctx.linkDraft f).body = .stub reason) ∨
      ∃ r, LinkRead.ofField ctx.schema ctx.options.recordKeys ctx.names.getter? f = .ok r ∧
        ctx.target.linkBody r ctx.options.nullSafety = .ok (ctx.linkDraft f).body := by
  cases hr : LinkRead.ofField ctx.schema ctx.options.recordKeys ctx.names.getter? f with
  | error e =>
    rw [linkDraft, hr]
    exact .inl ⟨_, rfl⟩
  | ok r =>
    cases hl : ctx.target.linkBody r ctx.options.nullSafety with
    | error e =>
      simp only [linkDraft, hr, hl, bind, Except.bind]
      exact .inl ⟨_, rfl⟩
    | ok body => exact .inr ⟨r, rfl, by simp only [linkDraft, hr, hl, bind, Except.bind, pure, Except.pure]⟩

end ModuleContext

/-! ## Expressions -/

namespace Formula

mutual

theorem references_resolve (s : Schema) : (f : Formula) → (f.resolve s).references = f.references
  | .literal _ => rfl
  | .field r => by
    rw [resolve, references, references, FieldRef.ofId]
    split <;> rfl
  | .call _ fs => by rw [resolve, references, references, referencesIn_resolveAll s fs]
  | .binary _ left right => by
    rw [resolve, references, references, references_resolve s left, references_resolve s right]
  | .unary _ operand => by rw [resolve, references, references, references_resolve s operand]

theorem referencesIn_resolveAll (s : Schema) : (fs : List Formula) → referencesIn (resolveAll s fs) = referencesIn fs
  | [] => rfl
  | f :: fs => by
    rw [resolveAll, referencesIn, referencesIn, references_resolve s f, referencesIn_resolveAll s fs]

end

end Formula

namespace ExpressionContext

mutual

/-- The code of a formula depends on how its references are read, and on no other field. -/
theorem emit_congr {t : Target} {access access' : FieldRef → FieldAccess} {nullSafety : Bool} : (f : Formula) →
    (∀ r, r.id ∈ f.references → access r = access' r) →
    emit ⟨t, access, nullSafety⟩ f = emit ⟨t, access', nullSafety⟩ f
  | .literal _, _ => rfl
  | .field r, h => by
    simp only [emit, h r (List.mem_singleton.2 rfl)]
  | .call name fs, h => by
    rw [emit, emit, emitAll_congr fs h]
    rfl
  | .binary op left right, h => by
    rw [emit, emit, emit_congr left fun r hr => h r (List.mem_append_left _ hr),
      emit_congr right fun r hr => h r (List.mem_append_right _ hr)]
    rfl
  | .unary op operand, h => by
    rw [emit, emit, emit_congr operand h]
    rfl

theorem emitAll_congr {t : Target} {access access' : FieldRef → FieldAccess} {nullSafety : Bool} :
    (fs : List Formula) → (∀ r, r.id ∈ Formula.referencesIn fs → access r = access' r) →
    emitAll ⟨t, access, nullSafety⟩ fs = emitAll ⟨t, access', nullSafety⟩ fs
  | [], _ => rfl
  | f :: fs, h => by
    rw [emitAll, emitAll, emit_congr f fun r hr => h r (List.mem_append_left _ hr),
      emitAll_congr fs fun r hr => h r (List.mem_append_right _ hr)]

end

theorem express_congr {t : Target} {access access' : FieldRef → FieldAccess} {nullSafety : Bool} {f : Formula}
    (h : ∀ r, r.id ∈ f.references → access r = access' r) :
    express ⟨t, access, nullSafety⟩ f = express ⟨t, access', nullSafety⟩ f := by
  rw [express, express, emit_congr f h]

end ExpressionContext

end ComputedFields
