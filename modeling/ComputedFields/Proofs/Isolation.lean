import ComputedFields.Proofs.Calls
import ComputedFields.Proofs.Columns
import ComputedFields.Proofs.Cycles

/-!
# Isolation of fields

A change of one formula can move edges, depths, cycles and sections of the whole module. This file shows that the code
of the other fields stays. Two schemas are alike if they are equal without the formula of the changed field.

- `Schema.names_eq_of_alike`, `Schema.formulaDraft_eq_of_alike`, `Schema.linkDraft_eq_of_alike`: names and drafts read
  nothing of the formula of another field;
- `draft_eq_of_alike`: the draft of a field depends on the order only in what is inlined in it;
- `draft_column_eq`: in SQL, columns that are not downstream of the change inline the same code, by induction on depth;
- `generateModule_isolated`: name, body and diagnostics of a field are the same in both modules.
-/

namespace ComputedFields

open Relation DependencyGraph

/-! ## Schemas without a formula -/

/-- The field without its formula, if it has the id. -/
def Field.withoutFormula (id : String) (f : Field) : Field :=
  { f with options := { f.options with formula := if f.id = id then none else f.options.formula } }

theorem Field.withoutFormula_of_ne {id : String} {f : Field} (h : f.id ≠ id) : f.withoutFormula id = f := by
  rw [withoutFormula, if_neg h]

def Table.withoutFormula (id : String) (t : Table) : Table := { t with fields := t.fields.map (·.withoutFormula id) }

def Placement.withoutFormula (id : String) (p : Placement) : Placement :=
  { p with table := p.table.withoutFormula id, field := p.field.withoutFormula id }

namespace Schema

/-- The schema without the formula of the field with an id. -/
def withoutFormula (id : String) (s : Schema) : Schema where
  declared := s.declared.map (Table.withoutFormula id)
  sound := (fault?_map (·.withoutFormula id) (fun _ => rfl) (fun _ => rfl) s.declared).trans s.sound

variable (id : String) (s : Schema)

theorem tables_withoutFormula : (s.withoutFormula id).tables = s.tables.map (·.withoutFormula id) := by
  rw [tables, tables, withoutFormula, List.map_map, List.map_map]
  refine List.map_congr_left fun t _ => ?_
  simp only [Function.comp_apply, Table.owned, Table.withoutFormula, List.map_map]
  rfl

theorem fields_withoutFormula : (s.withoutFormula id).fields = s.fields.map (·.withoutFormula id) := by
  rw [fields, fields, tables_withoutFormula, List.flatMap_map, List.map_flatMap]
  rfl

theorem placements_withoutFormula :
    (s.withoutFormula id).placements = s.placements.map (·.withoutFormula id) := by
  have ht (i : Nat) (t : Table) :
      placementsIn i (t.withoutFormula id) = (placementsIn i t).map (·.withoutFormula id) :=
    List.ext_getElem (by simp [placementsIn, Table.withoutFormula])
      (by simp [placementsIn, Table.withoutFormula, Placement.withoutFormula])
  have hs : (s.tables.map (·.withoutFormula id)).mapIdx placementsIn =
      (s.tables.mapIdx placementsIn).map (List.map (·.withoutFormula id)) :=
    List.ext_getElem (by simp) (by simp [ht])
  rw [placements, placements, tables_withoutFormula, hs, List.map_flatten]

theorem place?_withoutFormula (x : String) :
    (s.withoutFormula id).place? x = (s.place? x).map (·.withoutFormula id) := by
  rw [place?, place?, placements_withoutFormula, List.find?_map]
  rfl

theorem field?_withoutFormula (x : String) :
    (s.withoutFormula id).field? x = (s.field? x).map (·.withoutFormula id) := by
  rw [field?, field?, place?_withoutFormula, Option.map_map, Option.map_map]
  rfl

theorem tableOf?_withoutFormula (x : String) :
    (s.withoutFormula id).tableOf? x = (s.tableOf? x).map (·.withoutFormula id) := by
  rw [tableOf?, tableOf?, place?_withoutFormula, Option.map_map, Option.map_map]
  rfl

theorem linkedTable?_withoutFormula (x : String) :
    (s.withoutFormula id).linkedTable? x = (s.linkedTable? x).map (·.withoutFormula id) := by
  have ht (y : String) : (s.withoutFormula id).table? y = (s.table? y).map (·.withoutFormula id) := by
    rw [table?, table?, tables_withoutFormula, List.find?_map]
    rfl
  rw [linkedTable?, linkedTable?, field?_withoutFormula]
  cases s.field? x with
  | none => rfl
  | some f =>
    change f.options.linkedTableId.bind (s.withoutFormula id).table? = (f.options.linkedTableId.bind s.table?).map _
    cases f.options.linkedTableId with
    | none => rfl
    | some y => exact ht y

end Schema

/-! ## What does not depend on the formula -/

section Independence

variable (id : String) (s : Schema)

theorem ModuleNames.ofSchema_withoutFormula (options : GeneratorOptions) :
    ofSchema (s.withoutFormula id) options = ofSchema s options := by
  have hc (t : Table) : computedIn (t.withoutFormula id) = (computedIn t).map (·.withoutFormula id) := by
    rw [computedIn, computedIn, Table.withoutFormula, List.filter_map]
    rfl
  have hf (a : Allocator) : functionNames a (s.withoutFormula id).tables = functionNames a s.tables := by
    rw [functionNames, functionNames, Schema.tables_withoutFormula, List.flatMap_map]
    simp only [hc, List.map_map]
    rfl
  have hs (keys : RecordKeys) (t : Table) : storedColumns keys (t.withoutFormula id) = storedColumns keys t := by
    rw [storedColumns, storedColumns, Table.withoutFormula, List.filter_map, List.map_map]
    cases keys <;> rfl
  have hv (a : Allocator) (keys : RecordKeys) : (s.withoutFormula id).tables.flatMap (columnNames a keys) =
      s.tables.flatMap (columnNames a keys) := by
    rw [Schema.tables_withoutFormula, List.flatMap_map]
    simp only [columnNames, hc, hs, List.map_map]
    rfl
  have ht : (s.withoutFormula id).tables.map (fun t => (t.id, tableParts options.target t)) =
      s.tables.map fun t => (t.id, tableParts options.target t) := by
    rw [Schema.tables_withoutFormula, List.map_map]
    cases options.target <;> rfl
  simp only [ofSchema, hf, hv, ht]

theorem FieldRef.ofId_withoutFormula (x : String) : ofId (s.withoutFormula id) x = ofId s x := by
  rw [ofId, ofId, Schema.field?_withoutFormula]
  cases s.field? x <;> rfl

mutual

theorem Formula.resolve_withoutFormula : (f : Formula) → f.resolve (s.withoutFormula id) = f.resolve s
  | .literal _ => rfl
  | .field r => by rw [resolve, resolve, FieldRef.ofId_withoutFormula]
  | .call _ fs => by rw [resolve, resolve, resolveAll_withoutFormula fs]
  | .binary _ left right => by
    rw [resolve, resolve, resolve_withoutFormula left, resolve_withoutFormula right]
  | .unary _ operand => by rw [resolve, resolve, resolve_withoutFormula operand]

theorem Formula.resolveAll_withoutFormula :
    (fs : List Formula) → resolveAll (s.withoutFormula id) fs = resolveAll s fs
  | [] => rfl
  | f :: fs => by rw [resolveAll, resolveAll, resolve_withoutFormula f, resolveAll_withoutFormula fs]

end

namespace LinkRead

variable {id s}

theorem map_bind {ε α β γ : Type} {x : Except ε α} (φ : α → β) (k : β → Except ε γ) :
    x.map φ >>= k = x >>= fun a => k (φ a) := by cases x <;> rfl

theorem require_map {α β : Type} (f : Field) (option : RequiredOption) (φ : α → β) (x : Option α) :
    require f option (x.map φ) = (require f option x).map φ := by cases x <;> rfl

theorem targetOf_withoutFormula (f : Field) (kind : LinkReadKind) :
    targetOf (s.withoutFormula id) f kind = (targetOf s f kind).map (Option.map (·.withoutFormula id)) := by
  have ht : f.targetId?.bind (s.withoutFormula id).field? = (f.targetId?.bind s.field?).map (·.withoutFormula id) := by
    cases f.targetId? with
    | none => rfl
    | some x => exact Schema.field?_withoutFormula id s x
  unfold targetOf
  cases kind with
  | count => rfl
  | _ => rw [ht, require_map]; cases require f .targetField (f.targetId?.bind s.field?) <;> rfl

theorem tableBehind?_withoutFormula (linkId : String) (target : Option Field) :
    tableBehind? (s.withoutFormula id) linkId (target.map (·.withoutFormula id)) =
      (tableBehind? s linkId target).map (·.withoutFormula id) := by
  rw [tableBehind?, tableBehind?, Schema.linkedTable?_withoutFormula]
  cases s.linkedTable? linkId with
  | some t => rfl
  | none =>
    cases target with
    | none => rfl
    | some f => exact Schema.tableOf?_withoutFormula id s f.id

theorem ofField_withoutFormula (keys : RecordKeys) (getterOf : String → Option String) (f : Field) :
    ofField (s.withoutFormula id) keys getterOf f = ofField s keys getterOf f := by
  unfold ofField
  refine bind_congr_ok fun kind _ => bind_congr_ok fun linkId _ => ?_
  rw [Schema.field?_withoutFormula, require_map, map_bind]
  refine bind_congr_ok fun link _ => ?_
  rw [targetOf_withoutFormula, map_bind]
  refine bind_congr_ok fun target _ => ?_
  rw [tableBehind?_withoutFormula, require_map, map_bind]
  refine bind_congr_ok fun table _ => ?_
  cases target with
  | none => cases keys <;> rfl
  | some t => cases keys <;> rfl

end LinkRead

namespace ModuleContext

variable {ctx : ModuleContext}

/-- The context of the schema without a formula. -/
def withoutFormula (ctx : ModuleContext) : ModuleContext := { ctx with schema := ctx.schema.withoutFormula id }

theorem access_withoutFormula (inlined : List (String × String)) :
    (ctx.withoutFormula id).access inlined = ctx.access inlined := by
  funext r
  unfold access withoutFormula
  dsimp only
  rw [Schema.field?_withoutFormula]
  cases ctx.schema.field? r.id with
  | none => rfl
  | some f =>
    have hk : ctx.options.recordKeys.key (f.withoutFormula id) = ctx.options.recordKeys.key f := by
      cases ctx.options.recordKeys <;> rfl
    simp only [Option.map_some, hk]
    rfl

theorem isNotInlined_withoutFormula (inlined : List (String × String)) :
    (ctx.withoutFormula id).isNotInlined inlined = ctx.isNotInlined inlined := by
  funext x
  unfold isNotInlined withoutFormula
  dsimp only
  rw [Schema.field?_withoutFormula, Option.any_map]
  rfl

theorem formulaDraft_withoutFormula : (ctx.withoutFormula id).formulaDraft = ctx.formulaDraft := by
  funext inlined source formula
  have hr : formula.resolve (ctx.withoutFormula id).schema = formula.resolve ctx.schema :=
    Formula.resolve_withoutFormula id ctx.schema formula
  unfold formulaDraft notInlined
  simp only [hr, access_withoutFormula, isNotInlined_withoutFormula]
  rfl

theorem linkDraft_withoutFormula : (ctx.withoutFormula id).linkDraft = ctx.linkDraft := by
  funext f
  unfold linkDraft withoutFormula
  simp only [LinkRead.ofField_withoutFormula]
  rfl

/-- Once a field is known not to be blocked, the order of computation does not matter. -/
theorem formulaDraft_eq {ctx' : ModuleContext} (hs : ctx.schema = ctx'.schema) (ho : ctx.options = ctx'.options)
    (hn : ctx.names = ctx'.names) : ctx.formulaDraft = ctx'.formulaDraft := by
  cases ctx
  cases ctx'
  cases hs
  cases ho
  cases hn
  rfl

theorem linkDraft_eq {ctx' : ModuleContext} (hs : ctx.schema = ctx'.schema) (ho : ctx.options = ctx'.options)
    (hn : ctx.names = ctx'.names) : ctx.linkDraft = ctx'.linkDraft := by
  cases ctx
  cases ctx'
  cases hs
  cases ho
  cases hn
  rfl

end ModuleContext

end Independence

/-! ## Alike schemas -/

namespace Schema

variable {s s' : Schema} {g : String}

theorem names_eq_of_alike (h : s.withoutFormula g = s'.withoutFormula g) (options : GeneratorOptions) :
    ModuleNames.ofSchema s options = ModuleNames.ofSchema s' options := by
  rw [← ModuleNames.ofSchema_withoutFormula g s, h, ModuleNames.ofSchema_withoutFormula]

theorem mem_computedFields_of_alike (h : s.withoutFormula g = s'.withoutFormula g) {f : Field}
    (hf : f ∈ s.computedFields) (hne : f.id ≠ g) : f ∈ s'.computedFields := by
  obtain ⟨hf, hc⟩ := List.mem_filter.1 hf
  have hm : f.withoutFormula g ∈ s'.fields.map (·.withoutFormula g) := by
    rw [← fields_withoutFormula, ← h, fields_withoutFormula]
    exact List.mem_map_of_mem hf
  obtain ⟨f', hf', he⟩ := List.mem_map.1 hm
  have hid : f'.id = f.id := congrArg (·.id) he
  rw [Field.withoutFormula_of_ne hne, Field.withoutFormula_of_ne (hid ▸ hne)] at he
  exact List.mem_filter.2 ⟨he ▸ hf', hc⟩

theorem formulaDraft_eq_of_alike (h : s.withoutFormula g = s'.withoutFormula g) (options : GeneratorOptions) :
    (ModuleContext.ofSchema s options).formulaDraft = (ModuleContext.ofSchema s' options).formulaDraft :=
  calc (ModuleContext.ofSchema s options).formulaDraft
    _ = ((ModuleContext.ofSchema s options).withoutFormula g).formulaDraft :=
      (ModuleContext.formulaDraft_withoutFormula g).symm
    _ = ((ModuleContext.ofSchema s' options).withoutFormula g).formulaDraft :=
      ModuleContext.formulaDraft_eq h rfl (names_eq_of_alike h options)
    _ = _ := ModuleContext.formulaDraft_withoutFormula g

theorem linkDraft_eq_of_alike (h : s.withoutFormula g = s'.withoutFormula g) (options : GeneratorOptions) :
    (ModuleContext.ofSchema s options).linkDraft = (ModuleContext.ofSchema s' options).linkDraft :=
  calc (ModuleContext.ofSchema s options).linkDraft
    _ = ((ModuleContext.ofSchema s options).withoutFormula g).linkDraft :=
      (ModuleContext.linkDraft_withoutFormula g).symm
    _ = ((ModuleContext.ofSchema s' options).withoutFormula g).linkDraft :=
      ModuleContext.linkDraft_eq h rfl (names_eq_of_alike h options)
    _ = _ := ModuleContext.linkDraft_withoutFormula g

end Schema

/-! ## Fields apart from the change -/

theorem cycleOf?_eq_none {x : String} {d : DependencyGraph} (hx : d.isComputed x = true)
    (hb : x ∉ d.order.blocked) : d.order.cycleOf? x = none := by
  cases hc : d.order.cycleOf? x with
  | none => rfl
  | some c =>
    obtain ⟨hcircle, hm⟩ := isCircle_of_cycleOf? hc
    exact absurd ((mem_blocked_iff_reachesCycle hx).2 ⟨x, .refl, hcircle.onCycle hm⟩) hb

/-- A computed field that is not the one with the id and can be computed. -/
structure Schema.OrderedBeside (s : Schema) (g : String) (f : Field) : Prop where
  computed : f ∈ s.computedFields
  ne : f.id ≠ g
  ordered : f.id ∉ (ofSchema s).order.blocked

namespace Schema.OrderedBeside

variable {s : Schema} {g : String} {f t : Field}

theorem isComputed (h : s.OrderedBeside g f) : (ofSchema s).isComputed f.id = true :=
  isComputed_ofSchema_iff.2 ⟨f, h.computed, rfl⟩

theorem exists_depth? (h : s.OrderedBeside g f) : ∃ d, (ofSchema s).order.depth? f.id = some d := by
  cases hd : (ofSchema s).order.depth? f.id with
  | some d => exact ⟨d, rfl⟩
  | none => exact absurd (mem_blocked_iff.2 ⟨h.isComputed, hd⟩) h.ordered

/-- A field that is not downstream of the change reads only such fields. -/
theorem of_mem_reads (h : s.OrderedBeside g f) (hd : f.id ∉ (ofSchema s).downstream g) (ht : t ∈ s.computedFields)
    (hr : t.id ∈ f.reads) : s.OrderedBeside g t ∧ t.id ∉ (ofSchema s).downstream g := by
  have hfeeds : (ofSchema s).Feeds t.id f.id := feeds_of_mem_reads h.computed (List.mem_filter.1 ht).1 hr
  have apart : ¬ ReflTransGen (ofSchema s).Feeds g f.id := fun hp => by
    obtain he | hm := List.mem_cons.1 (mem_downstream_of_feeds hp)
    · exact h.ne he
    · exact hd hm
  refine ⟨⟨ht, fun he => apart (he ▸ .single hfeeds), fun hb => ?_⟩, fun hm => ?_⟩
  · obtain ⟨d, hdepth⟩ := h.exists_depth?
    obtain ⟨e, -, he⟩ := exists_depth?_lt (needs_of_mem_reads h.computed ht hr) hdepth
    rw [(mem_blocked_iff.1 hb).2] at he
    cases he
  · exact apart ((feeds_of_mem_downstream hm).to_reflTransGen.tail hfeeds)

end Schema.OrderedBeside

/-- The code of a formula depends on the code of the columns that it refers to. -/
theorem ModuleContext.formulaDraft_inlined {ctx : ModuleContext} {inlined inlined' : List (String × String)}
    {source : Option String} {formula : Formula}
    (h : ∀ t ∈ ctx.schema.computedFields, t.id ∈ formula.references → inlined.lookup t.id = inlined'.lookup t.id) :
    ctx.formulaDraft inlined source formula = ctx.formulaDraft inlined' source formula := by
  have ha (r : FieldRef) (hr : r.id ∈ (formula.resolve ctx.schema).references) :
      ctx.access inlined r = ctx.access inlined' r := by
    rw [Formula.references_resolve] at hr
    unfold access
    cases ht : ctx.schema.field? r.id with
    | none => rfl
    | some t =>
      obtain ⟨hm, he⟩ := Schema.field?_eq_some_iff.1 ht
      cases hc : t.isComputed with
      | false => simp [hc]
      | true =>
        dsimp only
        rw [h t (List.mem_filter.2 ⟨hm, hc⟩) (he ▸ hr)]
  have hn : ctx.notInlined inlined (formula.resolve ctx.schema) =
      ctx.notInlined inlined' (formula.resolve ctx.schema) := by
    unfold notInlined
    refine congrArg (fun l => if ctx.target.inlinesComputed = true then List.map Problem.notInlined l else [])
      (List.filter_congr fun x hx => ?_)
    rw [Formula.fieldIds, List.mem_eraseDups, Formula.references_resolve] at hx
    unfold isNotInlined
    cases ht : ctx.schema.field? x with
    | none => rfl
    | some t =>
      obtain ⟨hm, he⟩ := Schema.field?_eq_some_iff.1 ht
      cases hc : t.isComputed with
      | false => simp [hc]
      | true => rw [← he, h t (List.mem_filter.2 ⟨hm, hc⟩) (he ▸ hx)]
  have he : ExpressionContext.express ⟨ctx.target, ctx.access inlined, ctx.options.nullSafety⟩ _ =
      ExpressionContext.express ⟨ctx.target, ctx.access inlined', ctx.options.nullSafety⟩ _ :=
    ExpressionContext.express_congr ha
  simp only [formulaDraft, he, hn]

section Alike

variable {s s' : Schema} {g : String} {f : Field} {options : GeneratorOptions}

/-- The getters of a field in alike schemas are the same, if the code that can be inlined in its formula is. -/
theorem draft_eq_of_alike (h : s.withoutFormula g = s'.withoutFormula g) (hf : s.OrderedBeside g f)
    (hf' : s'.OrderedBeside g f) {inlined inlined' : List (String × String)}
    (hi : ∀ t ∈ s.computedFields, t.id ∈ f.reads → inlined.lookup t.id = inlined'.lookup t.id) :
    (ModuleContext.ofSchema s options).draft inlined f = (ModuleContext.ofSchema s' options).draft inlined' f := by
  refine ModuleContext.draft_congr ?_ ?_ (fun formula hk hp => ?_)
    fun _ => congrFun (Schema.linkDraft_eq_of_alike h options) f
  · exact (cycleOf?_eq_none hf.isComputed hf.ordered).trans (cycleOf?_eq_none hf'.isComputed hf'.ordered).symm
  · have hb : (ofSchema s).order.isBlocked f.id = false := by simpa [ComputationOrder.isBlocked] using hf.ordered
    have hb' : (ofSchema s').order.isBlocked f.id = false := by simpa [ComputationOrder.isBlocked] using hf'.ordered
    exact hb.trans hb'.symm
  · rw [← Schema.formulaDraft_eq_of_alike h]
    refine ModuleContext.formulaDraft_inlined fun t ht hr => hi t ht ?_
    simpa only [Field.reads, hk, hp, Formula.fieldIds, List.mem_eraseDups] using hr

/-- Columns of alike schemas are the same, whatever comes before them. The induction is on the depth: a column that is
referred to comes before the column in both views, and has the same code in both. -/
theorem draft_column_eq (h : s.withoutFormula g = s'.withoutFormula g) {d : Nat} (hf : s.OrderedBeside g f)
    (hf' : s'.OrderedBeside g f) (hd : f.id ∉ (ofSchema s).downstream g) (hd' : f.id ∉ (ofSchema s').downstream g)
    (hdepth : (ofSchema s).order.depth? f.id = some d) {pre post pre' post' : List Field}
    (hc : Section.columns s (ofSchema s).order f.tableId = pre ++ f :: post)
    (hc' : Section.columns s' (ofSchema s').order f.tableId = pre' ++ f :: post') :
    let ctx := ModuleContext.ofSchema s options
    let ctx' := ModuleContext.ofSchema s' options
    ctx.draft (ctx.inlinedBy [] pre) f = ctx'.draft (ctx'.inlinedBy [] pre') f := by
  intro ctx ctx'
  induction d using Nat.strong_induction_on generalizing f pre post pre' post' with
  | _ d ih =>
    refine draft_eq_of_alike h hf hf' fun t ht hr => ?_
    obtain ⟨hto, htd⟩ := hf.of_mem_reads hd ht hr
    have ht' := Schema.mem_computedFields_of_alike h ht hto.ne
    obtain ⟨hto', htd'⟩ := hf'.of_mem_reads hd' ht' hr
    obtain ⟨e, hlt, hte⟩ := exists_depth?_lt (needs_of_mem_reads hf.computed ht hr) hdepth
    obtain ⟨d', hdepth'⟩ := hf'.exists_depth?
    obtain ⟨e', hlt', hte'⟩ := exists_depth?_lt (needs_of_mem_reads hf'.computed ht' hr) hdepth'
    by_cases htable : t.tableId = f.tableId
    · -- A column of the same view comes first, with the same code.
      have hm := Section.mem_before_of_depth?_lt hc (Section.mem_columns_iff.2 ⟨ht, htable⟩) hte hdepth hlt
      have hm' := Section.mem_before_of_depth?_lt hc' (Section.mem_columns_iff.2 ⟨ht', htable⟩) hte' hdepth' hlt'
      obtain ⟨a, b, hct, hlookup⟩ := ctx.exists_lookup_inlinedBy hc hm
      obtain ⟨a', b', hct', hlookup'⟩ := ctx'.exists_lookup_inlinedBy hc' hm'
      rw [hlookup, hlookup', ih e hlt hto hto' htd htd' hte hct hct']
    · -- No column of another view can be inlined.
      rw [ctx.lookup_inlinedBy_of_not_mem (Section.notMem_before (List.mem_filter.1 ht).1 htable hc),
        ctx'.lookup_inlinedBy_of_not_mem (Section.notMem_before (List.mem_filter.1 ht').1 htable hc')]

/-- The getters of a field in the modules of alike schemas are made of the same draft. -/
theorem exists_generate_mem_getters (h : s.withoutFormula g = s'.withoutFormula g) (hf : s.OrderedBeside g f)
    (hf' : s'.OrderedBeside g f)
    (hd : options.target = .sql → f.id ∉ (ofSchema s).downstream g ∧ f.id ∉ (ofSchema s').downstream g) :
    ∃ inlined inlined',
      (ModuleContext.ofSchema s options).generate inlined f ∈ (generateModule s options).getters ∧
      (ModuleContext.ofSchema s' options).generate inlined' f ∈ (generateModule s' options).getters ∧
      (ModuleContext.ofSchema s options).draft inlined f = (ModuleContext.ofSchema s' options).draft inlined' f := by
  by_cases ht : options.target = .sql
  · obtain ⟨d, hdepth⟩ := hf.exists_depth?
    obtain ⟨pre, post, hc⟩ := List.append_of_mem
      (Section.mem_columns_iff (o := (ofSchema s).order).2 ⟨hf.computed, rfl⟩)
    obtain ⟨pre', post', hc'⟩ := List.append_of_mem
      (Section.mem_columns_iff (o := (ofSchema s').order).2 ⟨hf'.computed, rfl⟩)
    exact ⟨_, _, generate_mem_getters ht hc, generate_mem_getters ht hc',
      draft_column_eq h hf hf' (hd ht).1 (hd ht).2 hdepth hc hc'⟩
  · have mem {s : Schema} (hf : f ∈ s.computedFields) :
        (ModuleContext.ofSchema s options).generate [] f ∈ (generateModule s options).getters := by
      obtain ⟨p, hp, he⟩ := Section.exists_mem_sorted (o := (ofSchema s).order) hf
      rw [getters_generateModule ht]
      exact List.mem_map.2 ⟨p, hp, by rw [he]⟩
    exact ⟨[], [], mem hf.computed, mem hf'.computed, draft_eq_of_alike h hf hf' fun _ _ _ => rfl⟩

end Alike

/-- Two schemas that differ in the formula of one field only have modules with the same getters, bodies and diagnostics
for all other fields that can be computed in both. In SQL, where code is inlined, this holds for the fields that are not
downstream of the changed one. -/
theorem generateModule_isolated {s s' : Schema} {g : String} (h : s.withoutFormula g = s'.withoutFormula g)
    (options : GeneratorOptions) {f : Field} (hf : f ∈ s.computedFields) (hne : f.id ≠ g)
    (hb : f.id ∉ (ofSchema s).order.blocked) (hb' : f.id ∉ (ofSchema s').order.blocked)
    (hd : options.target = .sql → f.id ∉ (ofSchema s).downstream g ∧ f.id ∉ (ofSchema s').downstream g) :
    let m := generateModule s options
    let m' := generateModule s' options
    ∃ x x', m.getters.filter (·.getter.fieldId == f.id) = [x] ∧ m'.getters.filter (·.getter.fieldId == f.id) = [x'] ∧
      x.getter.name = x'.getter.name ∧ x.getter.body = x'.getter.body ∧
      m.diagnosticsFor f.id = m'.diagnosticsFor f.id := by
  intro m m'
  have hf' := Schema.mem_computedFields_of_alike h hf hne
  obtain ⟨inlined, inlined', hx, hx', hdraft⟩ := exists_generate_mem_getters h ⟨hf, hne, hb⟩ ⟨hf', hne, hb'⟩ hd
  have hone : m.getters.filter (·.getter.fieldId == f.id) = [_] := GeneratedModule.filter_fieldId nodup_getters hx
  have hone' : m'.getters.filter (·.getter.fieldId == f.id) = [_] := GeneratedModule.filter_fieldId nodup_getters hx'
  have hname : (ModuleContext.ofSchema s options).names = (ModuleContext.ofSchema s' options).names :=
    Schema.names_eq_of_alike h options
  refine ⟨_, _, hone, hone', ?_, ?_, ?_⟩
  · simp only [ModuleContext.generate, hname]
  · simp only [ModuleContext.generate, hdraft]
  · rw [GeneratedModule.diagnosticsFor_eq, GeneratedModule.diagnosticsFor_eq, hone, hone']
    simp only [ModuleContext.generate, hdraft, List.flatMap_singleton]

/-- A letter with a postscript. -/
def postscriptSchema (formula : String) : Schema where
  declared := [{ id := "letters", name := "Letters", fields :=
    [letterField, greetingField, { id := "name", name := "Name", type := .singleLineText },
      { id := "postscript", name := "Postscript", type := .formula, options := { formula := some formula } }] }]
  sound := by rfl

theorem order_postscriptSchema :
    (ofSchema (postscriptSchema "\x7bletter\x7d")).order =
      ⟨[("letter", some 1), ("greeting", some 0), ("postscript", some 2)], []⟩ ∧
    (ofSchema (postscriptSchema "(")).order =
      ⟨[("letter", some 1), ("greeting", some 0), ("postscript", some 0)], []⟩ := by
  constructor <;> cbv

theorem downstream_postscriptSchema :
    (ofSchema (postscriptSchema "\x7bletter\x7d")).downstream "postscript" = [] ∧
    (ofSchema (postscriptSchema "(")).downstream "postscript" = [] := by
  constructor <;> cbv

theorem generateModule_isolated_postscript :
    let m := generateModule (postscriptSchema "\x7bletter\x7d") (.forTarget .sql)
    let m' := generateModule (postscriptSchema "(") (.forTarget .sql)
    ∃ x x', m.getters.filter (·.getter.fieldId == "letter") = [x] ∧
      m'.getters.filter (·.getter.fieldId == "letter") = [x'] ∧
      x.getter.name = x'.getter.name ∧ x.getter.body = x'.getter.body ∧
      m.diagnosticsFor "letter" = m'.diagnosticsFor "letter" := by
  obtain ⟨ho, ho'⟩ := order_postscriptSchema
  obtain ⟨hd, hd'⟩ := downstream_postscriptSchema
  have h : (postscriptSchema "\x7bletter\x7d").withoutFormula "postscript" =
      (postscriptSchema "(").withoutFormula "postscript" := rfl
  refine generateModule_isolated (f := letterField) h (.forTarget .sql) (by decide) (by decide) ?_ ?_ fun _ => ?_
  · rw [ho]
    decide
  · rw [ho']
    decide
  · rw [hd, hd']
    exact ⟨List.not_mem_nil, List.not_mem_nil⟩

end ComputedFields
