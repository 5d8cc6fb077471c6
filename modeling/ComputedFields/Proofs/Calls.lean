import ComputedFields.Proofs.CodeLines
import ComputedFields.Proofs.GetterCode

/-!
# Calls between getters

Getters of functions call each other. `ModuleContext.calls` lists the getters that a getter calls, with the ids of their
fields, as its code was generated: a stub calls none, the code of a formula calls a getter for every reference that is
read by a call, and a getter that reads through a link calls the getter of the target.

- `ModuleContext.mem_callsOf_iff`: the calls are those of the computed fields that are read;
- `ModuleContext.draft_names`: the code stays the same whatever other getters are called;
- `exists_depth?_of_mem_calls`, `exists_getter_of_mem_calls`: a called getter is of lower depth, so it stands before the
  getter that calls it;
- `ModuleContext.exists_formula_of_body`, `ModuleContext.exists_linkRead_of_statements`: the calls as they stand in the
  code;
- `getters_call_back`: all this holds for every getter of a module, and calls never lead around a circle.
-/

namespace ComputedFields

open Relation DependencyGraph

/-! ## Drafts -/

namespace ModuleContext

variable {ctx : ModuleContext} {f : Field}

/-- A formula that only refers to a field always has code. -/
theorem exists_code_of_reference {r : FieldRef} (hc : ctx.order.cycleOf? f.id = none)
    (hb : ctx.order.isBlocked f.id = false) (hk : f.computedKind? = some .formula)
    (hf : f.formula? = some (.ok (.field r))) : ∃ code, (ctx.draft [] f).body = .expression code := by
  simp only [draft, hc, hb, hk, hf, Bool.false_eq_true, if_false, formulaDraft, Formula.resolve]
  exact ⟨_, rfl⟩

end ModuleContext

/-! ## Calls -/

/-- The getter that is called to read a field. -/
def FieldAccess.getter? : FieldAccess → Option String
  | .computed name => some name
  | _ => none

/-- The getter that is called to read the target of a link, with the id of its field. -/
def LinkRead.call? (r : LinkRead) : Option (String × String) :=
  match r.read with
  | some (.computed id name) => some (id, name)
  | _ => none

theorem LinkRead.call?_eq_some_iff {r : LinkRead} {id name : String} :
    r.call? = some (id, name) ↔ r.read = some (.computed id name) := by
  unfold call?
  cases r.read with
  | none => simp
  | some read => cases read <;> simp

namespace ModuleContext

variable {ctx : ModuleContext} {f : Field}

/-- The getters that the code of a field calls, with the ids of their fields. -/
def callsOf (ctx : ModuleContext) (f : Field) : List (String × String) :=
  match f.computedKind? with
  | some .formula =>
    match f.formula? with
    | some (.ok formula) => formula.fieldIds.filterMap fun id => (ctx.access [] { id }).getter?.map (id, ·)
    | _ => []
  | _ =>
    match LinkRead.ofField ctx.schema ctx.options.recordKeys ctx.names.getter? f with
    | .ok r => r.call?.toList
    | .error _ => []

/-- The getters that a getter with a body calls. A stub calls none. -/
def calls (ctx : ModuleContext) (f : Field) : GetterBody → List (String × String)
  | .stub _ => []
  | _ => ctx.callsOf f

theorem access_getter? (hi : ctx.target.inlinesComputed = false) {r : FieldRef} {name : String} :
    (ctx.access [] r).getter? = some name ↔
      (∃ t ∈ ctx.schema.computedFields, t.id = r.id) ∧ ctx.names.getter? r.id = some name := by
  unfold access
  cases ht : ctx.schema.field? r.id with
  | none =>
    refine ⟨nofun, ?_⟩
    rintro ⟨⟨t, hm, he⟩, _⟩
    rw [← he, Schema.field?_of_mem (List.mem_filter.1 hm).1] at ht
    cases ht
  | some t =>
    obtain ⟨hm, he⟩ := Schema.field?_eq_some_iff.1 ht
    rw [← he, Schema.exists_computed_iff hm]
    cases hc : t.isComputed with
    | false => simp [hc, FieldAccess.getter?]
    | true =>
      simp only [hc, hi]
      cases ctx.names.getter? t.id <;> simp [FieldAccess.getter?]

theorem mem_callsOf_iff (hi : ctx.target.inlinesComputed = false)
    (hb : ∀ reason, (ctx.draft [] f).body ≠ .stub reason) {id name : String} :
    (id, name) ∈ ctx.callsOf f ↔
      id ∈ f.reads ∧ (∃ t ∈ ctx.schema.computedFields, t.id = id) ∧ ctx.names.getter? id = some name := by
  obtain ⟨reason, h⟩ | ⟨_, ⟨formula, hk, hf, _⟩ | ⟨hk, hd⟩⟩ := body_draft ctx [] f
  · exact absurd h (hb reason)
  · simp only [callsOf, Field.reads, hk, hf, List.mem_filterMap, Option.map_eq_some_iff, access_getter? hi]
    constructor
    · rintro ⟨_, hm, _, h, ⟨⟩⟩
      exact ⟨hm, h⟩
    · rintro ⟨hm, h⟩
      exact ⟨id, hm, name, h, rfl⟩
  · rw [hd] at hb
    obtain ⟨reason, h⟩ | ⟨r, hr, -⟩ := body_linkDraft ctx f
    · exact absurd h (hb reason)
    · rw [← LinkRead.read_eq_computed_iff hr, ← LinkRead.call?_eq_some_iff]
      unfold callsOf
      split
      · contradiction
      · simp only [hr, Option.mem_toList]

theorem draft_congr {ctx' : ModuleContext} {inlined inlined' : List (String × String)}
    (hc : ctx'.order.cycleOf? f.id = ctx.order.cycleOf? f.id)
    (hb : ctx'.order.isBlocked f.id = ctx.order.isBlocked f.id)
    (hf : ∀ formula, f.computedKind? = some .formula → f.formula? = some (.ok formula) →
      ctx'.formulaDraft inlined' f.formulaText? formula = ctx.formulaDraft inlined f.formulaText? formula)
    (hl : f.computedKind? ≠ some .formula → ctx'.linkDraft f = ctx.linkDraft f) :
    ctx'.draft inlined' f = ctx.draft inlined f := by
  unfold draft
  rw [hc, hb]
  cases ctx.order.cycleOf? f.id with
  | some cycle => rfl
  | none =>
    dsimp only
    congr 1
    cases hk : f.computedKind? with
    | none => rfl
    | some kind =>
      cases kind with
      | formula =>
        dsimp only
        cases hp : f.formula? with
        | none => rfl
        | some r =>
          cases r with
          | error e => rfl
          | ok formula => exact hf formula hk hp
      | _ => exact hl (by simp [hk])

section Names

variable {names : ModuleNames}

theorem formulaDraft_names {source : Option String} {formula : Formula}
    (h : ∀ t ∈ ctx.schema.computedFields, t.id ∈ formula.references → names.getter? t.id = ctx.names.getter? t.id) :
    { ctx with names := names }.formulaDraft [] source formula = ctx.formulaDraft [] source formula := by
  have ha (r : FieldRef) (hr : r.id ∈ (formula.resolve ctx.schema).references) :
      { ctx with names := names }.access [] r = ctx.access [] r := by
    rw [Formula.references_resolve] at hr
    unfold access
    dsimp only
    cases ht : ctx.schema.field? r.id with
    | none => rfl
    | some t =>
      obtain ⟨hm, he⟩ := Schema.field?_eq_some_iff.1 ht
      cases hc : t.isComputed with
      | false => simp [hc]
      | true =>
        dsimp only
        rw [h t (List.mem_filter.2 ⟨hm, hc⟩) (he ▸ hr)]
        rfl
  have he : ExpressionContext.express
        ⟨ctx.target, { ctx with names := names }.access [], ctx.options.nullSafety⟩ (formula.resolve ctx.schema) =
      ExpressionContext.express ⟨ctx.target, ctx.access [], ctx.options.nullSafety⟩ (formula.resolve ctx.schema) :=
    ExpressionContext.express_congr ha
  unfold formulaDraft
  dsimp only
  rw [← he]
  rfl

theorem linkDraft_names
    (h : ∀ t ∈ ctx.schema.computedFields, t.id ∈ f.reads → names.getter? t.id = ctx.names.getter? t.id) :
    { ctx with names := names }.linkDraft f = ctx.linkDraft f := by
  unfold linkDraft
  dsimp only
  rw [LinkRead.ofField_congr h]
  rfl

end Names

/-- A getter that is no stub depends on the names of the getters that it calls, and on no other names. -/
theorem draft_names (hi : ctx.target.inlinesComputed = false)
    (hn : ∀ t ∈ ctx.schema.computedFields, ∃ name, ctx.names.getter? t.id = some name)
    (hb : ∀ reason, (ctx.draft [] f).body ≠ .stub reason) {names : ModuleNames}
    (h : ∀ c ∈ ctx.callsOf f, names.getter? c.1 = some c.2) :
    { ctx with names := names }.draft [] f = ctx.draft [] f := by
  have hg : ∀ t ∈ ctx.schema.computedFields, t.id ∈ f.reads → names.getter? t.id = ctx.names.getter? t.id := by
    intro t ht hr
    obtain ⟨name, hname⟩ := hn t ht
    rw [hname, h (t.id, name) ((mem_callsOf_iff hi hb).2 ⟨hr, ⟨t, ht, rfl⟩, hname⟩)]
  refine draft_congr rfl rfl (fun formula hk hf => formulaDraft_names fun t ht hr => hg t ht ?_) fun _ =>
    linkDraft_names hg
  simpa only [Field.reads, hk, hf, Formula.fieldIds, List.mem_eraseDups] using hr

theorem ne_stub_of_mem_calls {body : GetterBody} {c : String × String} (h : c ∈ ctx.calls f body) :
    (∀ reason, body ≠ .stub reason) ∧ c ∈ ctx.callsOf f := by
  cases body with
  | stub reason => cases h
  | _ => exact ⟨nofun, h⟩

theorem calls_eq_callsOf {body : GetterBody} (h : ∀ reason, body ≠ .stub reason) :
    ctx.calls f body = ctx.callsOf f := by
  cases body with
  | stub reason => exact absurd rfl (h reason)
  | _ => rfl

theorem exists_stub_of_blocked (h : f.id ∈ ctx.order.blocked) : ∃ reason, (ctx.draft [] f).body = .stub reason := by
  obtain hs | ⟨hb, _⟩ := body_draft ctx [] f
  · exact hs
  · simp [ComputationOrder.isBlocked, h] at hb

/-- A getter calls getters of lower depth only. -/
theorem exists_depth?_of_mem_calls {s : Schema} {options : GeneratorOptions} (h : options.target ≠ .sql)
    (hf : f ∈ s.computedFields) {c : String × String}
    (hc : c ∈ (ofSchema s options).calls f ((ofSchema s options).draft [] f).body) :
    ∃ d e, (DependencyGraph.ofSchema s).order.depth? c.1 = some d ∧
      (DependencyGraph.ofSchema s).order.depth? f.id = some e ∧ d < e := by
  have hi : (ofSchema s options).target.inlinesComputed = false := Target.inlinesComputed_eq_false h
  obtain ⟨hb, hc⟩ := ne_stub_of_mem_calls hc
  obtain ⟨hr, ⟨t, ht, he⟩, _⟩ := (mem_callsOf_iff hi hb).1 hc
  have hn : (DependencyGraph.ofSchema s).Needs f.id c.1 := he ▸ needs_of_mem_reads hf ht (he ▸ hr)
  cases hd : (DependencyGraph.ofSchema s).order.depth? f.id with
  | none =>
    have hblocked : f.id ∈ (ofSchema s options).order.blocked := mem_blocked_iff.2 ⟨hn.1, hd⟩
    obtain ⟨reason, hs⟩ := exists_stub_of_blocked hblocked
    exact absurd hs (hb reason)
  | some e =>
    obtain ⟨d, hlt, hd'⟩ := exists_depth?_lt hn hd
    exact ⟨d, e, hd', rfl, hlt⟩

/-! ## Code -/

/-- A reference is read by a call exactly if the call is listed. -/
theorem read_reference (ht : ctx.target ≠ .sql) (hb : ∀ reason, (ctx.draft [] f).body ≠ .stub reason) {r : FieldRef}
    (hr : r.id ∈ f.reads) :
    (∃ name, (r.id, name) ∈ ctx.callsOf f ∧ ctx.target.read (ctx.access [] r) = name ++ "(record, data)") ∨
      (∀ name, (r.id, name) ∉ ctx.callsOf f) ∧ ∃ key, ctx.access [] r = .stored key := by
  have hi := Target.inlinesComputed_eq_false ht
  have hcall (name : String) : (r.id, name) ∈ ctx.callsOf f ↔ (ctx.access [] r).getter? = some name := by
    rw [mem_callsOf_iff hi hb, access_getter? hi]
    exact and_iff_right hr
  obtain ⟨key, hkey⟩ | ⟨getter, hgetter, -⟩ := access_cases hi r
  · refine .inr ⟨fun name hn => ?_, key, hkey⟩
    rw [hcall, hkey] at hn
    cases hn
  · refine .inl ⟨getter, (hcall getter).2 ?_, ?_⟩
    · rw [hgetter, FieldAccess.getter?]
    · rw [hgetter, Target.read_computed ht]

/-- The references of a formula, as its code reads them. -/
theorem exists_formula_of_body (ht : ctx.target ≠ .sql) {code : String}
    (hb : (ctx.draft [] f).body = .expression code) : ∃ formula, f.formula? = some (.ok formula) ∧
      code = (ExpressionContext.express ⟨ctx.target, ctx.access [], ctx.options.nullSafety⟩
        (formula.resolve ctx.schema)).code ∧
      ∀ r : FieldRef, r.id ∈ formula.references →
        (∃ name, (r.id, name) ∈ ctx.callsOf f ∧ ctx.target.read (ctx.access [] r) = name ++ "(record, data)") ∨
        (∀ name, (r.id, name) ∉ ctx.callsOf f) ∧ ∃ key, ctx.access [] r = .stored key := by
  obtain ⟨reason, h⟩ | ⟨formula, hk, hf, h⟩ | ⟨-, r, lines, -, -, h⟩ := body_cases ht f
  · rw [h] at hb
    cases hb
  · rw [h] at hb
    cases hb
    refine ⟨formula, hf, rfl, fun r hr => read_reference ht (by simp [h]) ?_⟩
    simpa only [Field.reads, hk, hf, Formula.fieldIds, List.mem_eraseDups] using hr
  · rw [h] at hb
    cases hb

/-- The target of a link, as the statements of a getter read it. -/
theorem exists_linkRead_of_statements (ht : ctx.target ≠ .sql) {lines : List String}
    (hb : (ctx.draft [] f).body = .statements lines) :
    ∃ r, LinkRead.ofField ctx.schema ctx.options.recordKeys ctx.names.getter? f = .ok r ∧
      ctx.callsOf f = r.call?.toList ∧ ∀ c ∈ ctx.callsOf f,
        r.ignoresTarget = true ∨ ∃ line ∈ lines, OccursIn (c.2 ++ "(r, data)") line := by
  obtain ⟨reason, h⟩ | ⟨formula, -, -, h⟩ | ⟨hk, r, lines', hr, hl, h⟩ := body_cases ht f
  · rw [h] at hb
    cases hb
  · rw [h] at hb
    cases hb
  · rw [h] at hb
    cases hb
    have hcalls : ctx.callsOf f = r.call?.toList := by
      unfold callsOf
      split
      · contradiction
      · rw [hr]
    refine ⟨r, hr, hcalls, fun c hc => ?_⟩
    rw [hcalls, Option.mem_toList] at hc
    have hread : r.read = some (.computed c.1 c.2) := LinkRead.call?_eq_some_iff.1 hc
    cases hi : r.ignoresTarget with
    | true => exact .inl rfl
    | false => exact .inr (Target.occursIn_linkBody ht (LinkRead.kind_ne_count hr hread) hi hread hl)

end ModuleContext

/-! ## The module -/

/-- The getters as they are written one after the other. -/
def GeneratedModule.written (m : GeneratedModule) : List Getter := m.getters.map (·.getter)

/-- The getter `x` of the field `f`, which stands at place `i` among the getters of a module, calls back only. -/
structure ModuleContext.CallsBack (ctx : ModuleContext) (m : GeneratedModule) (i : Nat) (x : Getter) (f : Field) :
    Prop where
  /-- Stubs and the getters of blocked fields call none. -/
  stub : (∃ reason, x.body = .stub reason) ∨ f.id ∈ ctx.order.blocked → ctx.calls f x.body = []
  /-- Every computed field that the getter reads is read by a call. -/
  calls : (∀ reason, x.body ≠ .stub reason) → ∀ g ∈ ctx.schema.computedFields, g.id ∈ f.reads →
    ∃ name, (g.id, name) ∈ ctx.calls f x.body
  /-- No other field is. -/
  reads : ∀ c ∈ ctx.calls f x.body, c.1 ∈ f.reads ∧ ∃ g ∈ ctx.schema.computedFields, g.id = c.1
  /-- The code names no other getter: it is the same whatever the others are called. -/
  body : (∀ reason, x.body ≠ .stub reason) → ∀ names : ModuleNames,
    (∀ c ∈ ctx.calls f x.body, names.getter? c.1 = some c.2) → ({ ctx with names := names }.draft [] f).body = x.body
  /-- The text of the getter is its comments, the line that it begins with, and the lines of its body. -/
  text : m.getterText x =
    unlines (ctx.target.gap ++ ctx.target.getterComments ctx.options x ++ [ctx.target.signature x.name]) ++
      unlines (ctx.target.bodyLines x.body ++ ctx.target.closing)
  /-- The code of a formula reads a field by a call if the call is listed, and out of the record if none is. -/
  formula : ∀ code, x.body = .expression code → ∃ formula, f.formula? = some (.ok formula) ∧
    code = (ExpressionContext.express ⟨ctx.target, ctx.access [], ctx.options.nullSafety⟩
      (formula.resolve ctx.schema)).code ∧
    ∀ r : FieldRef, r.id ∈ formula.references →
      (∃ name, (r.id, name) ∈ ctx.calls f x.body ∧ ctx.target.read (ctx.access [] r) = name ++ "(record, data)") ∨
      (∀ name, (r.id, name) ∉ ctx.calls f x.body) ∧ ∃ key, ctx.access [] r = .stored key
  /-- The code that reads through a link calls the getter of the target for the linked records, unless these are counted
  without a look at it. -/
  link : ∀ lines, x.body = .statements lines →
    ∃ r, LinkRead.ofField ctx.schema ctx.options.recordKeys ctx.names.getter? f = .ok r ∧
      ctx.calls f x.body = r.call?.toList ∧ ∀ c ∈ ctx.calls f x.body,
        r.ignoresTarget = true ∨ ∃ line ∈ lines, OccursIn (c.2 ++ "(r, data)") line
  /-- A called getter has a depth, and a lower one. -/
  depth : ∀ c ∈ ctx.calls f x.body, ∃ d e, ctx.order.depth? c.1 = some d ∧ ctx.order.depth? f.id = some e ∧ d < e
  /-- A called getter is written earlier, under the name that it is called by, and its text ends before that of the
  caller begins. -/
  earlier : ∀ c ∈ ctx.calls f x.body, ∃ j < i, ∃ y, m.written[j]? = some y ∧ y.fieldId = c.1 ∧ y.name = c.2 ∧
    OccursIn (ctx.target.signature c.2) (m.getterText y) ∧
    ∃ before between after, m.source = before ++ m.getterText y ++ between ++ m.getterText x ++ after

theorem written_generateModule {s : Schema} {options : GeneratorOptions} (h : options.target ≠ .sql) :
    (generateModule s options).written = (Section.sorted s (DependencyGraph.ofSchema s).order false).map fun p =>
      ((ModuleContext.ofSchema s options).generate [] p.field).getter := by
  rw [GeneratedModule.written, getters_generateModule h, List.map_map]
  rfl

/-- A called getter stands before the getter that calls it. -/
theorem exists_getter_of_mem_calls {s : Schema} {options : GeneratorOptions} (h : options.target ≠ .sql) {i : Nat}
    {p : Placement} (hp : (Section.sorted s (DependencyGraph.ofSchema s).order false)[i]? = some p)
    {c : String × String} (hc : c ∈ (ModuleContext.ofSchema s options).calls p.field
      ((ModuleContext.ofSchema s options).draft [] p.field).body) :
    ∃ j < i, ∃ y, (generateModule s options).written[j]? = some y ∧ y.fieldId = c.1 ∧ y.name = c.2 := by
  have hi : (ModuleContext.ofSchema s options).target.inlinesComputed = false := Target.inlinesComputed_eq_false h
  have hf := Section.field_mem_of_mem_sorted (List.mem_of_getElem? hp)
  obtain ⟨d, e, hd, he, hlt⟩ := ModuleContext.exists_depth?_of_mem_calls h hf hc
  obtain ⟨hb, hc⟩ := ModuleContext.ne_stub_of_mem_calls hc
  obtain ⟨_, ⟨t, ht, hid⟩, hname⟩ := (ModuleContext.mem_callsOf_iff hi hb).1 hc
  obtain ⟨q, hq, rfl⟩ := Section.exists_mem_sorted ht
  obtain ⟨j, hj, hjq⟩ := Section.exists_lt_sorted hp hq (hid ▸ hd) he hlt
  refine ⟨j, hj, ((ModuleContext.ofSchema s options).generate [] q.field).getter, ?_, hid, ?_⟩
  · rw [written_generateModule h, List.getElem?_map, hjq, Option.map_some]
  · show ((ModuleNames.ofSchema s options).getter? q.field.id).getD q.field.id = c.2
    have hname : (ModuleNames.ofSchema s options).getter? c.1 = some c.2 := hname
    rw [hid, hname, Option.getD_some]

/-- Of two getters, the text of the earlier ends before that of the later begins. -/
theorem GeneratedModule.exists_source_eq_of_lt (m : GeneratedModule) {i j : Nat} {x y : Getter} (hlt : j < i)
    (hy : m.written[j]? = some y) (hx : m.written[i]? = some x) :
    ∃ before between after, m.source = before ++ m.getterText y ++ between ++ m.getterText x ++ after := by
  have horder : InOrder (m.written.map m.getterText) m.source := by
    rw [written, List.map_map]
    exact m.inOrder_source
  refine horder.exists_eq_of_lt hlt ?_ ?_
  · rw [List.getElem?_map, hy, Option.map_some]
  · rw [List.getElem?_map, hx, Option.map_some]

theorem getterText_of_mem_written {s : Schema} {options : GeneratorOptions} (h : options.target ≠ .sql) {x : Getter}
    (hx : x ∈ (generateModule s options).written) : (generateModule s options).getterText x =
      unlines (options.target.gap ++ options.target.getterComments options x ++ [options.target.signature x.name]) ++
        unlines (options.target.bodyLines x.body ++ options.target.closing) := by
  rw [written_generateModule h, List.mem_map] at hx
  obtain ⟨p, -, rfl⟩ := hx
  exact Target.getter_eq h options (ModuleContext.isUnbroken_draft h p.field)

theorem occursIn_signature {s : Schema} {options : GeneratorOptions} (h : options.target ≠ .sql) {x : Getter}
    (hx : x ∈ (generateModule s options).written) :
    OccursIn (options.target.signature x.name) ((generateModule s options).getterText x) := by
  rw [getterText_of_mem_written h hx]
  exact (OccursIn.line (List.mem_append_right _ (List.mem_singleton_self _))).append _

theorem callsBack_of_getElem? {s : Schema} {options : GeneratorOptions} (h : options.target ≠ .sql) {i : Nat}
    {x : Getter} (hx : (generateModule s options).written[i]? = some x) :
    ∃ f, s.field? x.fieldId = some f ∧
      (ModuleContext.ofSchema s options).CallsBack (generateModule s options) i x f := by
  have hx' := hx
  rw [written_generateModule h, List.getElem?_map, Option.map_eq_some_iff] at hx'
  obtain ⟨p, hp, rfl⟩ := hx'
  have hf := Section.field_mem_of_mem_sorted (List.mem_of_getElem? hp)
  have ht : (ModuleContext.ofSchema s options).target ≠ .sql := h
  have hi := Target.inlinesComputed_eq_false ht
  have hn (t : Field) (ht : t ∈ s.computedFields) := exists_getter? options ht
  refine ⟨p.field, Schema.field?_of_mem (List.mem_filter.1 hf).1, ?_⟩
  exact {
    stub := fun hs => by
      obtain ⟨reason, hs⟩ := hs.elim id ModuleContext.exists_stub_of_blocked
      rw [hs]
      rfl
    calls := fun hb g hg hr => by
      obtain ⟨name, hname⟩ := hn g hg
      rw [ModuleContext.calls_eq_callsOf hb]
      exact ⟨name, (ModuleContext.mem_callsOf_iff hi hb).2 ⟨hr, ⟨g, hg, rfl⟩, hname⟩⟩
    reads := fun c hc => by
      obtain ⟨hb, hc⟩ := ModuleContext.ne_stub_of_mem_calls hc
      obtain ⟨hr, hg, _⟩ := (ModuleContext.mem_callsOf_iff hi hb).1 hc
      exact ⟨hr, hg⟩
    body := fun hb names hnames => by
      rw [ModuleContext.calls_eq_callsOf hb] at hnames
      exact congrArg GetterDraft.body (ModuleContext.draft_names hi hn hb hnames)
    text := getterText_of_mem_written h (List.mem_of_getElem? hx)
    formula := fun code hcode => by
      rw [ModuleContext.calls_eq_callsOf (by simp [hcode])]
      exact ModuleContext.exists_formula_of_body ht hcode
    link := fun lines hlines => by
      rw [ModuleContext.calls_eq_callsOf (by simp [hlines])]
      exact ModuleContext.exists_linkRead_of_statements ht hlines
    depth := fun c hc => ModuleContext.exists_depth?_of_mem_calls h hf hc
    earlier := fun c hc => by
      obtain ⟨j, hj, y, hy, hid, hname⟩ := exists_getter_of_mem_calls h hp hc
      refine ⟨j, hj, y, hy, hid, hname, ?_, (generateModule s options).exists_source_eq_of_lt hj hy hx⟩
      rw [← hname]
      exact occursIn_signature h (List.mem_of_getElem? hy) }

/-- One getter of a module calls another one. -/
def Calls (s : Schema) (options : GeneratorOptions) (x y : Getter) : Prop :=
  x ∈ (generateModule s options).written ∧ y ∈ (generateModule s options).written ∧ ∃ f, s.field? x.fieldId = some f ∧
    (y.fieldId, y.name) ∈ (ModuleContext.ofSchema s options).calls f x.body

/-- A getter that is no stub calls the getters of all computed fields that its field reads. -/
theorem exists_calls {s : Schema} {options : GeneratorOptions} (h : options.target ≠ .sql) {f g : Field}
    (hf : f ∈ s.computedFields) (hg : g ∈ s.computedFields) (hr : g.id ∈ f.reads)
    (hb : ∀ reason, ((ModuleContext.ofSchema s options).draft [] f).body ≠ .stub reason) :
    ∃ x y, x.fieldId = f.id ∧ y.fieldId = g.id ∧ Calls s options x y := by
  obtain ⟨p, hp, rfl⟩ := Section.exists_mem_sorted hf
  obtain ⟨i, hi⟩ := List.mem_iff_getElem?.1 hp
  have hx : (generateModule s options).written[i]? =
      some ((ModuleContext.ofSchema s options).generate [] p.field).getter := by
    rw [written_generateModule h, List.getElem?_map, hi, Option.map_some]
  obtain ⟨f, hid, hcalls⟩ := callsBack_of_getElem? h hx
  cases (Schema.field?_of_mem (List.mem_filter.1 hf).1).symm.trans hid
  obtain ⟨name, hc⟩ := hcalls.calls hb g hg hr
  obtain ⟨j, -, y, hy, hyid, hyname, -⟩ := hcalls.earlier _ hc
  refine ⟨_, y, rfl, hyid, List.mem_of_getElem? hx, List.mem_of_getElem? hy, p.field, hid, ?_⟩
  rw [hyid, hyname]
  exact hc

/-- Along calls the depth decreases. -/
theorem exists_depth?_of_calls {s : Schema} {options : GeneratorOptions} (h : options.target ≠ .sql) {x y : Getter}
    (hxy : TransGen (Calls s options) x y) :
    ∃ d e, (DependencyGraph.ofSchema s).order.depth? y.fieldId = some d ∧
      (DependencyGraph.ofSchema s).order.depth? x.fieldId = some e ∧ d < e := by
  have step {x y : Getter} (hxy : Calls s options x y) :
      ∃ d e, (DependencyGraph.ofSchema s).order.depth? y.fieldId = some d ∧
        (DependencyGraph.ofSchema s).order.depth? x.fieldId = some e ∧ d < e := by
    obtain ⟨hx, _, f, hf, hc⟩ := hxy
    obtain ⟨i, hi⟩ := List.mem_iff_getElem?.1 hx
    obtain ⟨f', hf', hcalls⟩ := callsBack_of_getElem? h hi
    cases hf.symm.trans hf'
    obtain ⟨d, e, hd, he, hlt⟩ := hcalls.depth _ hc
    rw [(Schema.field?_eq_some_iff.1 hf).2] at he
    exact ⟨d, e, hd, he, hlt⟩
  induction hxy with
  | single hxy => exact step hxy
  | tail _ hyz ih =>
    obtain ⟨d, e, hd, he, hlt⟩ := ih
    obtain ⟨d', e', hd', he', hlt'⟩ := step hyz
    rw [hd] at he'
    cases he'
    exact ⟨d', e, hd', he, Nat.lt_trans hlt' hlt⟩

/-- No getter calls forward, and none calls itself, not even through others. -/
theorem getters_call_back {s : Schema} {options : GeneratorOptions} (h : options.target ≠ .sql) :
    (∀ i x, (generateModule s options).written[i]? = some x → ∃ f, s.field? x.fieldId = some f ∧
      (ModuleContext.ofSchema s options).CallsBack (generateModule s options) i x f) ∧
    ∀ x, ¬ TransGen (Calls s options) x x := by
  refine ⟨fun i x hx => callsBack_of_getElem? h hx, fun x hx => ?_⟩
  obtain ⟨d, e, hd, he, hlt⟩ := exists_depth?_of_calls h hx
  rw [hd] at he
  cases he
  exact Nat.lt_irrefl d hlt

/-- A field that is computed from `name`. -/
def greetingField : Field where
  id := "greeting"
  name := "Greeting"
  type := .formula
  tableId := "letters"
  options := { formula := some "\x7bname\x7d" }

/-- A field that is computed from `greetingField`. -/
def letterField : Field where
  id := "letter"
  name := "Letter"
  type := .formula
  tableId := "letters"
  options := { formula := some "\x7bgreeting\x7d" }

/-- A field is declared before the field that it is computed from. -/
def letterSchema : Schema where
  declared := [{ id := "letters", name := "Letters", fields :=
    [letterField, greetingField, { id := "name", name := "Name", type := .singleLineText }] }]
  sound := by decide

theorem order_letterSchema : (ofSchema letterSchema).order = ⟨[("letter", some 1), ("greeting", some 0)], []⟩ := by cbv

theorem exists_calls_letterSchema :
    ∃ x y, x.fieldId = "letter" ∧ y.fieldId = "greeting" ∧ Calls letterSchema {} x y := by
  have hf : letterField.formula? = some (.ok (.field { id := "greeting" })) := by cbv
  refine exists_calls (f := letterField) (g := greetingField) (by decide) (by decide) (by decide) ?_ fun reason => ?_
  · simp only [Field.reads, hf]
    exact List.mem_singleton_self _
  · have hc : (ModuleContext.ofSchema letterSchema {}).order.cycleOf? letterField.id = none := by
      rw [ModuleContext.ofSchema, order_letterSchema]
      rfl
    have hb : (ModuleContext.ofSchema letterSchema {}).order.isBlocked letterField.id = false := by
      rw [ModuleContext.ofSchema, order_letterSchema]
      rfl
    obtain ⟨code, hcode⟩ := ModuleContext.exists_code_of_reference hc hb rfl hf
    simp [hcode]

theorem getters_call_back_letterSchema :
    (∃ x y, x.fieldId = "letter" ∧ y.fieldId = "greeting" ∧ Calls letterSchema {} x y) ∧
    (∀ i x, (generateModule letterSchema {}).written[i]? = some x → ∃ f, letterSchema.field? x.fieldId = some f ∧
      (ModuleContext.ofSchema letterSchema {}).CallsBack (generateModule letterSchema {}) i x f) ∧
    ∀ x, ¬ TransGen (Calls letterSchema {}) x x :=
  ⟨exists_calls_letterSchema, getters_call_back (by decide)⟩

end ComputedFields
