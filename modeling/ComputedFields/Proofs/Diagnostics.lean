import ComputedFields.Proofs.Columns
import ComputedFields.Proofs.Errors
import ComputedFields.Proofs.GetterTexts

/-!
# Stubs and diagnostics

A getter that could not be generated is a stub, and its field is reported. Some of what is reported is only about what
a formula reads, and leaves it its code.

- `Problem.isFatal`: whether a problem leaves a field without code;
- `Accounted`: a body is a stub if and only if there is such a problem, the reason that it gives is what these problems
  say, and an error is the only problem;
- `ModuleContext.accounted_draft`: this is so for every field, whichever way its body comes about;
- `reports_generateModule`: so stubs and diagnostics of a module tell the same.
-/

namespace ComputedFields

/-- Whether a getter with a body returns a null for every record, since there is no code for it. Views have no place for
statements. -/
def Target.isStub : Target → GetterBody → Bool
  | _, .stub _ => true
  | .sql, .statements _ => true
  | _, _ => false

/-- Whether a problem leaves a field without code. The others are about fields that a formula reads. -/
def Problem.isFatal : Problem → Bool
  | unresolved _ => false
  | notInlined _ => false
  | _ => true

theorem Problem.isFatal_of_severity {p : Problem} (h : p.severity = .error) : p.isFatal = true := by
  cases p with
  | unresolved id => cases h
  | notInlined id => cases h
  | _ => rfl

/-! ## Bodies -/

/-- A body is accounted for by problems. -/
structure Accounted (t : Target) (body : GetterBody) (ps : List Problem) : Prop where
  stub_iff : t.isStub body = true ↔ ∃ p ∈ ps, p.isFatal = true
  reason : ∀ reason, body = .stub reason → reason = "; ".intercalate ((ps.filter (·.isFatal)).map (·.message))
  error : ∀ p ∈ ps, p.severity = .error → ps = [p]

namespace Accounted

variable {t : Target} {ps : List Problem}

theorem stub {p : Problem} (hp : p.isFatal = true) : Accounted t (.stub p.message) [p] where
  stub_iff := by simp [Target.isStub, hp]
  reason r hr := by
    cases hr
    simp [hp]
  error q hq _ := by rw [List.mem_singleton.1 hq]

theorem code {body : GetterBody} (hb : t.isStub body = false) (hp : ∀ p ∈ ps, p.isFatal = false) :
    Accounted t body ps where
  stub_iff := by simpa [hb] using hp
  reason r hr := by simp [hr, Target.isStub] at hb
  error p hm he := by
    have hf := hp p hm
    rw [Problem.isFatal_of_severity he] at hf
    cases hf

/-- A formula that cannot be expressed has no code, whatever else was met in it. -/
theorem warnings {es : List GenerationError} (hes : es ≠ []) (hp : ∀ p ∈ ps, p.isFatal = false)
    (he : ∀ e ∈ es, e.missing? = none) :
    Accounted t (.stub ("; ".intercalate (es.map (·.message)))) (ps ++ es.map .generation) where
  stub_iff := by
    obtain ⟨e, hm⟩ := List.exists_mem_of_ne_nil es hes
    exact iff_of_true rfl ⟨.generation e, List.mem_append_right _ (List.mem_map_of_mem hm), rfl⟩
  reason r hr := by
    have hnone : ps.filter (·.isFatal) = [] := List.filter_eq_nil_iff.2 fun p hm => by simp [hp p hm]
    have hall : (es.map Problem.generation).filter (·.isFatal) = es.map .generation :=
      List.filter_eq_self.2 (List.forall_mem_map.2 fun e _ => rfl)
    cases hr
    rw [List.filter_append, hnone, hall, List.nil_append, List.map_map]
    rfl
  error p hm hs := by
    exfalso
    rcases List.mem_append.1 hm with hm | hm
    · have hf := hp p hm
      rw [Problem.isFatal_of_severity hs] at hf
      cases hf
    · obtain ⟨e, hes, rfl⟩ := List.mem_map.1 hm
      rw [severity_generation (he e hes)] at hs
      cases hs

end Accounted

theorem Target.isStub_of_linkBody {t : Target} {r : LinkRead} {nullSafety : Bool} {body : GetterBody}
    (h : t.linkBody r nullSafety = .ok body) : t.isStub body = false := by
  cases t <;> obtain ⟨_, -, rfl⟩ := map_eq_ok_iff.1 h <;> rfl

/-! ## Drafts -/

namespace ModuleContext

theorem isFatal_of_mem_notInlined (ctx : ModuleContext) (inlined : List (String × String)) (formula : Formula) :
    ∀ p ∈ ctx.notInlined inlined formula, p.isFatal = false := by
  unfold notInlined
  split
  · exact List.forall_mem_map.2 fun _ _ => rfl
  · exact List.forall_mem_nil _

theorem accounted_formulaDraft (ctx : ModuleContext) (inlined : List (String × String)) (source : Option String)
    (formula : Formula) :
    Accounted ctx.target (ctx.formulaDraft inlined source formula).body
      (ctx.formulaDraft inlined source formula).problems := by
  have hmet : ∀ p ∈ (formula.resolve ctx.schema).unresolvedIds.map Problem.unresolved ++
      ctx.notInlined inlined (formula.resolve ctx.schema), p.isFatal = false :=
    List.forall_mem_append.2 ⟨List.forall_mem_map.2 fun _ _ => rfl, ctx.isFatal_of_mem_notInlined _ _⟩
  unfold formulaDraft
  dsimp only
  split
  · exact .code rfl hmet
  · next hclean =>
    exact .warnings (by simpa [Expression.isClean] using hclean) hmet (ExpressionContext.missing?_of_mem_emit _ _)

variable {s : Schema} {options : GeneratorOptions}

theorem accounted_linkDraft (f : Field) :
    Accounted options.target ((ofSchema s options).linkDraft f).body ((ofSchema s options).linkDraft f).problems := by
  rw [linkDraft_ofSchema]
  split
  · split
    · next hb => exact .code (Target.isStub_of_linkBody hb) (List.forall_mem_nil _)
    · exact .stub rfl
  · exact .stub rfl

/-- The body of every getter is accounted for by the problems met. -/
theorem accounted_draft (inlined : List (String × String)) (f : Field) :
    Accounted options.target ((ofSchema s options).draft inlined f).body
      ((ofSchema s options).draft inlined f).problems := by
  unfold draft
  split
  · exact .stub rfl
  · split
    · exact .stub rfl
    · split
      · exact .stub rfl
      · split
        · exact .stub rfl
        · exact .stub rfl
        · exact accounted_formulaDraft (ofSchema s options) _ _ _
      · exact accounted_linkDraft f

end ModuleContext

/-! ## Modules -/

section Getters

variable {s : Schema} {options : GeneratorOptions} {g : GeneratedGetter}

theorem accounted_getter (h : g ∈ (generateModule s options).getters) :
    Accounted options.target g.getter.body g.problems := by
  rw [getters_eq_flatMap] at h
  obtain ⟨x, -, hg⟩ := List.mem_flatMap.1 h
  obtain ⟨inlined, f, -, rfl⟩ := ModuleContext.exists_of_mem_generateAll hg
  exact ModuleContext.accounted_draft inlined f

/-- The diagnostics of a field are the problems of its only getter. -/
theorem diagnosticsFor_getter (h : g ∈ (generateModule s options).getters) :
    (generateModule s options).diagnosticsFor g.getter.fieldId =
      g.problems.map fun p => ⟨g.getter.fieldId, g.getter.fieldName, p⟩ := by
  rw [GeneratedModule.diagnosticsFor_eq, GeneratedModule.filter_fieldId nodup_getters h]
  simp

theorem exists_getter_of_mem_diagnostics {d : Diagnostic} (h : d ∈ (generateModule s options).diagnostics) :
    ∃ g ∈ (generateModule s options).getters, ∃ p ∈ g.problems, d = ⟨g.getter.fieldId, g.getter.fieldName, p⟩ := by
  obtain ⟨g, hg, hd⟩ := List.mem_flatMap.1 h
  obtain ⟨p, hp, rfl⟩ := List.mem_map.1 hd
  exact ⟨g, hg, p, hp, rfl⟩

theorem exists_fatal_diagnostic_iff (h : g ∈ (generateModule s options).getters) :
    (∃ d ∈ (generateModule s options).diagnostics, d.fieldId = g.getter.fieldId ∧ d.problem.isFatal = true) ↔
      ∃ p ∈ g.problems, p.isFatal = true := by
  constructor
  · rintro ⟨d, hd, he, hf⟩
    have hd : d ∈ (generateModule s options).diagnosticsFor g.getter.fieldId :=
      List.mem_filter.2 ⟨hd, by simpa using he⟩
    rw [diagnosticsFor_getter h] at hd
    obtain ⟨p, hp, rfl⟩ := List.mem_map.1 hd
    exact ⟨p, hp, hf⟩
  · rintro ⟨p, hp, hf⟩
    exact ⟨⟨g.getter.fieldId, g.getter.fieldName, p⟩, List.mem_flatMap.2 ⟨g, h, List.mem_map_of_mem hp⟩, rfl, hf⟩

end Getters

/-- The stubs and the diagnostics of a module tell the same about the computed fields of a schema. -/
structure Reports (s : Schema) (m : GeneratedModule) : Prop where
  /-- Every computed field has a getter, and no other field has one. -/
  getters_perm : (m.getters.map (·.getter.fieldId)).Perm (s.computedFields.map (·.id))
  /-- No field has two getters. -/
  getters_nodup : (m.getters.map (·.getter.fieldId)).Nodup
  /-- A stub has a diagnostic that says why there is no code, and only stubs have one. -/
  stub_iff : ∀ g ∈ m.getters, m.options.target.isStub g.getter.body = true ↔
    ∃ d ∈ m.diagnostics, d.fieldId = g.getter.fieldId ∧ d.problem.isFatal = true
  /-- The reason that a stub gives is what these diagnostics say. -/
  reason : ∀ g ∈ m.getters, ∀ reason, g.getter.body = .stub reason → reason =
    "; ".intercalate (((m.diagnosticsFor g.getter.fieldId).filter (·.problem.isFatal)).map (·.message))
  /-- A field with an error is a stub and has no other diagnostic. -/
  error : ∀ d ∈ m.diagnostics, d.severity = .error → m.diagnosticsFor d.fieldId = [d] ∧
    ∃ g ∈ m.getters, g.getter.fieldId = d.fieldId ∧ m.options.target.isStub g.getter.body = true
  /-- A computed field without diagnostics has code. -/
  code : ∀ f ∈ s.computedFields, m.diagnosticsFor f.id = [] →
    ∃ g ∈ m.getters, g.getter.fieldId = f.id ∧ m.options.target.isStub g.getter.body = false
  /-- The diagnostics come in the order of the getters. -/
  ordered : m.diagnostics = m.getters.flatMap fun g => m.diagnosticsFor g.getter.fieldId
  /-- In the text of the module the getters stand in this order too. -/
  source : InOrder (m.getters.map fun g => m.getterText g.getter) m.source
  /-- The text of a stub gives the reason, -/
  stubText : ∀ g ∈ m.getters, ∀ reason, g.getter.body = .stub reason →
    OccursIn (m.options.target.stubComment reason) (m.getterText g.getter)
  /-- and that of an expression has the code. -/
  codeText : ∀ g ∈ m.getters, ∀ code, g.getter.body = .expression code → OccursIn code (m.getterText g.getter)

/-- Whatever the schema and the options, every computed field has one getter; the getter is a stub if and only if a
diagnostic says why there is no code, an error stands alone, and the diagnostics come in the order of the getters, which
is their order in the text. -/
theorem reports_generateModule (s : Schema) (options : GeneratorOptions) : Reports s (generateModule s options) where
  getters_perm := map_fieldId_getters_perm
  getters_nodup := nodup_getters
  stub_iff g hg := (accounted_getter hg).stub_iff.trans (exists_fatal_diagnostic_iff hg).symm
  reason g hg r hr := by
    rw [diagnosticsFor_getter hg, List.filter_map, List.map_map]
    exact (accounted_getter hg).reason r hr
  error d hd he := by
    obtain ⟨g, hg, p, hp, rfl⟩ := exists_getter_of_mem_diagnostics hd
    have ha := accounted_getter hg
    refine ⟨?_, g, hg, rfl, ha.stub_iff.2 ⟨p, hp, Problem.isFatal_of_severity he⟩⟩
    rw [diagnosticsFor_getter hg, ha.error p hp he]
    rfl
  code f hf hd := by
    obtain ⟨g, hg, hid⟩ := List.mem_map.1 (map_fieldId_getters_perm.mem_iff.2 (List.mem_map_of_mem hf))
    refine ⟨g, hg, hid, ?_⟩
    rw [← hid, diagnosticsFor_getter hg, List.map_eq_nil_iff] at hd
    have hs := (accounted_getter hg).stub_iff
    rw [hd] at hs
    exact Bool.eq_false_iff.2 fun h => by simpa using hs.1 h
  ordered := by
    rw [GeneratedModule.diagnostics]
    exact List.flatMap_congr fun g hg => (diagnosticsFor_getter hg).symm
  source := GeneratedModule.inOrder_source _
  stubText _ _ _ hr := Target.occursIn_stubComment _ hr
  codeText _ _ _ hc := Target.occursIn_code _ hc

end ComputedFields
