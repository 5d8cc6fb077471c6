import ComputedFields.Proofs.Downstream
import Mathlib.Data.Finset.Insert

/-!
# The edges of the dependency graph

- `Formula.Occurs`: an id is referred to somewhere in a formula (`mem_references_iff`);
- `Field.RefersTo`, `EdgeKind.option?`: what a field says about the fields it needs, so that its mentions are exactly
  these (`mem_mentions_formulaRef_iff`, `mem_mentions_option_iff`);
- `EdgeIndex`: the edges that were added so far, with the numbers of those that leave and of those that arrive at every
  field; adding an edge keeps the numbers right (`EdgeIndex.Consistent.add`), so after any sequence of additions they
  find what a search through all edges finds (`EdgeIndex.consistent_addAll`, `EdgeIndex.edges_addAll`);
- the graph of a schema is exact, and all that it can be asked agrees (`isGraphOf_ofSchema`).
-/

namespace ComputedFields

/-! ## What fields mention -/

/-- A reference to an id is somewhere in a formula. -/
inductive Formula.Occurs (id : String) : Formula → Prop
  | field {r : FieldRef} (h : r.id = id) : Occurs id (.field r)
  | argument {name : String} {arguments : List Formula} {f : Formula} (hf : f ∈ arguments) (h : Occurs id f) :
    Occurs id (.call name arguments)
  | left {op : BinaryOp} {left right : Formula} (h : Occurs id left) : Occurs id (.binary op left right)
  | right {op : BinaryOp} {left right : Formula} (h : Occurs id right) : Occurs id (.binary op left right)
  | operand {op : UnaryOp} {operand : Formula} (h : Occurs id operand) : Occurs id (.unary op operand)

namespace Formula

mutual

theorem mem_references_iff {id : String} : (f : Formula) → (id ∈ f.references ↔ f.Occurs id)
  | .literal _ => by
    rw [references]
    constructor
    · intro h
      cases h
    · rintro ⟨⟩
  | .field r => by
    rw [references, List.mem_singleton]
    constructor
    · exact fun h => .field h.symm
    · rintro ⟨h⟩
      exact h.symm
  | .call _ fs => by
    rw [references, mem_referencesIn_iff fs]
    constructor
    · rintro ⟨f, hf, h⟩
      exact .argument hf h
    · rintro ⟨⟩
      next f h hf => exact ⟨f, hf, h⟩
  | .binary _ left right => by
    rw [references, List.mem_append, mem_references_iff left, mem_references_iff right]
    constructor
    · rintro (h | h)
      · exact .left h
      · exact .right h
    · rintro ⟨⟩
      · next h => exact .inl h
      · next h => exact .inr h
  | .unary _ operand => by
    rw [references, mem_references_iff operand]
    constructor
    · exact .operand
    · rintro ⟨⟩
      assumption

theorem mem_referencesIn_iff {id : String} : (fs : List Formula) → (id ∈ referencesIn fs ↔ ∃ f ∈ fs, f.Occurs id)
  | [] => by simp [referencesIn]
  | f :: fs => by simp [referencesIn, mem_references_iff f, mem_referencesIn_iff fs]

end

theorem mem_fieldIds_iff {f : Formula} {id : String} : id ∈ f.fieldIds ↔ f.Occurs id := by
  rw [fieldIds, List.mem_eraseDups, mem_references_iff]

end Formula

/-- What a formula field refers to: the ids in its formula or, without a formula that can be read, those it is said to
refer to. -/
inductive Field.RefersTo (f : Field) (id : String) : Prop
  | formula {text : String} {formula : Formula} (ht : f.options.formula = some text) (hp : parse text = .ok formula)
    (h : formula.Occurs id)
  | said {ids : List String} (hp : ∀ text formula, f.options.formula = some text → parse text ≠ .ok formula)
    (hi : f.options.referencedFieldIds = some ids) (h : id ∈ ids)

/-- The fields that an edge of a kind starts from and the option that names its end, for the kinds that come from an
option. -/
def EdgeKind.option? : EdgeKind → Option (ComputedKind × (FieldOptions → Option String))
  | lookup => some (.lookup, (·.fieldIdInLinkedTable))
  | lookupVia => some (.lookup, (·.recordLinkFieldId))
  | rollup => some (.rollup, (·.fieldIdInLinkedTable))
  | rollupVia => some (.rollup, (·.recordLinkFieldId))
  | count => some (.count, (·.recordLinkFieldId))
  | formulaRef | recordLink => none

namespace Field

variable {f : Field}

theorem formula?_of_type (h : f.type = .formula) : f.formula? = f.options.formula.map parse := by
  rw [formula?, formulaText?, if_pos h]

theorem formulaReferences_of_ok (ht : f.type = .formula) {text : String} (htext : f.options.formula = some text)
    {formula : Formula} (hp : parse text = .ok formula) : f.formulaReferences = formula.fieldIds := by
  simp only [formulaReferences, formula?_of_type ht, htext, Option.map_some, hp]

theorem formulaReferences_of_ne_ok (ht : f.type = .formula)
    (hp : ∀ text formula, f.options.formula = some text → parse text ≠ .ok formula) :
    f.formulaReferences = f.options.referencedFieldIds.getD [] := by
  rw [formulaReferences, formula?_of_type ht]
  split
  · next formula h =>
    obtain ⟨text, htext, hok⟩ := Option.map_eq_some_iff.1 h
    exact absurd hok (hp text formula htext)
  · rfl

theorem mem_formulaReferences_iff (ht : f.type = .formula) {id : String} :
    id ∈ f.formulaReferences ↔ f.RefersTo id := by
  by_cases hread : ∃ text formula, f.options.formula = some text ∧ parse text = .ok formula
  · obtain ⟨text, formula, htext, hp⟩ := hread
    rw [formulaReferences_of_ok ht htext hp, Formula.mem_fieldIds_iff]
    constructor
    · exact .formula htext hp
    · rintro (⟨htext', hp', h⟩ | ⟨hn, -, -⟩)
      · cases htext.symm.trans htext'
        cases hp.symm.trans hp'
        exact h
      · exact absurd hp (hn text formula htext)
  · have hn (text : String) (formula : Formula) (htext : f.options.formula = some text) : parse text ≠ .ok formula :=
      fun hp => hread ⟨text, formula, htext, hp⟩
    rw [formulaReferences_of_ne_ok ht hn]
    constructor
    · intro h
      cases hi : f.options.referencedFieldIds with
      | none => simp [hi] at h
      | some ids => exact .said hn hi (by simpa [hi] using h)
    · rintro (⟨htext, hp, -⟩ | ⟨-, hi, h⟩)
      · exact absurd hp (hn _ _ htext)
      · simpa [hi] using h

theorem computedKind?_eq_formula_iff : f.computedKind? = some .formula ↔ f.type = .formula := by
  rw [computedKind?]
  cases f.type <;> simp [FieldType.computedKind?]

theorem mem_mentions_formulaRef_iff {id : String} :
    (id, .formulaRef) ∈ f.mentions ↔ f.type = .formula ∧ f.RefersTo id := by
  rw [← computedKind?_eq_formula_iff, mentions]
  cases hk : f.computedKind? with
  | none => simp
  | some kind =>
    cases kind with
    | formula => simp [mem_formulaReferences_iff (computedKind?_eq_formula_iff.1 hk)]
    | _ => simp

theorem mem_mentions_option_iff {kind : EdgeKind} {computed : ComputedKind} {option : FieldOptions → Option String}
    (h : kind.option? = some (computed, option)) {id : String} :
    (id, kind) ∈ f.mentions ↔ f.computedKind? = some computed ∧ option f.options = some id := by
  rw [mentions]
  cases kind with
  | formulaRef | recordLink => cases h
  | _ =>
    cases h
    cases f.computedKind? with
    | none => simp
    | some computed => cases computed <;> simp [linkId?, targetId?]

theorem recordLink_not_mem_mentions {id : String} : (id, .recordLink) ∉ f.mentions := by
  rw [mentions]
  cases f.computedKind? with
  | none => simp
  | some computed => cases computed <;> simp

end Field

/-- The first field is a link whose other side is said to be the second, another field. -/
def Schema.NamesInverse (s : Schema) (a b : String) : Prop :=
  ∃ f ∈ s.fields, f.id = a ∧ f.type = .multipleRecordLinks ∧ f.options.inverseLinkFieldId = some b ∧
    ∃ t ∈ s.fields, t.id = b

namespace DependencyGraph

variable {s : Schema}

theorem mem_edges_iff_of_ne {a b : String} {kind : EdgeKind} (hk : kind ≠ .recordLink) :
    ⟨a, b, kind⟩ ∈ (ofSchema s).edges ↔
      ∃ f ∈ s.fields, f.id = a ∧ (b, kind) ∈ f.mentions ∧ ∃ t ∈ s.fields, t.id = b := by
  simp only [mem_edges_ofSchema, mem_edgesOf_iff_of_ne (e := ⟨a, b, kind⟩) hk, Schema.isSome_field?_iff, @eq_comm _ a]

theorem mem_linkEdges_iff {f : Field} {e : Edge} : e ∈ linkEdges s f ↔
    ∃ inverse, f.type = .multipleRecordLinks ∧ f.options.inverseLinkFieldId = some inverse ∧
      (∃ t ∈ s.fields, t.id = inverse) ∧ (e = ⟨f.id, inverse, .recordLink⟩ ∨ e = ⟨inverse, f.id, .recordLink⟩) := by
  rw [linkEdges]
  cases f.options.inverseLinkFieldId with
  | none => simp
  | some inverse =>
    simp only [Bool.and_eq_true, Schema.isSome_field?_iff, FieldType.isLink, beq_iff_eq, Option.some.injEq]
    split
    · next h => simp [h.1, h.2]
    · next h =>
      constructor
      · intro he
        cases he
      · rintro ⟨_, ht, rfl, hi, -⟩
        exact absurd ⟨ht, hi⟩ h

theorem mem_edges_recordLink_iff {a b : String} :
    ⟨a, b, .recordLink⟩ ∈ (ofSchema s).edges ↔ s.NamesInverse a b ∨ s.NamesInverse b a := by
  rw [mem_edges_ofSchema]
  constructor
  · rintro ⟨f, hf, he⟩
    rcases List.mem_append.1 he with he | he
    · obtain ⟨⟨id, kind⟩, hm, he⟩ := List.mem_map.1 he
      cases he
      exact absurd (List.mem_filter.1 hm).1 Field.recordLink_not_mem_mentions
    · obtain ⟨inverse, ht, hi, hs, he | he⟩ := mem_linkEdges_iff.1 he
      · cases he
        exact .inl ⟨f, hf, rfl, ht, hi, hs⟩
      · cases he
        exact .inr ⟨f, hf, rfl, ht, hi, hs⟩
  · rintro (⟨f, hf, rfl, ht, hi, hs⟩ | ⟨f, hf, rfl, ht, hi, hs⟩)
    · exact ⟨f, hf, List.mem_append_right _ (mem_linkEdges_iff.2 ⟨b, ht, hi, hs, .inl rfl⟩)⟩
    · exact ⟨f, hf, List.mem_append_right _ (mem_linkEdges_iff.2 ⟨a, ht, hi, hs, .inr rfl⟩)⟩

theorem exists_ends {e : Edge} (h : e ∈ (ofSchema s).edges) :
    (∃ f ∈ s.fields, f.id = e.source) ∧ ∃ f ∈ s.fields, f.id = e.target := by
  by_cases hk : e.kind = .recordLink
  · have he : ⟨e.source, e.target, .recordLink⟩ ∈ (ofSchema s).edges := by
      rw [← hk]
      exact h
    rcases mem_edges_recordLink_iff.1 he with ⟨f, hf, hid, -, -, ht⟩ | ⟨f, hf, hid, -, -, ht⟩
    · exact ⟨⟨f, hf, hid⟩, ht⟩
    · exact ⟨ht, f, hf, hid⟩
  · obtain ⟨f, hf, hid, -, ht⟩ := (mem_edges_iff_of_ne hk).1 h
    exact ⟨⟨f, hf, hid⟩, ht⟩

end DependencyGraph

/-! ## Edges by their ends -/

/-- Edges that were added one after the other, and for every field the numbers of those that leave it and of those that
arrive at it. -/
structure EdgeIndex where
  edges : List Edge := []
  /-- The edges once more, for the question whether one is there already. -/
  known : Finset Edge := ∅
  leaving : String → List Nat := fun _ => []
  arriving : String → List Nat := fun _ => []

namespace EdgeIndex

/-- Adds an edge unless it is there already. -/
def add (x : EdgeIndex) (e : Edge) : EdgeIndex :=
  if e ∈ x.known then x
  else
    { edges := x.edges ++ [e]
      known := insert e x.known
      leaving := Function.update x.leaving e.source (x.leaving e.source ++ [x.edges.length])
      arriving := Function.update x.arriving e.target (x.arriving e.target ++ [x.edges.length]) }

/-- The index after adding edges to the empty one. -/
def addAll (es : List Edge) : EdgeIndex := es.foldl add {}

/-- The index after adding the edges of all fields of a schema, one field after the other. -/
def ofSchema (s : Schema) : EdgeIndex := addAll (s.fields.flatMap (DependencyGraph.edgesOf s))

/-- The edges with given numbers. -/
def numbered (x : EdgeIndex) (numbers : List Nat) : List Edge := numbers.filterMap (x.edges[·]?)

/-- The numbers that a key has are those of the edges that it belongs to, in increasing order. -/
def Numbers (key : Edge → String) (edges : List Edge) (numbers : String → List Nat) : Prop :=
  ∀ id, (numbers id).map (edges[·]?) = (edges.filter (key · == id)).map some

theorem Numbers.concat {key : Edge → String} {edges : List Edge} {numbers : String → List Nat}
    (h : Numbers key edges numbers) (e : Edge) : Numbers key (edges ++ [e])
      (Function.update numbers (key e) (numbers (key e) ++ [edges.length])) := by
  -- a number in use is that of an old edge, which keeps its place
  have hold (id : String) : (numbers id).map ((edges ++ [e])[·]?) = (edges.filter (key · == id)).map some := by
    rw [← h id]
    refine List.map_congr_left fun i hi => List.getElem?_append_left ?_
    have hmem : edges[i]? ∈ (edges.filter (key · == id)).map some := h id ▸ List.mem_map_of_mem hi
    obtain ⟨e', -, he'⟩ := List.mem_map.1 hmem
    exact (List.getElem?_eq_some_iff.1 he'.symm).1
  intro id
  by_cases hid : key e = id
  · subst hid
    rw [Function.update_self, List.map_append, hold, List.filter_append, List.map_append]
    simp
  · rw [Function.update_of_ne (Ne.symm hid), hold, List.filter_append]
    simp [hid]

/-- All parts of an index say the same. -/
structure Consistent (x : EdgeIndex) : Prop where
  nodup : x.edges.Nodup
  known : ∀ e, e ∈ x.known ↔ e ∈ x.edges
  leaving : Numbers (·.source) x.edges x.leaving
  arriving : Numbers (·.target) x.edges x.arriving

theorem Consistent.add {x : EdgeIndex} (h : x.Consistent) (e : Edge) : (x.add e).Consistent := by
  unfold EdgeIndex.add
  split
  · exact h
  · next hn =>
    rw [h.known] at hn
    exact {
      nodup := by
        rw [← List.concat_eq_append]
        exact (List.nodup_concat _ _).2 ⟨hn, h.nodup⟩
      known := fun e' => by simp [h.known, or_comm]
      leaving := h.leaving.concat e
      arriving := h.arriving.concat e }

theorem addAll_concat (es : List Edge) (e : Edge) : addAll (es ++ [e]) = (addAll es).add e := List.foldl_concat _ _ _ _

theorem consistent_addAll (es : List Edge) : (addAll es).Consistent := by
  induction es using List.reverseRecOn with
  | nil =>
    exact { nodup := .nil, known := fun _ => by simp [addAll], leaving := fun _ => rfl, arriving := fun _ => rfl }
  | append_singleton es e ih =>
    rw [addAll_concat]
    exact ih.add e

/-- The edges are those that were added, each once, in the order in which they came first. -/
theorem edges_addAll (es : List Edge) : (addAll es).edges = es.eraseDups := by
  induction es using List.reverseRecOn with
  | nil => rfl
  | append_singleton es e ih =>
    have hk : e ∈ (addAll es).known ↔ e ∈ es := by
      rw [(consistent_addAll es).known, ih, List.mem_eraseDups]
    rw [addAll_concat, eraseDups_concat, ← ih, EdgeIndex.add]
    simp only [hk]
    split <;> rfl

theorem Numbers.filterMap_eq {key : Edge → String} {edges : List Edge} {numbers : String → List Nat}
    (h : Numbers key edges numbers) (id : String) :
    (numbers id).filterMap (edges[·]?) = edges.filter (key · == id) := by
  have hf := congrArg (List.filterMap fun o => o) (h id)
  simpa [List.filterMap_map, Function.comp_def] using hf

end EdgeIndex

/-! ## Exactness -/

namespace DependencyGraph

theorem failureOf?_eq_some_iff {f : Field} {id : String} {e : FormulaError} : failureOf? f = some (id, e) ↔
    f.id = id ∧ f.type = .formula ∧ ∃ text, f.options.formula = some text ∧ parse text = .error e := by
  by_cases ht : f.type = .formula
  · rw [failureOf?, Field.formula?_of_type ht]
    cases f.options.formula with
    | none => simp
    | some text => cases hp : parse text <;> simp [ht, hp]
  · have hf : f.formula? = none := by rw [Field.formula?, Field.formulaText?, if_neg ht, Option.map_none]
    simp [failureOf?, hf, ht]

theorem map_parseFailures_ofSchema (s : Schema) : (ofSchema s).parseFailures.map (·.1) =
    (s.fields.filter (failureOf? · |>.isSome)).map (·.id) := by
  have hid (f : Field) : (failureOf? f).map (·.1) = if (failureOf? f).isSome = true then some f.id else none := by
    cases h : failureOf? f with
    | none => rfl
    | some p => rw [(failureOf?_eq_some_iff.1 h).1, Option.map_some, Option.isSome_some, if_pos rfl]
  rw [← List.filterMap_eq_map (f := fun f : Field => f.id), List.filterMap_filter]
  simp only [ofSchema, List.map_filterMap, hid]
  rfl

/-- A graph says exactly which fields of a schema depend on which, and all that it can be asked agrees. -/
structure IsGraphOf (g : DependencyGraph) (s : Schema) : Prop where
  /-- No edge occurs twice. -/
  nodup : g.edges.Nodup
  /-- Both ends of an edge are fields. -/
  ends : ∀ e ∈ g.edges, (∃ f ∈ s.fields, f.id = e.source) ∧ ∃ f ∈ s.fields, f.id = e.target
  /-- The edges that leave a field are found, in the order of all edges, -/
  edgesFrom : ∀ id, (g.edgesFrom id).Sublist g.edges ∧ ∀ e, e ∈ g.edgesFrom id ↔ e ∈ g.edges ∧ e.source = id
  /-- and so are those that arrive at it. -/
  edgesTo : ∀ id, (g.edgesTo id).Sublist g.edges ∧ ∀ e, e ∈ g.edgesTo id ↔ e ∈ g.edges ∧ e.target = id
  /-- An index that is kept while edges are added has the same edges in the same order and finds the same. -/
  index : (EdgeIndex.ofSchema s).edges = g.edges ∧ (EdgeIndex.ofSchema s).Consistent ∧
    ∀ id, (EdgeIndex.ofSchema s).numbered ((EdgeIndex.ofSchema s).leaving id) = g.edgesFrom id ∧
      (EdgeIndex.ofSchema s).numbered ((EdgeIndex.ofSchema s).arriving id) = g.edgesTo id
  /-- The computed fields are those of the schema, -/
  computed : ∀ id, g.isComputed id = true ↔ ∃ f ∈ s.computedFields, f.id = id
  /-- and edges that order computation start at them only. -/
  hierarchical : ∀ e ∈ g.edges, e.kind.isHierarchical = true → g.isComputed e.source = true
  /-- Links between records go both ways. -/
  recordLink_symm : ∀ a b, ⟨a, b, .recordLink⟩ ∈ g.edges → ⟨b, a, .recordLink⟩ ∈ g.edges
  recordLink : ∀ a b, ⟨a, b, .recordLink⟩ ∈ g.edges ↔ s.NamesInverse a b ∨ s.NamesInverse b a
  /-- A formula field depends on the fields that it refers to. -/
  formulaRef : ∀ a b, ⟨a, b, .formulaRef⟩ ∈ g.edges ↔
    ∃ f ∈ s.fields, f.id = a ∧ f.type = .formula ∧ f.RefersTo b ∧ ∃ t ∈ s.fields, t.id = b
  /-- Any other computed field depends on the fields that its options name. -/
  option : ∀ kind computed option, kind.option? = some (computed, option) → ∀ a b, ⟨a, b, kind⟩ ∈ g.edges ↔
    ∃ f ∈ s.fields, f.id = a ∧ f.computedKind? = some computed ∧ option f.options = some b ∧ ∃ t ∈ s.fields, t.id = b
  /-- The formulas that cannot be read are listed, -/
  parseFailures : ∀ id e, (id, e) ∈ g.parseFailures ↔
    ∃ f ∈ s.fields, f.id = id ∧ f.type = .formula ∧ ∃ text, f.options.formula = some text ∧ parse text = .error e
  /-- each once and in the order of their fields. -/
  parseFailures_sublist : (g.parseFailures.map (·.1)).Sublist (s.fields.map (·.id))

/-- The graph of a schema is exact. -/
theorem isGraphOf_ofSchema (s : Schema) : (ofSchema s).IsGraphOf s where
  nodup := nodup_eraseDups _
  ends e h := exists_ends h
  edgesFrom id := ⟨List.filter_sublist, fun e => by simp [edgesFrom]⟩
  edgesTo id := ⟨List.filter_sublist, fun e => by simp [edgesTo]⟩
  index := by
    have hedges : (EdgeIndex.ofSchema s).edges = (ofSchema s).edges := EdgeIndex.edges_addAll _
    have hc : (EdgeIndex.ofSchema s).Consistent := EdgeIndex.consistent_addAll _
    refine ⟨hedges, hc, fun id => ⟨?_, ?_⟩⟩
    · rw [EdgeIndex.numbered, hc.leaving.filterMap_eq, hedges]
      rfl
    · rw [EdgeIndex.numbered, hc.arriving.filterMap_eq, hedges]
      rfl
  computed id := isComputed_ofSchema_iff
  hierarchical e h hk := Feeds.isComputed (feeds_iff.2 ⟨e, h, rfl, rfl, hk⟩)
  recordLink_symm a b h := by
    rw [mem_edges_recordLink_iff] at h ⊢
    exact h.symm
  recordLink a b := mem_edges_recordLink_iff
  formulaRef a b := by
    rw [mem_edges_iff_of_ne (by decide)]
    simp only [Field.mem_mentions_formulaRef_iff, and_assoc]
  option kind computed option h a b := by
    have hk : kind ≠ .recordLink := by
      rintro rfl
      cases h
    rw [mem_edges_iff_of_ne hk]
    simp only [Field.mem_mentions_option_iff h, and_assoc]
  parseFailures id e := by
    simp only [ofSchema, List.mem_filterMap, failureOf?_eq_some_iff]
  parseFailures_sublist := by
    rw [map_parseFailures_ofSchema]
    exact List.filter_sublist.map _

end DependencyGraph

end ComputedFields
