import ComputedFields.Proofs.Order
import Mathlib.Data.List.Nodup

/-!
# Downstream fields

`DependencyGraph.Feeds` is an edge that orders computation, from the field that is needed to the field that needs it.

- in the graph of a schema, a field feeds the computed fields that mention it in a way that orders computation
  (`feeds_ofSchema_iff`), so what a field has to wait for comes from this field alone (`dependencies_ofSchema`);
- the search by layers leaves no field behind that one of its layers feeds (`mem_layersAfter_of_feeds`), so it finds
  every field at the end of a path of such edges (`mem_downstream_of_feeds`) and no others (`feeds_of_mem_downstream`);
- along such a path the depth increases (`exists_depth?_lt_of_feeds`), so a path always asks for recomputation, whatever
  the depths of its ends (`requiresRecompute_of_feeds`), and nothing else does (`requiresRecompute_iff_feeds`).
-/

namespace ComputedFields

open Relation

theorem Field.isComputed_of_mem_mentions {f : Field} {m : String × EdgeKind} (h : m ∈ f.mentions) :
    f.isComputed = true := by
  have hk : f.isComputed = f.computedKind?.isSome := rfl
  unfold mentions at h
  rw [hk]
  cases hc : f.computedKind? with
  | none =>
    rw [hc] at h
    cases h
  | some kind => rfl

/-- Of what all fields contribute, the part that only one field can contribute is its own. -/
theorem Schema.filter_flatMap_fields {s : Schema} {f : Field} (hf : f ∈ s.fields) {α : Type} {k : Field → List α}
    {p : α → Bool} (hp : ∀ g, ∀ a ∈ k g, p a = true → g.id = f.id) :
    (s.fields.flatMap k).filter p = (k f).filter p := by
  have hother (g : Field) (hg : g ∈ s.fields) (hne : g ≠ f) : (k g).filter p = [] :=
    List.filter_eq_nil_iff.2 fun a ha hpa => hne (eq_of_id_eq hg hf (hp g a ha hpa))
  obtain ⟨before, after, hfields⟩ := List.append_of_mem hf
  have hnodup : (before ++ f :: after).Nodup := hfields ▸ s.nodup_fieldIds.of_map
  obtain ⟨hnot, -⟩ := List.nodup_middle.1 hnodup |> List.nodup_cons.1
  rw [List.mem_append, not_or] at hnot
  have hbefore : before.flatMap (fun g => (k g).filter p) = [] :=
    List.flatMap_eq_nil_iff.2 fun g hg =>
      hother g (hfields ▸ List.mem_append_left _ hg) fun he => hnot.1 (he ▸ hg)
  have hafter : after.flatMap (fun g => (k g).filter p) = [] :=
    List.flatMap_eq_nil_iff.2 fun g hg =>
      hother g (hfields ▸ List.mem_append_right _ (List.mem_cons_of_mem _ hg)) fun he => hnot.2 (he ▸ hg)
  rw [List.filter_flatMap, hfields, List.flatMap_append, List.flatMap_cons, hbefore, hafter, List.nil_append,
    List.append_nil]

namespace DependencyGraph

/-! ## Edges -/

/-- The field `y` can only be computed after `x`. -/
def Feeds (g : DependencyGraph) (x y : String) : Prop := y ∈ g.dependents x

theorem feeds_iff {g : DependencyGraph} {x y : String} : g.Feeds x y ↔
    ∃ e ∈ g.edges, e.source = y ∧ e.target = x ∧ e.kind.isHierarchical = true := by
  simp only [Feeds, dependents, edgesTo, List.mem_map, List.mem_filter, beq_iff_eq]
  constructor
  · rintro ⟨e, ⟨⟨he, ht⟩, hk⟩, hs⟩
    exact ⟨e, he, hs, ht, hk⟩
  · rintro ⟨e, he, hs, ht, hk⟩
    exact ⟨e, ⟨⟨he, ht⟩, hk⟩, hs⟩

theorem needs_iff_feeds {g : DependencyGraph} {x y : String} :
    g.Needs x y ↔ g.isComputed x = true ∧ g.isComputed y = true ∧ g.Feeds y x := by
  rw [feeds_iff, Needs]

variable {s : Schema}

theorem mem_edges_ofSchema {e : Edge} : e ∈ (ofSchema s).edges ↔ ∃ f ∈ s.fields, e ∈ edgesOf s f := by
  simp [ofSchema, List.mem_eraseDups, List.mem_flatMap]

/-- The links between records order no computation. -/
theorem kind_of_mem_linkEdges {f : Field} {e : Edge} (h : e ∈ linkEdges s f) : e.kind = .recordLink := by
  unfold linkEdges at h
  split at h
  · split at h
    · simp only [List.mem_cons, List.not_mem_nil, or_false] at h
      rcases h with rfl | rfl <;> rfl
    · cases h
  · cases h

/-- Besides the links between records, the edges of a field go to the known fields that it mentions. -/
theorem mem_edgesOf_iff_of_ne {f : Field} {e : Edge} (hk : e.kind ≠ .recordLink) : e ∈ edgesOf s f ↔
    e.source = f.id ∧ (e.target, e.kind) ∈ f.mentions ∧ (s.field? e.target).isSome = true := by
  constructor
  · intro h
    rcases List.mem_append.1 h with h | h
    · obtain ⟨m, hm, rfl⟩ := List.mem_map.1 h
      exact ⟨rfl, List.mem_filter.1 hm⟩
    · exact absurd (kind_of_mem_linkEdges h) hk
  · rintro ⟨hs, hm⟩
    refine List.mem_append_left _ (List.mem_map.2 ⟨(e.target, e.kind), List.mem_filter.2 hm, ?_⟩)
    rw [← hs]

/-- The edges that order the computation of a field go to the known fields that it mentions. -/
theorem mem_edgesOf_iff {f : Field} {e : Edge} (hk : e.kind.isHierarchical = true) : e ∈ edgesOf s f ↔
    e.source = f.id ∧ (e.target, e.kind) ∈ f.mentions ∧ (s.field? e.target).isSome = true := by
  refine mem_edgesOf_iff_of_ne fun he => ?_
  rw [he] at hk
  cases hk

theorem feeds_ofSchema_iff {x y : String} : (ofSchema s).Feeds x y ↔
    ∃ f ∈ s.computedFields, f.id = y ∧ (∃ t ∈ s.fields, t.id = x) ∧
      ∃ kind, (x, kind) ∈ f.mentions ∧ kind.isHierarchical = true := by
  rw [feeds_iff]
  constructor
  · rintro ⟨e, he, rfl, rfl, hk⟩
    obtain ⟨f, hf, he⟩ := mem_edges_ofSchema.1 he
    obtain ⟨hs, hm, ht⟩ := (mem_edgesOf_iff hk).1 he
    exact ⟨f, List.mem_filter.2 ⟨hf, Field.isComputed_of_mem_mentions hm⟩, hs.symm,
      Schema.isSome_field?_iff.1 ht, e.kind, hm, hk⟩
  · rintro ⟨f, hf, rfl, ht, kind, hm, hk⟩
    refine ⟨⟨f.id, x, kind⟩, mem_edges_ofSchema.2 ⟨f, (List.mem_filter.1 hf).1, ?_⟩, rfl, rfl, hk⟩
    exact (mem_edgesOf_iff hk).2 ⟨rfl, hm, Schema.isSome_field?_iff.2 ht⟩

theorem Feeds.isComputed {x y : String} (h : (ofSchema s).Feeds x y) : (ofSchema s).isComputed y = true := by
  obtain ⟨f, hf, rfl, _⟩ := feeds_ofSchema_iff.1 h
  exact isComputed_ofSchema_iff.2 ⟨f, hf, rfl⟩

/-! ## Dependencies -/

/-- What a field has to wait for is what it mentions itself. -/
theorem dependencies_ofSchema {f : Field} (hf : f ∈ s.fields) : (ofSchema s).dependencies f.id =
    ((edgesOf s f).filter (·.kind.isHierarchical)).eraseDups.map (·.target) := by
  have hown (g : Field) (e : Edge) (he : e ∈ edgesOf s g) (h : (e.kind.isHierarchical && e.source == f.id) = true) :
      g.id = f.id := by
    rw [Bool.and_eq_true, beq_iff_eq] at h
    exact ((mem_edgesOf_iff h.1).1 he).1.symm.trans h.2
  have hsource : (edgesOf s f).filter (fun e => e.kind.isHierarchical && e.source == f.id) =
      (edgesOf s f).filter (·.kind.isHierarchical) := by
    refine List.filter_congr fun e he => ?_
    cases hk : e.kind.isHierarchical with
    | false => rfl
    | true => simp [((mem_edgesOf_iff hk).1 he).1]
  rw [dependencies, edgesFrom, List.filter_filter, ofSchema, ← eraseDups_filter, Schema.filter_flatMap_fields hf hown,
    hsource]

theorem computedDependencies_ofSchema {f : Field} (hf : f ∈ s.fields) : (ofSchema s).computedDependencies f.id =
    (((edgesOf s f).filter (·.kind.isHierarchical)).eraseDups.map (·.target)).filter (ofSchema s).isComputed := by
  rw [computedDependencies, dependencies_ofSchema hf]

theorem feeds_iff_mem_dependencies {g : DependencyGraph} {x y : String} : g.Feeds x y ↔ x ∈ g.dependencies y := by
  simp only [feeds_iff, dependencies, edgesFrom, List.mem_map, List.mem_filter, beq_iff_eq]
  constructor
  · rintro ⟨e, he, hs, ht, hk⟩
    exact ⟨e, ⟨⟨he, hs⟩, hk⟩, ht⟩
  · rintro ⟨e, ⟨⟨he, hs⟩, hk⟩, ht⟩
    exact ⟨e, he, hs, ht, hk⟩

/-- The edges of a formula field lead to the fields that its formula refers to. -/
theorem edgesOf_formula {f : Field} {formula : Formula} (ht : f.type = .formula)
    (hf : f.formula? = some (.ok formula)) :
    edgesOf s f = (formula.fieldIds.filter fun id => (s.field? id).isSome).map (⟨f.id, ·, .formulaRef⟩) := by
  have hmentions : f.mentions = formula.fieldIds.map (·, .formulaRef) := by
    simp only [Field.mentions, Field.computedKind?, ht, Field.formulaReferences, hf, FieldType.computedKind?]
  have hlinks : linkEdges s f = [] := by
    unfold linkEdges
    split <;> simp [ht, FieldType.isLink]
  rw [edgesOf, hmentions, hlinks, List.append_nil, List.filter_map, List.map_map]
  rfl

/-- A formula field waits for the known fields that its formula refers to. -/
theorem dependencies_of_parse {id text : String} {f : Field} {formula : Formula} (hf : s.field? id = some f)
    (ht : f.type = .formula) (htext : f.formulaText? = some text) (hp : parse text = .ok formula) :
    (ofSchema s).dependencies id = formula.fieldIds.filter fun id => (s.field? id).isSome := by
  obtain ⟨hmem, rfl⟩ := Schema.field?_eq_some_iff.1 hf
  have hformula : f.formula? = some (.ok formula) := by rw [Field.formula?, htext, Option.map_some, hp]
  have hnodup : ((formula.fieldIds.filter fun id => (s.field? id).isSome).map
      fun id => (⟨f.id, id, .formulaRef⟩ : Edge)).Nodup :=
    ((nodup_eraseDups _).filter _).map fun _ _ h => (Edge.mk.inj h).2.1
  have hall : ∀ e ∈ (formula.fieldIds.filter fun id => (s.field? id).isSome).map
      fun id => (⟨f.id, id, .formulaRef⟩ : Edge), e.kind.isHierarchical = true := by
    refine List.forall_mem_map.2 fun id _ => rfl
  rw [dependencies_ofSchema hmem, edgesOf_formula ht hformula, List.filter_eq_self.2 hall, eraseDups_of_nodup hnodup,
    List.map_map]
  exact List.map_id _

/-- A formula field needs the computed fields that its formula refers to. -/
theorem computedDependencies_of_parse {id text : String} {f : Field} {formula : Formula} (hf : s.field? id = some f)
    (ht : f.type = .formula) (htext : f.formulaText? = some text) (hp : parse text = .ok formula) :
    (ofSchema s).computedDependencies id = formula.fieldIds.filter (ofSchema s).isComputed := by
  rw [computedDependencies, dependencies_of_parse hf ht htext hp, List.filter_filter]
  refine List.filter_congr fun id _ => ?_
  cases hc : (ofSchema s).isComputed id with
  | false => rfl
  | true =>
    obtain ⟨g, hg, rfl⟩ := isComputed_ofSchema_iff.1 hc
    rw [Schema.field?_of_mem (List.mem_filter.1 hg).1]
    rfl

/-! ## The search by layers -/

section Layers

variable {g : DependencyGraph}

theorem mem_nextLayer_iff {unseen layer : List String} {y : String} :
    y ∈ g.nextLayer unseen layer ↔ (∃ x ∈ layer, g.Feeds x y) ∧ y ∈ unseen := by
  simp [nextLayer, Feeds, List.mem_eraseDups, List.mem_flatMap]

/-- What a field feeds is found as well. -/
theorem mem_layersAfter_of_feeds {unseen layer : List String} {x y : String}
    (hx : x ∈ layer ++ g.layersAfter unseen layer) (h : g.Feeds x y) (hy : y ∈ unseen) :
    y ∈ g.layersAfter unseen layer := by
  fun_induction layersAfter g unseen layer with
  | case1 unseen layer hn =>
    rw [List.append_nil] at hx
    rw [← hn]
    exact mem_nextLayer_iff.2 ⟨⟨x, hx, h⟩, hy⟩
  | case2 unseen layer hn ih =>
    -- the next layer takes what it can see, and what it does not take is still unseen after it
    by_cases hl : y ∈ g.nextLayer unseen layer
    · exact List.mem_append_left _ hl
    · rcases List.mem_append.1 hx with hx | hx
      · exact absurd (mem_nextLayer_iff.2 ⟨⟨x, hx, h⟩, hy⟩) hl
      · exact List.mem_append_right _ (ih hx (List.mem_filter.2 ⟨hy, by simpa using hl⟩))

/-- What is found is at the end of a path from the layer. -/
theorem exists_feeds_of_mem_layersAfter {unseen layer : List String} {y : String}
    (h : y ∈ g.layersAfter unseen layer) : ∃ x ∈ layer, TransGen g.Feeds x y := by
  fun_induction layersAfter g unseen layer with
  | case1 unseen layer hn => cases h
  | case2 unseen layer hn ih =>
    rcases List.mem_append.1 h with h | h
    · obtain ⟨⟨x, hx, hxy⟩, _⟩ := mem_nextLayer_iff.1 h
      exact ⟨x, hx, .single hxy⟩
    · obtain ⟨z, hz, hzy⟩ := ih h
      obtain ⟨⟨x, hx, hxz⟩, _⟩ := mem_nextLayer_iff.1 hz
      exact ⟨x, hx, .head hxz hzy⟩

theorem feeds_of_mem_downstream {x y : String} (h : y ∈ g.downstream x) : TransGen g.Feeds x y := by
  obtain ⟨z, hz, hzy⟩ := exists_feeds_of_mem_layersAfter h
  rwa [List.mem_singleton.1 hz] at hzy

end Layers

theorem fieldIds_ofSchema (s : Schema) : (ofSchema s).fieldIds = s.fields.map (·.id) := by
  simp [fieldIds, ofSchema, nodesOf, List.filterMap_flatMap, List.filterMap_map, Schema.fields, List.map_flatMap]

theorem Feeds.mem_fieldIds {x y : String} (h : (ofSchema s).Feeds x y) : y ∈ (ofSchema s).fieldIds := by
  obtain ⟨f, hf, rfl, _⟩ := feeds_ofSchema_iff.1 h
  rw [fieldIds_ofSchema]
  exact List.mem_map_of_mem (List.mem_filter.1 hf).1

/-- Every field that a path of edges leads to is downstream. -/
theorem mem_downstream_of_feeds {x y : String} (h : ReflTransGen (ofSchema s).Feeds x y) :
    y ∈ x :: (ofSchema s).downstream x := by
  induction h with
  | refl => exact List.mem_cons_self
  | @tail z y _ hzy ih =>
    by_cases he : y = x
    · exact he ▸ List.mem_cons_self
    · have hy : y ∈ (ofSchema s).fieldIds.filter (· != x) := List.mem_filter.2 ⟨hzy.mem_fieldIds, by simpa using he⟩
      exact List.mem_cons_of_mem _ (mem_layersAfter_of_feeds ih hzy hy)

/-! ## Recomputation -/

theorem isComputed_of_depth? {g : DependencyGraph} {x : String} {d : Nat} (h : g.order.depth? x = some d) :
    g.isComputed x = true := by
  have hl := Option.join_eq_some_iff.1 h
  obtain ⟨p, hp, he⟩ := List.lookup_isSome_iff.1 (Option.isSome_of_eq_some hl)
  rw [depths_order] at hp
  obtain ⟨y, hy, rfl⟩ := List.mem_map.1 hp
  rw [eq_of_beq he]
  exact isComputed_iff.2 hy

/-- Along a path of edges the depth increases. -/
theorem exists_depth?_lt_of_feeds {x y : String} {e : Nat} (h : TransGen (ofSchema s).Feeds x y)
    (hx : (ofSchema s).isComputed x = true) (he : (ofSchema s).order.depth? y = some e) :
    ∃ d < e, (ofSchema s).order.depth? x = some d := by
  induction h generalizing e with
  | single h => exact exists_depth?_lt (needs_iff_feeds.2 ⟨h.isComputed, hx, h⟩) he
  | @tail z y hxz hzy ih =>
    have hz : (ofSchema s).isComputed z = true := by
      obtain ⟨w, _, hwz⟩ := TransGen.tail'_iff.1 hxz
      exact hwz.isComputed
    obtain ⟨d, hd, hdz⟩ := exists_depth?_lt (needs_iff_feeds.2 ⟨hzy.isComputed, hz, hzy⟩) he
    obtain ⟨d', hd', hx⟩ := ih hdz
    exact ⟨d', Nat.lt_trans hd' hd, hx⟩

/-- A field at the end of a path has to be computed again. -/
theorem requiresRecompute_of_feeds {x y : String} (h : ReflTransGen (ofSchema s).Feeds x y) :
    (ofSchema s).order.requiresRecompute (ofSchema s) x y = true := by
  unfold ComputationOrder.requiresRecompute
  split
  · rfl
  · next hne =>
    have hmem : ((ofSchema s).downstream x).contains y = true := by
      simpa using (List.mem_cons.1 (mem_downstream_of_feeds h)).resolve_left (Ne.symm hne)
    split
    · next d e hd he =>
      have hpath := (reflTransGen_iff_eq_or_transGen.1 h).resolve_left (Ne.symm hne)
      obtain ⟨d', hlt, hd'⟩ := exists_depth?_lt_of_feeds hpath (isComputed_of_depth? hd) he
      rw [hd] at hd'
      cases hd'
      rw [if_neg (Nat.not_le.2 hlt), hmem]
    · exact hmem

/-- Recomputation is asked for along the search only, whatever the order says about depths. -/
theorem feeds_of_requiresRecompute {g : DependencyGraph} {o : ComputationOrder} {x y : String}
    (h : o.requiresRecompute g x y = true) : ReflTransGen g.Feeds x y := by
  have hfound (hmem : (g.downstream x).contains y = true) : ReflTransGen g.Feeds x y :=
    (feeds_of_mem_downstream (by simpa using hmem)).to_reflTransGen
  unfold ComputationOrder.requiresRecompute at h
  split at h
  · next he => exact he ▸ .refl
  · split at h
    · split at h
      · cases h
      · exact hfound h
    · exact hfound h

/-- A change of a field asks for recomputation of itself and of the fields at the ends of the paths from it, and of
nothing else. -/
theorem requiresRecompute_iff_feeds (s : Schema) (changed field : String) :
    (ofSchema s).order.requiresRecompute (ofSchema s) changed field = true ↔
      changed = field ∨ TransGen (ofSchema s).Feeds changed field := by
  have hpath : changed = field ∨ TransGen (ofSchema s).Feeds changed field ↔
      ReflTransGen (ofSchema s).Feeds changed field := by
    rw [reflTransGen_iff_eq_or_transGen, eq_comm]
  rw [hpath]
  exact ⟨feeds_of_requiresRecompute, requiresRecompute_of_feeds⟩

end DependencyGraph

end ComputedFields
