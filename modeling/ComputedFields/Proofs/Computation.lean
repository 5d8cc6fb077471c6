import ComputedFields.Proofs.Inlining
import ComputedFields.Proofs.Reads
import Mathlib.Data.Nat.Init
import Mathlib.Logic.Function.Basic

/-!
# Computing fields one after the other

`Schema.compute` computes fields in a given sequence, each from the values so far. A formula reads the fields that it
refers to and no others (`evaluate_congr`), so

- a sequence in which no field comes before one that it refers to ends in a record in which all of these fields hold the
  values of their formulas (`Schema.IsSchedule.completes`);
- two such records agree on a field if they agree on the stored values that the field depends on, by induction on the
  depth (`Schema.eq_of_computed`).

Both together say that the record does not depend on the sequence (`compute_eq_iff_completes`), and that a field which
a change does not ask to be computed again keeps its value (`compute_eq_of_not_requiresRecompute`). This is so for the
fields of a schema. A change of a value at an id that no field has asks for nothing (`requiresRecompute_undeclared`).
-/

namespace ComputedFields

open Relation DependencyGraph

/-! ## What formulas read -/

mutual

/-- The value of a formula depends on the fields that it refers to. -/
theorem evaluate_congr {record record' : Record} : (f : Formula) →
    (∀ id ∈ f.references, record id = record' id) → evaluate record f = evaluate record' f
  | .literal _, _ => rfl
  | .field r, h => by rw [evaluate, evaluate, h r.id (List.mem_singleton.2 rfl)]
  | .call name fs, h => by rw [evaluate, evaluate, evaluateAll_congr fs h]
  | .binary op left right, h => by
    rw [evaluate, evaluate, evaluate_congr left fun id hm => h id (List.mem_append_left _ hm),
      evaluate_congr right fun id hm => h id (List.mem_append_right _ hm)]
  | .unary op operand, h => by rw [evaluate, evaluate, evaluate_congr operand h]

theorem evaluateAll_congr {record record' : Record} : (fs : List Formula) →
    (∀ id ∈ Formula.referencesIn fs, record id = record' id) → evaluateAll record fs = evaluateAll record' fs
  | [], _ => rfl
  | f :: fs, h => by
    rw [evaluateAll, evaluateAll, evaluate_congr f fun id hm => h id (List.mem_append_left _ hm),
      evaluateAll_congr fs fun id hm => h id (List.mem_append_right _ hm)]

end

/-- The value of an outcome. An error counts as a blank, and so does an evaluation that breaks off, as if each field
were guarded against it. -/
def Outcome.orBlank : Outcome → Value
  | .ok v => v
  | .error _ => .blank

namespace Schema

/-- The formula of a field refers to another field. -/
def Refers (s : Schema) (x y : String) : Prop := ∃ f, s.readFormula? x = some f ∧ y ∈ f.references

/-- The value of a field for a record, which is blank without a formula that can be read. -/
def valueFor (s : Schema) (record : Record) (id : String) : Value :=
  match s.readFormula? id with
  | some f => Outcome.orBlank (evaluate record f)
  | none => .blank

variable {s : Schema}

theorem valueFor_congr {record record' : Record} {id : String} (h : ∀ y, s.Refers id y → record y = record' y) :
    s.valueFor record id = s.valueFor record' id := by
  unfold valueFor
  cases hf : s.readFormula? id with
  | none => rfl
  | some f =>
    dsimp only
    rw [evaluate_congr f fun y hy => h y ⟨f, hf, hy⟩]

theorem Refers.exists_reads {x y : String} (h : s.Refers x y) : ∃ f ∈ s.computedFields, f.id = x ∧ y ∈ f.reads := by
  obtain ⟨formula, hx, hy⟩ := h
  unfold readFormula? at hx
  split at hx
  · next g hg =>
    cases hx
    obtain ⟨f, hf, hp⟩ := Option.bind_eq_some_iff.1 hg
    obtain ⟨hm, rfl⟩ := field?_eq_some_iff.1 hf
    have hc : f.isComputed = true := by rw [Field.isComputed, Field.type_eq_formula hp]; rfl
    refine ⟨f, List.mem_filter.2 ⟨hm, hc⟩, rfl, ?_⟩
    rw [Field.reads_of_formula? hp]
    exact List.mem_eraseDups.2 hy
  · cases hx

theorem Refers.feeds {x : String} {t : Field} (ht : t ∈ s.fields) (h : s.Refers x t.id) :
    (ofSchema s).Feeds t.id x := by
  obtain ⟨f, hf, rfl, hr⟩ := h.exists_reads
  exact feeds_of_mem_reads hf ht hr

theorem exists_field_of_mem_orderedFields {id : String} (h : id ∈ (ofSchema s).order.orderedFields) :
    ∃ f ∈ s.fields, f.id = id := by
  obtain ⟨f, hf, he⟩ := isComputed_ofSchema_iff.1 (mem_orderedFields_iff.1 h).1
  exact ⟨f, (List.mem_filter.1 hf).1, he⟩

/-- An ordered field has a greater depth than the ordered fields that it refers to. -/
theorem Refers.exists_depth?_lt {x y : String} {d : Nat} (h : s.Refers x y)
    (hy : y ∈ (ofSchema s).order.orderedFields) (hd : (ofSchema s).order.depth? x = some d) :
    ∃ e < d, (ofSchema s).order.depth? y = some e := by
  obtain ⟨t, ht, rfl⟩ := exists_field_of_mem_orderedFields hy
  have hf := h.feeds ht
  exact DependencyGraph.exists_depth?_lt (needs_iff_feeds.2 ⟨hf.isComputed, (mem_orderedFields_iff.1 hy).1, hf⟩) hd

/-! ## Sequences -/

/-- The record after fields are computed one after the other, each from the values so far. -/
def compute (s : Schema) : List String → Record → Record
  | [], record => record
  | id :: ids, record => compute s ids (Function.update record id (s.valueFor record id))

theorem compute_of_notMem {ids : List String} {record : Record} {id : String} (h : id ∉ ids) :
    s.compute ids record id = record id := by
  induction ids generalizing record with
  | nil => rfl
  | cons x ids ih =>
    rw [List.mem_cons, not_or] at h
    rw [compute, ih h.2, Function.update_of_ne h.1]

/-- A sequence in which every ordered field is computed once, and none before one that its formula refers to. -/
structure IsSchedule (s : Schema) (ids : List String) : Prop where
  perm : ids.Perm (ofSchema s).order.orderedFields
  pairwise : ids.Pairwise fun x y => ¬ s.Refers x y

/-- A record that extends stored values to the ordered fields, all of which hold the values of their formulas. -/
structure Completes (s : Schema) (stored record : Record) : Prop where
  stored : ∀ id ∉ (ofSchema s).order.orderedFields, record id = stored id
  computed : ∀ id ∈ (ofSchema s).order.orderedFields, record id = s.valueFor record id

/-- Fields that refer neither to themselves nor to later ones end up with the values of their formulas. -/
theorem compute_eq_valueFor {ids : List String} (hd : ids.Nodup) (hp : ids.Pairwise fun x y => ¬ s.Refers x y)
    (hs : ∀ x ∈ ids, ¬ s.Refers x x) {record : Record} {id : String} (h : id ∈ ids) :
    s.compute ids record id = s.valueFor (s.compute ids record) id := by
  induction ids generalizing record with
  | nil => cases h
  | cons x ids ih =>
    obtain ⟨hx, hd⟩ := List.nodup_cons.1 hd
    obtain ⟨hlater, hp⟩ := List.pairwise_cons.1 hp
    obtain ⟨hself, hs⟩ := List.forall_mem_cons.1 hs
    rw [compute]
    rcases List.mem_cons.1 h with rfl | h
    · -- nothing that the formula refers to is computed from here on
      rw [compute_of_notMem hx, Function.update_self]
      refine valueFor_congr fun y hy => ?_
      have hne : y ≠ id := fun he => hself (he ▸ hy)
      have hids : y ∉ ids := fun hm => hlater y hm hy
      rw [compute_of_notMem hids, Function.update_of_ne hne]
    · exact ih hd hp hs h

theorem not_refers_self {x : String} (h : x ∈ (ofSchema s).order.orderedFields) : ¬ s.Refers x x := by
  intro hx
  obtain ⟨_, d, hd⟩ := mem_orderedFields_iff.1 h
  obtain ⟨e, hlt, he⟩ := hx.exists_depth?_lt h hd
  rw [hd] at he
  cases he
  exact Nat.lt_irrefl d hlt

theorem IsSchedule.completes {ids : List String} (h : s.IsSchedule ids) (stored : Record) :
    s.Completes stored (s.compute ids stored) where
  stored _ hid := compute_of_notMem fun hm => hid (h.perm.mem_iff.1 hm)
  computed _ hid :=
    compute_eq_valueFor (h.perm.nodup_iff.2 (nodup_orderedFields (nodup_computedIds s))) h.pairwise
      (fun _ hx => not_refers_self (h.perm.mem_iff.1 hx)) (h.perm.mem_iff.2 hid)

/-- Fields of lower depth come first. -/
theorem isSchedule_orderedFields (s : Schema) : s.IsSchedule (ofSchema s).order.orderedFields := by
  refine ⟨.refl _, ?_⟩
  have key {l l' : Nat × List String} (hl : l ∈ (ofSchema s).order.levels) (hl' : l' ∈ (ofSchema s).order.levels)
      (hle : l.1 ≤ l'.1) (x : String) (hx : x ∈ l.2) (y : String) (hy : y ∈ l'.2) : ¬ s.Refers x y := by
    intro h
    have hdx := (depth?_of_mem_levels hl hx).2
    have hdy := depth?_of_mem_levels hl' hy
    obtain ⟨e, hlt, he⟩ := h.exists_depth?_lt (mem_orderedFields_iff.2 ⟨hdy.1, _, hdy.2⟩) hdx
    rw [hdy.2] at he
    cases he
    omega
  refine List.pairwise_flatMap.2 ⟨fun l hl => List.pairwise_of_forall_mem_list (key hl hl (Nat.le_refl _)), ?_⟩
  exact ComputationOrder.pairwise_levels.imp_of_mem fun hl hl' hlt => key hl hl' (Nat.le_of_lt hlt)

/-- Records in which the ordered fields hold the values of their formulas agree on a set of ordered fields if they agree
on what these fields refer to outside the set. -/
theorem eq_of_computed {record record' : Record} {P : String → Prop}
    (h : ∀ id ∈ (ofSchema s).order.orderedFields, record id = s.valueFor record id)
    (h' : ∀ id ∈ (ofSchema s).order.orderedFields, record' id = s.valueFor record' id)
    (hP : ∀ x ∈ (ofSchema s).order.orderedFields, P x → ∀ y, s.Refers x y →
      y ∈ (ofSchema s).order.orderedFields ∧ P y ∨ record y = record' y)
    {x : String} (hx : x ∈ (ofSchema s).order.orderedFields) (hPx : P x) : record x = record' x := by
  obtain ⟨_, d, hd⟩ := mem_orderedFields_iff.1 hx
  induction d using Nat.strong_induction_on generalizing x with
  | _ d ih =>
    rw [h x hx, h' x hx]
    refine valueFor_congr fun y hy => ?_
    rcases hP x hx hPx y hy with ⟨hyo, hPy⟩ | he
    · obtain ⟨e, hlt, he⟩ := hy.exists_depth?_lt hyo hd
      exact ih e hlt hyo hPy (mem_orderedFields_iff.1 hyo).1 he
    · exact he

theorem Completes.unique {stored record record' : Record} (h : s.Completes stored record)
    (h' : s.Completes stored record') : record = record' := by
  have hstored (y : String) (hy : y ∉ (ofSchema s).order.orderedFields) : record y = record' y := by
    rw [h.stored y hy, h'.stored y hy]
  funext x
  by_cases hx : x ∈ (ofSchema s).order.orderedFields
  · refine eq_of_computed (P := fun _ => True) h.computed h'.computed (fun _ _ _ y _ => ?_) hx trivial
    by_cases hy : y ∈ (ofSchema s).order.orderedFields
    · exact .inl ⟨hy, trivial⟩
    · exact .inr (hstored y hy)
  · exact hstored x hx

/-- References lead to their ends along edges, if the last of them is to a field. -/
theorem feeds_of_refers {x : Field} (hx : x ∈ s.fields) {y : String} (h : TransGen s.Refers y x.id) :
    ReflTransGen (ofSchema s).Feeds x.id y := by
  induction h using TransGen.head_induction_on with
  | single h => exact .single (h.feeds hx)
  | head h hrest ih =>
    -- what refers to something is itself a field
    obtain ⟨z, hz, -⟩ := TransGen.head'_iff.1 hrest
    obtain ⟨f, hf, rfl, -⟩ := hz.exists_reads
    exact ih.tail (h.feeds (List.mem_filter.1 hf).1)

/-- A field that does not refer to an id, directly or through other fields, keeps its value when the id changes. -/
theorem compute_eq_of_not_refers {x y : String} {stored stored' : Record} (h : ∀ id, id ≠ x → stored id = stored' id)
    (hy : y ∈ (ofSchema s).order.orderedFields) (hn : ¬ TransGen s.Refers y x) :
    s.compute (ofSchema s).order.orderedFields stored y = s.compute (ofSchema s).order.orderedFields stored' y := by
  have hc := s.isSchedule_orderedFields.completes stored
  have hc' := s.isSchedule_orderedFields.completes stored'
  refine eq_of_computed (P := fun z => ¬ TransGen s.Refers z x) hc.computed hc'.computed (fun z _ hz w hw => ?_) hy hn
  by_cases hwo : w ∈ (ofSchema s).order.orderedFields
  · exact .inl ⟨hwo, fun hr => hz (hr.head hw)⟩
  · have hne : w ≠ x := by
      rintro rfl
      exact hz (.single hw)
    exact .inr (by rw [hc.stored w hwo, hc'.stored w hwo, h w hne])

end Schema

/-- The order in which fields are computed does not matter: all sequences in which no field comes before an ordered
field that it refers to, the order of computation among them, end in the one record in which every ordered field holds
the value of its formula. -/
theorem compute_eq_iff_completes (s : Schema) (stored : Record) :
    (∀ ids, s.IsSchedule ids → s.compute ids stored = s.compute (ofSchema s).order.orderedFields stored) ∧
    s.IsSchedule (ofSchema s).order.orderedFields ∧
    ∀ record, s.Completes stored record ↔ record = s.compute (ofSchema s).order.orderedFields stored := by
  have hordered := s.isSchedule_orderedFields
  refine ⟨fun ids h => (h.completes stored).unique (hordered.completes stored), hordered, fun record => ?_⟩
  constructor
  · exact fun h => h.unique (hordered.completes stored)
  · rintro rfl
    exact hordered.completes stored

/-- A postcard that is made of its parts, declared before them. -/
def postcardSchema : Schema where
  declared := [{ id := "postcards", name := "Postcards", fields := [
    { id := "postcard", name := "Postcard", type := .formula,
      options := { formula := some "\x7bgreeting\x7d&\x7bclosing\x7d" } },
    { id := "greeting", name := "Greeting", type := .formula, options := { formula := some "\x7bname\x7d" } },
    { id := "closing", name := "Closing", type := .formula, options := { formula := some "\x7bplace\x7d" } },
    { id := "name", name := "Name", type := .singleLineText },
    { id := "place", name := "Place", type := .singleLineText }] }]
  sound := by decide

/-- A postcard from a place. -/
def postcardFrom (place : String) : Record := fun id =>
  if id = "name" then .text "Ada" else if id = "place" then .text place else .blank

theorem parse_greetingThenClosing : parse "\x7bgreeting\x7d&\x7bclosing\x7d" =
    .ok (.binary .concat (.field { id := "greeting" }) (.field { id := "closing" })) :=
  parse_references (l := 2) ['g', 'r', 'e', 'e', 't', 'i', 'n', 'g'] ['c', 'l', 'o', 's', 'i', 'n', 'g'] rfl rfl rfl
    (fun _ => rfl) rfl (by decide)

theorem parse_name : parse "\x7bname\x7d" = .ok (.field { id := "name" }) := parse_reference ['n', 'a', 'm', 'e'] rfl

theorem parse_place : parse "\x7bplace\x7d" = .ok (.field { id := "place" }) :=
  parse_reference ['p', 'l', 'a', 'c', 'e'] rfl

theorem order_postcardSchema : (ofSchema postcardSchema).order =
    ⟨[("postcard", some 1), ("greeting", some 0), ("closing", some 0)], []⟩ := by
  have hids : (ofSchema postcardSchema).computedIds = ["postcard", "greeting", "closing"] := by decide
  have hpostcard : (ofSchema postcardSchema).computedDependencies "postcard" = ["greeting", "closing"] :=
    (computedDependencies_of_parse rfl rfl rfl parse_greetingThenClosing).trans (by decide)
  have hgreeting : (ofSchema postcardSchema).computedDependencies "greeting" = [] :=
    (computedDependencies_of_parse rfl rfl rfl parse_name).trans (by decide)
  have hclosing : (ofSchema postcardSchema).computedDependencies "closing" = [] :=
    (computedDependencies_of_parse rfl rfl rfl parse_place).trans (by decide)
  simp [order, walk, hids, visitAll, visit, hpostcard, hgreeting, hclosing, deeper, List.lookup_cons]

theorem orderedFields_postcardSchema :
    (ofSchema postcardSchema).order.orderedFields = ["greeting", "closing", "postcard"] := by
  rw [order_postcardSchema]
  decide

theorem isSchedule_postcardSchema : postcardSchema.IsSchedule ["closing", "greeting", "postcard"] := by
  have hg : postcardSchema.readFormula? "greeting" = some (.field { id := "name" }) :=
    Schema.readFormula?_of_parse rfl rfl parse_name
  have hc : postcardSchema.readFormula? "closing" = some (.field { id := "place" }) :=
    Schema.readFormula?_of_parse rfl rfl parse_place
  have refers {x y id : String} (h : postcardSchema.readFormula? x = some (.field { id })) (hne : y ≠ id) :
      ¬ postcardSchema.Refers x y := by
    rintro ⟨f, hf, hy⟩
    cases h.symm.trans hf
    exact hne (List.mem_singleton.1 hy)
  refine ⟨?_, ?_⟩
  · rw [orderedFields_postcardSchema]
    exact .swap _ _ _
  · simp [refers hg, refers hc]

/-- The parts of a postcard can be written in any order. -/
theorem compute_eq_iff_completes_postcardSchema :
    postcardSchema.IsSchedule ["closing", "greeting", "postcard"] ∧
    (ofSchema postcardSchema).order.orderedFields = ["greeting", "closing", "postcard"] ∧
    postcardSchema.compute ["closing", "greeting", "postcard"] (postcardFrom "Rome") =
      postcardSchema.compute (ofSchema postcardSchema).order.orderedFields (postcardFrom "Rome") :=
  ⟨isSchedule_postcardSchema, orderedFields_postcardSchema,
    (compute_eq_iff_completes postcardSchema (postcardFrom "Rome")).1 _ isSchedule_postcardSchema⟩

/-- A field that a change does not ask to be computed again keeps its value. -/
theorem compute_eq_of_not_requiresRecompute {s : Schema} {x : Field} (hx : x ∈ s.fields) {stored stored' : Record}
    (h : ∀ id, id ≠ x.id → stored id = stored' id) {y : String} (hy : y ∈ (ofSchema s).order.orderedFields)
    (hn : (ofSchema s).order.requiresRecompute (ofSchema s) x.id y = false) :
    s.compute (ofSchema s).order.orderedFields stored y = s.compute (ofSchema s).order.orderedFields stored' y := by
  refine Schema.compute_eq_of_not_refers h hy fun hr => ?_
  rw [requiresRecompute_of_feeds (Schema.feeds_of_refers hx hr)] at hn
  cases hn

theorem not_requiresRecompute_greeting :
    (ofSchema postcardSchema).order.requiresRecompute (ofSchema postcardSchema) "place" "greeting" = false := by
  rw [Bool.eq_false_iff]
  intro h
  have hname {x : String} (hx : (ofSchema postcardSchema).Feeds x "greeting") : x = "name" := by
    rw [feeds_iff_mem_dependencies, dependencies_of_parse rfl rfl rfl parse_name] at hx
    exact List.mem_singleton.1 (List.mem_filter.1 hx).1
  have hstored {x : String} : ¬ (ofSchema postcardSchema).Feeds x "name" := fun hx =>
    absurd hx.isComputed (by decide)
  -- the greeting waits for the name, which waits for nothing
  rcases (feeds_of_requiresRecompute h).cases_tail with he | ⟨x, hpath, hx⟩
  · exact absurd he (by decide)
  · rw [hname hx] at hpath
    rcases hpath.cases_tail with he | ⟨y, -, hy⟩
    · exact absurd he (by decide)
    · exact hstored hy

/-- The greeting of a postcard does not depend on its place. -/
theorem compute_eq_of_not_requiresRecompute_postcardSchema :
    (ofSchema postcardSchema).order.requiresRecompute (ofSchema postcardSchema) "place" "greeting" = false ∧
    postcardFrom "Rome" "place" ≠ postcardFrom "Oslo" "place" ∧
    postcardSchema.compute (ofSchema postcardSchema).order.orderedFields (postcardFrom "Rome") "greeting" =
      postcardSchema.compute (ofSchema postcardSchema).order.orderedFields (postcardFrom "Oslo") "greeting" := by
  refine ⟨not_requiresRecompute_greeting, by simp [postcardFrom], ?_⟩
  refine compute_eq_of_not_requiresRecompute (x := ⟨"place", "Place", .singleLineText, "postcards", {}, none⟩)
    (by decide) (fun id hne => ?_) ?_ not_requiresRecompute_greeting
  · simp only [postcardFrom, if_neg hne]
  · rw [orderedFields_postcardSchema]
    decide

/-! ## Ids that no field has

Formulas may refer to an id that the schema does not declare. It has no place in the graph, so a change of its value
asks for nothing to be computed again. -/

/-- A change at an id that no field has asks for no recomputation. Fields that do not refer to it, directly or through
other fields, keep their values, but one whose formula is a reference to it has the value that was changed. -/
theorem requiresRecompute_undeclared {s : Schema} {x : String} (hx : ∀ f ∈ s.fields, f.id ≠ x)
    {stored stored' : Record} (h : ∀ id, id ≠ x → stored id = stored' id) {y : String}
    (hy : y ∈ (ofSchema s).order.orderedFields) :
    (ofSchema s).order.requiresRecompute (ofSchema s) x y = false ∧
    (¬ TransGen s.Refers y x → s.compute (ofSchema s).order.orderedFields stored y =
      s.compute (ofSchema s).order.orderedFields stored' y) ∧
    ∀ r, s.readFormula? y = some (.field r) → r.id = x →
      s.compute (ofSchema s).order.orderedFields stored y = stored x := by
  refine ⟨?_, Schema.compute_eq_of_not_refers h hy, ?_⟩
  · rw [Bool.eq_false_iff]
    intro hr
    obtain he | ⟨z, hz, -⟩ := ReflTransGen.cases_head (feeds_of_requiresRecompute hr)
    · obtain ⟨f, hf, he'⟩ := Schema.exists_field_of_mem_orderedFields hy
      exact hx f hf (he'.trans he.symm)
    · obtain ⟨-, -, -, ⟨t, ht, he⟩, -⟩ := feeds_ofSchema_iff.1 hz
      exact hx t ht he
  · rintro r hr rfl
    have hc := s.isSchedule_orderedFields.completes stored
    have hordered : r.id ∉ (ofSchema s).order.orderedFields := by
      intro hm
      obtain ⟨f, hf, he⟩ := Schema.exists_field_of_mem_orderedFields hm
      exact hx f hf he
    rw [hc.computed y hy, Schema.valueFor, hr]
    exact hc.stored r.id hordered

end ComputedFields
