import ComputedFields.Proofs.Reads
import ComputedFields.Proofs.Sequence

/-!
# Recomputation

- `Field.readLinks`: the link that a getter reads through;
- `requiresRecompute_of_reads`: a change of a field asks for recomputation of all fields that read it, directly or
  through other computed fields, as long as no lookup or rollup on the way reads it as its link; a field that is nothing
  but such a link never asks for recomputation;
- `not_requiresRecompute_author`: so a lookup is not computed again when its link changes, although it reads the link.
-/

namespace ComputedFields

open Relation DependencyGraph

/-- The link that a getter reads through. -/
def Field.readLinks (f : Field) : List String :=
  match f.computedKind? with
  | some .lookup => f.linkId?.toList
  | some .rollup => f.linkId?.toList
  | some .count => f.linkId?.toList
  | _ => []

namespace Schema

/-- The getter of `y` reads the value of `x`. -/
def ReadsField (s : Schema) (y x : Field) : Prop :=
  y ∈ s.computedFields ∧ x ∈ s.fields ∧ (x.id ∈ y.reads ∨ x.id ∈ y.readLinks)

/-- The getter of `y` reads the value of `x`, not as the link of a lookup or rollup. -/
def ReadsBesideLinks (s : Schema) (y x : Field) : Prop :=
  y ∈ s.computedFields ∧ x ∈ s.fields ∧ (x.id ∈ y.reads ∨ y.computedKind? = some .count ∧ x.id ∈ y.readLinks)

end Schema

section Reads

variable {s : Schema} {x y : Field}

/-- A count mentions its link in a way that orders computation. -/
theorem exists_mention_of_count (hk : y.computedKind? = some .count) (h : x.id ∈ y.readLinks) :
    ∃ kind, (x.id, kind) ∈ y.mentions ∧ kind.isHierarchical = true := by
  simp only [Field.readLinks, hk] at h
  refine ⟨.count, ?_, rfl⟩
  simp only [Field.mentions, hk]
  exact List.mem_map_of_mem h

theorem Schema.ReadsBesideLinks.feeds (h : s.ReadsBesideLinks y x) : (ofSchema s).Feeds x.id y.id := by
  obtain ⟨hy, hx, hr | ⟨hk, hl⟩⟩ := h
  · exact feeds_of_mem_reads hy hx hr
  · exact feeds_ofSchema_iff.2 ⟨y, hy, rfl, ⟨x, hx, rfl⟩, exists_mention_of_count hk hl⟩

/-- Reads lead back along the edges. -/
theorem feeds_of_readsBesideLinks (h : TransGen s.ReadsBesideLinks y x) :
    ReflTransGen (ofSchema s).Feeds x.id y.id := by
  induction h with
  | single h => exact .single h.feeds
  | tail _ h ih => exact ih.head h.feeds

theorem downstream_eq_nil {g : DependencyGraph} {id : String} (h : ∀ y, ¬ g.Feeds id y) : g.downstream id = [] := by
  have hn (unseen : List String) : g.nextLayer unseen [id] = [] := by
    refine List.eq_nil_iff_forall_not_mem.2 fun y hy => ?_
    obtain ⟨⟨z, hz, hf⟩, _⟩ := mem_nextLayer_iff.1 hy
    rw [List.mem_singleton.1 hz] at hf
    exact h y hf
  rw [downstream, layersAfter, dif_pos (hn _)]

theorem requiresRecompute_eq_false {g : DependencyGraph} {o : ComputationOrder} {changed field : String}
    (hne : changed ≠ field) (h : g.downstream changed = []) : o.requiresRecompute g changed field = false := by
  unfold ComputationOrder.requiresRecompute
  rw [if_neg hne, h]
  split
  · split <;> rfl
  · rfl

/-- A field that is mentioned as a link of lookups and rollups only feeds no field. -/
theorem not_feeds_of_mentions {id : String}
    (h : ∀ f ∈ s.computedFields, ∀ kind, (id, kind) ∈ f.mentions → kind = .lookupVia ∨ kind = .rollupVia)
    (field : String) : ¬ (ofSchema s).Feeds id field := by
  intro hf
  obtain ⟨f, hf, _, _, kind, hm, hk⟩ := feeds_ofSchema_iff.1 hf
  rcases h f hf kind hm with rfl | rfl <;> cases hk

end Reads

/-- What a field reads asks for its recomputation, except for the links of lookups and rollups: a field that is only
such a link asks for none. -/
theorem requiresRecompute_of_reads (s : Schema) :
    (∀ x y, TransGen s.ReadsBesideLinks y x →
      (ofSchema s).order.requiresRecompute (ofSchema s) x.id y.id = true) ∧
    ∀ id field, id ≠ field →
      (∀ f ∈ s.computedFields, ∀ kind, (id, kind) ∈ f.mentions → kind = .lookupVia ∨ kind = .rollupVia) →
      (ofSchema s).order.requiresRecompute (ofSchema s) id field = false := by
  refine ⟨fun x y h => requiresRecompute_of_feeds (feeds_of_readsBesideLinks h), fun id field hne h => ?_⟩
  exact requiresRecompute_eq_false hne (downstream_eq_nil (not_feeds_of_mentions h))

/-- The body of a getter that reads through a link. -/
theorem ModuleContext.body_draft_of_linkBody {ctx : ModuleContext} {f : Field} {kind : ComputedKind} {r : LinkRead}
    {body : GetterBody} (hc : ctx.order.cycleOf? f.id = none) (hb : ctx.order.isBlocked f.id = false)
    (hk : f.computedKind? = some kind) (hne : kind ≠ .formula)
    (hr : LinkRead.ofField ctx.schema ctx.options.recordKeys ctx.names.getter? f = .ok r)
    (hl : ctx.target.linkBody r ctx.options.nullSafety = .ok body) : (ctx.draft [] f).body = body := by
  have hd : (ctx.linkDraft f).body = body := by
    simp only [linkDraft, hr, hl, bind, Except.bind, pure, Except.pure]
  cases kind with
  | formula => exact absurd rfl hne
  | _ => simpa only [draft, hc, hb, hk, Bool.false_eq_true, if_false] using hd

/-- The author of a letter, a link. -/
def authorField : Field where
  id := "author"
  name := "Author"
  type := .multipleRecordLinks
  tableId := "letters"
  options := { linkedTableId := some "people" }

/-- The name of the author of a letter. -/
def authorNameField : Field where
  id := "authorName"
  name := "Author Name"
  type := .multipleLookupValues
  tableId := "letters"
  options := { recordLinkFieldId := some "author", fieldIdInLinkedTable := some "name" }

/-- Letters with the names of their authors. -/
def authorSchema : Schema where
  declared := [
    { id := "letters", name := "Letters", fields := [authorField, authorNameField] },
    { id := "people", name := "People", fields := [{ id := "name", name := "Name", type := .singleLineText }] }]
  sound := by decide

theorem order_authorSchema : (ofSchema authorSchema).order = ⟨[("authorName", some 0)], []⟩ := by
  have hids : (ofSchema authorSchema).computedIds = ["authorName"] := by decide
  have hdeps : (ofSchema authorSchema).computedDependencies "authorName" = [] := by decide
  simp [order, walk, hids, visitAll, visit, hdeps]

/-- How the name of an author is read. -/
def authorNameRead : LinkRead := ⟨"authorName", .lookup, "author", "people", "people", false, some (.stored "name")⟩

/-- What the getter of the name of an author does. -/
def authorNameLines : List String :=
  ["ids = record.get(\"author\") or []", "if not ids:", "    return []", "linked = data.get_batch(\"people\", ids)",
    "values = [v for v in (r.get(\"name\") for r in linked) if v is not None]", "return _flatten(values)"]

theorem body_authorName :
    ((ModuleContext.ofSchema authorSchema {}).draft [] authorNameField).body = .statements authorNameLines := by
  have hk : authorNameField.computedKind? = some .lookup := rfl
  have hl : Target.python.linkBody authorNameRead true = .ok (.statements authorNameLines) := by rfl
  refine ModuleContext.body_draft_of_linkBody ?_ ?_ hk (by decide) (r := authorNameRead) rfl hl
  · rw [ModuleContext.ofSchema, order_authorSchema]
    rfl
  · rw [ModuleContext.ofSchema, order_authorSchema]
    rfl

/-- A lookup is computed and its getter reads its link, and yet it is not computed again when the link changes. -/
theorem not_requiresRecompute_author :
    authorNameField.id ∈ (ofSchema authorSchema).order.orderedFields ∧
    ((ModuleContext.ofSchema authorSchema {}).draft [] authorNameField).body = .statements authorNameLines ∧
    authorSchema.ReadsField authorNameField authorField ∧
    (ofSchema authorSchema).order.requiresRecompute (ofSchema authorSchema) authorField.id authorNameField.id =
      false := by
  refine ⟨?_, body_authorName, ⟨by decide, by decide, .inr (List.mem_singleton.2 rfl)⟩, ?_⟩
  · rw [order_authorSchema]
    decide
  · have hlast : (ofSchema authorSchema).nextLayer ["authorName", "name"] ["author"] = [] := by decide
    have hdownstream : (ofSchema authorSchema).downstream "author" = [] := by
      change layersAfter _ ["authorName", "name"] ["author"] = []
      rw [layersAfter, dif_pos hlast]
    rw [order_authorSchema]
    change ((ofSchema authorSchema).downstream "author").contains "authorName" = false
    rw [hdownstream]
    rfl

/-- The names of people are read and their link to letters is not followed. -/
theorem requiresRecompute_of_reads_authorSchema :
    (ofSchema authorSchema).order.requiresRecompute (ofSchema authorSchema) "name" "authorName" = true ∧
    ∀ field, "author" ≠ field →
      (ofSchema authorSchema).order.requiresRecompute (ofSchema authorSchema) "author" field = false := by
  have hname : authorSchema.ReadsBesideLinks authorNameField
      { id := "name", name := "Name", type := .singleLineText, tableId := "people" } :=
    ⟨by decide, by decide, .inl (List.mem_singleton.2 rfl)⟩
  refine ⟨(requiresRecompute_of_reads authorSchema).1 _ _ (.single hname), fun field hne => ?_⟩
  refine (requiresRecompute_of_reads authorSchema).2 _ _ hne fun f hf kind hm => ?_
  obtain rfl : f = authorNameField := by
    have hc : authorSchema.computedFields = [authorNameField] := by decide
    rw [hc] at hf
    exact List.mem_singleton.1 hf
  have hms : authorNameField.mentions = [("author", .lookupVia), ("name", .lookup)] := by decide
  rw [hms] at hm
  exact .inl (by simpa using hm)

end ComputedFields
