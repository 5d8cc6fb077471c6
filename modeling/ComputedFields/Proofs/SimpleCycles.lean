import ComputedFields.Proofs.Cycles
import ComputedFields.Proofs.Downstream
import Mathlib.Data.List.Rotate

/-!
# Simple cycles

A walk lists a circle for every field of its path that it meets again (`Listing.isCircle`). These circles have no field
twice, and no two of them have the same fields, so that none is listed again from another of its fields.

- `UnderWay`: the fields of the path are different, and none of them is free or settled;
- `Adds`: what a visit adds to a walk. A new cycle has no field that was settled before, and it lies on the path, or the
  visit has settled one of its fields;
- `Adds.append`: so a cycle differs from all that were listed before it. Two cycles that lie on one path begin at
  different fields of it (`differ_closing`), since no field is named twice by another one
  (`nodup_computedDependencies`);
- `reportsCycles_order`: the cycles of a schema are simple, different and blocked, and without cycles there is an order.
-/

namespace ComputedFields

namespace DependencyGraph

/-! ## Closed paths -/

/-- The circle that a path closes when it comes to one of its fields again. -/
def closing (path : List String) (id : String) : List String := path.dropWhile (· != id) ++ [id]

/-- Two cycles have different fields. -/
def Differ (c c' : List String) : Prop := ¬ ∀ x, x ∈ c ↔ x ∈ c'

theorem Differ.of_mem {c c' : List String} {x : String} (h : x ∈ c) (h' : x ∉ c') : Differ c c' :=
  fun he => h' ((he x).1 h)

theorem Differ.symm {c c' : List String} (h : Differ c c') : Differ c' c := fun he => h fun x => (he x).symm

variable {free path ids : List String} {id id' x : String}

theorem closing_cons_self (id : String) (path : List String) : closing (id :: path) id = id :: path ++ [id] := by
  simp [closing]

theorem closing_cons_of_ne (h : x ≠ id) : closing (x :: path) id = closing path id := by
  simp [closing, h]

theorem mem_of_mem_closing (hid : id ∈ path) (h : x ∈ closing path id) : x ∈ path := by
  rcases List.mem_append.1 h with h | h
  · exact (List.dropWhile_sublist _).subset h
  · exact List.mem_singleton.1 h ▸ hid

theorem dropLast_closing : (closing path id).dropLast = path.dropWhile (· != id) := List.dropLast_concat

/-- The last field of a path is on every circle that the path closes. -/
theorem last_mem_closing (hx : x ∈ path ++ [id]) : id ∈ closing (path ++ [id]) x := by
  induction path with
  | nil =>
    rw [List.nil_append, List.mem_singleton] at hx
    simp [closing, hx]
  | cons y path ih =>
    rw [List.cons_append] at hx ⊢
    by_cases hy : y = x
    · subst hy
      rw [closing_cons_self]
      simp
    · rw [closing_cons_of_ne hy]
      exact ih ((List.mem_cons.1 hx).resolve_left (Ne.symm hy))

/-- A path that closes a circle at its first field has that field on no other. -/
theorem differ_closing_cons (hx : x ∉ path) (hid : id ∈ path) :
    Differ (closing (x :: path) x) (closing (x :: path) id) := by
  have hne : x ≠ id := fun he => hx (he ▸ hid)
  refine .of_mem (x := x) (by simp [closing_cons_self]) fun hm => hx ?_
  rw [closing_cons_of_ne hne] at hm
  exact mem_of_mem_closing hid hm

/-- Circles that a path closes at different fields have different fields. -/
theorem differ_closing (hpath : path.Nodup) (hid : id ∈ path) (hid' : id' ∈ path) (hne : id ≠ id') :
    Differ (closing path id) (closing path id') := by
  induction path with
  | nil => cases hid
  | cons x path ih =>
    obtain ⟨hx, hpath⟩ := List.nodup_cons.1 hpath
    by_cases hxid : x = id
    · subst hxid
      exact differ_closing_cons hx ((List.mem_cons.1 hid').resolve_left (Ne.symm hne))
    · have hid := (List.mem_cons.1 hid).resolve_left (Ne.symm hxid)
      by_cases hxid' : x = id'
      · subst hxid'
        exact (differ_closing_cons hx hid).symm
      · have hid' := (List.mem_cons.1 hid').resolve_left (Ne.symm hxid')
        rw [closing_cons_of_ne hxid, closing_cons_of_ne hxid']
        exact ih hpath hid hid'

/-! ## What a visit adds -/

/-- A walk has left a field. -/
def Settled (w : Walk) (x : String) : Prop := ∃ depth, (x, depth) ∈ w.settled

theorem not_settled_of_lookup {w : Walk} (h : w.settled.lookup x = none) : ¬ Settled w x := by
  rintro ⟨depth, hm⟩
  simpa using List.lookup_eq_none_iff.1 h _ hm

/-- A walk on its way: the fields of the path are different, and none of them is free or settled. -/
structure UnderWay (free path : List String) (w : Walk) : Prop where
  nodup_free : free.Nodup
  nodup_path : path.Nodup
  not_free : ∀ x ∈ path, x ∉ free
  not_settled : ∀ x ∈ path, ¬ Settled w x

/-- What the visit of some fields adds to a walk. -/
structure Adds (free path ids : List String) (w w' : Walk) (new : List (List String)) : Prop where
  cycles : w'.cycles = w.cycles ++ new
  settled : ∀ x, Settled w x → Settled w' x
  free : ∀ x, Settled w' x → Settled w x ∨ x ∈ free
  /-- A new cycle has no field twice, -/
  nodup : ∀ c ∈ new, c.dropLast.Nodup
  /-- nor one that was settled before. -/
  unsettled : ∀ c ∈ new, ∀ x ∈ c, ¬ Settled w x
  /-- It lies on the path, or one of its fields is settled now. -/
  closed : ∀ c ∈ new, (∃ id ∈ ids, id ∈ path ∧ c = closing path id) ∨ ∃ x ∈ c, Settled w' x
  differ : new.Pairwise Differ

variable {w w' w'' : Walk} {new new' : List (List String)}

/-- A visit puts a free field on the path. -/
theorem UnderWay.enter (h : UnderWay free path w) (hf : id ∈ free) (hs : ¬ Settled w id) :
    UnderWay (free.erase id) (path ++ [id]) w where
  nodup_free := h.nodup_free.erase id
  nodup_path := by
    refine List.nodup_append.2 ⟨h.nodup_path, List.nodup_singleton id, fun x hx y hy he => ?_⟩
    rw [List.mem_singleton.1 hy] at he
    exact h.not_free x hx (he ▸ hf)
  not_free := by
    refine List.forall_mem_append.2 ⟨fun x hx hm => h.not_free x hx (List.mem_of_mem_erase hm), ?_⟩
    rw [List.forall_mem_singleton]
    exact h.nodup_free.not_mem_erase
  not_settled := List.forall_mem_append.2 ⟨h.not_settled, List.forall_mem_singleton.2 hs⟩

/-- Visits settle free fields only, so the path stays as it is. -/
theorem UnderWay.later (h : UnderWay free path w) (ha : Adds free path ids w w' new) : UnderWay free path w' where
  nodup_free := h.nodup_free
  nodup_path := h.nodup_path
  not_free := h.not_free
  not_settled x hx hs := (ha.free x hs).elim (h.not_settled x hx) (h.not_free x hx)

theorem Adds.refl (free path ids : List String) (w : Walk) : Adds free path ids w w [] where
  cycles := (List.append_nil _).symm
  settled _ h := h
  free _ h := .inl h
  nodup := nofun
  unsettled := nofun
  closed := nofun
  differ := .nil

/-- A field of the path closes a circle. -/
theorem Adds.close (h : UnderWay free path w) (hid : id ∈ path) :
    Adds free path [id] w { w with cycles := w.cycles ++ [closing path id] } [closing path id] where
  cycles := rfl
  settled _ h := h
  free _ h := .inl h
  nodup := by
    rw [List.forall_mem_singleton, dropLast_closing]
    exact h.nodup_path.sublist (List.dropWhile_sublist _)
  unsettled := List.forall_mem_singleton.2 fun x hx => h.not_settled x (mem_of_mem_closing hid hx)
  closed := List.forall_mem_singleton.2 (.inl ⟨id, List.mem_singleton.2 rfl, hid, rfl⟩)
  differ := List.pairwise_singleton _ _

/-- A field is settled after those that it needs. All circles that the path up to it has closed go through it. -/
theorem Adds.settle (ha : Adds (free.erase id) (path ++ [id]) ids w w' new) (hf : id ∈ free) (depth : Option Nat) :
    Adds free path [id] w { w' with settled := w'.settled ++ [(id, depth)] } new where
  cycles := ha.cycles
  settled x hx := by
    obtain ⟨d, hd⟩ := ha.settled x hx
    exact ⟨d, List.mem_append_left _ hd⟩
  free x hx := by
    obtain ⟨d, hd⟩ := hx
    rcases List.mem_append.1 hd with hd | hd
    · exact (ha.free x ⟨d, hd⟩).imp_right List.mem_of_mem_erase
    · cases List.mem_singleton.1 hd
      exact .inr hf
  nodup := ha.nodup
  unsettled := ha.unsettled
  closed c hc := by
    refine .inr ?_
    rcases ha.closed c hc with ⟨y, -, hy, rfl⟩ | ⟨x, hx, d, hd⟩
    · exact ⟨id, last_mem_closing hy, depth, by simp⟩
    · exact ⟨x, hx, d, List.mem_append_left _ hd⟩
  differ := ha.differ

/-- A cycle of a later visit differs from those before it. -/
theorem Adds.differ_of_mem (h : UnderWay free path w) (ha : Adds free path [id] w w' new)
    (ha' : Adds free path ids w' w'' new') (hid : id ∉ ids) {c c' : List String} (hc : c ∈ new) (hc' : c' ∈ new') :
    Differ c c' := by
  rcases ha.closed c hc with ⟨y, hy, hyp, rfl⟩ | ⟨x, hx, hs⟩
  · rcases ha'.closed c' hc' with ⟨z, hz, hzp, rfl⟩ | ⟨x, hx, hs⟩
    · rw [List.mem_singleton.1 hy] at hyp ⊢
      exact differ_closing h.nodup_path hyp hzp fun he => hid (he ▸ hz)
    · -- the earlier cycle lies on the path, whose fields are not settled
      have hx' : x ∉ closing path y := fun hm =>
        ((h.later ha).later ha').not_settled x (mem_of_mem_closing hyp hm) hs
      exact (Differ.of_mem hx hx').symm
  · exact .of_mem hx fun hx' => ha'.unsettled c' hc' x hx' hs

theorem Adds.append (h : UnderWay free path w) (ha : Adds free path [id] w w' new)
    (ha' : Adds free path ids w' w'' new') (hid : id ∉ ids) : Adds free path (id :: ids) w w'' (new ++ new') where
  cycles := by rw [ha'.cycles, ha.cycles, List.append_assoc]
  settled x hx := ha'.settled x (ha.settled x hx)
  free x hx := (ha'.free x hx).elim (ha.free x) .inr
  nodup := List.forall_mem_append.2 ⟨ha.nodup, ha'.nodup⟩
  unsettled := List.forall_mem_append.2
    ⟨ha.unsettled, fun c hc x hx hs => ha'.unsettled c hc x hx (ha.settled x hs)⟩
  closed := by
    refine List.forall_mem_append.2 ⟨fun c hc => ?_, fun c hc => ?_⟩
    · rcases ha.closed c hc with ⟨y, hy, hc⟩ | ⟨x, hx, hs⟩
      · exact .inl ⟨y, List.mem_cons.2 (.inl (List.mem_singleton.1 hy)), hc⟩
      · exact .inr ⟨x, hx, ha'.settled x hs⟩
    · exact (ha'.closed c hc).imp_left fun ⟨y, hy, hc⟩ => ⟨y, List.mem_cons_of_mem _ hy, hc⟩
  differ := List.pairwise_append.2 ⟨ha.differ, ha'.differ, fun _ hc _ hc' => ha.differ_of_mem h ha' hid hc hc'⟩

/-! ## The walk -/

variable {g : DependencyGraph}

mutual

theorem visit_adds {free path : List String} {id : String} {w : Walk}
    (hdeps : ∀ x, (g.computedDependencies x).Nodup) (hid : g.isComputed id = true)
    (hfree : ∀ x, g.isComputed x = true → x ∈ free ∨ x ∈ path) (h : UnderWay free path w) :
    ∃ new, Adds free path [id] w (g.visit free path id w).2 new := by
  cases hl : w.settled.lookup id with
  | some depth =>
    rw [visit_of_settled hl]
    exact ⟨[], .refl free path [id] w⟩
  | none =>
    by_cases hf : id ∈ free
    · have hlt := length_erase_lt hf
      have hids : ∀ y ∈ g.computedDependencies id, g.isComputed y = true := fun y hy => (List.mem_filter.1 hy).2
      obtain ⟨new, ha⟩ := visitAll_adds hdeps hids (hdeps id) (mem_erase_or_mem_append hfree id)
        (h.enter hf (not_settled_of_lookup hl))
      rw [visit_of_free hl hf]
      exact ⟨new, ha.settle hf _⟩
    · rw [visit_of_not_free hl hf]
      exact ⟨_, .close h ((hfree id hid).resolve_left hf)⟩
termination_by (free.length, 0)

theorem visitAll_adds {free path ids : List String} {w : Walk}
    (hdeps : ∀ x, (g.computedDependencies x).Nodup) (hids : ∀ id ∈ ids, g.isComputed id = true)
    (hnodup : ids.Nodup) (hfree : ∀ x, g.isComputed x = true → x ∈ free ∨ x ∈ path) (h : UnderWay free path w) :
    ∃ new, Adds free path ids w (g.visitAll free path ids w).2 new := by
  match ids with
  | [] =>
    rw [visitAll]
    exact ⟨[], .refl free path [] w⟩
  | id :: ids =>
    obtain ⟨hid, hids⟩ := List.forall_mem_cons.1 hids
    obtain ⟨hne, hnodup⟩ := List.nodup_cons.1 hnodup
    obtain ⟨new, ha⟩ := visit_adds hdeps hid hfree h
    obtain ⟨new', ha'⟩ := visitAll_adds hdeps hids hnodup hfree (h.later ha)
    rw [visitAll]
    exact ⟨new ++ new', .append h ha ha' hne⟩
termination_by (free.length, ids.length + 1)

end

/-- If no field needs another one twice, the listed cycles are simple and different. -/
theorem cycles_walk (hdeps : ∀ x, (g.computedDependencies x).Nodup) (hids : g.computedIds.Nodup) :
    (∀ c ∈ g.walk.cycles, c.dropLast.Nodup) ∧ g.walk.cycles.Pairwise Differ := by
  have h : UnderWay g.computedIds [] ⟨[], []⟩ := ⟨hids, List.nodup_nil, nofun, nofun⟩
  obtain ⟨new, ha⟩ := visitAll_adds hdeps (fun _ => isComputed_iff.2) hids (fun _ hx => .inl (isComputed_iff.1 hx)) h
  have hc : g.walk.cycles = new := ha.cycles
  rw [hc]
  exact ⟨ha.nodup, ha.differ⟩

/-! ## Edges of a schema -/

/-- A field names others in one way that orders computation. -/
theorem exists_kind_of_mentions (f : Field) : ∃ kind, ∀ m ∈ f.mentions, m.2.isHierarchical = true → m.2 = kind := by
  unfold Field.mentions
  cases f.computedKind? with
  | none => exact ⟨.count, by simp⟩
  | some kind =>
    cases kind with
    | formula => exact ⟨.formulaRef, List.forall_mem_map.2 fun _ _ _ => rfl⟩
    | count => exact ⟨.count, List.forall_mem_map.2 fun _ _ _ => rfl⟩
    | lookup =>
      refine ⟨.lookup, List.forall_mem_append.2 ⟨List.forall_mem_map.2 fun _ _ hk => ?_, ?_⟩⟩
      · cases hk
      · exact List.forall_mem_map.2 fun _ _ _ => rfl
    | rollup =>
      refine ⟨.rollup, List.forall_mem_append.2 ⟨List.forall_mem_map.2 fun _ _ hk => ?_, ?_⟩⟩
      · cases hk
      · exact List.forall_mem_map.2 fun _ _ _ => rfl

/-- A field of a schema needs no other field twice. -/
theorem nodup_computedDependencies (s : Schema) (x : String) : ((ofSchema s).computedDependencies x).Nodup := by
  have hedges : (ofSchema s).edges.Nodup := nodup_eraseDups _
  refine List.Nodup.filter _ (List.Nodup.map_on ?_ ((hedges.filter _).filter _))
  intro e he e' he' ht
  obtain ⟨he, hk⟩ := List.mem_filter.1 he
  obtain ⟨he', hk'⟩ := List.mem_filter.1 he'
  obtain ⟨he, hx⟩ := List.mem_filter.1 he
  obtain ⟨he', hx'⟩ := List.mem_filter.1 he'
  have hs : e.source = e'.source := (eq_of_beq hx).trans (eq_of_beq hx').symm
  obtain ⟨f, hf, he⟩ := mem_edges_ofSchema.1 he
  obtain ⟨f', hf', he'⟩ := mem_edges_ofSchema.1 he'
  obtain ⟨hid, hm, -⟩ := (mem_edgesOf_iff hk).1 he
  obtain ⟨hid', hm', -⟩ := (mem_edgesOf_iff hk').1 he'
  obtain rfl : f = f' := Schema.eq_of_id_eq hf hf' (hid.symm.trans (hs.trans hid'))
  obtain ⟨kind, hmentions⟩ := exists_kind_of_mentions f
  have hkind : e.kind = e'.kind := (hmentions _ hm hk).trans (hmentions _ hm' hk').symm
  cases e
  cases e'
  cases hs
  cases ht
  cases hkind
  rfl

/-! ## Orders with cycles -/

theorem IsCircle.mem_dropLast_iff {c : List String} (h : g.IsCircle c) : x ∈ c.dropLast ↔ x ∈ c := by
  obtain ⟨y, l, rfl, -⟩ := h
  rw [← List.cons_append, List.dropLast_concat]
  simp only [List.mem_append, List.mem_cons, List.not_mem_nil, or_false]
  tauto

/-- A graph without cycles has no listed ones, and else there is a first one. -/
theorem cycles_eq_nil_iff : g.order.cycles = [] ↔ ∀ x, ¬ g.OnCycle x := by
  constructor
  · intro h x hx
    obtain ⟨y, -, hy⟩ := exists_cycleOf?_of_onCycle hx
    rw [ComputationOrder.cycleOf?, h] at hy
    cases hy
  · intro h
    rw [List.eq_nil_iff_forall_not_mem]
    intro c hc
    have hcircle : g.IsCircle c := (listing_walk g).isCircle c hc
    obtain ⟨x, l, rfl, -⟩ := id hcircle
    exact h x (hcircle.onCycle List.mem_cons_self)

end DependencyGraph

open DependencyGraph

/-- What the cycles of an order tell about the computed fields of a schema. -/
structure ReportsCycles (s : Schema) (o : ComputationOrder) : Prop where
  /-- A cycle ends with the field that it began with, -/
  closed : ∀ c ∈ o.cycles, 2 ≤ c.length ∧ c.head? = c.getLast?
  /-- and has no field twice besides. -/
  nodup : ∀ c ∈ o.cycles, c.dropLast.Nodup
  /-- Its fields are computed, and blocked. -/
  blocked : ∀ c ∈ o.cycles, ∀ x ∈ c, (∃ f ∈ s.computedFields, f.id = x) ∧ x ∈ o.blocked
  /-- Each of them can only be computed after the next one. -/
  chain : ∀ c ∈ o.cycles, c.IsChain fun x y =>
    ∃ e ∈ (ofSchema s).edges, e.source = x ∧ e.target = y ∧ e.kind.isHierarchical = true
  /-- No cycle is listed again, from whichever of its fields. -/
  rotation : o.cycles.Pairwise fun c c' => ¬ c.dropLast.IsRotated c'.dropLast
  /-- The strict order is the order itself if the graph has no cycle, -/
  acyclic : (∀ x, ¬ (ofSchema s).OnCycle x) → o.strict = .ok o
  /-- and fails with the first listed cycle if it has one. -/
  cyclic : (∃ x, (ofSchema s).OnCycle x) → ∃ c, o.cycles.head? = some c ∧ o.strict = .error (.cycle c)

/-- The cycles of a schema are simple cycles of blocked fields, no two of them are rotations of each other, and the
strict order fails with the first one. -/
theorem reportsCycles_order (s : Schema) : ReportsCycles s (ofSchema s).order := by
  have hcircle : ∀ c ∈ (ofSchema s).order.cycles, (ofSchema s).IsCircle c := (listing_walk (ofSchema s)).isCircle
  obtain ⟨hnodup, hdiffer⟩ := cycles_walk (nodup_computedDependencies s) (nodup_computedIds s)
  exact {
    closed := fun c hc => by
      obtain ⟨x, l, rfl, -⟩ := hcircle c hc
      refine ⟨by simp, ?_⟩
      rw [← List.cons_append, List.getLast?_append]
      rfl
    nodup := hnodup
    blocked := fun c hc x hx => by
      obtain ⟨y, -, hn⟩ := (hcircle c hc).exists_needs hx
      have hreaches : (ofSchema s).ReachesCycle x := ⟨x, .refl, (hcircle c hc).onCycle hx⟩
      exact ⟨isComputed_ofSchema_iff.1 hn.1, (mem_blocked_iff_reachesCycle hn.1).2 hreaches⟩
    chain := fun c hc => by
      obtain ⟨x, l, -, hchain⟩ := hcircle c hc
      exact hchain.imp fun _ _ hn => hn.2.2
    rotation := by
      refine List.Pairwise.imp_of_mem (fun {c c'} hc hc' hd hr => hd fun x => ?_) hdiffer
      rw [← (hcircle c hc).mem_dropLast_iff, hr.mem_iff, (hcircle c' hc').mem_dropLast_iff]
    acyclic := fun h => by rw [ComputationOrder.strict, cycles_eq_nil_iff.2 h]
    cyclic := fun ⟨x, hx⟩ => by
      have hne : (ofSchema s).order.cycles ≠ [] := fun h => cycles_eq_nil_iff.1 h x hx
      obtain ⟨c, cs, hc⟩ := List.exists_cons_of_ne_nil hne
      exact ⟨c, by rw [hc]; rfl, by rw [ComputationOrder.strict, hc]⟩ }

end ComputedFields
