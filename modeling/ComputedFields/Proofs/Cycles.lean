import ComputedFields.Proofs.Errors
import ComputedFields.Proofs.Order
import Mathlib.Data.List.Chain

/-!
# Listed cycles

The walk lists a cycle whenever it meets a field of its own path. `OnCycle` and `Interdependent` say without the walk
which fields are on cycles, and which of them are on cycles together.

- `IsCircle`: a list of fields along dependencies that ends where it began;
- `visit_lists`: every cycle that a walk lists is one, and a field that it has settled is listed if it is on a cycle, or
  another field is on whose cycles it is;
- `exists_cycleOf?_of_onCycle`: so among interdependent fields at least one has a listed cycle;
- `isSome_cycleOf?_of_onOneCircle`: where interdependent fields form one circle, all of them have;
- `cycleOf?_order`: this decides which errors the fields of a schema have;
- `cycleOf?_tax`: where cycles overlap, a field on a cycle need not have a listed one.
-/

namespace ComputedFields

open Relation

/-! ## Circles -/

namespace DependencyGraph

variable {g : DependencyGraph}

/-- The field needs itself, perhaps through others. -/
def OnCycle (g : DependencyGraph) (x : String) : Prop := TransGen g.Needs x x

/-- Each of two fields can be reached from the other. -/
def Interdependent (g : DependencyGraph) (x y : String) : Prop := ReflTransGen g.Needs x y ∧ ReflTransGen g.Needs y x

theorem Interdependent.trans {x y z : String} (h : g.Interdependent x y) (h' : g.Interdependent y z) :
    g.Interdependent x z :=
  ⟨h.1.trans h'.1, h'.2.trans h.2⟩

/-- Each field of a list needs the next one, and the last one is the first one again. -/
def IsCircle (g : DependencyGraph) (c : List String) : Prop := ∃ x l, c = x :: (l ++ [x]) ∧ c.IsChain g.Needs

namespace IsCircle

variable {c : List String} {x y : String}

theorem interdependent (h : g.IsCircle c) (hx : x ∈ c) (hy : y ∈ c) : g.Interdependent x y := by
  obtain ⟨z, l, rfl, hc⟩ := h
  have hfrom : ∀ u ∈ z :: (l ++ [z]), ReflTransGen g.Needs z u :=
    hc.induction _ _ (fun _ _ hn hr => hr.tail hn) fun _ => .refl
  have hto : ∀ u ∈ z :: (l ++ [z]), ReflTransGen g.Needs u z :=
    hc.backwards_induction _ _ (fun _ _ hn hr => hr.head hn) fun _ => by simpa using ReflTransGen.refl
  exact ⟨(hto x hx).trans (hfrom y hy), (hto y hy).trans (hfrom x hx)⟩

theorem exists_needs (h : g.IsCircle c) (hx : x ∈ c) : ∃ y ∈ c, g.Needs x y := by
  obtain ⟨z, l, rfl, hc⟩ := h
  -- the last field is the first one as well, so every field has one after it
  have hx : x ∈ z :: l := by simpa [or_comm] using hx
  obtain ⟨front, back, hl⟩ := List.append_of_mem hx
  rw [← List.cons_append, hl, List.append_assoc, List.cons_append] at hc ⊢
  obtain ⟨y, rest, hr⟩ := List.exists_cons_of_ne_nil (l := back ++ [z]) (by simp)
  rw [hr] at hc ⊢
  exact ⟨y, by simp, (List.isChain_append_cons_cons.1 hc).2.1⟩

theorem onCycle (h : g.IsCircle c) (hx : x ∈ c) : g.OnCycle x := by
  obtain ⟨y, hy, hn⟩ := h.exists_needs hx
  exact .head' hn (h.interdependent hy hx).1

end IsCircle

/-! ## What a walk lists -/

/-- A walk has listed a cycle with a field. -/
def Lists (w : Walk) (x : String) : Prop := ∃ c ∈ w.cycles, x ∈ c

/-- A walk has left a field, or listed a cycle with it. -/
def Met (w : Walk) (x : String) : Prop := (∃ depth, (x, depth) ∈ w.settled) ∨ Lists w x

/-- A later walk. -/
def Continues (w w' : Walk) : Prop := w.settled ⊆ w'.settled ∧ w.cycles ⊆ w'.cycles

theorem Continues.trans {w w' w'' : Walk} (h : Continues w w') (h' : Continues w' w'') : Continues w w'' :=
  ⟨fun _ hp => h'.1 (h.1 hp), fun _ hc => h'.2 (h.2 hc)⟩

theorem Lists.mono {w w' : Walk} {x : String} (h : Lists w x) (hw : Continues w w') : Lists w' x := by
  obtain ⟨c, hc, hx⟩ := h
  exact ⟨c, hw.2 hc, hx⟩

theorem Met.mono {w w' : Walk} {x : String} (h : Met w x) (hw : Continues w w') : Met w' x := by
  obtain ⟨depth, h⟩ | h := h
  · exact .inl ⟨depth, hw.1 h⟩
  · exact .inr (h.mono hw)

/-- What is listed are circles, and for every settled field on a cycle a field is listed that it is interdependent
with. -/
structure Listing (g : DependencyGraph) (w : Walk) : Prop where
  isCircle : ∀ c ∈ w.cycles, g.IsCircle c
  exists_lists : ∀ p ∈ w.settled, g.OnCycle p.1 → ∃ y, g.Interdependent p.1 y ∧ Lists w y

/-- A field is settled after all that it needs. -/
theorem Listing.settle {w : Walk} {id : String} {depth : Option Nat} (hw : g.Listing w)
    (hmet : ∀ y, g.Needs id y → Met w y) : g.Listing { w with settled := w.settled ++ [(id, depth)] } := by
  refine ⟨hw.isCircle, List.forall_mem_append.2 ⟨hw.exists_lists, ?_⟩⟩
  rw [List.forall_mem_singleton]
  intro hc
  -- the cycle leaves the field by one that it needs, and comes back
  obtain ⟨y, hy, hyx⟩ := TransGen.head'_iff.1 hc
  have hxy : g.Interdependent id y := ⟨.single hy, hyx⟩
  obtain ⟨depth, hs⟩ | hl := hmet y hy
  · obtain ⟨z, hyz, hz⟩ := hw.exists_lists _ hs (.tail' hyx hy)
    exact ⟨z, hxy.trans hyz, hz⟩
  · exact ⟨y, hxy, hl⟩

theorem Continues.list (w : Walk) (c : List String) : Continues w { w with cycles := w.cycles ++ [c] } :=
  ⟨fun _ h => h, fun _ h => List.mem_append_left _ h⟩

/-- A circle is put to the cycles. -/
theorem Listing.list {w : Walk} {c : List String} (hw : g.Listing w) (hc : g.IsCircle c) :
    g.Listing { w with cycles := w.cycles ++ [c] } := by
  refine ⟨List.forall_mem_append.2 ⟨hw.isCircle, List.forall_mem_singleton.2 hc⟩, fun p hp hcycle => ?_⟩
  obtain ⟨y, hy, hl⟩ := hw.exists_lists p hp hcycle
  exact ⟨y, hy, hl.mono (Continues.list w c)⟩

theorem exists_dropWhile_eq_cons {path : List String} {id : String} (h : id ∈ path) :
    ∃ l, path.dropWhile (· != id) = id :: l := by
  induction path with
  | nil => cases h
  | cons x path ih =>
    by_cases hx : x = id
    · exact ⟨path, by simp [hx]⟩
    · obtain ⟨l, hl⟩ := ih ((List.mem_cons.1 h).resolve_left (Ne.symm hx))
      exact ⟨l, by simp [hx, hl]⟩

/-- A path that comes back to one of its fields contains a circle. -/
theorem isCircle_dropWhile {path : List String} {id : String} (hpath : (path ++ [id]).IsChain g.Needs)
    (hid : id ∈ path) : g.IsCircle (path.dropWhile (· != id) ++ [id]) := by
  obtain ⟨l, hl⟩ := exists_dropWhile_eq_cons hid
  obtain ⟨front, hf⟩ := List.dropWhile_suffix (l := path) (· != id)
  refine ⟨id, l, by rw [hl]; rfl, hpath.suffix ⟨front, ?_⟩⟩
  rw [← List.append_assoc, hf]

mutual

/-- A visit keeps the listing right, and meets its field. -/
theorem visit_lists {free path : List String} {id : String} {w : Walk} (hid : g.isComputed id = true)
    (hfree : ∀ x, g.isComputed x = true → x ∈ free ∨ x ∈ path) (hpath : (path ++ [id]).IsChain g.Needs)
    (hw : g.Listing w) :
    g.Listing (g.visit free path id w).2 ∧ Continues w (g.visit free path id w).2 ∧
      Met (g.visit free path id w).2 id := by
  cases hl : w.settled.lookup id with
  | some depth =>
    rw [visit_of_settled hl]
    exact ⟨hw, ⟨fun _ h => h, fun _ h => h⟩, .inl ⟨depth, mem_settled hl⟩⟩
  | none =>
    by_cases hf : id ∈ free
    · have hlt := length_erase_lt hf
      have hfree' := mem_erase_or_mem_append hfree id
      have hneeds (y : String) (hy : y ∈ g.computedDependencies id) : g.Needs id y :=
        (mem_computedDependencies_iff hid).1 hy
      have hpath' : ∀ y ∈ g.computedDependencies id, (path ++ [id] ++ [y]).IsChain g.Needs := by
        intro y hy
        rw [List.append_assoc]
        exact List.isChain_append_cons_cons.2 ⟨hpath, hneeds y hy, .singleton y⟩
      obtain ⟨hr, hc, hmet⟩ := visitAll_lists (fun y hy => (hneeds y hy).2.1) hfree' hpath' hw
      rw [visit_of_free hl hf]
      generalize g.visitAll (free.erase id) (path ++ [id]) (g.computedDependencies id) w = r at hr hc hmet
      refine ⟨hr.settle fun y hy => hmet y ((mem_computedDependencies_iff hid).2 hy), ?_, .inl ⟨r.1, by simp⟩⟩
      exact ⟨fun p hp => List.mem_append_left _ (hc.1 hp), hc.2⟩
    · rw [visit_of_not_free hl hf]
      -- the field is on the path, which closes a circle
      have hcircle := isCircle_dropWhile hpath ((hfree id hid).resolve_left hf)
      exact ⟨hw.list hcircle, Continues.list w _, .inr ⟨_, List.mem_append_right _ (List.mem_singleton.2 rfl), by simp⟩⟩
termination_by (free.length, 0)

theorem visitAll_lists {free path ids : List String} {w : Walk} (hids : ∀ id ∈ ids, g.isComputed id = true)
    (hfree : ∀ x, g.isComputed x = true → x ∈ free ∨ x ∈ path)
    (hpath : ∀ id ∈ ids, (path ++ [id]).IsChain g.Needs) (hw : g.Listing w) :
    g.Listing (g.visitAll free path ids w).2 ∧ Continues w (g.visitAll free path ids w).2 ∧
      ∀ id ∈ ids, Met (g.visitAll free path ids w).2 id := by
  match ids with
  | [] =>
    rw [visitAll]
    exact ⟨hw, ⟨fun _ h => h, fun _ h => h⟩, nofun⟩
  | id :: ids =>
    obtain ⟨hid, hids⟩ := List.forall_mem_cons.1 hids
    obtain ⟨hp, hpath⟩ := List.forall_mem_cons.1 hpath
    obtain ⟨hr, hc, hmet⟩ := visit_lists hid hfree hp hw
    obtain ⟨hr', hc', hmet'⟩ := visitAll_lists hids hfree hpath hr
    rw [visitAll]
    exact ⟨hr', hc.trans hc', List.forall_mem_cons.2 ⟨hmet.mono hc', hmet'⟩⟩
termination_by (free.length, ids.length + 1)

end

theorem listing_walk (g : DependencyGraph) : g.Listing g.walk := by
  have hw : g.Listing ⟨[], []⟩ := ⟨nofun, nofun⟩
  have hids : ∀ id ∈ g.computedIds, g.isComputed id = true := fun _ h => isComputed_iff.2 h
  have hfree : ∀ x, g.isComputed x = true → x ∈ g.computedIds ∨ x ∈ [] := fun _ h => .inl (isComputed_iff.1 h)
  exact (visitAll_lists hids hfree (fun id _ => .singleton id) hw).1

/-! ## The cycle of a field -/

theorem isSome_cycleOf?_iff {x : String} : (g.order.cycleOf? x).isSome = true ↔ Lists g.walk x := by
  rw [ComputationOrder.cycleOf?, List.find?_isSome]
  simp only [List.contains_iff_mem]
  rfl

/-- The cycle of a field is a circle on which it is. -/
theorem isCircle_of_cycleOf? {x : String} {c : List String} (h : g.order.cycleOf? x = some c) :
    g.IsCircle c ∧ x ∈ c :=
  ⟨(listing_walk g).isCircle c (List.mem_of_find?_eq_some h), by simpa using List.find?_some h⟩

/-- A field on a cycle is interdependent with one that has a listed cycle. -/
theorem exists_cycleOf?_of_onCycle {x : String} (hx : g.OnCycle x) :
    ∃ y, g.Interdependent x y ∧ (g.order.cycleOf? y).isSome = true := by
  obtain ⟨y, hy, _⟩ := TransGen.head'_iff.1 hx
  obtain ⟨depth, hl, _⟩ := settles_walk hy.1
  obtain ⟨z, hz, hlists⟩ := (listing_walk g).exists_lists _ (mem_settled hl) hx
  exact ⟨z, hz, isSome_cycleOf?_iff.2 hlists⟩

/-- Of the fields that a field is interdependent with, each needs only one. -/
def OnOneCircle (g : DependencyGraph) (x : String) : Prop :=
  ∀ y z z', g.Interdependent x y → g.Needs y z → g.Needs y z' → g.Interdependent x z → g.Interdependent x z' → z = z'

/-- Where fields form one circle, all of them have a listed cycle. -/
theorem isSome_cycleOf?_of_onOneCircle {x : String} (hx : g.OnCycle x) (ho : g.OnOneCircle x) :
    (g.order.cycleOf? x).isSome = true := by
  obtain ⟨y, hxy, hy⟩ := exists_cycleOf?_of_onCycle hx
  obtain ⟨c, hcycle⟩ := Option.isSome_iff_exists.1 hy
  obtain ⟨hc, hyc⟩ := isCircle_of_cycleOf? hcycle
  -- the way from the listed field to `x` cannot leave the circle
  have hstay (z : String) (hz : ReflTransGen g.Needs y z) (hzx : ReflTransGen g.Needs z x) : z ∈ c := by
    induction hz with
    | refl => exact hyc
    | @tail u z hu hn ih =>
      have huc := ih (hzx.head hn)
      obtain ⟨v, hv, hnv⟩ := hc.exists_needs huc
      have hxu : g.Interdependent x u := hxy.trans (hc.interdependent hyc huc)
      have hxv : g.Interdependent x v := hxy.trans (hc.interdependent hyc hv)
      have hxz : g.Interdependent x z := ⟨hxu.1.tail hn, hzx⟩
      rwa [ho u z v hxu hn hnv hxz hxv]
  have hxc : x ∈ c := hstay x hxy.2 .refl
  exact isSome_cycleOf?_iff.2 ⟨c, List.mem_of_find?_eq_some hcycle, hxc⟩

end DependencyGraph

/-! ## The fields of a schema -/

section Schema

variable {s : Schema} {f : Field}

open DependencyGraph

theorem fieldError?_eq_cycle_iff {o : ComputationOrder} {c : List String} :
    s.fieldError? o f = some (.cycle c) ↔ o.cycleOf? f.id = some c := by
  unfold Schema.fieldError?
  split
  · next c' hc => simp [hc]
  · next hc =>
    simp only [hc, reduceCtorEq, iff_false]
    split
    · simp
    · split
      · simp
      · split <;> simp
      · simp

theorem fieldError?_eq_behindCycle_iff {o : ComputationOrder} :
    s.fieldError? o f = some .behindCycle ↔ f.id ∈ o.blocked ∧ o.cycleOf? f.id = none := by
  unfold Schema.fieldError?
  split
  · next c hc => simp [hc]
  · next hc =>
    simp only [hc, and_true]
    split
    · next hb => simpa [ComputationOrder.isBlocked] using hb
    · next hb =>
      have hb : f.id ∉ o.blocked := by simpa [ComputationOrder.isBlocked] using hb
      simp only [hb, iff_false]
      split
      · simp
      · split <;> simp
      · simp

theorem fieldError?_of_draft_eq_stub {options : GeneratorOptions} {inlined : List (String × String)}
    {source : Option String} {p : Problem} (hp : p.severity = .error)
    (h : (ModuleContext.ofSchema s options).draft inlined f = .stub source p) :
    s.fieldError? (ofSchema s).order f = some p := by
  have he := ModuleContext.errors_draft s options inlined f
  have hp : errorsIn [p] = [p] := by simp [errorsIn, hp]
  rw [h, GetterDraft.stub, hp] at he
  exact Option.mem_toList.1 (he ▸ List.mem_singleton.2 rfl)

/-- The stub of a field names its cycle. -/
theorem draft_eq_cycle_iff {options : GeneratorOptions} {inlined : List (String × String)} {c : List String} :
    (ModuleContext.ofSchema s options).draft inlined f = .stub f.formulaText? (.cycle c) ↔
      (ofSchema s).order.cycleOf? f.id = some c := by
  refine ⟨fun h => fieldError?_eq_cycle_iff.1 (fieldError?_of_draft_eq_stub rfl h), fun h => ?_⟩
  have h : (ModuleContext.ofSchema s options).order.cycleOf? f.id = some c := h
  rw [ModuleContext.draft, h]

/-- The stub of a blocked field that has no listed cycle says that it depends on one. -/
theorem draft_eq_behindCycle_iff {options : GeneratorOptions} {inlined : List (String × String)} :
    (ModuleContext.ofSchema s options).draft inlined f = .stub f.formulaText? .behindCycle ↔
      f.id ∈ (ofSchema s).order.blocked ∧ (ofSchema s).order.cycleOf? f.id = none := by
  refine ⟨fun h => fieldError?_eq_behindCycle_iff.1 (fieldError?_of_draft_eq_stub rfl h), ?_⟩
  rintro ⟨hb, hc⟩
  have hc : (ModuleContext.ofSchema s options).order.cycleOf? f.id = none := hc
  have hb : (ModuleContext.ofSchema s options).order.isBlocked f.id = true := List.contains_iff_mem.2 hb
  rw [ModuleContext.draft, hc]
  exact if_pos hb

end Schema

open DependencyGraph

/-- The cycle that is listed for a field is a circle with the field on it. A field on a cycle is interdependent with one
for which a cycle is listed, and has one itself if the fields it is interdependent with form one circle. Fields with a
listed cycle become stubs that name it, and other blocked fields stubs that do not. -/
theorem cycleOf?_order (s : Schema) (f : Field) :
    (∀ c, (ofSchema s).order.cycleOf? f.id = some c →
      (ofSchema s).IsCircle c ∧ f.id ∈ c ∧ (ofSchema s).OnCycle f.id) ∧
    ((ofSchema s).OnCycle f.id → ∃ h ∈ s.computedFields,
      (ofSchema s).Interdependent f.id h.id ∧ ((ofSchema s).order.cycleOf? h.id).isSome = true) ∧
    ((ofSchema s).OnOneCircle f.id →
      (((ofSchema s).order.cycleOf? f.id).isSome = true ↔ (ofSchema s).OnCycle f.id)) ∧
    ∀ options inlined,
      (∀ c, (ModuleContext.ofSchema s options).draft inlined f = .stub f.formulaText? (.cycle c) ↔
        (ofSchema s).order.cycleOf? f.id = some c) ∧
      ((ModuleContext.ofSchema s options).draft inlined f = .stub f.formulaText? .behindCycle ↔
        f.id ∈ (ofSchema s).order.blocked ∧ (ofSchema s).order.cycleOf? f.id = none) := by
  refine ⟨fun c hc => ?_, fun hx => ?_, fun ho => ⟨fun h => ?_, fun hx => ?_⟩, fun options inlined => ?_⟩
  · obtain ⟨hcircle, hmem⟩ := isCircle_of_cycleOf? hc
    exact ⟨hcircle, hmem, hcircle.onCycle hmem⟩
  · obtain ⟨y, hy, hcycle⟩ := exists_cycleOf?_of_onCycle hx
    obtain ⟨c, hc⟩ := Option.isSome_iff_exists.1 hcycle
    obtain ⟨hcircle, hmem⟩ := isCircle_of_cycleOf? hc
    obtain ⟨z, _, hn⟩ := hcircle.exists_needs hmem
    obtain ⟨h, hh, rfl⟩ := isComputed_ofSchema_iff.1 hn.1
    exact ⟨h, hh, hy, hcycle⟩
  · obtain ⟨c, hc⟩ := Option.isSome_iff_exists.1 h
    obtain ⟨hcircle, hmem⟩ := isCircle_of_cycleOf? hc
    exact hcircle.onCycle hmem
  · exact isSome_cycleOf?_of_onOneCircle hx ho
  · exact ⟨fun c => draft_eq_cycle_iff, draft_eq_behindCycle_iff⟩

/-! ## Overlapping cycles -/

/-- The tax of an invoice, which is computed from the net amount. -/
def taxField : Field where
  id := "tax"
  name := "Tax"
  type := .formula
  tableId := "invoices"
  options := { formula := some "\x7bnet\x7d" }

/-- A discount on itself. -/
def discountField : Field where
  id := "discount"
  name := "Discount"
  type := .formula
  tableId := "invoices"
  options := { formula := some "\x7bdiscount\x7d" }

/-- The total is computed from the net amount and the tax, the tax from the net amount, and the net amount from the
total. -/
def invoiceSchema : Schema where
  declared := [{ id := "invoices", name := "Invoices", fields := [
    { id := "total", name := "Total", type := .formula, options := { formula := some "\x7bnet\x7d+\x7btax\x7d" } },
    { id := "net", name := "Net", type := .formula, options := { formula := some "\x7btotal\x7d" } },
    taxField, discountField] }]
  sound := by decide

/-- What is needed to compute the fields of `invoiceSchema`. -/
theorem computedDependencies_invoiceSchema :
    (ofSchema invoiceSchema).computedDependencies "total" = ["net", "tax"] ∧
    (ofSchema invoiceSchema).computedDependencies "net" = ["total"] ∧
    (ofSchema invoiceSchema).computedDependencies "tax" = ["net"] ∧
    (ofSchema invoiceSchema).computedDependencies "discount" = ["discount"] := by
  have hsum := parse_references (l := 1) ['n', 'e', 't'] ['t', 'a', 'x'] rfl rfl (c := '+') rfl (fun _ => rfl) rfl
    (by decide)
  have hnet := parse_reference ['n', 'e', 't'] rfl
  have htotal := parse_reference ['t', 'o', 't', 'a', 'l'] rfl
  have hdiscount := parse_reference ['d', 'i', 's', 'c', 'o', 'u', 'n', 't'] rfl
  exact ⟨(computedDependencies_of_parse rfl rfl rfl hsum).trans (by decide),
    (computedDependencies_of_parse rfl rfl rfl htotal).trans (by decide),
    (computedDependencies_of_parse rfl rfl rfl hnet).trans (by decide),
    (computedDependencies_of_parse rfl rfl rfl hdiscount).trans (by decide)⟩

theorem order_invoiceSchema : (ofSchema invoiceSchema).order =
    ⟨[("total", none), ("net", none), ("tax", none), ("discount", none)],
      [["total", "net", "total"], ["discount", "discount"]]⟩ := by
  have hids : (ofSchema invoiceSchema).computedIds = ["total", "net", "tax", "discount"] := by decide
  obtain ⟨htotal, hnet, htax, hdiscount⟩ := computedDependencies_invoiceSchema
  simp [order, walk, hids, visitAll, visit, htotal, hnet, htax, hdiscount, deeper, List.lookup_cons]

theorem onCycle_tax : (ofSchema invoiceSchema).OnCycle "tax" := by
  obtain ⟨htotal, hnet, htax, -⟩ := computedDependencies_invoiceSchema
  have htaxNet : (ofSchema invoiceSchema).Needs "tax" "net" :=
    (mem_computedDependencies_iff (by decide)).1 (by simp [htax])
  have hnetTotal : (ofSchema invoiceSchema).Needs "net" "total" :=
    (mem_computedDependencies_iff (by decide)).1 (by simp [hnet])
  have htotalTax : (ofSchema invoiceSchema).Needs "total" "tax" :=
    (mem_computedDependencies_iff (by decide)).1 (by simp [htotal])
  exact .head htaxNet (.head hnetTotal (.single htotalTax))

/-- The tax of an invoice is on a cycle, but no cycle is listed for it, and it is said to depend on one only. -/
theorem cycleOf?_tax :
    taxField ∈ invoiceSchema.computedFields ∧ (ofSchema invoiceSchema).OnCycle taxField.id ∧
    (ofSchema invoiceSchema).order.cycleOf? taxField.id = none ∧
    (ModuleContext.ofSchema invoiceSchema {}).draft [] taxField = .stub taxField.formulaText? .behindCycle := by
  have hc : (ofSchema invoiceSchema).order.cycleOf? taxField.id = none := by
    rw [order_invoiceSchema]
    decide
  have hb : taxField.id ∈ (ofSchema invoiceSchema).order.blocked := by
    rw [order_invoiceSchema]
    decide
  exact ⟨by decide, onCycle_tax, hc, draft_eq_behindCycle_iff.2 ⟨hb, hc⟩⟩

theorem eq_of_needs_discount {y : String} (h : (ofSchema invoiceSchema).Needs "discount" y) : y = "discount" := by
  obtain ⟨-, -, -, hdiscount⟩ := computedDependencies_invoiceSchema
  have hy := (mem_computedDependencies_iff h.1).2 h
  rw [hdiscount] at hy
  exact List.mem_singleton.1 hy

theorem onOneCircle_discount : (ofSchema invoiceSchema).OnOneCircle "discount" := by
  have heq {y : String} (h : ReflTransGen (ofSchema invoiceSchema).Needs "discount" y) : y = "discount" := by
    induction h with
    | refl => rfl
    | tail _ hn ih => exact eq_of_needs_discount (ih ▸ hn)
  intro y z z' _ _ _ hz hz'
  rw [heq hz.1, heq hz'.1]

/-- A cycle is listed for some field that the tax of an invoice depends on, and one for the discount. -/
theorem cycleOf?_order_invoiceSchema :
    (∃ h ∈ invoiceSchema.computedFields, (ofSchema invoiceSchema).Interdependent taxField.id h.id ∧
      ((ofSchema invoiceSchema).order.cycleOf? h.id).isSome = true) ∧
    (((ofSchema invoiceSchema).order.cycleOf? discountField.id).isSome = true ↔
      (ofSchema invoiceSchema).OnCycle discountField.id) ∧
    (ofSchema invoiceSchema).OnCycle discountField.id := by
  have hcycle : (ofSchema invoiceSchema).order.cycleOf? discountField.id = some ["discount", "discount"] := by
    rw [order_invoiceSchema]
    decide
  exact ⟨(cycleOf?_order invoiceSchema taxField).2.1 onCycle_tax,
    (cycleOf?_order invoiceSchema discountField).2.2.1 onOneCircle_discount,
    ((cycleOf?_order invoiceSchema discountField).1 _ hcycle).2.2⟩

end ComputedFields
