import ComputedFields.Dependency.Order
import Mathlib.Logic.Relation

/-!
# Depths and cycles

What the walk through the computed fields finds out is stated without the walk:

- `DependencyGraph.Needs`: the edges that order computation, between computed fields;
- `ReachesCycle`: a field from which a cycle of these edges can be reached;
- `HasDepth`: the depth of a field as the number that bounds all paths of dependencies from it.

A field that reaches a cycle has no depth (`HasDepth.not_reachesCycle`). The walk settles every computed field with the
depth that it has, or without one if it reaches a cycle (`settles_walk`).
-/

namespace ComputedFields

open Relation

namespace DependencyGraph

variable {g : DependencyGraph}

/-- One computed field can only be computed after another one. -/
def Needs (g : DependencyGraph) (x y : String) : Prop :=
  g.isComputed x = true ∧ g.isComputed y = true ∧
    ∃ e ∈ g.edges, e.source = x ∧ e.target = y ∧ e.kind.isHierarchical = true

theorem mem_computedDependencies_iff {x y : String} (hx : g.isComputed x = true) :
    y ∈ g.computedDependencies x ↔ g.Needs x y := by
  simp only [computedDependencies, dependencies, edgesFrom, List.mem_filter, List.mem_map, beq_iff_eq, Needs, hx,
    true_and]
  constructor
  · rintro ⟨⟨e, ⟨⟨he, hs⟩, hk⟩, ht⟩, hy⟩
    exact ⟨hy, e, he, hs, ht, hk⟩
  · rintro ⟨hy, e, he, hs, ht, hk⟩
    exact ⟨⟨e, ⟨⟨he, hs⟩, hk⟩, ht⟩, hy⟩

/-! ## Cycles -/

/-- A cycle can be reached from a field, which may be on it. -/
def ReachesCycle (g : DependencyGraph) (x : String) : Prop := ∃ y, ReflTransGen g.Needs x y ∧ TransGen g.Needs y y

theorem ReachesCycle.head {x y : String} (h : g.Needs x y) (hy : g.ReachesCycle y) : g.ReachesCycle x := by
  obtain ⟨z, hz, hc⟩ := hy
  exact ⟨z, hz.head h, hc⟩

/-- A field that reaches a cycle needs one that does. -/
theorem ReachesCycle.exists_needs {x : String} (h : g.ReachesCycle x) : ∃ y, g.Needs x y ∧ g.ReachesCycle y := by
  obtain ⟨z, hz, hc⟩ := h
  rcases hz.cases_head with rfl | ⟨y, hy, hyz⟩
  · obtain ⟨y, hy, hyx⟩ := TransGen.head'_iff.1 hc
    exact ⟨y, hy, x, hyx, hc⟩
  · exact ⟨y, hy, z, hyz, hc⟩

/-! ## Depths -/

/-- All paths of dependencies from a field visit fewer than `n` other fields. -/
def DepthBelow (g : DependencyGraph) : Nat → String → Prop
  | 0, _ => False
  | n + 1, x => ∀ y, g.Needs x y → DepthBelow g n y

/-- The depth of a field. -/
def HasDepth (g : DependencyGraph) (x : String) (d : Nat) : Prop := ∀ n, g.DepthBelow n x ↔ d < n

theorem HasDepth.unique {x : String} {d d' : Nat} (h : g.HasDepth x d) (h' : g.HasDepth x d') : d = d' := by
  have h1 : d < d' + 1 := (h _).1 ((h' _).2 (Nat.lt_succ_self d'))
  have h2 : d' < d + 1 := (h' _).1 ((h _).2 (Nat.lt_succ_self d))
  omega

/-- A field is deeper than those that it needs. -/
theorem HasDepth.below {x y : String} {d : Nat} (h : g.HasDepth x d) (hy : g.Needs x y) : g.DepthBelow d y :=
  (h (d + 1)).2 (Nat.lt_succ_self d) y hy

theorem DepthBelow.not_reachesCycle {n : Nat} {x : String} (h : g.DepthBelow n x) : ¬ g.ReachesCycle x := by
  induction n generalizing x with
  | zero => exact h.elim
  | succ n ih =>
    intro hc
    obtain ⟨y, hy, hc⟩ := hc.exists_needs
    exact ih (h y hy) hc

theorem HasDepth.not_reachesCycle {x : String} {d : Nat} (h : g.HasDepth x d) : ¬ g.ReachesCycle x :=
  ((h (d + 1)).2 (Nat.lt_succ_self d)).not_reachesCycle

/-! ## What a walk settles -/

/-- A result that is right for a field. -/
def Settles (g : DependencyGraph) (x : String) : Option Nat → Prop
  | some d => g.HasDepth x d
  | none => g.ReachesCycle x

/-- A result that is right for a field that needs all fields of a list. -/
def SettlesAll (g : DependencyGraph) (xs : List String) : Option Nat → Prop
  | some d => ∀ n, (∀ x ∈ xs, g.DepthBelow n x) ↔ d ≤ n
  | none => ∃ x ∈ xs, g.ReachesCycle x

theorem settlesAll_nil : g.SettlesAll [] (some 0) := fun n => by simp

theorem SettlesAll.cons {x : String} {xs : List String} {depth least : Option Nat} (h : g.Settles x depth)
    (hs : g.SettlesAll xs least) : g.SettlesAll (x :: xs) (deeper depth least) := by
  cases depth with
  | none => exact ⟨x, List.mem_cons_self, h⟩
  | some d =>
    cases least with
    | none =>
      obtain ⟨y, hy, hc⟩ := hs
      exact ⟨y, List.mem_cons_of_mem _ hy, hc⟩
    | some k =>
      intro n
      rw [List.forall_mem_cons, h n, hs n]
      omega

theorem SettlesAll.settles {x : String} {depth : Option Nat} (hx : g.isComputed x = true)
    (h : g.SettlesAll (g.computedDependencies x) depth) : g.Settles x depth := by
  cases depth with
  | none =>
    obtain ⟨y, hy, hc⟩ := h
    exact hc.head ((mem_computedDependencies_iff hx).1 hy)
  | some d =>
    intro n
    cases n with
    | zero => simp [DepthBelow]
    | succ n =>
      rw [Nat.lt_succ_iff, ← h n]
      simp only [DepthBelow, mem_computedDependencies_iff hx]

/-! ## The walk -/

theorem visit_of_settled {free path : List String} {id : String} {w : Walk} {depth : Option Nat}
    (h : w.settled.lookup id = some depth) : g.visit free path id w = (depth, w) := by
  rw [visit, h]

theorem visit_of_free {free path : List String} {id : String} {w : Walk} (h : w.settled.lookup id = none)
    (hf : id ∈ free) :
    g.visit free path id w =
      let r := g.visitAll (free.erase id) (path ++ [id]) (g.computedDependencies id) w
      (r.1, { r.2 with settled := r.2.settled ++ [(id, r.1)] }) := by
  rw [visit, h]
  simp only [if_pos hf]

theorem visit_of_not_free {free path : List String} {id : String} {w : Walk} (h : w.settled.lookup id = none)
    (hf : id ∉ free) :
    g.visit free path id w = (none, { w with cycles := w.cycles ++ [path.dropWhile (· != id) ++ [id]] }) := by
  rw [visit, h]
  simp only [if_neg hf]

theorem length_erase_lt {free : List String} {id : String} (h : id ∈ free) : (free.erase id).length < free.length := by
  have := List.length_erase_of_mem h
  have := List.length_pos_of_mem h
  omega

/-- The field that a visit takes from the free ones is put on the path. -/
theorem mem_erase_or_mem_append {free path : List String} (h : ∀ x, g.isComputed x = true → x ∈ free ∨ x ∈ path)
    (id : String) : ∀ x, g.isComputed x = true → x ∈ free.erase id ∨ x ∈ path ++ [id] := by
  intro x hx
  by_cases he : x = id
  · exact .inr (by simp [he])
  · rcases h x hx with h | h
    · exact .inl ((List.mem_erase_of_ne he).2 h)
    · exact .inr (List.mem_append_left _ h)

/-- Everything that a walk has settled is right. -/
def Correct (g : DependencyGraph) (w : Walk) : Prop := ∀ p ∈ w.settled, g.Settles p.1 p.2

theorem mem_settled {w : Walk} {x : String} {depth : Option Nat} (h : w.settled.lookup x = some depth) :
    (x, depth) ∈ w.settled := by
  obtain ⟨front, back, he, _⟩ := List.lookup_eq_some_iff.1 h
  simp [he]

mutual

/-- A visit gives the right result for its field and settles it unless the field is on the path. The fields of the path
lead to the field, so that one that is met again is on a cycle. -/
theorem visit_spec {free path : List String} {id : String} {w : Walk} (hid : g.isComputed id = true)
    (hfree : ∀ x, g.isComputed x = true → x ∈ free ∨ x ∈ path) (hpath : ∀ x ∈ path, TransGen g.Needs x id)
    (hw : g.Correct w) :
    g.Settles id (g.visit free path id w).1 ∧ g.Correct (g.visit free path id w).2 ∧
      w.settled <+: (g.visit free path id w).2.settled ∧
      (id ∉ path → ∃ depth, (id, depth) ∈ (g.visit free path id w).2.settled) := by
  cases hl : w.settled.lookup id with
  | some depth =>
    rw [visit_of_settled hl]
    exact ⟨hw _ (mem_settled hl), hw, List.prefix_rfl, fun _ => ⟨depth, mem_settled hl⟩⟩
  | none =>
    by_cases hf : id ∈ free
    · have hlt := length_erase_lt hf
      have hfree' := mem_erase_or_mem_append hfree id
      have hneeds (y : String) (hy : y ∈ g.computedDependencies id) : g.Needs id y :=
        (mem_computedDependencies_iff hid).1 hy
      have hpath' : ∀ y ∈ g.computedDependencies id, ∀ x ∈ path ++ [id], TransGen g.Needs x y := by
        intro y hy x hx
        rcases List.mem_append.1 hx with hx | hx
        · exact (hpath x hx).tail (hneeds y hy)
        · rw [List.mem_singleton.1 hx]
          exact .single (hneeds y hy)
      obtain ⟨hs, hc, hp, _⟩ := visitAll_spec (fun y hy => (hneeds y hy).2.1) hfree' hpath' hw
      rw [visit_of_free hl hf]
      generalize g.visitAll (free.erase id) (path ++ [id]) (g.computedDependencies id) w = r at hs hc hp
      have hs := hs.settles hid
      refine ⟨hs, ?_, hp.trans (List.prefix_append _ _), fun _ => ⟨r.1, by simp⟩⟩
      exact List.forall_mem_append.2 ⟨hc, by simpa using hs⟩
    · rw [visit_of_not_free hl hf]
      have hp : id ∈ path := (hfree id hid).resolve_left hf
      exact ⟨⟨id, .refl, hpath id hp⟩, hw, List.prefix_rfl, fun h => absurd hp h⟩
termination_by (free.length, 0)

theorem visitAll_spec {free path ids : List String} {w : Walk} (hids : ∀ id ∈ ids, g.isComputed id = true)
    (hfree : ∀ x, g.isComputed x = true → x ∈ free ∨ x ∈ path)
    (hpath : ∀ id ∈ ids, ∀ x ∈ path, TransGen g.Needs x id) (hw : g.Correct w) :
    g.SettlesAll ids (g.visitAll free path ids w).1 ∧ g.Correct (g.visitAll free path ids w).2 ∧
      w.settled <+: (g.visitAll free path ids w).2.settled ∧
      ∀ id ∈ ids, id ∉ path → ∃ depth, (id, depth) ∈ (g.visitAll free path ids w).2.settled := by
  match ids with
  | [] =>
    rw [visitAll]
    exact ⟨settlesAll_nil, hw, List.prefix_rfl, nofun⟩
  | id :: ids =>
    obtain ⟨hid, hids⟩ := List.forall_mem_cons.1 hids
    obtain ⟨hp, hpath⟩ := List.forall_mem_cons.1 hpath
    obtain ⟨hs, hc, he, hl⟩ := visit_spec hid hfree hp hw
    obtain ⟨hs', hc', he', hl'⟩ := visitAll_spec hids hfree hpath hc
    rw [visitAll]
    refine ⟨.cons hs hs', hc', he.trans he', List.forall_mem_cons.2 ⟨fun hn => ?_, hl'⟩⟩
    obtain ⟨depth, h⟩ := hl hn
    exact ⟨depth, he'.subset h⟩
termination_by (free.length, ids.length + 1)

end

theorem isComputed_iff {x : String} : g.isComputed x = true ↔ x ∈ g.computedIds := by simp [isComputed]

/-- The walk settles every computed field, and rightly so. -/
theorem settles_walk {x : String} (hx : g.isComputed x = true) :
    ∃ depth, g.walk.settled.lookup x = some depth ∧ g.Settles x depth := by
  have hw : g.Correct ⟨[], []⟩ := nofun
  have hids : ∀ id ∈ g.computedIds, g.isComputed id = true := fun _ h => isComputed_iff.2 h
  have hfree : ∀ x, g.isComputed x = true → x ∈ g.computedIds ∨ x ∈ [] := fun _ h => .inl (isComputed_iff.1 h)
  obtain ⟨_, hc, _, hl⟩ := visitAll_spec hids hfree (fun _ _ => nofun) hw
  obtain ⟨d, hd⟩ := hl x (isComputed_iff.1 hx) List.not_mem_nil
  have hs : (g.walk.settled.lookup x).isSome = true := List.lookup_isSome_iff.2 ⟨(x, d), hd, beq_self_eq_true x⟩
  obtain ⟨depth, h⟩ := Option.isSome_iff_exists.1 hs
  exact ⟨depth, h, hc _ (mem_settled h)⟩

end DependencyGraph

end ComputedFields
