import ComputedFields.Proofs.Edges
import Mathlib.Order.Lattice.Nat

/-!
# Distances of downstream fields

- `DependencyGraph.Reaches`: a path with a number of edges that order computation; `DependencyGraph.distance` is the
  least number;
- `DependencyGraph.Frontier`: a layer of the search holds the fields at one distance, and the unseen fields are farther
  away. The next layer is the next frontier (`Frontier.next`), so the layers come in the order of their distances
  (`distances_layersAfter`);
- `Search`: the search with a queue. It works off a layer and has then queued the next one (`iterate_step_layer`), so
  it comes to an end with the fields of all layers (`exists_iterate_step`);
- the downstream fields of a field are those that reach it, nearest first (`listsDownstream_ofSchema`).
-/

namespace ComputedFields

open Relation

namespace DependencyGraph

/-! ## Paths -/

/-- There is a path of so many edges that order computation from a field to another. -/
inductive Reaches (g : DependencyGraph) : Nat → String → String → Prop
  | refl (x : String) : Reaches g 0 x x
  | edge {n : Nat} {e : Edge} {x : String} (he : e ∈ g.edges) (hk : e.kind.isHierarchical = true)
    (h : Reaches g n e.target x) : Reaches g (n + 1) e.source x

section

variable {g : DependencyGraph} {x y : String} {n : Nat}

theorem reaches_zero_iff : g.Reaches 0 y x ↔ y = x := by
  constructor
  · rintro ⟨⟩
    rfl
  · rintro rfl
    exact .refl y

theorem reaches_succ_iff : g.Reaches (n + 1) y x ↔ ∃ z, g.Feeds z y ∧ g.Reaches n z x := by
  simp only [feeds_iff]
  constructor
  · rintro ⟨⟩
    next e he hk h => exact ⟨e.target, ⟨e, he, rfl, rfl, hk⟩, h⟩
  · rintro ⟨_, ⟨e, he, rfl, rfl, hk⟩, h⟩
    exact .edge he hk h

/-- Paths against the direction of the edges are paths along which fields feed each other. -/
theorem exists_reaches_iff : (∃ n, g.Reaches n y x) ↔ ReflTransGen g.Feeds x y := by
  constructor
  · rintro ⟨n, h⟩
    induction n generalizing y with
    | zero =>
      rw [reaches_zero_iff.1 h]
    | succ n ih =>
      obtain ⟨z, hzy, hz⟩ := reaches_succ_iff.1 h
      exact (ih hz).tail hzy
  · intro h
    induction h with
    | refl => exact ⟨0, .refl x⟩
    | tail _ hzy ih =>
      obtain ⟨n, hz⟩ := ih
      exact ⟨n + 1, reaches_succ_iff.2 ⟨_, hzy, hz⟩⟩

/-- The number of edges of a shortest path. -/
noncomputable def distance (g : DependencyGraph) (y x : String) : Nat := sInf {n | g.Reaches n y x}

theorem isLeast_distance (h : g.Reaches n y x) : IsLeast {n | g.Reaches n y x} (g.distance y x) :=
  ⟨Nat.sInf_mem ⟨n, h⟩, fun _ hm => Nat.sInf_le hm⟩

theorem distance_eq (h : IsLeast {n | g.Reaches n y x} n) : g.distance y x = n := (isLeast_distance h.1).unique h

end

/-! ## Layers -/

/-- The layer holds the fields at a distance from `x`, and the unseen fields are those that are farther away or do not
reach it at all. -/
structure Frontier (g : DependencyGraph) (x : String) (n : Nat) (unseen layer : List String) : Prop where
  mem_layer_iff : ∀ y, y ∈ layer ↔ IsLeast {n | g.Reaches n y x} n
  mem_unseen_iff : ∀ y, y ∈ unseen ↔ y ∈ g.fieldIds ∧ ∀ m ≤ n, ¬ g.Reaches m y x

section

variable {s : Schema} {x : String} {n : Nat} {unseen layer : List String}

theorem frontier_start (g : DependencyGraph) (x : String) : g.Frontier x 0 (g.fieldIds.filter (· != x)) [x] where
  mem_layer_iff y := by
    rw [List.mem_singleton, ← reaches_zero_iff (g := g)]
    exact ⟨fun h => ⟨h, fun m _ => Nat.zero_le m⟩, fun h => h.1⟩
  mem_unseen_iff y := by simp [reaches_zero_iff]

theorem Frontier.mem_nextLayer_iff (h : (ofSchema s).Frontier x n unseen layer) {y : String} :
    y ∈ (ofSchema s).nextLayer unseen layer ↔ IsLeast {n | (ofSchema s).Reaches n y x} (n + 1) := by
  rw [DependencyGraph.mem_nextLayer_iff, h.mem_unseen_iff]
  constructor
  · rintro ⟨⟨z, hz, hzy⟩, -, hfar⟩
    refine ⟨reaches_succ_iff.2 ⟨z, hzy, ((h.mem_layer_iff z).1 hz).1⟩, fun m hm => ?_⟩
    by_contra hlt
    exact hfar m (by omega) hm
  · rintro ⟨hy, hleast⟩
    -- the first edge of a shortest path leads to a field of the layer
    obtain ⟨z, hzy, hz⟩ := reaches_succ_iff.1 hy
    refine ⟨⟨z, (h.mem_layer_iff z).2 ⟨hz, fun m hm => ?_⟩, hzy⟩, hzy.mem_fieldIds, fun m hle hm => ?_⟩
    · have := hleast (reaches_succ_iff.2 ⟨z, hzy, hm⟩)
      omega
    · have := hleast hm
      omega

/-- The next layer is one step farther away. -/
theorem Frontier.next (h : (ofSchema s).Frontier x n unseen layer) :
    (ofSchema s).Frontier x (n + 1) ((ofSchema s).unseenAfter unseen layer) ((ofSchema s).nextLayer unseen layer) where
  mem_layer_iff y := h.mem_nextLayer_iff
  mem_unseen_iff y := by
    simp only [unseenAfter, List.mem_filter, decide_eq_true_eq, h.mem_nextLayer_iff, h.mem_unseen_iff]
    constructor
    · rintro ⟨⟨hid, hfar⟩, hnext⟩
      refine ⟨hid, fun m hle hm => ?_⟩
      rcases Nat.lt_or_eq_of_le hle with hlt | rfl
      · exact hfar m (by omega) hm
      · refine hnext ⟨hm, fun k hk => ?_⟩
        by_contra hlt
        exact hfar k (by omega) hk
    · rintro ⟨hid, hfar⟩
      exact ⟨⟨hid, fun m hle => hfar m (by omega)⟩, fun hn => hfar _ (Nat.le_refl _) hn.1⟩

/-- The layers after a frontier are farther away and come in the order of their distances. -/
theorem distances_layersAfter (h : (ofSchema s).Frontier x n unseen layer) :
    (∀ y ∈ (ofSchema s).layersAfter unseen layer, n < (ofSchema s).distance y x) ∧
    ((ofSchema s).layersAfter unseen layer).Nodup ∧
    ((ofSchema s).layersAfter unseen layer).Pairwise fun y z =>
      (ofSchema s).distance y x ≤ (ofSchema s).distance z x := by
  fun_induction layersAfter (ofSchema s) unseen layer generalizing n with
  | case1 unseen layer hn => exact ⟨fun _ hy => absurd hy List.not_mem_nil, .nil, .nil⟩
  | case2 unseen layer hn ih =>
    obtain ⟨hfar, hnodup, hordered⟩ := ih h.next
    have hnext (y : String) (hy : y ∈ (ofSchema s).nextLayer unseen layer) : (ofSchema s).distance y x = n + 1 :=
      distance_eq (h.mem_nextLayer_iff.1 hy)
    refine ⟨fun y hy => ?_, List.nodup_append.2 ⟨?_, hnodup, ?_⟩, List.pairwise_append.2 ⟨?_, hordered, ?_⟩⟩
    · rcases List.mem_append.1 hy with hy | hy
      · rw [hnext y hy]
        omega
      · have := hfar y hy
        omega
    · exact (nodup_eraseDups _).filter _
    · rintro y hy z hz rfl
      have := hfar y hz
      rw [hnext y hy] at this
      omega
    · exact List.pairwise_of_forall_mem_list fun y hy z hz => by rw [hnext y hy, hnext z hz]
    · intro y hy z hz
      have := hfar z hz
      rw [hnext y hy]
      omega

end

/-! ## The search with a queue -/

/-- A search: the fields whose dependents are still to be looked at, those that are known, and those that were found. -/
structure Search where
  queue : List String
  visited : List String
  found : List String

namespace Search

def start (x : String) : Search := ⟨[x], [x], []⟩

/-- Puts a field into the queue and into the result, unless it is known. -/
def note (w : Search) (y : String) : Search :=
  if y ∈ w.visited then w else ⟨w.queue ++ [y], w.visited ++ [y], w.found ++ [y]⟩

/-- Takes a field from the queue and notes those that cannot be known before it. -/
def step (g : DependencyGraph) (w : Search) : Search :=
  match w.queue with
  | [] => w
  | y :: queue => (g.dependents y).foldl note { w with queue := queue }

/-- Fields are noted once, in the order of their first mention. -/
theorem foldl_note (w : Search) (ys : List String) : ys.foldl note w =
    ⟨w.queue ++ ys.eraseDups.filter (· ∉ w.visited), w.visited ++ ys.eraseDups.filter (· ∉ w.visited),
      w.found ++ ys.eraseDups.filter (· ∉ w.visited)⟩ := by
  induction ys using List.reverseRecOn with
  | nil => simp
  | append_singleton ys y ih =>
    rw [List.foldl_concat, ih, note, eraseDups_concat]
    by_cases hv : y ∈ w.visited <;> by_cases hy : y ∈ ys <;>
      simp [hv, hy, List.mem_filter, List.mem_eraseDups]

variable {g : DependencyGraph}

/-- While a part of the queue is worked off, what is noted comes after the rest of it. -/
theorem iterate_step (layer queue visited found : List String) :
    (step g)^[layer.length] ⟨layer ++ queue, visited, found⟩ =
      (layer.flatMap g.dependents).foldl note ⟨queue, visited, found⟩ := by
  induction layer generalizing queue visited found with
  | nil => rfl
  | cons y layer ih =>
    rw [List.length_cons, Function.iterate_succ_apply, List.flatMap_cons, List.foldl_append,
      foldl_note _ (g.dependents y)]
    rw [← ih]
    congr 1
    simp [step, foldl_note]

end Search

section

variable {s : Schema} (unseen layer visited found : List String)

/-- A layer is worked off, and the next one is in the queue. -/
theorem iterate_step_layer (hu : ∀ y, y ∈ unseen ↔ y ∈ (ofSchema s).fieldIds ∧ y ∉ visited) :
    (Search.step (ofSchema s))^[layer.length] ⟨layer, visited, found⟩ =
      ⟨(ofSchema s).nextLayer unseen layer, visited ++ (ofSchema s).nextLayer unseen layer,
        found ++ (ofSchema s).nextLayer unseen layer⟩ := by
  have hnext : (ofSchema s).nextLayer unseen layer =
      (layer.flatMap (ofSchema s).dependents).eraseDups.filter (· ∉ visited) := by
    refine List.filter_congr fun y hy => ?_
    obtain ⟨z, -, hzy⟩ := List.mem_flatMap.1 (List.mem_eraseDups.1 hy)
    rw [decide_eq_decide, hu, and_iff_right (Feeds.mem_fieldIds hzy)]
  have hrun := Search.iterate_step (g := ofSchema s) layer [] visited found
  rw [List.append_nil, Search.foldl_note] at hrun
  rw [hrun, hnext]
  rfl

/-- The search comes to an end when it has found all layers. -/
theorem exists_iterate_step (hu : ∀ y, y ∈ unseen ↔ y ∈ (ofSchema s).fieldIds ∧ y ∉ visited) :
    ∃ n all, (Search.step (ofSchema s))^[n] ⟨layer, visited, found⟩ =
      ⟨[], all, found ++ (ofSchema s).layersAfter unseen layer⟩ := by
  fun_induction layersAfter (ofSchema s) unseen layer generalizing visited found with
  | case1 unseen layer hn =>
    refine ⟨layer.length, visited, ?_⟩
    rw [iterate_step_layer _ _ _ _ hu, hn, List.append_nil]
  | case2 unseen layer hn ih =>
    have hu' (y : String) : y ∈ (ofSchema s).unseenAfter unseen layer ↔
        y ∈ (ofSchema s).fieldIds ∧ y ∉ visited ++ (ofSchema s).nextLayer unseen layer := by
      simp only [unseenAfter, List.mem_filter, decide_eq_true_eq, hu, List.mem_append, not_or, and_assoc]
    obtain ⟨n, all, hrun⟩ := ih _ (found ++ (ofSchema s).nextLayer unseen layer) hu'
    refine ⟨n + layer.length, all, ?_⟩
    rw [Function.iterate_add_apply, iterate_step_layer _ _ _ _ hu, hrun, List.append_assoc]

end

/-! ## Downstream fields -/

/-- A list names the fields of a schema from which a field can be reached, nearest first. -/
structure ListsDownstream (g : DependencyGraph) (s : Schema) (x : String) (found : List String) : Prop where
  /-- The search comes to an end, and this is what it has found. -/
  search : ∃ n all, (Search.step g)^[n] (Search.start x) = ⟨[], all, found⟩
  /-- No field is listed twice, -/
  nodup : found.Nodup
  /-- and the field itself is not listed, even if it is on a cycle. -/
  not_mem : x ∉ found
  /-- Every other field is listed that reaches it, and nothing else. -/
  mem_iff : ∀ y, y ∈ found ↔ y ≠ x ∧ (∃ f ∈ s.fields, f.id = y) ∧ ∃ n, g.Reaches n y x
  /-- Fields come in the order of their distances. -/
  nearest : found.Pairwise fun y z => g.distance y x ≤ g.distance z x

/-- What is downstream of a field is found by breadth-first search. -/
theorem listsDownstream_ofSchema (s : Schema) (x : String) :
    (ofSchema s).ListsDownstream s x ((ofSchema s).downstream x) := by
  have hfrontier := frontier_start (ofSchema s) x
  obtain ⟨hfar, hnodup, hordered⟩ := distances_layersAfter hfrontier
  have hself : x ∉ (ofSchema s).downstream x := by
    intro h
    have hd : (ofSchema s).distance x x = 0 := distance_eq ⟨.refl x, fun m _ => Nat.zero_le m⟩
    have := hfar x h
    omega
  exact {
    search := exists_iterate_step ((ofSchema s).fieldIds.filter (· != x)) [x] [x] [] (by simp)
    nodup := hnodup
    not_mem := hself
    mem_iff := fun y => by
      rw [exists_reaches_iff]
      constructor
      · intro hy
        have hpath := feeds_of_mem_downstream hy
        obtain ⟨z, -, hzy⟩ := TransGen.tail'_iff.1 hpath
        have hid := hzy.mem_fieldIds
        rw [fieldIds_ofSchema, List.mem_map] at hid
        exact ⟨fun he => hself (he ▸ hy), hid, hpath.to_reflTransGen⟩
      · rintro ⟨hne, -, hpath⟩
        exact (List.mem_cons.1 (mem_downstream_of_feeds hpath)).resolve_left hne
    nearest := hordered }

end DependencyGraph

end ComputedFields
