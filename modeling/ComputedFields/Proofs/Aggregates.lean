import ComputedFields.Proofs.TextCalls

/-!
# Aggregates of nested arrays

Fourteen functions look at the values of their arguments with all arrays opened, and at nothing else. So it does not
matter how the values are grouped into arrays.

- `Builtin.apply_congr_of_mem_aggregates`: such a function depends on its arguments only through `allValues`;
- `Value.not_isArray_of_mem_flatten`, `Value.flatten_array_of_forall`: opened arrays hold no arrays, so opening them
  once more changes nothing;
- `allValues_groups`: opening the arguments group by group gives the same values, and the same error, as opening them
  all;
- `evaluate_aggregates_groups`: so groups of arguments may be flattened first, and flattened arrays stay flat.
-/

namespace ComputedFields

namespace Value

/-! ## Flat arrays -/

def IsArray (v : Value) : Prop := ∃ items, v = array items

theorem flatten_of_not_isArray {v : Value} (h : ¬ v.IsArray) : v.flatten = [v] := by
  cases v with
  | array items => exact absurd ⟨items, rfl⟩ h
  | _ => rfl

mutual

/-- What comes out of an array is no array. -/
theorem not_isArray_of_mem_flatten : (v : Value) → ∀ w ∈ v.flatten, ¬ w.IsArray
  | array items => not_isArray_of_mem_flattenAll items
  | number _ | text _ | boolean _ | blank => by simp [flatten, IsArray]

theorem not_isArray_of_mem_flattenAll : (vs : List Value) → ∀ w ∈ flattenAll vs, ¬ w.IsArray
  | [] => List.forall_mem_nil _
  | v :: vs => by
    rw [flattenAll]
    exact List.forall_mem_append.2 ⟨not_isArray_of_mem_flatten v, not_isArray_of_mem_flattenAll vs⟩

end

/-- Opening an array that holds no arrays gives its values. -/
theorem flatten_array_of_forall {vs : List Value} (h : ∀ v ∈ vs, ¬ v.IsArray) : (array vs).flatten = vs := by
  rw [flatten]
  induction vs with
  | nil => rfl
  | cons v vs ih =>
    obtain ⟨hv, hvs⟩ := List.forall_mem_cons.1 h
    rw [flattenAll, flatten_of_not_isArray hv, ih hvs, List.singleton_append]

end Value

/-! ## Values of arguments -/

section

variable {record : Record} {args : List Pending} {vs : List Value}

theorem allValues_cons_ok {a : Pending} {v : Value} (h : a.get = .ok v) (args : List Pending) :
    allValues (a :: args) = (allValues args).map (v.flatten ++ ·) := by
  rw [allValues, h]
  rfl

theorem allValues_cons_error {a : Pending} {e : Failure} (h : a.get = .error e) (args : List Pending) :
    allValues (a :: args) = .error e := by
  rw [allValues, h]
  rfl

theorem not_isArray_of_mem_allValues (h : allValues args = .ok vs) : ∀ v ∈ vs, ¬ v.IsArray := by
  induction args generalizing vs with
  | nil =>
    cases h
    exact List.forall_mem_nil _
  | cons a args ih =>
    cases ha : a.get with
    | error e =>
      rw [allValues_cons_error ha] at h
      cases h
    | ok v =>
      rw [allValues_cons_ok ha] at h
      cases hargs : allValues args with
      | error e =>
        rw [hargs] at h
        cases h
      | ok ws =>
        rw [hargs] at h
        cases h
        exact List.forall_mem_append.2 ⟨v.not_isArray_of_mem_flatten, ih hargs⟩

/-- The arguments on the left are asked for first. -/
theorem allValues_append (args args' : List Pending) : allValues (args ++ args') = (do
    let vs ← allValues args
    (allValues args').map (vs ++ ·)) := by
  induction args with
  | nil =>
    cases h : allValues args' <;> simp [allValues, h] <;> rfl
  | cons a args ih =>
    cases ha : a.get with
    | error e =>
      rw [List.cons_append, allValues_cons_error ha, allValues_cons_error ha]
      rfl
    | ok v =>
      rw [List.cons_append, allValues_cons_ok ha, allValues_cons_ok ha, ih]
      cases allValues args with
      | error e => rfl
      | ok vs =>
        cases allValues args' with
        | error e => rfl
        | ok ws => exact congrArg Except.ok (List.append_assoc ..).symm

theorem evaluateAll_append (record : Record) (fs gs : List Formula) :
    evaluateAll record (fs ++ gs) = evaluateAll record fs ++ evaluateAll record gs := by
  induction fs with
  | nil => rfl
  | cons f fs ih => rw [List.cons_append, evaluateAll, evaluateAll, ih, List.cons_append]

/-- The call that gathers some arguments in one array. -/
def flattenCall (group : List Formula) : Formula := .call "ARRAYFLATTEN" group

theorem evaluate_flattenCall (record : Record) (group : List Formula) :
    evaluate record (flattenCall group) = (allValues (evaluateAll record group)).map .array := by
  rw [flattenCall, evaluate_call (b := .arrayFlatten) rfl]
  rfl

/-- A group of arguments in one array stands for the group. -/
theorem allValues_flattenCall_cons (group fs : List Formula) :
    allValues (evaluateAll record (flattenCall group :: fs)) = allValues (evaluateAll record (group ++ fs)) := by
  rw [evaluateAll_append, allValues_append, evaluateAll]
  have hget : (Thunk.mk fun _ => evaluate record (flattenCall group)).get =
      (allValues (evaluateAll record group)).map .array := evaluate_flattenCall record group
  cases hg : allValues (evaluateAll record group) with
  | error e =>
    rw [hg] at hget
    exact allValues_cons_error hget _
  | ok vs =>
    rw [hg] at hget
    rw [allValues_cons_ok hget, Value.flatten_array_of_forall (not_isArray_of_mem_allValues hg)]
    rfl

theorem allValues_groups (record : Record) (groups : List (List Formula)) :
    allValues (evaluateAll record (groups.map flattenCall)) = allValues (evaluateAll record groups.flatten) := by
  induction groups with
  | nil => rfl
  | cons group groups ih =>
    rw [List.map_cons, allValues_flattenCall_cons, List.flatten_cons, evaluateAll_append, evaluateAll_append,
      allValues_append, allValues_append, ih]

end

/-! ## Aggregates -/

namespace Builtin

/-- The functions of all values of their arguments. -/
def aggregates : List Builtin :=
  [sum, average, max, min, count, countA, countAll, and, or, xor, concatenate, arrayUnique, arrayCompact, arrayFlatten]

/-- The functions that make an array. -/
def arrayMakers : List Builtin := [arrayUnique, arrayCompact, arrayFlatten]

theorem apply_congr_of_mem_aggregates {b : Builtin} (hb : b ∈ aggregates) (name : String) {args args' : List Pending}
    (h : allValues args = allValues args') : b.apply name args = b.apply name args' := by
  simp only [aggregates, List.mem_cons, List.not_mem_nil, or_false] at hb
  rcases hb with rfl | rfl | rfl | rfl | rfl | rfl | rfl | rfl | rfl | rfl | rfl | rfl | rfl | rfl <;>
    rw [apply, apply, h]

theorem arrayMakers_subset : arrayMakers ⊆ aggregates := by
  decide

theorem evaluated?_name_of_mem_aggregates : ∀ b ∈ aggregates, evaluated? b.name = some b := by
  decide

end Builtin

theorem mem_of_mem_uniqueAfter {seen vs : List Value} {v : Value} (h : v ∈ uniqueAfter seen vs) : v ∈ vs := by
  induction vs generalizing seen with
  | nil => cases h
  | cons w vs ih =>
    rw [uniqueAfter] at h
    split at h
    · exact List.mem_cons_of_mem w (ih h)
    · exact List.mem_cons.2 ((List.mem_cons.1 h).imp_right ih)

/-- What a function makes an array of, it takes from the opened arguments. -/
theorem exists_of_apply_eq_ok {b : Builtin} (hb : b ∈ Builtin.arrayMakers) {name : String} {args : List Pending}
    {v : Value} (h : b.apply name args = .ok v) :
    ∃ vs items, allValues args = .ok vs ∧ v = .array items ∧ items ⊆ vs := by
  simp only [Builtin.arrayMakers, List.mem_cons, List.not_mem_nil, or_false] at hb
  cases hvs : allValues args with
  | error e =>
    rcases hb with rfl | rfl | rfl <;>
    · rw [Builtin.apply, hvs] at h
      cases h
  | ok vs =>
    rcases hb with rfl | rfl | rfl <;> rw [Builtin.apply, hvs] at h <;> cases h
    · exact ⟨vs, _, rfl, rfl, fun w hw => mem_of_mem_uniqueAfter hw⟩
    · exact ⟨vs, _, rfl, rfl, List.filter_sublist.subset⟩
    · exact ⟨vs, _, rfl, rfl, List.Subset.refl _⟩

theorem exists_text_of_arrayJoin {name : String} {args : List Pending} {v : Value}
    (h : Builtin.arrayJoin.apply name args = .ok v) : ∃ s, v = .text s := by
  rw [Builtin.apply] at h
  cases hfirst : argument args 0 with
  | error e =>
    rw [hfirst] at h
    cases h
  | ok w =>
    rw [hfirst] at h
    change (if 1 < args.length then _ else _) = _ at h
    split at h
    · cases hsecond : textAt args 1 with
      | error e =>
        rw [hsecond] at h
        cases h
      | ok separator =>
        rw [hsecond] at h
        cases h
        exact ⟨_, rfl⟩
    · cases h
      exact ⟨_, rfl⟩

/-- Fourteen functions see only the values of their arguments with all arrays opened: on arguments that are flattened
group by group they have the same value, or the same error. Functions that make an array make one without arrays in it,
and the one that joins the values of an array makes a text. -/
theorem evaluate_aggregates_groups (record : Record) :
    (∀ b ∈ Builtin.aggregates, ∀ groups : List (List Formula),
      evaluate record (.call b.name groups.flatten) = evaluate record (.call b.name (groups.map flattenCall))) ∧
    (∀ b ∈ Builtin.arrayMakers, ∀ args v, evaluate record (.call b.name args) = .ok v →
      ∃ items, v = .array items ∧ ∀ w ∈ items, ¬ w.IsArray) ∧
    ∀ args v, evaluate record (.call "ARRAYJOIN" args) = .ok v → ∃ s, v = .text s := by
  refine ⟨fun b hb groups => ?_, fun b hb args v h => ?_, fun args v h => ?_⟩
  · have hname := Builtin.evaluated?_name_of_mem_aggregates b hb
    rw [evaluate_call hname, evaluate_call hname]
    exact Builtin.apply_congr_of_mem_aggregates hb _ (allValues_groups record groups).symm
  · have hname := Builtin.evaluated?_name_of_mem_aggregates b (Builtin.arrayMakers_subset hb)
    rw [evaluate_call hname] at h
    obtain ⟨vs, items, hvs, rfl, hsub⟩ := exists_of_apply_eq_ok hb h
    exact ⟨items, rfl, fun w hw => not_isArray_of_mem_allValues hvs w (hsub hw)⟩
  · rw [evaluate_call (b := .arrayJoin) rfl] at h
    exact exists_text_of_arrayJoin h

/-- Tags in arrays inside arrays, some of them blank or repeated. -/
def nestedTags : Record := fun id =>
  if id = "tags" then .array [.array [.text "a", .blank], .text "a"] else .array [.array [.array [.boolean true]]]

theorem evaluate_aggregates_groups_nestedTags :
    Builtin.arrayUnique ∈ Builtin.aggregates ∧ Builtin.arrayUnique ∈ Builtin.arrayMakers ∧
      evaluate nestedTags (.call "ARRAYUNIQUE" [flattenCall [.field { id := "tags" }, .literal (.text "a")],
        flattenCall [], flattenCall [.field { id := "marks" }]]) = .ok (.array [.text "a", .blank, .boolean true]) ∧
      ∀ w ∈ [Value.text "a", .blank, .boolean true], ¬ w.IsArray := by
  have hunique : Builtin.arrayUnique ∈ Builtin.aggregates := by decide
  have hmaker : Builtin.arrayUnique ∈ Builtin.arrayMakers := by decide
  have h := (evaluate_aggregates_groups nestedTags).1 _ hunique
    [[.field { id := "tags" }, .literal (.text "a")], [], [.field { id := "marks" }]]
  have hvalue : evaluate nestedTags (.call "ARRAYUNIQUE" [flattenCall [.field { id := "tags" }, .literal (.text "a")],
      flattenCall [], flattenCall [.field { id := "marks" }]]) = .ok (.array [.text "a", .blank, .boolean true]) :=
    h.symm.trans rfl
  obtain ⟨items, hitems, hflat⟩ := (evaluate_aggregates_groups nestedTags).2.1 _ hmaker _ _ hvalue
  cases hitems
  exact ⟨hunique, hmaker, hvalue, hflat⟩

end ComputedFields
