import ComputedFields.Module.Generation
import ComputedFields.Proofs.Fields

/-!
# The order of getters

Where getters call each other, all of them are in one sequence by depth:

- the sorted fields are sorted by their keys, and a field of lower depth comes first (`exists_lt_sorted`);
- cut into sections, they are still in this sequence (`flatMap_fields_ofPlacements`);
- the getters of the module are the getters of the sorted fields (`getters_generateModule`), each one generated without
  regard to those before it.
-/

namespace ComputedFields

/-! ## The order of fields -/

namespace Section

theorem keyLe_trans : ∀ {a b c : List Nat}, keyLe a b = true → keyLe b c = true → keyLe a c = true
  | [], _, _, _, _ => rfl
  | _ :: _, [], _, h, _ => by cases h
  | _ :: _, _ :: _, [], _, h => by cases h
  | x :: a, y :: b, z :: c, h, h' => by
    simp only [keyLe, Bool.or_eq_true, Bool.and_eq_true, decide_eq_true_eq, beq_iff_eq] at h h' ⊢
    rcases h with h | ⟨rfl, h⟩
    · rcases h' with h' | ⟨rfl, _⟩
      · exact .inl (Nat.lt_trans h h')
      · exact .inl h
    · rcases h' with h' | ⟨rfl, h'⟩
      · exact .inl h'
      · exact .inr ⟨rfl, keyLe_trans h h'⟩

theorem keyLe_total : ∀ (a b : List Nat), keyLe a b = true ∨ keyLe b a = true
  | [], _ => .inl rfl
  | _ :: _, [] => .inr rfl
  | x :: a, y :: b => by
    simp only [keyLe, Bool.or_eq_true, Bool.and_eq_true, decide_eq_true_eq, beq_iff_eq]
    rcases Nat.lt_trichotomy x y with h | rfl | h
    · exact .inl (.inl h)
    · exact (keyLe_total a b).imp (fun h => .inr ⟨rfl, h⟩) (fun h => .inr ⟨rfl, h⟩)
    · exact .inr (.inl h)

variable {s : Schema} {o : ComputationOrder} {grouped : Bool}

theorem pairwise_sorted : (sorted s o grouped).Pairwise fun p q =>
    keyLe (sortKey grouped o p) (sortKey grouped o q) = true := by
  apply List.pairwise_mergeSort
  · exact fun p q r => keyLe_trans
  · intro p q
    rw [Bool.or_eq_true]
    exact keyLe_total _ _

theorem map_field_sorted_perm : ((sorted s o grouped).map (·.field)).Perm s.computedFields := by
  have hf : (s.placements.filter (·.field.isComputed)).map (·.field) = s.computedFields := by
    rw [Schema.computedFields, ← Schema.map_field_placements, List.filter_map]
    rfl
  rw [← hf]
  exact (List.mergeSort_perm _ _).map _

theorem field_mem_of_mem_sorted {p : Placement} (h : p ∈ sorted s o grouped) : p.field ∈ s.computedFields :=
  map_field_sorted_perm.mem_iff.1 (List.mem_map_of_mem h)

theorem exists_mem_sorted {f : Field} (h : f ∈ s.computedFields) : ∃ p ∈ sorted s o grouped, p.field = f :=
  List.mem_map.1 (map_field_sorted_perm.mem_iff.2 h)

theorem depth_le_of_keyLe {p q : Placement} {d e : Nat}
    (h : keyLe (sortKey false o p) (sortKey false o q) = true) (hp : o.depth? p.field.id = some d)
    (hq : o.depth? q.field.id = some e) : d ≤ e := by
  simp only [sortKey, hp, hq, Option.isSome_some, Option.getD_some, if_true, Bool.false_eq_true, if_false, keyLe,
    Bool.or_eq_true, Bool.and_eq_true, decide_eq_true_eq, beq_iff_eq] at h
  omega

/-- A field of lower depth comes first. -/
theorem exists_lt_sorted {p q : Placement} {d e i : Nat} (hp : (sorted s o false)[i]? = some p)
    (hq : q ∈ sorted s o false) (hd : o.depth? q.field.id = some d) (he : o.depth? p.field.id = some e)
    (hlt : d < e) : ∃ j < i, (sorted s o false)[j]? = some q := by
  obtain ⟨j, hj⟩ := List.mem_iff_getElem?.1 hq
  rcases Nat.lt_trichotomy j i with h | rfl | h
  · exact ⟨j, h, hj⟩
  · rw [hp] at hj
    cases hj
    rw [hd] at he
    cases he
    exact absurd hlt (Nat.lt_irrefl d)
  · obtain ⟨hi, rfl⟩ := List.getElem?_eq_some_iff.1 hp
    obtain ⟨hj', rfl⟩ := List.getElem?_eq_some_iff.1 hj
    have hs : (sorted s o false).Pairwise _ := pairwise_sorted
    have hle := depth_le_of_keyLe (List.pairwise_iff_getElem.1 hs i j hi hj' h) he hd
    omega

/-! ## Sections -/

theorem flatMap_fields_prepend (p : Placement) (l : List Section) :
    (prepend p l).flatMap (·.fields) = p.field :: l.flatMap (·.fields) := by
  cases l with
  | nil => rfl
  | cons x l =>
    rw [prepend]
    split <;> rfl

theorem flatMap_fields_ofPlacements (ps : List Placement) :
    (ofPlacements ps).flatMap (·.fields) = ps.map (·.field) := by
  induction ps with
  | nil => rfl
  | cons p ps ih => rw [ofPlacements, List.foldr_cons, flatMap_fields_prepend, ← ofPlacements, ih, List.map_cons]

theorem exists_placement_of_mem {ps : List Placement} {x : Section} (h : x ∈ ofPlacements ps) :
    ∃ p ∈ ps, p.table = x.table := by
  induction ps generalizing x with
  | nil => cases h
  | cons p ps ih =>
    have hx : x.table = p.table ∨ x ∈ ofPlacements ps := by
      rw [ofPlacements, List.foldr_cons, ← ofPlacements] at h
      cases hps : ofPlacements ps with
      | nil =>
        rw [hps, prepend, List.mem_singleton] at h
        exact .inl (h ▸ rfl)
      | cons y ys =>
        rw [hps, prepend] at h
        split at h
        · obtain rfl | h := List.mem_cons.1 h
          · exact .inl rfl
          · exact .inr (List.mem_cons_of_mem _ h)
        · obtain rfl | h := List.mem_cons.1 h
          · exact .inl rfl
          · exact .inr h
    obtain hx | hx := hx
    · exact ⟨p, List.mem_cons_self, hx.symm⟩
    · obtain ⟨q, hq, hx⟩ := ih hx
      exact ⟨q, List.mem_cons_of_mem _ hq, hx⟩

end Section

/-! ## Getters -/

theorem Target.inlinesComputed_eq_false {t : Target} (h : t ≠ .sql) : t.inlinesComputed = false := by
  cases t with
  | sql => exact absurd rfl h
  | _ => rfl

theorem Target.groupsByTable_eq_false {t : Target} (h : t ≠ .sql) : t.groupsByTable = false := by
  cases t with
  | sql => exact absurd rfl h
  | _ => rfl

namespace ModuleContext

variable {ctx : ModuleContext}

/-- Where getters call each other, no code is inlined. -/
theorem draft_eq (h : ctx.target.inlinesComputed = false) (inlined : List (String × String)) (f : Field) :
    ctx.draft inlined f = ctx.draft [] f := by
  have ha : ctx.access inlined = ctx.access [] := by
    funext r
    simp [access, h]
  have hn (formula : Formula) : ctx.notInlined inlined formula = ctx.notInlined [] formula := by
    simp [notInlined, h]
  simp only [draft, formulaDraft, ha, hn]

theorem generateAll_eq (h : ctx.target.inlinesComputed = false) (inlined : List (String × String)) (fs : List Field) :
    ctx.generateAll inlined fs = fs.map (ctx.generate []) := by
  induction fs generalizing inlined with
  | nil => rfl
  | cons f fs ih =>
    rw [generateAll, ih, List.map_cons]
    simp only [generate, draft_eq h inlined]

/-- What the getters of the module of a schema depend on. -/
def ofSchema (s : Schema) (options : GeneratorOptions) : ModuleContext :=
  ⟨s, (DependencyGraph.ofSchema s).order, options, ModuleNames.ofSchema s options⟩

end ModuleContext

/-- The getters are those of the sorted fields. -/
theorem getters_generateModule {s : Schema} {options : GeneratorOptions} (h : options.target ≠ .sql) :
    (generateModule s options).getters =
      (Section.sorted s (DependencyGraph.ofSchema s).order false).map fun p =>
        (ModuleContext.ofSchema s options).generate [] p.field := by
  have hi : (ModuleContext.ofSchema s options).target.inlinesComputed = false := Target.inlinesComputed_eq_false h
  calc (generateModule s options).getters
    _ = (Section.ofSchema s (DependencyGraph.ofSchema s).order options.target).flatMap fun x =>
          (ModuleContext.ofSchema s options).generateAll [] x.fields := by
      rw [GeneratedModule.getters]
      exact List.flatMap_map _ _ _
    _ = ((Section.ofSchema s (DependencyGraph.ofSchema s).order options.target).flatMap (·.fields)).map
          ((ModuleContext.ofSchema s options).generate []) := by
      simp only [ModuleContext.generateAll_eq hi, List.map_flatMap]
    _ = _ := by
      rw [Section.ofSchema, Target.groupsByTable_eq_false h, Section.flatMap_fields_ofPlacements, List.map_map]
      rfl

/-! ## Tables -/

variable {s : Schema} {options : GeneratorOptions}

theorem table_mem_of_mem_sections {x : GeneratedSection} (h : x ∈ (generateModule s options).sections) :
    x.table ∈ s.tables := by
  obtain ⟨y, hy, rfl⟩ := List.mem_map.1 h
  obtain ⟨p, hp, ht⟩ := Section.exists_placement_of_mem hy
  have hp : p ∈ s.placements := (List.mem_filter.1 ((List.mergeSort_perm _ _).mem_iff.1 hp)).1
  exact ht ▸ Schema.table_mem_of_mem_placements hp

theorem mem_tables_of_mem_linkedTables {x : Table} (h : x ∈ (generateModule s options).linkedTables) :
    x ∈ s.tables := by
  obtain ⟨f, -, hf⟩ := List.mem_filterMap.1 (List.mem_eraseDups.1 h)
  obtain hf | ⟨-, hf⟩ := Option.or_eq_some_iff.1 hf
  · obtain ⟨link, -, hf⟩ := Option.bind_eq_some_iff.1 hf
    exact Schema.mem_tables_of_linkedTable? hf
  · obtain ⟨target, -, hf⟩ := Option.bind_eq_some_iff.1 hf
    exact Schema.mem_tables_of_tableOf? hf

theorem exists_mem_sections (options : GeneratorOptions) (h : s.computedFields ≠ []) :
    ∃ x, x ∈ (generateModule s options).sections := by
  obtain ⟨f, hf⟩ := List.exists_mem_of_ne_nil _ h
  obtain ⟨p, hp, -⟩ := Section.exists_mem_sorted (o := (DependencyGraph.ofSchema s).order) hf
  have hp := List.mem_map_of_mem (f := (·.field)) hp
  rw [← Section.flatMap_fields_ofPlacements] at hp
  obtain ⟨y, hy, -⟩ := List.mem_flatMap.1 hp
  exact ⟨_, List.mem_map_of_mem hy⟩

theorem exists_mem_getters (options : GeneratorOptions) (ht : options.target ≠ .sql) (h : s.computedFields ≠ []) :
    ∃ g, g ∈ (generateModule s options).getters := by
  obtain ⟨f, hf⟩ := List.exists_mem_of_ne_nil _ h
  obtain ⟨p, hp, -⟩ := Section.exists_mem_sorted (o := (DependencyGraph.ofSchema s).order) hf
  rw [getters_generateModule ht]
  exact ⟨_, List.mem_map_of_mem hp⟩

end ComputedFields
