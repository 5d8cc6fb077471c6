import ComputedFields.Proofs.Edges
import ComputedFields.Proofs.Lexing
import ComputedFields.Proofs.Resolution

/-!
# References to known and to missing fields

The graph and the resolution of a formula look up the same ids, one for all fields of a schema and the other for a
single formula.

- the ids that are missing for a field are those of its formula that the schema does not know
  (`map_unresolved_ofSchema`), and its edges go to all others (`map_edgesFrom_ofSchema`);
- so graph and resolution agree, and no id is lost or listed twice (`agreesWithResolution_ofSchema`).
-/

namespace ComputedFields

namespace DependencyGraph

section

variable {s : Schema} {f : Field} {text : String} {formula : Formula} (ht : f.type = .formula)
  (htext : f.options.formula = some text) (hp : parse text = .ok formula)
include ht htext hp

theorem mentions_of_parse : f.mentions = formula.fieldIds.map (·, .formulaRef) := by
  simp only [Field.mentions, Field.computedKind?_eq_formula_iff.2 ht, Field.formulaReferences_of_ok ht htext hp]

theorem map_unresolved_ofSchema (hf : f ∈ s.fields) : ((ofSchema s).unresolved.filter (·.1 == f.id)).map (·.2) =
    formula.fieldIds.filter (s.field? · |>.isNone) := by
  have hown (g : Field) (m : String × String) (hm : m ∈ missingOf s g) (h : (m.1 == f.id) = true) : g.id = f.id := by
    obtain ⟨_, -, rfl⟩ := List.mem_map.1 hm
    exact eq_of_beq h
  rw [ofSchema, Schema.filter_flatMap_fields hf hown, missingOf, mentions_of_parse ht htext hp]
  simp [List.filter_map, Function.comp_def]

theorem filter_edgesOf : (edgesOf s f).filter (fun e => e.kind == .formulaRef && e.source == f.id) =
    (formula.fieldIds.filter (s.field? · |>.isSome)).map (⟨f.id, ·, .formulaRef⟩) := by
  have hlinks : (linkEdges s f).filter (fun e => e.kind == .formulaRef && e.source == f.id) = [] :=
    List.filter_eq_nil_iff.2 fun e he => by simp [kind_of_mem_linkEdges he]
  rw [edgesOf, List.filter_append, hlinks, List.append_nil, mentions_of_parse ht htext hp]
  simp [List.filter_map, Function.comp_def]

theorem map_edgesFrom_ofSchema (hf : f ∈ s.fields) :
    (((ofSchema s).edgesFrom f.id).filter (·.kind == .formulaRef)).map (·.target) =
      formula.fieldIds.filter (s.field? · |>.isSome) := by
  have hown (g : Field) (e : Edge) (he : e ∈ edgesOf s g) (h : (e.kind == .formulaRef && e.source == f.id) = true) :
      g.id = f.id := by
    rw [Bool.and_eq_true, beq_iff_eq, beq_iff_eq] at h
    have hk : e.kind ≠ .recordLink := by simp [h.1]
    exact ((mem_edgesOf_iff_of_ne hk).1 he).1.symm.trans h.2
  have hnodup : ((formula.fieldIds.filter (s.field? · |>.isSome)).map
      fun id => (⟨f.id, id, .formulaRef⟩ : Edge)).Nodup :=
    ((nodup_eraseDups _).filter _).map fun _ _ h => (Edge.mk.inj h).2.1
  rw [edgesFrom, List.filter_filter, ofSchema, ← eraseDups_filter, Schema.filter_flatMap_fields hf hown,
    filter_edgesOf ht htext hp, eraseDups_of_nodup hnodup, List.map_map]
  exact List.map_id _

end

/-- A graph lists for a field the references of its formula as the resolution of the formula finds them. -/
structure AgreesWithResolution (g : DependencyGraph) (s : Schema) (id : String) (formula : Formula) : Prop where
  /-- The ids that are missing are the unresolved ones, in the same order. -/
  missing : (g.unresolved.filter (·.1 == id)).map (·.2) = (formula.resolve s).unresolvedIds
  /-- The edges go to all other ids of the formula, in the order of their first mention. -/
  targets : ((g.edgesFrom id).filter (·.kind == .formulaRef)).map (·.target) =
    formula.fieldIds.filter (· ∉ (formula.resolve s).unresolvedIds)
  /-- Together they have every id that occurs in the formula, -/
  mem_iff : ∀ x, x ∈ (formula.resolve s).unresolvedIds ++
    ((g.edgesFrom id).filter (·.kind == .formulaRef)).map (·.target) ↔ formula.Occurs x
  /-- and none of them twice. -/
  nodup : ((formula.resolve s).unresolvedIds ++
    ((g.edgesFrom id).filter (·.kind == .formulaRef)).map (·.target)).Nodup

/-- Graph and resolution agree on the references of every formula that can be read. -/
theorem agreesWithResolution_ofSchema {s : Schema} {f : Field} (hf : f ∈ s.fields) (ht : f.type = .formula)
    {text : String} (htext : f.options.formula = some text) {formula : Formula} (hp : parse text = .ok formula) :
    (ofSchema s).AgreesWithResolution s f.id formula := by
  have htargets := map_edgesFrom_ofSchema ht htext hp hf
  have hunresolved := Formula.unresolvedIds_resolve s formula
  have hperm : ((formula.resolve s).unresolvedIds ++
      (((ofSchema s).edgesFrom f.id).filter (·.kind == .formulaRef)).map (·.target)).Perm formula.fieldIds := by
    have hnot (id : String) : (s.field? id).isSome = !(s.field? id).isNone := by simp
    rw [hunresolved, htargets, funext hnot]
    exact List.filter_append_perm _ _
  exact {
    missing := (map_unresolved_ofSchema ht htext hp hf).trans hunresolved.symm
    targets := by
      rw [htargets, hunresolved]
      refine List.filter_congr fun id hid => ?_
      cases h : s.field? id <;> simp [hid, h]
    mem_iff := fun x => by rw [hperm.mem_iff, Formula.mem_fieldIds_iff]
    nodup := hperm.nodup_iff.2 (nodup_eraseDups _) }

/-- What a guest pays, with a tip that no field holds on both sides of the price. -/
def paidField : Field where
  id := "paid"
  name := "Paid"
  type := .formula
  tableId := "receipts"
  options := { formula := some "\x7btip\x7d+\x7bprice\x7d+\x7btip\x7d" }

def paidFormula : Formula :=
  .binary .add (.binary .add (.field { id := "tip" }) (.field { id := "price" })) (.field { id := "tip" })

/-- A receipt, of which a second field misses the tip as well. -/
def receiptSchema : Schema where
  declared := [{ id := "receipts", name := "Receipts", fields := [
    { id := "share", name := "Share", type := .formula, options := { formula := some "\x7btip\x7d/\x7bpaid\x7d" } },
    paidField, { id := "price", name := "Price", type := .number }] }]
  sound := by decide

theorem agreesWithResolution_receiptSchema :
    paidField ∈ receiptSchema.fields ∧ parse "\x7btip\x7d+\x7bprice\x7d+\x7btip\x7d" = .ok paidFormula ∧
    paidFormula.fieldIds = ["tip", "price"] ∧
    (ofSchema receiptSchema).AgreesWithResolution receiptSchema "paid" paidFormula := by
  have hf : paidField ∈ receiptSchema.fields := by decide
  have hp : parse "\x7btip\x7d+\x7bprice\x7d+\x7btip\x7d" = .ok paidFormula := by
    have htip := @Spells.reference ['t', 'i', 'p'] _ _ rfl .nil
    have hprice := @Spells.reference ['p', 'r', 'i', 'c', 'e'] _ _ rfl (.char (c := '+') rfl rfl htip)
    have htext := @Spells.reference ['t', 'i', 'p'] _ _ rfl (.char (c := '+') rfl rfl hprice)
    have hleft : Derives 2 [.fieldRef "tip"] (.field { id := "tip" }) := (Derives.field _).operand
    have hsum : Derives 2 [.fieldRef "tip", .plus, .fieldRef "price"] _ := hleft.binary rfl (Derives.field _).operand
    exact htext.parse (.inl ((hsum.binary rfl (Derives.field _).operand).mono (by decide)))
  exact ⟨hf, hp, by decide, agreesWithResolution_ofSchema hf rfl rfl hp⟩

end DependencyGraph

end ComputedFields
