import ComputedFields.Formula.Evaluation
import ComputedFields.Formula.Resolution
import ComputedFields.Proofs.Fields
import Mathlib.Data.List.Forall2

/-!
# Resolution only annotates

`Formula.Relates` lifts a relation between references to formulas that are the same but for their references.

- formulas that refer to the same ids in the same places have the same value (`Relates.evaluate_eq`) and are resolved to
  the same formula (`Relates.resolve_eq`), whatever else is known of their references;
- resolution relates every reference to what the schema knows of its id (`relates_resolve`), and no other formula is
  related to it like that (`relates_annotates_iff`);
- the ids without a type are then those that the schema does not know (`unresolvedIds_resolve`);
- so resolution changes nothing but annotations, and a second time it changes nothing at all (`resolves_resolve`).
-/

namespace ComputedFields

/-- A reference to the same id that carries what a schema knows of it, and nothing if the schema does not know it. -/
inductive FieldRef.Annotates (s : Schema) (r : FieldRef) : FieldRef → Prop
  | known {f : Field} (h : s.field? r.id = some f) : Annotates s r ⟨r.id, some f.name, some f.type⟩
  | unknown (h : s.field? r.id = none) : Annotates s r ⟨r.id, none, none⟩

theorem FieldRef.annotates_iff {s : Schema} {r r' : FieldRef} : r.Annotates s r' ↔ r' = ofId s r.id := by
  rw [ofId]
  constructor
  · rintro (h | h) <;> rw [h]
  · rintro rfl
    split
    · next h => exact .known h
    · next h => exact .unknown h

theorem FieldRef.Annotates.id_eq {s : Schema} {r r' : FieldRef} (h : r.Annotates s r') : r'.id = r.id := by
  cases h <;> rfl

theorem FieldRef.id_ofId (s : Schema) (id : String) : (ofId s id).id = id := by
  rw [ofId]
  split <;> rfl

namespace Formula

/-- The same formula but for its references, which are related one by one. -/
inductive Relates (R : FieldRef → FieldRef → Prop) : Formula → Formula → Prop
  | literal (l : Literal) : Relates R (.literal l) (.literal l)
  | field {r r' : FieldRef} (h : R r r') : Relates R (.field r) (.field r')
  | call (name : String) {fs gs : List Formula} (h : List.Forall₂ (Relates R) fs gs) :
    Relates R (.call name fs) (.call name gs)
  | binary (op : BinaryOp) {f f' g g' : Formula} (hf : Relates R f f') (hg : Relates R g g') :
    Relates R (.binary op f g) (.binary op f' g')
  | unary (op : UnaryOp) {f f' : Formula} (h : Relates R f f') : Relates R (.unary op f) (.unary op f')

/-! ## Formulas that refer to the same ids -/

mutual

/-- The value of a formula depends on the ids it refers to, and on nothing else that is known of them. -/
theorem Relates.evaluate_eq {R : FieldRef → FieldRef → Prop} (hR : ∀ r r', R r r' → r'.id = r.id) (record : Record) :
    (f : Formula) → {g : Formula} → Relates R f g → evaluate record g = evaluate record f
  | .literal _, _, .literal _ => rfl
  | .field _, _, .field h => by rw [evaluate, evaluate, hR _ _ h]
  | .call _ fs, _, .call _ h => by rw [evaluate, evaluate, Relates.evaluateAll_eq hR record fs h]
  | .binary _ f g, _, .binary _ hf hg => by
    rw [evaluate, evaluate, Relates.evaluate_eq hR record f hf, Relates.evaluate_eq hR record g hg]
  | .unary _ f, _, .unary _ h => by rw [evaluate, evaluate, Relates.evaluate_eq hR record f h]

theorem Relates.evaluateAll_eq {R : FieldRef → FieldRef → Prop} (hR : ∀ r r', R r r' → r'.id = r.id)
    (record : Record) : (fs : List Formula) → {gs : List Formula} → List.Forall₂ (Relates R) fs gs →
    evaluateAll record gs = evaluateAll record fs
  | [], _, .nil => rfl
  | f :: fs, _, .cons h hs => by
    rw [evaluateAll, evaluateAll, Relates.evaluate_eq hR record f h, Relates.evaluateAll_eq hR record fs hs]

end

mutual

/-- Resolution forgets what was known of references before. -/
theorem Relates.resolve_eq {R : FieldRef → FieldRef → Prop} (hR : ∀ r r', R r r' → r'.id = r.id) (s : Schema) :
    (f : Formula) → {g : Formula} → Relates R f g → g.resolve s = f.resolve s
  | .literal _, _, .literal _ => rfl
  | .field _, _, .field h => by rw [resolve, resolve, hR _ _ h]
  | .call _ fs, _, .call _ h => by rw [resolve, resolve, Relates.resolveAll_eq hR s fs h]
  | .binary _ f g, _, .binary _ hf hg => by
    rw [resolve, resolve, Relates.resolve_eq hR s f hf, Relates.resolve_eq hR s g hg]
  | .unary _ f, _, .unary _ h => by rw [resolve, resolve, Relates.resolve_eq hR s f h]

theorem Relates.resolveAll_eq {R : FieldRef → FieldRef → Prop} (hR : ∀ r r', R r r' → r'.id = r.id) (s : Schema) :
    (fs : List Formula) → {gs : List Formula} → List.Forall₂ (Relates R) fs gs → resolveAll s gs = resolveAll s fs
  | [], _, .nil => rfl
  | f :: fs, _, .cons h hs => by
    rw [resolveAll, resolveAll, Relates.resolve_eq hR s f h, Relates.resolveAll_eq hR s fs hs]

end

/-! ## What resolution does -/

variable {s : Schema}

mutual

theorem relates_resolve (s : Schema) : (f : Formula) → Relates (FieldRef.Annotates s) f (f.resolve s)
  | .literal l => .literal l
  | .field _ => .field (FieldRef.annotates_iff.2 rfl)
  | .call name fs => .call name (relatesAll_resolve s fs)
  | .binary op f g => .binary op (relates_resolve s f) (relates_resolve s g)
  | .unary op f => .unary op (relates_resolve s f)

theorem relatesAll_resolve (s : Schema) : (fs : List Formula) →
    List.Forall₂ (Relates (FieldRef.Annotates s)) fs (resolveAll s fs)
  | [] => .nil
  | f :: fs => .cons (relates_resolve s f) (relatesAll_resolve s fs)

end

mutual

theorem eq_resolve_of_relates : (f : Formula) → {g : Formula} → Relates (FieldRef.Annotates s) f g → g = f.resolve s
  | .literal _, _, .literal _ => rfl
  | .field _, _, .field h => by rw [resolve, FieldRef.annotates_iff.1 h]
  | .call _ fs, _, .call _ h => by rw [resolve, eq_resolveAll_of_relates fs h]
  | .binary _ f g, _, .binary _ hf hg => by rw [resolve, ← eq_resolve_of_relates f hf, ← eq_resolve_of_relates g hg]
  | .unary _ f, _, .unary _ h => by rw [resolve, ← eq_resolve_of_relates f h]

theorem eq_resolveAll_of_relates : (fs : List Formula) → {gs : List Formula} →
    List.Forall₂ (Relates (FieldRef.Annotates s)) fs gs → gs = resolveAll s fs
  | [], _, .nil => rfl
  | f :: fs, _, .cons h hs => by rw [resolveAll, ← eq_resolve_of_relates f h, ← eq_resolveAll_of_relates fs hs]

end

/-- The formula with the annotations of a schema is the resolved one, and there is no other. -/
theorem relates_annotates_iff {f g : Formula} : Relates (FieldRef.Annotates s) f g ↔ g = f.resolve s :=
  ⟨eq_resolve_of_relates f, fun h => h ▸ relates_resolve s f⟩

theorem isNone_type_ofId (s : Schema) (id : String) : (FieldRef.ofId s id).type.isNone = (s.field? id).isNone := by
  rw [FieldRef.ofId]
  split
  · next h => rw [h]; rfl
  · next h => rw [h]; rfl

mutual

theorem untyped_resolve (s : Schema) : (f : Formula) →
    (f.resolve s).untyped = f.references.filter (s.field? · |>.isNone)
  | .literal _ => rfl
  | .field r => by
    rw [resolve, untyped, references, isNone_type_ofId, FieldRef.id_ofId, List.filter_singleton, cond_eq_ite]
  | .call _ fs => by rw [resolve, untyped, references, untypedIn_resolveAll s fs]
  | .binary _ f g => by rw [resolve, untyped, references, List.filter_append, untyped_resolve s f, untyped_resolve s g]
  | .unary _ f => by rw [resolve, untyped, references, untyped_resolve s f]

theorem untypedIn_resolveAll (s : Schema) : (fs : List Formula) →
    untypedIn (resolveAll s fs) = (referencesIn fs).filter (s.field? · |>.isNone)
  | [] => rfl
  | f :: fs => by
    rw [resolveAll, untypedIn, referencesIn, List.filter_append, untyped_resolve s f, untypedIn_resolveAll s fs]

end

/-- The unresolved ids are those that the schema does not know, in the order of their first mention. -/
theorem unresolvedIds_resolve (s : Schema) (f : Formula) :
    (f.resolve s).unresolvedIds = f.fieldIds.filter (s.field? · |>.isNone) := by
  rw [unresolvedIds, untyped_resolve, eraseDups_filter, fieldIds]

theorem resolve_resolve (s : Schema) (f : Formula) : (f.resolve s).resolve s = f.resolve s :=
  Relates.resolve_eq (fun _ _ h => h.id_eq) s f (relates_resolve s f)

/-- A formula is the resolved form of another, and `missing` are the ids that could not be resolved. -/
structure Resolves (s : Schema) (f g : Formula) (missing : List String) : Prop where
  /-- It is the same formula but for references, which refer to the same ids and carry what the schema knows of them, -/
  annotated : Relates (FieldRef.Annotates s) f g
  /-- and this determines it. -/
  unique : ∀ g', Relates (FieldRef.Annotates s) f g' → g' = g
  /-- The missing ids are those that the schema does not know, in the order of their first mention. -/
  missing_eq : missing = f.fieldIds.filter (s.field? · |>.isNone)
  /-- Resolution leaves it as it is, -/
  resolve_eq : g.resolve s = g
  /-- and finds the same ids missing. -/
  unresolvedIds_eq : (g.resolve s).unresolvedIds = missing
  /-- It has the same value for every record. -/
  evaluate_eq : ∀ record, evaluate record g = evaluate record f

/-- Resolution only annotates. -/
theorem resolves_resolve (s : Schema) (f : Formula) : Resolves s f (f.resolve s) (f.resolve s).unresolvedIds where
  annotated := relates_resolve s f
  unique g' h := relates_annotates_iff.1 h
  missing_eq := unresolvedIds_resolve s f
  resolve_eq := resolve_resolve s f
  unresolvedIds_eq := by rw [resolve_resolve]
  evaluate_eq record := Relates.evaluate_eq (fun _ _ h => h.id_eq) record f (relates_resolve s f)

end Formula

end ComputedFields
