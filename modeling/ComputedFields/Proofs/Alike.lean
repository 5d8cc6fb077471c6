import ComputedFields.Formula.Evaluation
import Mathlib.Data.List.Forall2

/-!
# Formulas that mean the same

- `Formula.Alike`: formulas that differ in how concatenations are nested and in the literals in them;
- `Alike.evaluate_eq`: such formulas have the same value for every record;
- `Formula.terms`, `alike_of_terms`: formulas are alike if the terms of their concatenations are.
-/

namespace ComputedFields

namespace Formula

mutual

/-- The numbers among the literals of a formula, from left to right. -/
def numerals : Formula → List Float
  | literal (.number x) => [x]
  | literal _ => []
  | field _ => []
  | call _ arguments => numeralsIn arguments
  | binary _ left right => numerals left ++ numerals right
  | unary _ operand => numerals operand

def numeralsIn : List Formula → List Float
  | [] => []
  | f :: fs => numerals f ++ numeralsIn fs

end

/-- Formulas that differ only in how concatenations are nested, in literals that a concatenation writes as the same
text, and in what is known of fields besides their ids. -/
inductive Alike : Formula → Formula → Prop where
  | refl (f : Formula) : Alike f f
  | symm {f g : Formula} (h : Alike f g) : Alike g f
  | trans {f g h : Formula} (hfg : Alike f g) (hgh : Alike g h) : Alike f h
  | field {r s : FieldRef} (h : r.id = s.id) : Alike (.field r) (.field s)
  | assoc (f g h : Formula) :
    Alike (.binary .concat (.binary .concat f g) h) (.binary .concat f (.binary .concat g h))
  | literalLeft {l m : Literal} (h : l.asText = m.asText) (f : Formula) :
    Alike (.binary .concat (.literal l) f) (.binary .concat (.literal m) f)
  | literalRight {l m : Literal} (h : l.asText = m.asText) (f : Formula) :
    Alike (.binary .concat f (.literal l)) (.binary .concat f (.literal m))
  | binary (op : BinaryOp) {f f' g g' : Formula} (hf : Alike f f') (hg : Alike g g') :
    Alike (.binary op f g) (.binary op f' g')
  | unary (op : UnaryOp) {f f' : Formula} (h : Alike f f') : Alike (.unary op f) (.unary op f')

theorem asText_ofLiteral (l : Literal) : (Value.ofLiteral l).asText = l.asText := by
  cases l <;> simp [Value.ofLiteral, Value.asText, Literal.asText]

theorem Alike.evaluate_eq {f g : Formula} (h : Alike f g) (record : Record) :
    evaluate record f = evaluate record g := by
  induction h with
  | refl f => rfl
  | symm _ ih => exact ih.symm
  | trans _ _ ih₁ ih₂ => exact ih₁.trans ih₂
  | field h => simp only [evaluate, h]
  | assoc f g h =>
    simp only [evaluate, BinaryOp.apply]
    cases evaluate record f with
    | error e => rfl
    | ok x =>
      cases evaluate record g with
      | error e => rfl
      | ok y =>
        cases evaluate record h with
        | error e => rfl
        | ok z => simp [bind, Except.bind, Value.asText, String.append_assoc]
  | literalLeft h f => simp only [evaluate, BinaryOp.apply, bind, Except.bind, asText_ofLiteral, h]
  | literalRight h f => simp only [evaluate, BinaryOp.apply, bind, Except.bind, asText_ofLiteral, h]
  | binary op _ _ ih₁ ih₂ => simp only [evaluate, ih₁, ih₂]
  | unary op _ ih => simp only [evaluate, ih]

/-! ## Terms -/

/-- The operands of nested concatenations. -/
def terms : Formula → List Formula
  | binary .concat left right => terms left ++ terms right
  | f => [f]

theorem terms_of_ne {op : BinaryOp} (h : op ≠ .concat) (left right : Formula) :
    terms (.binary op left right) = [.binary op left right] := by
  cases op with
  | concat => exact absurd rfl h
  | _ => rfl

/-- A formula that is not a concatenation. -/
def IsTerm (f : Formula) : Prop := ∀ left right, f ≠ .binary .concat left right

theorem mem_terms {g : Formula} : (f : Formula) → g ∈ f.terms →
    g.IsTerm ∧ g.calls ⊆ f.calls ∧ g.numerals ⊆ f.numerals
  | .literal _, h | .field _, h | .call _ _, h | .unary _ _, h => by
    obtain rfl := List.mem_singleton.1 h
    exact ⟨nofun, List.Subset.refl _, List.Subset.refl _⟩
  | .binary op left right, h => by
    by_cases hop : op = .concat
    · subst hop
      rw [calls, numerals]
      obtain h | h := List.mem_append.1 h
      · obtain ⟨ht, hc, hn⟩ := mem_terms left h
        exact ⟨ht, List.subset_append_of_subset_left _ hc, List.subset_append_of_subset_left _ hn⟩
      · obtain ⟨ht, hc, hn⟩ := mem_terms right h
        exact ⟨ht, List.subset_append_of_subset_right _ hc, List.subset_append_of_subset_right _ hn⟩
    · rw [terms_of_ne hop] at h
      obtain rfl := List.mem_singleton.1 h
      exact ⟨fun _ _ he => hop (Formula.binary.inj he).1, List.Subset.refl _, List.Subset.refl _⟩

/-- Operands of a concatenation that make no difference to it. -/
def AlikeTerm (f g : Formula) : Prop :=
  (∃ l m, f = .literal l ∧ g = .literal m ∧ l.asText = m.asText) ∨ Alike f g

theorem AlikeTerm.left {f g : Formula} (h : AlikeTerm f g) (k : Formula) :
    Alike (.binary .concat f k) (.binary .concat g k) := by
  obtain ⟨l, m, rfl, rfl, h⟩ | h := h
  · exact .literalLeft h k
  · exact .binary _ h (.refl k)

theorem AlikeTerm.right {f g : Formula} (h : AlikeTerm f g) (k : Formula) :
    Alike (.binary .concat k f) (.binary .concat k g) := by
  obtain ⟨l, m, rfl, rfl, h⟩ | h := h
  · exact .literalRight h k
  · exact .binary _ (.refl k) h

/-- A concatenation that is nested to the right. -/
def chain (f : Formula) : List Formula → Formula
  | [] => f
  | g :: gs => binary .concat f (chain g gs)

theorem alike_chain_append (f : Formula) (fs : List Formula) (g : Formula) (gs : List Formula) :
    Alike (.binary .concat (chain f fs) (chain g gs)) (chain f (fs ++ g :: gs)) := by
  induction fs generalizing f with
  | nil => exact .refl _
  | cons f' fs ih => exact .trans (.assoc _ _ _) (.binary _ (.refl f) (ih f'))

/-- Every formula is like the chain of its terms. -/
theorem exists_alike_chain : (f : Formula) → ∃ g gs, f.terms = g :: gs ∧ Alike f (chain g gs)
  | .literal _ | .field _ | .call _ _ | .unary _ _ => ⟨_, [], rfl, .refl _⟩
  | .binary op left right => by
    by_cases hop : op = .concat
    · obtain ⟨f, fs, hf, hl⟩ := exists_alike_chain left
      obtain ⟨g, gs, hg, hr⟩ := exists_alike_chain right
      subst hop
      refine ⟨f, fs ++ g :: gs, by rw [terms, hf, hg, List.cons_append], ?_⟩
      exact .trans (.binary _ hl hr) (alike_chain_append f fs g gs)
    · exact ⟨_, [], terms_of_ne hop left right, .refl _⟩

theorem terms_ne_nil (f : Formula) : f.terms ≠ [] := by
  obtain ⟨g, gs, h, -⟩ := exists_alike_chain f
  rw [h]
  exact List.cons_ne_nil g gs

theorem alike_chain {f f' : Formula} (hf : AlikeTerm f f') {gs gs' : List Formula}
    (h : List.Forall₂ AlikeTerm gs gs') (k : Formula) :
    Alike (.binary .concat k (chain f gs)) (.binary .concat k (chain f' gs')) := by
  induction h generalizing f f' k with
  | nil => exact hf.right k
  | cons hg _ ih => exact .binary _ (.refl k) (.trans (hf.left _) (ih hg _))

/-- A concatenation has two terms or more. -/
theorem exists_terms_concat (f g : Formula) : ∃ a b bs, terms (.binary .concat f g) = a :: b :: bs ∧
    Alike (.binary .concat f g) (chain a (b :: bs)) := by
  obtain ⟨a, as, ha, hf⟩ := exists_alike_chain f
  obtain ⟨b, bs, hb, hg⟩ := exists_alike_chain g
  have hchain := Alike.trans (.binary .concat hf hg) (alike_chain_append a as b bs)
  rw [terms, ha, hb]
  cases as with
  | nil => exact ⟨a, b, bs, rfl, hchain⟩
  | cons c cs => exact ⟨a, c, cs ++ b :: bs, rfl, hchain⟩

/-- Concatenations with terms that are alike, one by one. -/
theorem alike_of_terms {f g f' g' : Formula} (h : List.Forall₂ AlikeTerm (terms (.binary .concat f g))
    (terms (.binary .concat f' g'))) : Alike (.binary .concat f g) (.binary .concat f' g') := by
  obtain ⟨a, b, bs, ht, hc⟩ := exists_terms_concat f g
  obtain ⟨a', b', bs', ht', hc'⟩ := exists_terms_concat f' g'
  rw [ht, ht'] at h
  cases h with
  | cons ha h =>
    cases h with
    | cons hb hbs => exact .trans hc (.trans (.trans (ha.left _) (alike_chain hb hbs a')) hc'.symm)

end Formula

end ComputedFields
