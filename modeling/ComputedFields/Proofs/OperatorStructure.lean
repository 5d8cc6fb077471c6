import ComputedFields.Proofs.Operands

/-!
# The structure of operators in expressions

- `kind_eq`: the code of a formula tells its kind, except for the sign of a number;
- `operand_inj`, `concatTerm_inj`: parentheses and conversions keep operands apart;
- `told`: what has the same fragment is alike, by recursion on the formula;
- `sameCode_iff_alike`: formulas with the same code are alike and have the same value for every record.

The code of a concatenation does not show how it is nested, so the recursion also speaks of its terms. A number with a
sign and the negation of a number are the only other formulas with the same code, and only where no operator encloses
them.
-/

namespace ComputedFields

open ExpressionContext

/-- A number with a sign, and the negation of the number without it. -/
def Formula.Signed (f g : Formula) : Prop :=
  ∃ x y, f = .literal (.number x) ∧ g = .unary .negate (.literal (.number y)) ∧ numberText x = "-" ++ numberText y

namespace Target

variable {t : Target} {f g : Formula}

theorem emitted_number (x : Float) : t.emitted (.literal (.number x)) = ⟨numberText x, .literal⟩ := rfl

theorem emitted_negate_number (x : Float) :
    t.emitted (.unary .negate (.literal (.number x))) = ⟨"-" ++ numberText x, .operator⟩ := by
  cases t <;> rfl

theorem kind_eq_of_number {x : Float} (hg : g.calls = []) (h : numberText x = (t.emitted g).code) :
    (t.emitted g).kind = .literal ∨ Formula.Signed (.literal (.number x)) g := by
  obtain ⟨y, rfl⟩ | ⟨y, rfl⟩ := eq_number_of_isNumeric (t := t) hg (h ▸ isNumeric_numberText x)
  · exact .inl rfl
  · rw [emitted_negate_number] at h
    exact .inr ⟨x, y, rfl, rfl, h⟩

/-- The code tells the kind of a formula, except for the sign of a number. -/
theorem kind_eq (hf : f.calls = []) (hg : g.calls = []) (h : (t.emitted f).code = (t.emitted g).code) :
    (t.emitted f).kind = (t.emitted g).kind ∨ f.Signed g ∨ g.Signed f := by
  -- Numbers apart, the first character tells the kind of what is one word.
  by_cases hx : ∃ x, f = .literal (.number x)
  · obtain ⟨x, rfl⟩ := hx
    exact (kind_eq_of_number hg h).imp Eq.symm .inl
  by_cases hy : ∃ y, g = .literal (.number y)
  · obtain ⟨y, rfl⟩ := hy
    exact (kind_eq_of_number hf h.symm).imp id .inr
  refine .inl ?_
  rw [not_exists] at hx hy
  by_cases hw : t.IsWord (t.emitted f).code
  · obtain ⟨c, hc, hk⟩ := wordKind_eq hf hx hw
    obtain ⟨c', hc', hk'⟩ := wordKind_eq hg hy (h ▸ hw)
    rw [h, hc'] at hc
    cases hc
    exact hk.symm.trans hk'
  · have compound {f : Formula} (hf : f.calls = []) (hw : ¬ t.IsWord (t.emitted f).code) :
        (t.emitted f).kind = .concat ∨ (t.emitted f).kind = .operator := by
      by_contra hk
      rw [not_or] at hk
      exact hw (wrapped_of_isAtom hk ▸ isWord_wrapped hf)
    obtain hk | hk := compound hf hw <;> obtain hk' | hk' := compound hg (h ▸ hw)
    · rw [hk, hk']
    · exact absurd h (concat_ne_operator hf hk hg hk')
    · exact absurd h.symm (concat_ne_operator hg hk' hf hk)
    · rw [hk, hk']

/-! ## Taking operands apart -/

theorem emitted_ext (hc : (t.emitted f).code = (t.emitted g).code) (hk : (t.emitted f).kind = (t.emitted g).kind) :
    t.emitted f = t.emitted g := by
  cases hf : t.emitted f
  cases hg : t.emitted g
  rw [hf, hg] at hc hk
  cases hc
  cases hk
  rfl

/-- The code tells the fragment, where a literal does not meet an operator. -/
theorem emitted_eq_of_code_eq (hf : f.calls = []) (hg : g.calls = [])
    (h : (t.emitted f).code = (t.emitted g).code)
    (hfg : (t.emitted f).kind = .literal → (t.emitted g).kind ≠ .operator)
    (hgf : (t.emitted g).kind = .literal → (t.emitted f).kind ≠ .operator) : t.emitted f = t.emitted g := by
  refine emitted_ext h ?_
  obtain hkind | ⟨x, y, rfl, rfl, -⟩ | ⟨x, y, rfl, rfl, -⟩ := kind_eq hf hg h
  · exact hkind
  · exact absurd (by rw [emitted_negate_number]) (hfg rfl)
  · exact absurd (by rw [emitted_negate_number]) (hgf rfl)

theorem wrapped_inj (hf : f.calls = []) (hg : g.calls = []) (h : (t.emitted f).wrapped = (t.emitted g).wrapped) :
    t.emitted f = t.emitted g := by
  have bare {f g : Formula} (hf : f.calls = []) (hk : IsAtom (t.emitted f).kind)
      (h : (t.emitted f).code = "(" ++ (t.emitted g).code ++ ")") : False := by
    have hlead := isAtomLead_of_lead hf hk (h ▸ lead_parentheses _)
    cases hlead
  have atom {k : FragmentKind} (hk : ¬ IsAtom k) : k ≠ .literal := fun h => hk (h ▸ ⟨nofun, nofun⟩)
  by_cases hk : IsAtom (t.emitted f).kind <;> by_cases hk' : IsAtom (t.emitted g).kind
  · rw [wrapped_of_isAtom hk, wrapped_of_isAtom hk'] at h
    exact emitted_eq_of_code_eq hf hg h (fun _ => hk'.2) fun _ => hk.2
  · rw [wrapped_of_isAtom hk, wrapped_of_not_isAtom hk'] at h
    exact (bare hf hk h).elim
  · rw [wrapped_of_not_isAtom hk, wrapped_of_isAtom hk'] at h
    exact (bare hg hk' h.symm).elim
  · rw [wrapped_of_not_isAtom hk, wrapped_of_not_isAtom hk'] at h
    exact emitted_eq_of_code_eq hf hg (between_inj h) (fun h => absurd h (atom hk)) fun h => absurd h (atom hk')

theorem wrapped_ne_num (hf : f.calls = []) (code : String) : (t.emitted f).wrapped ≠ "_num(" ++ code ++ ")" := by
  intro h
  by_cases hk : IsAtom (t.emitted f).kind
  · rw [wrapped_of_isAtom hk] at h
    have hlead := isAtomLead_of_lead hf hk (h ▸ lead_num code)
    cases hlead
  · rw [wrapped_of_not_isAtom hk] at h
    cases (lead_parentheses _).symm.trans (h ▸ lead_num code)

theorem operand_inj {op : BinaryOp} (hf : f.calls = []) (hg : g.calls = []) (h : t.operand op f = t.operand op g) :
    t.emitted f = t.emitted g := by
  obtain ⟨he, -⟩ | ⟨he, hk⟩ := operand_cases (t := t) op f <;>
    obtain ⟨he', -⟩ | ⟨he', hk'⟩ := operand_cases (t := t) op g <;> rw [he, he'] at h
  · exact wrapped_inj hf hg h
  · exact absurd h (wrapped_ne_num hf _)
  · exact absurd h.symm (wrapped_ne_num hg _)
  · exact emitted_eq_of_code_eq hf hg (between_inj h) (fun h => absurd (.inl h) hk) fun h => absurd (.inl h) hk'

theorem coalescedText_inj {code code' : String} (h : t.coalescedText code = t.coalescedText code') : code = code' := by
  cases t <;> exact between_inj h

theorem toText_inj {code code' : String} (h : t.toText code = t.toText code') : code = code' := by
  cases t <;> exact between_inj h

/-- A field does not look like the result of an operator that is made a text. -/
theorem coalescedText_ne_toText (hf : f.calls = []) (hfk : (t.emitted f).kind = .field) (hg : g.calls = [])
    (hgk : (t.emitted g).kind = .operator) :
    t.coalescedText (t.emitted f).code ≠ t.toText (t.emitted g).code := by
  intro h
  have differ (h : (t.emitted f).code = (t.emitted g).code) : False := by
    have he := emitted_eq_of_code_eq hf hg h (by simp [hfk]) (by simp [hgk])
    rw [he, hgk] at hfk
    cases hfk
  cases t with
  | python => exact differ (between_inj h)
  | javascript => exact differ (between_inj h)
  | sql =>
    have hf : second (sql.coalescedText (sql.emitted f).code) = some 'O' :=
      second_append (second_append second_chars _) _
    have hg : second (sql.toText (sql.emitted g).code) = some 'A' := second_append (second_append second_chars _) _
    cases (h ▸ hf).symm.trans hg

theorem eq_literal_of_concatTerm (hf : f.calls = []) (hterm : f.IsTerm) {s : String}
    (h : t.concatTerm f = t.quotedText s) : ∃ l, f = .literal l := by
  have quoted {c : Char} (hc : lead (t.concatTerm f) = some c) : c = t.quote :=
    Option.some_inj.1 (hc.symm.trans (h ▸ lead_quotedText s))
  obtain hl | ⟨-, he⟩ | ⟨-, he⟩ := concatTerm_cases (t := t) hf hterm
  · exact hl
  · exact absurd (quoted (he ▸ lead_coalescedText _)).symm quote_ne_textLead
  · exact absurd (quoted (he ▸ lead_toText _)).symm quote_ne_textLead

/-- Terms that look alike are literals with the same text, or they look alike outside the concatenation too. -/
theorem concatTerm_inj (hf : f.calls = []) (hft : f.IsTerm) (hg : g.calls = []) (hgt : g.IsTerm)
    (h : t.concatTerm f = t.concatTerm g) :
    (∃ l m, f = .literal l ∧ g = .literal m ∧ l.asText = m.asText) ∨ t.emitted f = t.emitted g := by
  obtain ⟨l, rfl⟩ | ⟨hk, he⟩ | ⟨hk, he⟩ := concatTerm_cases (t := t) hf hft
  · rw [concatTerm_literal] at h
    obtain ⟨m, rfl⟩ := eq_literal_of_concatTerm hg hgt h.symm
    rw [concatTerm_literal] at h
    exact .inl ⟨l, m, rfl, rfl, quotedText_inj h⟩
  all_goals
    refine .inr ?_
    obtain ⟨m, rfl⟩ | ⟨hk', he'⟩ | ⟨hk', he'⟩ := concatTerm_cases (t := t) hg hgt
  · rw [concatTerm_literal] at h
    obtain ⟨l, rfl⟩ := eq_literal_of_concatTerm hf hft h
    cases l <;> cases hk
  · rw [he, he'] at h
    exact emitted_ext (coalescedText_inj h) (hk.trans hk'.symm)
  · rw [he, he'] at h
    exact absurd h (coalescedText_ne_toText hf hk hg hk')
  · rw [concatTerm_literal] at h
    obtain ⟨l, rfl⟩ := eq_literal_of_concatTerm hf hft h
    cases l <;> cases hk
  · rw [he, he'] at h
    exact absurd h.symm (coalescedText_ne_toText hg hk' hf hk)
  · rw [he, he'] at h
    exact emitted_ext (toText_inj h) (hk.trans hk'.symm)

/-! ## Operators -/

/-- The first character of the word for a negation. -/
def notLead : Target → Char
  | python => 'n'
  | javascript => '!'
  | sql => 'N'

theorem eq_notLead {s : String} {c : Char} (hc : lead s = some c) (h : s = t.notWord) : c = t.notLead := by
  have hlead : lead t.notWord = some t.notLead := by cases t <;> exact lead_chars
  exact Option.some_inj.1 (hc.symm.trans (h ▸ hlead))

theorem not_isNumeric_notWord : ¬ IsNumeric t.notWord := fun h => by
  cases t with
  | python => exact absurd (h 't' (by decide)) (by decide)
  | javascript => exact absurd (h '!' (by decide)) (by decide)
  | sql => exact absurd (h 'T' (by decide)) (by decide)

theorem wrapped_ne_notWord (hf : f.calls = []) : (t.emitted f).wrapped ≠ t.notWord := by
  intro h
  by_cases hk : IsAtom (t.emitted f).kind
  · rw [wrapped_of_isAtom hk] at h
    obtain ⟨l, rfl⟩ | ⟨r, rfl⟩ := eq_literal_or_field hf hk
    · cases l with
      | number x =>
        have hnumeric : IsNumeric t.notWord := h ▸ isNumeric_numberText x
        exact not_isNumeric_notWord hnumeric
      | text s =>
        have hc := eq_notLead (lead_quotedText (t := t) s) h
        cases t <;> cases hc
      | boolean b => cases t <;> cases b <;> cases eq_notLead lead_chars h
    · have hc := eq_notLead (lead_read_stored (t := t) r.id) h
      cases t <;> cases hc
  · rw [wrapped_of_not_isAtom hk] at h
    cases t <;> cases eq_notLead (lead_parentheses _) h

theorem leftSide_ne_notWord {op : BinaryOp} (hf : f.calls = []) : t.leftSide op (t.operand op f) ≠ t.notWord := by
  intro h
  unfold leftSide at h
  split at h
  next hs =>
    obtain ⟨rfl, -⟩ := hs
    cases eq_notLead (lead_append (lead_append lead_chars _) _) h
  next =>
    obtain ⟨he, -⟩ | ⟨he, -⟩ := operand_cases (t := t) op f
    · exact wrapped_ne_notWord hf (he ▸ h)
    · cases t <;> cases eq_notLead (lead_num _) (he ▸ h)

/-- Operators with two operands do not look like operators with one. -/
theorem binary_ne_unary {op : BinaryOp} (hop : op ≠ .concat) {left right : Formula} (hl : left.calls = [])
    (op' : UnaryOp) (hf : f.calls = []) :
    t.emitted (.binary op left right) ≠ t.emitted (.unary op' f) := by
  intro h
  have hcode := congrArg Fragment.code h
  have hword : t.IsWord (t.leftSide op (t.operand op left)) := isWord_leftSide (isWord_operand op hl)
  rw [emitted_binary hop] at hcode
  obtain hw | he := isWord_unary_or (t := t) op' hf
  · exact hw.ne_parted hword _ hcode.symm
  · rw [he] at hcode
    exact leftSide_ne_notWord hl (hword.parted_inj isWord_notWord hcode).1

theorem unary_not_inj {code code' : String} (h : t.unary .not code = t.unary .not code') : code = code' := by
  cases t <;> exact (String.append_right_inj _).1 h

theorem negate_ne_not (f g : Formula) : t.emitted (.unary .negate f) ≠ t.emitted (.unary .not g) := by
  intro h
  have hcode := congrArg Fragment.code h
  rw [emitted_negate, emitted_not] at hcode
  have hcode : "-" ++ t.operand .subtract f = t.unary .not (t.operand .equal g) := hcode
  have hlead : lead (t.unary .not (t.operand .equal g)) = some '-' := hcode ▸ lead_append lead_chars _
  cases t <;> cases (lead_append lead_chars _).symm.trans hlead

/-! ## Formulas -/

end Target

/-- A formula without calls, with numbers from a set. -/
structure Formula.Plain (N : Set Float) (f : Formula) : Prop where
  calls : f.calls = []
  numerals : ∀ x ∈ f.numerals, x ∈ N

namespace Formula.Plain

variable {N : Set Float} {f g : Formula}

theorem binary {op : BinaryOp} (h : Plain N (.binary op f g)) : Plain N f ∧ Plain N g := by
  obtain ⟨hc, hn⟩ := h
  rw [Formula.calls, List.append_eq_nil_iff] at hc
  rw [Formula.numerals, List.forall_mem_append] at hn
  exact ⟨⟨hc.1, hn.1⟩, ⟨hc.2, hn.2⟩⟩

theorem unary {op : UnaryOp} (h : Plain N (.unary op f)) : Plain N f := by
  obtain ⟨hc, hn⟩ := h
  rw [Formula.calls] at hc
  rw [Formula.numerals] at hn
  exact ⟨hc, hn⟩

theorem term (h : Plain N f) (hg : g ∈ f.terms) : g.IsTerm ∧ Plain N g := by
  obtain ⟨hterm, hc, hn⟩ := mem_terms f hg
  exact ⟨hterm, List.eq_nil_of_subset_nil (h.calls ▸ hc), fun x hx => h.numerals x (hn hx)⟩

end Formula.Plain

namespace Target

variable {t : Target} {N : Set Float} {f g : Formula}

/-- Only formulas like this one have its fragment. -/
def Told (t : Target) (N : Set Float) (f : Formula) : Prop :=
  ∀ g : Formula, g.Plain N → t.emitted f = t.emitted g → f.Alike g

theorem told_literal (hN : Set.InjOn numberText N) {l : Literal} (h : (Formula.literal l).Plain N) :
    t.Told N (.literal l) := by
  intro g hg he
  have hk : IsAtom (t.emitted g).kind := by
    rw [← he]
    cases l <;> exact ⟨nofun, nofun⟩
  obtain ⟨m, rfl⟩ | ⟨r, rfl⟩ := eq_literal_or_field hg.calls hk
  · have hcode : t.literal l = t.literal m := congrArg Fragment.code he
    have hkind : literalKind l = literalKind m := congrArg Fragment.kind he
    have boolean {x : Float} {b : Bool} : numberText x ≠ t.boolean b := fun h =>
      not_isNumeric_boolean b (h ▸ isNumeric_numberText x)
    cases l <;> cases m
    case number.number x y =>
      rw [hN (h.numerals x List.mem_cons_self) (hg.numerals y List.mem_cons_self) hcode]
      exact .refl _
    case number.boolean => exact absurd hcode boolean
    case text.text =>
      rw [quotedText_inj hcode]
      exact .refl _
    case boolean.number => exact absurd hcode.symm boolean
    case boolean.boolean b c =>
      have hbool : b = c := by
        have hlead : lead (t.boolean b) = lead (t.boolean c) := congrArg lead hcode
        cases b <;> cases c
        · rfl
        · cases t <;> cases hlead
        · cases t <;> cases hlead
        · rfl
      rw [hbool]
      exact .refl _
    all_goals cases hkind
  · have hkind : literalKind l = .field := congrArg Fragment.kind he
    cases l <;> cases hkind

theorem told_field (r : FieldRef) : t.Told N (.field r) := by
  intro g hg he
  have hkind : (t.emitted g).kind = .field := he ▸ rfl
  obtain ⟨m, rfl⟩ | ⟨s, rfl⟩ := eq_literal_or_field hg.calls (by rw [hkind]; exact ⟨nofun, nofun⟩)
  · cases m <;> cases hkind
  · exact .field (read_stored_inj (congrArg Fragment.code he))

theorem told_binary {op : BinaryOp} (hop : op ≠ .concat) {left right : Formula}
    (h : (Formula.binary op left right).Plain N) (hl : t.Told N left) (hr : t.Told N right) :
    t.Told N (.binary op left right) := by
  intro g hg he
  have hkind : (t.emitted g).kind = .operator := by rw [← he, emitted_binary hop]
  obtain ⟨op', l, r, hop', rfl⟩ | ⟨op', g, rfl⟩ := eq_operator_of_kind hg.calls hkind
  · obtain ⟨hleft, hright⟩ := h.binary
    obtain ⟨hleft', hright'⟩ := hg.binary
    -- The code is the left operand, the symbol and the right operand, with blanks between these words.
    have hcode := congrArg Fragment.code he
    rw [emitted_binary hop, emitted_binary hop'] at hcode
    obtain ⟨hcl, hcode⟩ := (isWord_leftSide (isWord_operand op hleft.calls)).parted_inj
      (isWord_leftSide (isWord_operand op' hleft'.calls)) hcode
    obtain ⟨hsymbol, hcr⟩ := (isWord_symbol op).parted_inj (isWord_symbol op') hcode
    obtain rfl := symbol_inj hop hop' hsymbol
    exact .binary op (hl l hleft' (operand_inj hleft.calls hleft'.calls (leftSide_inj hcl)))
      (hr r hright' (operand_inj hright.calls hright'.calls (rightSide_inj hcr)))
  · exact absurd he (binary_ne_unary hop h.binary.1.calls op' hg.unary.calls)

theorem told_unary (op : UnaryOp) (h : (Formula.unary op f).Plain N) (hf : t.Told N f) : t.Told N (.unary op f) := by
  intro g hg he
  have hkind : (t.emitted g).kind = .operator := by
    rw [← he]
    cases op <;> rfl
  obtain ⟨op', l, r, hop', rfl⟩ | ⟨op', g, rfl⟩ := eq_operator_of_kind hg.calls hkind
  · exact absurd he.symm (binary_ne_unary hop' hg.binary.1.calls op h.unary.calls)
  · have alike {op'' : BinaryOp} (h' : t.operand op'' f = t.operand op'' g) : f.Alike g :=
      hf g hg.unary (operand_inj h.unary.calls hg.unary.calls h')
    have hcode := congrArg Fragment.code he
    cases op <;> cases op'
    · rw [emitted_negate, emitted_negate] at hcode
      exact .unary _ (alike ((String.append_right_inj _).1 hcode))
    · exact absurd he (negate_ne_not f g)
    · exact absurd he.symm (negate_ne_not g f)
    · rw [emitted_not, emitted_not] at hcode
      exact .unary _ (alike (unary_not_inj hcode))

theorem told_concat {left right : Formula} (h : (Formula.binary .concat left right).Plain N)
    (hterms : ∀ a ∈ (Formula.binary .concat left right).terms, t.Told N a) :
    t.Told N (.binary .concat left right) := by
  intro g hg he
  obtain ⟨l, r, rfl⟩ := eq_concat_of_kind (t := t) hg.calls (by rw [← he, emitted_concat])
  have hcode : t.concatTerm (.binary .concat left right) = t.concatTerm (.binary .concat l r) :=
    congrArg Fragment.code he
  have words {f : Formula} (hf : f.Plain N) : ∀ w ∈ f.terms.map t.concatTerm, t.IsWord w :=
    List.forall_mem_map.2 fun a ha => isWord_concatTerm (hf.term ha).2.calls (hf.term ha).1
  -- Both codes are terms with the same separator, so the terms are the same one by one.
  rw [concatTerm_eq, concatTerm_eq, separator] at hcode
  have hmap := intercalate_inj (words h) (words hg) (mt List.map_eq_nil_iff.1 (Formula.terms_ne_nil _))
    (mt List.map_eq_nil_iff.1 (Formula.terms_ne_nil _)) hcode
  rw [← List.forall₂_eq_eq_eq, List.forall₂_map_left_iff, List.forall₂_map_right_iff, List.forall₂_iff_zip] at hmap
  refine Formula.alike_of_terms (List.forall₂_iff_zip.2 ⟨hmap.1, fun {a b} hab => ?_⟩)
  obtain ⟨ha, hb⟩ := List.of_mem_zip hab
  obtain ⟨hat, hac⟩ := h.term ha
  obtain ⟨hbt, hbc⟩ := hg.term hb
  exact (concatTerm_inj hac.calls hat hbc.calls hbt (hmap.2 hab)).imp_right (hterms a ha b hbc)

/-- The fragment tells a formula, up to formulas like it; the terms of concatenations too. -/
theorem told (hN : Set.InjOn numberText N) : (f : Formula) → f.Plain N → t.Told N f ∧ ∀ a ∈ f.terms, t.Told N a
  | .literal l, h => ⟨told_literal hN h, List.forall_mem_singleton.2 (told_literal hN h)⟩
  | .field r, _ => ⟨told_field r, List.forall_mem_singleton.2 (told_field r)⟩
  | .call name args, h => by cases h.calls
  | .binary op left right, h => by
    obtain ⟨hl, hls⟩ := told hN left h.binary.1
    obtain ⟨hr, hrs⟩ := told hN right h.binary.2
    by_cases hop : op = .concat
    · subst hop
      have hterms := List.forall_mem_append.2 ⟨hls, hrs⟩
      exact ⟨told_concat h hterms, hterms⟩
    · have hbinary := told_binary hop h hl hr
      rw [Formula.terms_of_ne hop]
      exact ⟨hbinary, List.forall_mem_singleton.2 hbinary⟩
  | .unary op f, h => by
    have hunary := told_unary op h (told hN f h.unary).1
    exact ⟨hunary, List.forall_mem_singleton.2 hunary⟩

/-- Formulas that are alike have the same code, alone and in a concatenation. -/
theorem emitted_eq_of_alike (h : f.Alike g) :
    t.emitted f = t.emitted g ∧ t.concatTerm f = t.concatTerm g := by
  have concat {f g f' g' : Formula} (h : t.emitted (.binary .concat f g) = t.emitted (.binary .concat f' g')) :
      t.emitted (.binary .concat f g) = t.emitted (.binary .concat f' g') ∧
        t.concatTerm (.binary .concat f g) = t.concatTerm (.binary .concat f' g') := ⟨h, congrArg Fragment.code h⟩
  have operand {f g : Formula} (op : BinaryOp) (h : t.emitted f = t.emitted g) : t.operand op f = t.operand op g := by
    rw [operand, operand, h]
  induction h with
  | refl f => exact ⟨rfl, rfl⟩
  | symm _ ih => exact ⟨ih.1.symm, ih.2.symm⟩
  | trans _ _ ih ih' => exact ⟨ih.1.trans ih'.1, ih.2.trans ih'.2⟩
  | field h =>
    rw [concatTerm_field, concatTerm_field, emitted_field, emitted_field, h]
    exact ⟨rfl, rfl⟩
  | assoc f g h =>
    refine concat ?_
    rw [emitted_concat, emitted_concat, concatTerm_concat, concatTerm_concat, separator]
    simp only [String.append_assoc]
  | literalLeft h f =>
    refine concat ?_
    rw [emitted_concat, emitted_concat, concatTerm_literal, concatTerm_literal, h]
  | literalRight h f =>
    refine concat ?_
    rw [emitted_concat, emitted_concat, concatTerm_literal, concatTerm_literal, h]
  | binary op _ _ ih ih' =>
    by_cases hop : op = .concat
    · subst hop
      refine concat ?_
      rw [emitted_concat, emitted_concat, ih.2, ih'.2]
    · rw [concatTerm_binary hop, concatTerm_binary hop, emitted_binary hop, emitted_binary hop, operand op ih.1,
        operand op ih'.1]
      exact ⟨rfl, rfl⟩
  | @unary op f f' _ ih =>
    have h : t.emitted (.unary op f) = t.emitted (.unary op f') := by
      cases op with
      | negate => rw [emitted_negate, emitted_negate, operand _ ih.1]
      | not => rw [emitted_not, emitted_not, operand _ ih.1]
    rw [concatTerm_unary, concatTerm_unary, h]
    exact ⟨rfl, rfl⟩

/-- The code of a signed number is the code of a negation. -/
theorem code_eq_of_signed (h : f.Signed g) : (t.emitted f).code = (t.emitted g).code := by
  obtain ⟨x, y, rfl, rfl, h⟩ := h
  rw [emitted_number, emitted_negate_number]
  exact h

end Target

theorem Formula.Signed.evaluate_eq {f g : Formula} (h : f.Signed g) (record : Record) :
    evaluate record f = evaluate record g := by
  obtain ⟨x, y, rfl, rfl, h⟩ := h
  rw [eq_neg_of_numberText h]
  rfl

/-- Both formulas are written with the same code. -/
def SameCode (t : Target) (f g : Formula) : Prop := ((byId t).express f).code = ((byId t).express g).code

theorem sameCode_iff {t : Target} {N : Set Float} (hN : Set.InjOn numberText N) {f g : Formula} (hf : f.Plain N)
    (hg : g.Plain N) : SameCode t f g ↔ f.Alike g ∨ f.Signed g ∨ g.Signed f := by
  have emitted : SameCode t f g ↔ (t.emitted f).code = (t.emitted g).code := Iff.rfl
  rw [emitted]
  constructor
  · intro h
    exact (Target.kind_eq hf.calls hg.calls h).imp_left fun hk =>
      (Target.told hN f hf).1 g hg (Target.emitted_ext h hk)
  · rintro (h | h | h)
    · rw [(Target.emitted_eq_of_alike h).1]
    · exact Target.code_eq_of_signed h
    · exact (Target.code_eq_of_signed h).symm

/-- The code of a formula without calls tells the formula, up to the nesting of concatenations, the literals in them
and the signs of numbers; so formulas with the same code have the same value for every record. -/
theorem sameCode_iff_alike (t : Target) {N : Set Float} (hN : Set.InjOn numberText N) {f g : Formula}
    (hf : f.Plain N) (hg : g.Plain N) :
    (SameCode t f g → ∀ record, evaluate record f = evaluate record g) ∧
    (SameCode t f g ↔ f.Alike g ∨ f.Signed g ∨ g.Signed f) ∧
    ((∀ x ∈ N, Decimal.signBit x = false) → (SameCode t f g ↔ f.Alike g)) := by
  have h := sameCode_iff (t := t) hN hf hg
  refine ⟨fun hs record => ?_, h, fun hsign => ?_⟩
  · obtain ha | hn | hn := h.1 hs
    · exact ha.evaluate_eq record
    · exact hn.evaluate_eq record
    · exact (hn.evaluate_eq record).symm
  · have unsigned {f g : Formula} (hf : f.Plain N) (hs : f.Signed g) : False := by
      obtain ⟨x, y, rfl, rfl, h⟩ := hs
      have hx := hsign x (hf.numerals x List.mem_cons_self)
      rw [signBit_of_numberText h] at hx
      cases hx
    rw [h, or_iff_left]
    exact fun hs => hs.elim (unsigned hf) (unsigned hg)

/-- Numbers that are written without a sign. -/
def unsignedNumbers : Set Float := {x | x.isNaN = false ∧ Decimal.signBit x = false}

theorem injOn_numberText_unsignedNumbers : Set.InjOn numberText unsignedNumbers :=
  fun _ hx _ hy h => eq_of_numberText_eq hx.1 hx.2 hy.1 hy.2 h

/-- The formula `("No. " & 1) & {n} * 2`. -/
def nestedLabel : Formula :=
  .binary .concat (.binary .concat (.literal (.text "No. ")) (.literal (.number 1)))
    (.binary .multiply (.field ⟨"n", none, none⟩) (.literal (.number 2)))

/-- The formula `"No. " & ("1" & {n} * 2)`. -/
def quotedLabel : Formula :=
  .binary .concat (.literal (.text "No. ")) (.binary .concat (.literal (.text "1"))
    (.binary .multiply (.field ⟨"n", none, none⟩) (.literal (.number 2))))

theorem sameCode_iff_alike_label : SameCode .sql nestedLabel quotedLabel ∧ nestedLabel.Alike quotedLabel ∧
    ∀ record, evaluate record nestedLabel = evaluate record quotedLabel := by
  have hone : (1 : Float) ∈ unsignedNumbers := ⟨rfl, rfl⟩
  have htwo : (2 : Float) ∈ unsignedNumbers := ⟨rfl, rfl⟩
  have hnested : nestedLabel.Plain unsignedNumbers :=
    ⟨rfl, List.forall_mem_cons.2 ⟨hone, List.forall_mem_singleton.2 htwo⟩⟩
  have hquoted : quotedLabel.Plain unsignedNumbers := ⟨rfl, List.forall_mem_singleton.2 htwo⟩
  obtain ⟨hvalue, -, halike⟩ := sameCode_iff_alike .sql injOn_numberText_unsignedNumbers hnested hquoted
  have hcode : SameCode .sql nestedLabel quotedLabel := rfl
  exact ⟨hcode, (halike fun _ hx => hx.2).1 hcode, hvalue hcode⟩

end ComputedFields
