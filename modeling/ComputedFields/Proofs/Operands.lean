import ComputedFields.Proofs.Alike
import ComputedFields.Proofs.Words

/-!
# The code of operators and of their operands

- `emitted_binary`, `emitted_concat`: operators as words with blanks between them;
- `operand_cases`, `concatTerm_cases`: the forms that an operand takes;
- `isWord_operand`, `isWord_concatTerm`: operands are words, so the code of an operator can be taken apart;
- `lead_concatTerm`, `isAtomLead_of_lead`: what operands begin with;
- `concat_ne_operator`: a concatenation does not look like another operator, although additions share its symbol.
-/

namespace ComputedFields

/-- Every field is read from the record under its id, and blank operands are caught. -/
def ExpressionContext.byId (t : Target) : ExpressionContext := ⟨t, fun r => .stored r.id, true⟩

open ExpressionContext

namespace Target

variable {t : Target} {f g : Formula}

/-! ## Operands -/

/-- The fragment of a formula. -/
def emitted (t : Target) (f : Formula) : Fragment := ((byId t).emit f).1

/-- A formula as an operand of a concatenation. -/
def concatTerm (t : Target) (f : Formula) : String := (byId t).concatOperand f (t.emitted f)

/-- A formula as an operand of an operator. -/
def operand (t : Target) (op : BinaryOp) (f : Formula) : String :=
  if op.isArithmetic then (byId t).numberOperand (t.emitted f) else (t.emitted f).wrapped

/-- The code on the left of an operator, for an operand. -/
def leftSide (t : Target) (op : BinaryOp) (code : String) : String :=
  if t = sql ∧ op = .divide then "CAST(" ++ code ++ " AS NUMERIC)" else code

/-- The code on the right of an operator, for an operand. -/
def rightSide (t : Target) (op : BinaryOp) (code : String) : String :=
  if t = sql ∧ op = .divide then "NULLIF(" ++ code ++ ", 0)" else code

theorem binary_eq (op : BinaryOp) (left right : String) : t.binary op left right =
    t.leftSide op left ++ (" " ++ (t.symbol op ++ (" " ++ t.rightSide op right))) := by
  by_cases h : t = sql ∧ op = .divide
  · have quotient : " AS NUMERIC) / NULLIF(" = " AS NUMERIC)" ++ (" " ++ ("/" ++ (" " ++ "NULLIF("))) := by decide
    rw [leftSide, if_pos h, rightSide, if_pos h]
    obtain ⟨rfl, rfl⟩ := h
    rw [binary, quotient]
    simp only [String.append_assoc]
    rfl
  · have other : t.binary op left right = left ++ " " ++ t.symbol op ++ " " ++ right := by
      cases t with
      | python => rfl
      | javascript => rfl
      | sql =>
        cases op with
        | divide => exact absurd ⟨rfl, rfl⟩ h
        | _ => rfl
    rw [leftSide, if_neg h, rightSide, if_neg h, other]
    simp only [String.append_assoc]

theorem emitted_concat (left right : Formula) : t.emitted (.binary .concat left right) =
    ⟨t.concatTerm left ++ (" " ++ (t.symbol .concat ++ (" " ++ t.concatTerm right))), .concat⟩ := by
  have h : t.emitted (.binary .concat left right) =
      ⟨t.binary .concat (t.concatTerm left) (t.concatTerm right), .concat⟩ := rfl
  rw [h, binary_eq, leftSide, rightSide, if_neg (by simp), if_neg (by simp)]

theorem emitted_binary {op : BinaryOp} (hop : op ≠ .concat) (left right : Formula) :
    t.emitted (.binary op left right) = ⟨t.leftSide op (t.operand op left) ++
      (" " ++ (t.symbol op ++ (" " ++ t.rightSide op (t.operand op right)))), .operator⟩ := by
  have h : t.emitted (.binary op left right) =
      ⟨t.binary op (t.operand op left) (t.operand op right), .operator⟩ := by
    cases op with
    | concat => exact absurd rfl hop
    | _ => rfl
  rw [h, binary_eq]

theorem emitted_field (r : FieldRef) : t.emitted (.field r) = ⟨t.read (.stored r.id), .field⟩ := rfl

theorem emitted_negate (f : Formula) :
    t.emitted (.unary .negate f) = ⟨"-" ++ t.operand .subtract f, .operator⟩ := by
  cases t <;> rfl

/-- The word for a negation. -/
def notWord : Target → String
  | python => "not"
  | javascript => "!"
  | sql => "NOT"

theorem unary_not_of_ne (ht : t ≠ javascript) (code : String) : t.unary .not code = t.notWord ++ (" " ++ code) := by
  cases t with
  | python => exact (congrArg (· ++ code) (by decide : "not " = "not" ++ " ")).trans (String.append_assoc ..)
  | javascript => exact absurd rfl ht
  | sql => exact (congrArg (· ++ code) (by decide : "NOT " = "NOT" ++ " ")).trans (String.append_assoc ..)

theorem emitted_not (f : Formula) : t.emitted (.unary .not f) = ⟨t.unary .not (t.operand .equal f), .operator⟩ := rfl

/-- The fragment of a literal or a field, or of a call. -/
def IsAtom (k : FragmentKind) : Prop := k ≠ .concat ∧ k ≠ .operator

theorem wrapped_of_isAtom {f : Fragment} (h : IsAtom f.kind) : f.wrapped = f.code := by
  obtain ⟨code, kind⟩ := f
  cases kind with
  | concat => exact absurd rfl h.1
  | operator => exact absurd rfl h.2
  | _ => rfl

theorem wrapped_of_not_isAtom {f : Fragment} (h : ¬ IsAtom f.kind) : f.wrapped = "(" ++ f.code ++ ")" := by
  obtain ⟨code, kind⟩ := f
  cases kind with
  | concat => rfl
  | operator => rfl
  | _ => exact absurd ⟨nofun, nofun⟩ h

theorem numberOperand_eq (f : Fragment) : (byId t).numberOperand f =
    if f.kind = .literal ∨ f.kind = .operator ∨ t = sql then f.wrapped else "_num(" ++ f.code ++ ")" := by
  obtain ⟨code, kind⟩ := f
  cases kind <;> cases t <;> rfl

/-- Operands are fragments as they are, in parentheses or as numbers. -/
theorem operand_cases (op : BinaryOp) (f : Formula) :
    (t.operand op f = (t.emitted f).wrapped ∧ (op.isArithmetic = true →
      (t.emitted f).kind = .literal ∨ (t.emitted f).kind = .operator ∨ t = sql)) ∨
    (t.operand op f = "_num(" ++ (t.emitted f).code ++ ")" ∧
      ¬ ((t.emitted f).kind = .literal ∨ (t.emitted f).kind = .operator ∨ t = sql)) := by
  unfold operand
  split
  · rw [numberOperand_eq]
    split
    next hk => exact .inl ⟨rfl, fun _ => hk⟩
    next hk => exact .inr ⟨rfl, hk⟩
  next hop => exact .inl ⟨rfl, fun h => absurd h hop⟩

theorem eq_literal_or_field (hf : f.calls = []) (hk : IsAtom (t.emitted f).kind) :
    (∃ l, f = .literal l) ∨ ∃ r, f = .field r := by
  cases f with
  | literal l => exact .inl ⟨l, rfl⟩
  | field r => exact .inr ⟨r, rfl⟩
  | call name args => cases hf
  | binary op left right =>
    by_cases hop : op = .concat
    · subst hop
      exact absurd (by rw [emitted_concat]) hk.1
    · exact absurd (by rw [emitted_binary hop]) hk.2
  | unary op operand => cases op <;> exact absurd rfl hk.2

theorem eq_concat_of_kind (hf : f.calls = []) (hk : (t.emitted f).kind = .concat) :
    ∃ left right, f = .binary .concat left right := by
  cases f with
  | literal l => cases l <;> cases hk
  | field r => cases hk
  | call name args => cases hf
  | binary op left right =>
    by_cases hop : op = .concat
    · exact ⟨left, right, hop ▸ rfl⟩
    · rw [emitted_binary hop] at hk
      cases hk
  | unary op f => cases op <;> cases hk

theorem eq_operator_of_kind (hf : f.calls = []) (hk : (t.emitted f).kind = .operator) :
    (∃ op left right, op ≠ .concat ∧ f = .binary op left right) ∨ ∃ op g, f = .unary op g := by
  cases f with
  | literal l => cases l <;> cases hk
  | field r => cases hk
  | call name args => cases hf
  | binary op left right =>
    refine .inl ⟨op, left, right, ?_, rfl⟩
    rintro rfl
    rw [emitted_concat] at hk
    cases hk
  | unary op g => exact .inr ⟨op, g, rfl⟩

/-! ## Words -/

theorem wellBracketed_emitted (f : Formula) : t.WellBracketed (t.emitted f).code := by
  have h : ∀ r, ((byId t).access r).WellBracketed (byId t).target := fun _ => trivial
  exact wellBracketed_emit h f

theorem isWord_literal (l : Literal) : t.IsWord (t.literal l) := by
  cases l with
  | number x => exact isWord_numberText x
  | text s => exact isWord_quotedText s
  | boolean b => cases t <;> cases b <;> exact .chars rfl

theorem isWord_symbol (op : BinaryOp) : t.IsWord (t.symbol op) := by
  cases t <;> cases op <;> exact .chars rfl

theorem isWord_notWord : t.IsWord t.notWord := by
  cases t <;> exact .chars rfl

theorem isWord_wrapped (hf : f.calls = []) : t.IsWord (t.emitted f).wrapped := by
  by_cases hk : IsAtom (t.emitted f).kind
  · rw [wrapped_of_isAtom hk]
    obtain ⟨l, rfl⟩ | ⟨r, rfl⟩ := eq_literal_or_field hf hk
    · exact isWord_literal l
    · exact isWord_read_stored r.id
  · rw [wrapped_of_not_isAtom hk]
    exact isWord_parentheses (wellBracketed_emitted f)

theorem isWord_operand (op : BinaryOp) (hf : f.calls = []) : t.IsWord (t.operand op f) := by
  obtain ⟨he, -⟩ | ⟨he, -⟩ := operand_cases (t := t) op f
  · rw [he]
    exact isWord_wrapped hf
  · rw [he]
    have h := (wellBracketed_emitted (t := t) f).passes (List.cons_ne_nil ')' [])
    cases t <;> exact .append (.append (.chars rfl) h) (.chars rfl)

theorem isWord_leftSide {op : BinaryOp} {code : String} (h : t.IsWord code) : t.IsWord (t.leftSide op code) := by
  unfold leftSide
  split
  next hs =>
    obtain ⟨rfl, rfl⟩ := hs
    exact .append (.append (.chars rfl) (h.wellBracketed.passes (List.cons_ne_nil _ _))) (.chars rfl)
  next => exact h

theorem between_inj {before after s s' : String} (h : before ++ s ++ after = before ++ s' ++ after) : s = s' :=
  (String.append_right_inj _).1 ((String.append_left_inj _).1 h)

theorem leftSide_inj {op : BinaryOp} {code code' : String} (h : t.leftSide op code = t.leftSide op code') :
    code = code' := by
  unfold leftSide at h
  split at h
  · exact between_inj h
  · exact h

theorem rightSide_inj {op : BinaryOp} {code code' : String} (h : t.rightSide op code = t.rightSide op code') :
    code = code' := by
  unfold rightSide at h
  split at h
  · exact between_inj h
  · exact h

/-- The operator with a symbol, apart from the concatenation. -/
def operator? (t : Target) (symbol : String) : Option BinaryOp :=
  BinaryOp.all.find? fun op => op != .concat && t.symbol op == symbol

theorem operator?_symbol {op : BinaryOp} (h : op ≠ .concat) : t.operator? (t.symbol op) = some op := by
  cases op with
  | concat => exact absurd rfl h
  | _ => cases t <;> decide

theorem symbol_inj {op op' : BinaryOp} (h : op ≠ .concat) (h' : op' ≠ .concat) (he : t.symbol op = t.symbol op') :
    op = op' := by
  rw [← Option.some_inj, ← operator?_symbol h, he, operator?_symbol h']

/-- A concatenation has the symbol of an addition or one of its own. -/
theorem eq_add_of_symbol {op : BinaryOp} (h : op ≠ .concat) (he : t.symbol .concat = t.symbol op) :
    t ≠ sql ∧ op = .add := by
  have hop := operator?_symbol (t := t) h
  rw [← he] at hop
  cases t with
  | python => exact ⟨by decide, Option.some_inj.1 (hop.symm.trans (by decide))⟩
  | javascript => exact ⟨by decide, Option.some_inj.1 (hop.symm.trans (by decide))⟩
  | sql => exact absurd hop (by cases op <;> decide)

/-! ## First characters -/

/-- The first character of a text. -/
def lead (s : String) : Option Char := s.toList.head?

theorem lead_chars {c : Char} {cs : List Char} : lead (String.ofList (c :: cs)) = some c := by
  rw [lead, String.toList_ofList]
  rfl

theorem lead_append {s : String} {c : Char} (h : lead s = some c) (s' : String) : lead (s ++ s') = some c := by
  rw [lead, String.toList_append, List.head?_append, ← lead, h]
  rfl

/-- The second character of a text. -/
def second (s : String) : Option Char := s.toList[1]?

theorem second_chars {c d : Char} {cs : List Char} : second (String.ofList (c :: d :: cs)) = some d := by
  rw [second, String.toList_ofList]
  rfl

theorem second_append {s : String} {c : Char} (h : second s = some c) (s' : String) : second (s ++ s') = some c := by
  rw [second, String.toList_append, List.getElem?_append_left (List.getElem?_eq_some_iff.1 h).1]
  exact h

theorem mem_of_lead {s : String} {c : Char} (h : lead s = some c) : c ∈ s.toList := List.mem_of_head? h

/-- The quote around texts. -/
def quote (t : Target) : Char := if t = sql then '\'' else '"'

/-- The first character of the code that reads a field. -/
def fieldLead (t : Target) : Char := if t = sql then 't' else 'r'

theorem lead_quotedText (s : String) : lead (t.quotedText s) = some t.quote := by
  cases t <;> exact lead_chars

theorem lead_read_stored (key : String) : lead (t.read (.stored key)) = some t.fieldLead := by
  cases t with
  | python => exact lead_append (lead_append lead_chars _) _
  | javascript => exact lead_append (lead_append lead_chars _) _
  | sql => exact lead_append lead_chars _

theorem lead_parentheses (s : String) : lead ("(" ++ s ++ ")") = some '(' := lead_append (lead_append lead_chars _) _

theorem lead_num (s : String) : lead ("_num(" ++ s ++ ")") = some '_' := lead_append (lead_append lead_chars _) _

/-- The characters that literals and fields begin with. -/
def isAtomLead (c : Char) : Bool := Decimal.isNumberChar c || c ∈ ['"', '\'', 'r', 't', 'T', 'F']

theorem isAtomLead_of_lead (hf : f.calls = []) (hk : IsAtom (t.emitted f).kind) {c : Char}
    (hc : lead (t.emitted f).code = some c) : isAtomLead c = true := by
  obtain ⟨l, rfl⟩ | ⟨r, rfl⟩ := eq_literal_or_field hf hk
  · cases l with
    | number x =>
      have hn := isNumberChar_of_mem_numberText (mem_of_lead hc)
      simp [isAtomLead, hn]
    | text s =>
      cases hc.symm.trans (lead_quotedText s)
      cases t <;> decide
    | boolean b => cases t <;> cases b <;> cases hc.symm.trans lead_chars <;> decide
  · cases hc.symm.trans (lead_read_stored r.id)
    cases t <;> decide

/-! ## Numbers -/

/-- Code that is written with the characters of numbers only. -/
def IsNumeric (s : String) : Prop := ∀ c ∈ s.toList, Decimal.isNumberChar c = true

theorem isNumeric_numberText (x : Float) : IsNumeric (numberText x) := fun _ => isNumberChar_of_mem_numberText

theorem IsNumeric.of_append {s s' : String} (h : IsNumeric (s ++ s')) : IsNumeric s' := fun c hc =>
  h c (by rw [String.toList_append]; exact List.mem_append_right _ hc)

theorem not_isNumeric_parted (w s : String) : ¬ IsNumeric (w ++ (" " ++ s)) := fun h =>
  absurd (h ' ' (by rw [toList_parted]; simp)) (by decide)

theorem not_isNumeric_of_lead {s : String} {c : Char} (hc : lead s = some c) (hn : Decimal.isNumberChar c = false) :
    ¬ IsNumeric s := fun h => by simp [h c (mem_of_lead hc)] at hn

theorem not_isNumeric_boolean (b : Bool) : ¬ IsNumeric (t.boolean b) := fun h => by
  cases t with
  | python => cases b <;> exact absurd (h 'e' (by decide)) (by decide)
  | javascript => cases b <;> exact absurd (h 'e' (by decide)) (by decide)
  | sql => cases b <;> exact absurd (h 'E' (by decide)) (by decide)

theorem eq_number_of_isAtom (hf : f.calls = []) (hk : IsAtom (t.emitted f).kind)
    (h : IsNumeric (t.emitted f).code) : ∃ x, f = .literal (.number x) := by
  obtain ⟨l, rfl⟩ | ⟨r, rfl⟩ := eq_literal_or_field hf hk
  · cases l with
    | number x => exact ⟨x, rfl⟩
    | text s => exact absurd h (not_isNumeric_of_lead (lead_quotedText s) (by cases t <;> decide))
    | boolean b => exact absurd h (not_isNumeric_boolean b)
  · exact absurd h (not_isNumeric_of_lead (lead_read_stored r.id) (by cases t <;> decide))

theorem eq_number_of_operand {op : BinaryOp} (hf : f.calls = []) (h : IsNumeric (t.operand op f)) :
    ∃ x, f = .literal (.number x) := by
  obtain ⟨he, -⟩ | ⟨he, -⟩ := operand_cases (t := t) op f
  · rw [he] at h
    by_cases hk : IsAtom (t.emitted f).kind
    · rw [wrapped_of_isAtom hk] at h
      exact eq_number_of_isAtom hf hk h
    · rw [wrapped_of_not_isAtom hk] at h
      exact absurd h (not_isNumeric_of_lead (lead_parentheses _) (by decide))
  · rw [he] at h
    exact absurd h (not_isNumeric_of_lead (lead_num _) (by decide))

/-- Only numbers and negations of numbers look like numbers. -/
theorem eq_number_of_isNumeric (hf : f.calls = []) (h : IsNumeric (t.emitted f).code) :
    (∃ x, f = .literal (.number x)) ∨ ∃ x, f = .unary .negate (.literal (.number x)) := by
  cases f with
  | literal l =>
    refine .inl (eq_number_of_isAtom hf ?_ h)
    cases l <;> exact ⟨nofun, nofun⟩
  | field r => exact .inl (eq_number_of_isAtom hf ⟨nofun, nofun⟩ h)
  | call name args => cases hf
  | binary op left right =>
    by_cases hop : op = .concat
    · subst hop
      rw [emitted_concat] at h
      exact absurd h (not_isNumeric_parted _ _)
    · rw [emitted_binary hop] at h
      exact absurd h (not_isNumeric_parted _ _)
  | unary op f =>
    rw [Formula.calls] at hf
    cases op with
    | negate =>
      rw [emitted_negate] at h
      have h : IsNumeric ("-" ++ t.operand .subtract f) := h
      obtain ⟨x, rfl⟩ := eq_number_of_operand hf h.of_append
      exact .inr ⟨x, rfl⟩
    | not =>
      rw [emitted_not] at h
      by_cases ht : t = javascript
      · subst ht
        exact absurd h (not_isNumeric_of_lead (lead_append lead_chars _) (by decide))
      · rw [unary_not_of_ne ht] at h
        exact absurd h (not_isNumeric_parted _ _)

/-! ## Concatenations -/

/-- What stands between the terms of a concatenation. -/
def separator (t : Target) : String := " " ++ (t.symbol .concat ++ " ")

theorem concatTerm_concat (left right : Formula) :
    t.concatTerm (.binary .concat left right) = t.concatTerm left ++ t.separator ++ t.concatTerm right := by
  have h : t.concatTerm (.binary .concat left right) = (t.emitted (.binary .concat left right)).code := rfl
  rw [h, emitted_concat, separator]
  simp only [String.append_assoc]

/-- The code of a concatenation are its terms with separators between them. -/
theorem concatTerm_eq : (f : Formula) → t.concatTerm f = t.separator.intercalate (f.terms.map t.concatTerm)
  | .literal _ | .field _ | .call _ _ | .unary _ _ => (String.intercalate_singleton ..).symm
  | .binary op left right => by
    by_cases hop : op = .concat
    · subst hop
      have hne (f : Formula) : f.terms.map t.concatTerm ≠ [] := mt List.map_eq_nil_iff.1 f.terms_ne_nil
      rw [concatTerm_concat, Formula.terms, List.map_append, String.intercalate_append_of_ne_nil (hne _) (hne _),
        ← concatTerm_eq left, ← concatTerm_eq right]
    · rw [Formula.terms_of_ne hop]
      exact (String.intercalate_singleton ..).symm

theorem concatTerm_literal (l : Literal) : t.concatTerm (.literal l) = t.quotedText l.asText := by
  cases l <;> rfl

theorem concatTerm_field (r : FieldRef) :
    t.concatTerm (.field r) = t.coalescedText (t.emitted (.field r)).code := rfl

theorem concatTerm_binary {op : BinaryOp} (hop : op ≠ .concat) (left right : Formula) :
    t.concatTerm (.binary op left right) = t.toText (t.emitted (.binary op left right)).code := by
  rw [concatTerm, emitted_binary hop]
  rfl

theorem concatTerm_unary (op : UnaryOp) (f : Formula) :
    t.concatTerm (.unary op f) = t.toText (t.emitted (.unary op f)).code := by
  cases op <;> rfl

/-- The three forms of a term. -/
theorem concatTerm_cases (hf : f.calls = []) (ht : f.IsTerm) :
    (∃ l, f = .literal l) ∨
    ((t.emitted f).kind = .field ∧ t.concatTerm f = t.coalescedText (t.emitted f).code) ∨
    ((t.emitted f).kind = .operator ∧ t.concatTerm f = t.toText (t.emitted f).code) := by
  cases f with
  | literal l => exact .inl ⟨l, rfl⟩
  | field r => exact .inr (.inl ⟨rfl, rfl⟩)
  | call name args => cases hf
  | binary op left right =>
    have hop : op ≠ .concat := fun h => ht left right (h ▸ rfl)
    exact .inr (.inr ⟨by rw [emitted_binary hop], concatTerm_binary hop left right⟩)
  | unary op f => exact .inr (.inr ⟨by cases op <;> rfl, concatTerm_unary op f⟩)

theorem isWord_concatTerm (hf : f.calls = []) (ht : f.IsTerm) : t.IsWord (t.concatTerm f) := by
  have h := wellBracketed_emitted (t := t) f
  have ne {c : Char} {cs : List Char} : c :: cs ≠ [] := List.cons_ne_nil _ _
  obtain ⟨l, rfl⟩ | ⟨-, he⟩ | ⟨-, he⟩ := concatTerm_cases (t := t) hf ht
  · rw [concatTerm_literal]
    exact isWord_quotedText _
  · rw [he]
    cases t <;> exact .append (.append (.chars rfl) (h.passes ne)) (.chars rfl)
  · rw [he]
    cases t <;> exact .append (.append (.chars rfl) (h.passes ne)) (.chars rfl)

/-- The first character of the code that makes a text. -/
def textLead (t : Target) : Char := if t = sql then 'C' else '_'

theorem quote_ne_textLead : t.quote ≠ t.textLead := by
  cases t <;> decide

theorem lead_coalescedText (code : String) : lead (t.coalescedText code) = some t.textLead := by
  cases t <;> exact lead_append (lead_append lead_chars _) _

theorem lead_toText (code : String) : lead (t.toText code) = some t.textLead := by
  cases t <;> exact lead_append (lead_append lead_chars _) _

/-- Apart from SQL, what makes a text of a field also makes one of the result of an operator. -/
theorem coalescedText_eq (ht : t ≠ sql) (code : String) : t.coalescedText code = "_text(" ++ code ++ ")" := by
  cases t with
  | python => rfl
  | javascript => rfl
  | sql => exact absurd rfl ht

theorem toText_eq (ht : t ≠ sql) (code : String) : t.toText code = "_text(" ++ code ++ ")" := by
  cases t with
  | python => rfl
  | javascript => rfl
  | sql => exact absurd rfl ht

theorem second_text (s : String) : second ("_text(" ++ s ++ ")") = some 't' :=
  second_append (second_append second_chars _) _

/-- Terms begin with a quote or with a conversion to text. -/
theorem lead_concatTerm (hf : f.calls = []) (ht : f.IsTerm) : lead (t.concatTerm f) = some t.quote ∨
    lead (t.concatTerm f) = some t.textLead ∧ (t ≠ sql → second (t.concatTerm f) = some 't') := by
  obtain ⟨l, rfl⟩ | ⟨-, he⟩ | ⟨-, he⟩ := concatTerm_cases (t := t) hf ht
  · rw [concatTerm_literal]
    exact .inl (lead_quotedText _)
  · rw [he]
    exact .inr ⟨lead_coalescedText _, fun ht => coalescedText_eq ht _ ▸ second_text _⟩
  · rw [he]
    exact .inr ⟨lead_toText _, fun ht => toText_eq ht _ ▸ second_text _⟩

/-- The first term of a concatenation, and what follows it. -/
theorem exists_parted_concat {left right : Formula} (hf : (Formula.binary .concat left right).calls = []) :
    ∃ a rest, a.calls = [] ∧ a.IsTerm ∧ (t.emitted (.binary .concat left right)).code =
      t.concatTerm a ++ (" " ++ (t.symbol .concat ++ (" " ++ rest))) := by
  obtain ⟨a, b, bs, ht, -⟩ := Formula.exists_terms_concat left right
  have ha : a ∈ (Formula.binary .concat left right).terms := ht ▸ List.mem_cons_self
  obtain ⟨hterm, hcalls, -⟩ := Formula.mem_terms _ ha
  refine ⟨a, t.separator.intercalate ((b :: bs).map t.concatTerm), ?_, hterm, ?_⟩
  · exact List.eq_nil_of_subset_nil (hf ▸ hcalls)
  · have hc : (t.emitted (.binary .concat left right)).code = t.concatTerm (.binary .concat left right) := rfl
    rw [hc, concatTerm_eq, ht, List.map_cons, List.map_cons, String.intercalate_cons_cons, separator]
    simp only [String.append_assoc]

/-! ## Kinds -/

/-- The kind of a formula whose code is one word, by the first character, numbers apart. -/
def wordKind (t : Target) (c : Char) : FragmentKind :=
  if c = t.quote then .text else if c = t.fieldLead then .field else if c = '-' ∨ c = '!' then .operator else .literal

theorem wordKind_eq (hf : f.calls = []) (hn : ∀ x, f ≠ .literal (.number x)) (hw : t.IsWord (t.emitted f).code) :
    ∃ c, lead (t.emitted f).code = some c ∧ t.wordKind c = (t.emitted f).kind := by
  cases f with
  | literal l =>
    cases l with
    | number x => exact absurd rfl (hn x)
    | text s => exact ⟨_, lead_quotedText s, by cases t <;> rfl⟩
    | boolean b => cases t <;> cases b <;> exact ⟨_, lead_chars, rfl⟩
  | field r => exact ⟨_, lead_read_stored r.id, by cases t <;> rfl⟩
  | call name args => cases hf
  | binary op left right =>
    by_cases hop : op = .concat
    · subst hop
      obtain ⟨a, rest, ha, hterm, he⟩ := exists_parted_concat (t := t) hf
      exact absurd he (hw.ne_parted (isWord_concatTerm ha hterm) _)
    · rw [Formula.calls, List.append_eq_nil_iff] at hf
      rw [emitted_binary hop] at hw
      exact absurd rfl (hw.ne_parted (isWord_leftSide (isWord_operand op hf.1)) _)
  | unary op f =>
    cases op with
    | negate =>
      rw [emitted_negate]
      exact ⟨'-', lead_append lead_chars _, by cases t <;> rfl⟩
    | not =>
      rw [emitted_not] at hw ⊢
      by_cases ht : t = javascript
      · subst ht
        exact ⟨'!', lead_append lead_chars _, rfl⟩
      · rw [unary_not_of_ne ht] at hw
        exact absurd rfl (hw.ne_parted isWord_notWord _)

/-- Numbers and booleans are not quoted. -/
theorem lead_literal_ne (hf : f.calls = []) (hk : (t.emitted f).kind = .literal) :
    ¬ (lead (t.emitted f).code = some '"' ∨ lead (t.emitted f).code = some '_') := by
  intro hlead
  obtain ⟨l, rfl⟩ | ⟨r, rfl⟩ := eq_literal_or_field (t := t) hf ⟨by simp [hk], by simp [hk]⟩
  · cases l with
    | number x =>
      have hn := isNumeric_numberText x
      obtain hlead | hlead := hlead <;> exact not_isNumeric_of_lead hlead (by decide) hn
    | text s => cases hk
    | boolean b => obtain hlead | hlead := hlead <;> cases t <;> cases b <;> cases lead_chars.symm.trans hlead
  · cases hk

/-- In a target that adds and concatenates with the same symbol, a summand does not look like a term. -/
theorem operand_ne_concatTerm (ht : t ≠ sql) (hf : f.calls = []) (hterm : f.IsTerm) (hg : g.calls = []) :
    t.operand .add g ≠ t.concatTerm f := by
  intro h
  have hlead := lead_concatTerm (t := t) hf hterm
  rw [quote, if_neg ht, textLead, if_neg ht, ← h] at hlead
  obtain ⟨he, hk⟩ | ⟨he, -⟩ := operand_cases (t := t) .add g
  · rw [he] at hlead
    by_cases hatom : IsAtom (t.emitted g).kind
    · rw [wrapped_of_isAtom hatom] at hlead
      have hk := (hk rfl).resolve_right fun h => h.elim hatom.2 ht
      exact lead_literal_ne hg hk (hlead.imp_right And.left)
    · rw [wrapped_of_not_isAtom hatom, lead_parentheses] at hlead
      obtain hlead | ⟨hlead, -⟩ := hlead <;> cases hlead
  · rw [he, lead_num] at hlead
    obtain hlead | ⟨-, hsecond⟩ := hlead
    · cases hlead
    · cases (hsecond ht).symm.trans (second_append (second_append second_chars _) _)

/-- Unary operators make a word of their operand or stand before it as a word of their own. -/
theorem isWord_unary_or (op : UnaryOp) (hf : f.calls = []) : t.IsWord (t.emitted (.unary op f)).code ∨
    (t.emitted (.unary op f)).code = t.notWord ++ (" " ++ t.operand .equal f) := by
  cases op with
  | negate =>
    rw [emitted_negate]
    exact .inl (by cases t <;> exact .append (.chars rfl) (isWord_operand _ hf))
  | not =>
    rw [emitted_not]
    by_cases ht : t = javascript
    · subst ht
      exact .inl (.append (.chars rfl) (isWord_operand _ hf))
    · exact .inr (unary_not_of_ne ht _)

/-- A concatenation does not look like another operator. -/
theorem concat_ne_operator (hf : f.calls = []) (hfk : (t.emitted f).kind = .concat) (hg : g.calls = [])
    (hk : (t.emitted g).kind = .operator) : (t.emitted f).code ≠ (t.emitted g).code := by
  obtain ⟨left, right, rfl⟩ := eq_concat_of_kind hf hfk
  obtain ⟨a, rest, ha, hterm, he⟩ := exists_parted_concat (t := t) hf
  have hword := isWord_concatTerm (t := t) ha hterm
  rw [he]
  intro h
  obtain ⟨op, l, r, hop, rfl⟩ | ⟨op, f, rfl⟩ := eq_operator_of_kind hg hk
  · rw [Formula.calls, List.append_eq_nil_iff] at hg
    rw [emitted_binary hop] at h
    obtain ⟨hl, h⟩ := hword.parted_inj (isWord_leftSide (isWord_operand op hg.1)) h
    obtain ⟨hs, -⟩ := (isWord_symbol .concat).parted_inj (isWord_symbol op) h
    obtain ⟨ht, rfl⟩ := eq_add_of_symbol hop hs
    rw [leftSide, if_neg fun h => ht h.1] at hl
    exact operand_ne_concatTerm ht ha hterm hg.1 hl.symm
  · rw [Formula.calls] at hg
    obtain hw | he := isWord_unary_or (t := t) op hg
    · exact hw.ne_parted hword _ h.symm
    · rw [he] at h
      have hlead := lead_concatTerm (t := t) ha hterm
      rw [(hword.parted_inj isWord_notWord h).1] at hlead
      obtain hl | ⟨hl, -⟩ := hlead <;> cases t <;> cases lead_chars.symm.trans hl

end Target

end ComputedFields
