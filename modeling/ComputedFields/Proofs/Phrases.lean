import ComputedFields.Proofs.Lexing

/-!
# Phrases

The grammar of formulas rule by rule. Every kind of phrase with binary operators is a repetition: an operand of the
next tighter kind, then operators of its own with one such operand each, which the formula takes from the left.

- `Phrase.Produces`: the tokens of a phrase and their formula, `ProducesFormula` those of a whole formula with its end;
- `Phrase.Produces.derives`, `Derives.produces`: the rules derive what the levels of precedence derive. A repetition is
  built up by one operator after the other, so it suffices to put a step at its end (`Phrase.Produces.snoc`);
- `ProducesFormula.unique`: tokens have one formula at most;
- `parse_eq_ok_iff_produces`: the parser accepts exactly what the rules produce.
-/

namespace ComputedFields

/-- The kinds of phrases, from the loosest to the tightest. -/
inductive Phrase where
  | expression
  | concatenation
  | sum
  | product
  /-- An operand with the signs before it. -/
  | signed
  | operand
deriving DecidableEq, Repr

namespace Phrase

/-- What stands between the operators of a phrase. -/
def operands? : Phrase → Option Phrase
  | expression => some concatenation
  | concatenation => some sum
  | sum => some product
  | product => some signed
  | signed => none
  | operand => none

/-- The operators of a phrase and the tokens that spell them. -/
inductive Operator : Phrase → TokenKind → BinaryOp → Prop
  | equal : Operator expression .equal .equal
  | notEqual : Operator expression .notEqual .notEqual
  | less : Operator expression .less .less
  | lessEqual : Operator expression .lessEqual .lessEqual
  | greater : Operator expression .greater .greater
  | greaterEqual : Operator expression .greaterEqual .greaterEqual
  | concat : Operator concatenation .ampersand .concat
  | add : Operator sum .plus .add
  | subtract : Operator sum .minus .subtract
  | multiply : Operator product .star .multiply
  | divide : Operator product .slash .divide

/-- An operator and the operand after it. -/
structure Step where
  token : TokenKind
  op : BinaryOp
  tokens : List TokenKind
  formula : Formula

/-- The tokens of an operand and of the steps after it. -/
def chainTokens (ks : List TokenKind) (steps : List Step) : List TokenKind :=
  ks ++ steps.flatMap fun s => s.token :: s.tokens

/-- The formula of an operand and of the steps after it, which associate to the left. -/
def chainFormula (f : Formula) (steps : List Step) : Formula :=
  steps.foldl (fun left s => .binary s.op left s.formula) f

/-- `Produces p ks f`: the tokens `ks` are a phrase of the kind `p` with the formula `f`. -/
inductive Produces : Phrase → List TokenKind → Formula → Prop
  | chain {p q : Phrase} {ks : List TokenKind} {f : Formula} (steps : List Step) : p.operands? = some q →
      Produces q ks f → (∀ s ∈ steps, Operator p s.token s.op) → (∀ s ∈ steps, Produces q s.tokens s.formula) →
      Produces p (chainTokens ks steps) (chainFormula f steps)
  | minus {ks : List TokenKind} {f : Formula} : Produces signed ks f →
      Produces signed (.minus :: ks) (.unary .negate f)
  | plus {ks : List TokenKind} {f : Formula} : Produces signed ks f → Produces signed (.plus :: ks) f
  | unsigned {ks : List TokenKind} {f : Formula} : Produces operand ks f → Produces signed ks f
  | number (x : Float) : Produces operand [.number x] (.literal (.number x))
  | text (s : String) : Produces operand [.text s] (.literal (.text s))
  | boolean (b : Bool) : Produces operand [.boolean b] (.literal (.boolean b))
  | booleanCall (b : Bool) : Produces operand [.boolean b, .leftParen, .rightParen] (.literal (.boolean b))
  | field (id : String) : Produces operand [.fieldRef id] (.field { id })
  | paren {ks : List TokenKind} {f : Formula} : Produces expression ks f →
      Produces operand (.leftParen :: ks ++ [.rightParen]) f
  | not {name : String} {ks : List TokenKind} {f : Formula} : Text.eqIgnoringAsciiCase name "NOT" = true →
      Produces expression ks f →
      Produces operand (.identifier name :: .leftParen :: ks ++ [.rightParen]) (.unary .not f)
  | call {name : String} (arguments : List (List TokenKind × Formula)) :
      Text.eqIgnoringAsciiCase name "NOT" = false → (∀ a ∈ arguments, Produces expression a.1 a.2) →
      Produces operand
        (.identifier name :: .leftParen :: List.intercalate [.comma] (arguments.map (·.1)) ++ [.rightParen])
        (.call (Text.toUpper name) (arguments.map (·.2)))

end Phrase

open Phrase

/-- The tokens of a whole formula up to its end; an equals sign may stand in front. -/
inductive ProducesFormula : List TokenKind → Formula → Prop
  | plain {ks : List TokenKind} {f : Formula} : Produces expression ks f → ProducesFormula (ks ++ [.finish]) f
  | equals {ks : List TokenKind} {f : Formula} : Produces expression ks f →
      ProducesFormula (.equal :: ks ++ [.finish]) f

/-! ## From rules to levels -/

/-- The level of precedence of a phrase. -/
def Phrase.level : Phrase → Nat
  | expression => 4
  | concatenation => 3
  | sum => 2
  | product => 1
  | signed => 0
  | operand => 0

section Rules

variable {p q : Phrase} {l : Nat} {k : TokenKind} {op : BinaryOp} {ks ks' : List TokenKind} {f g : Formula}

theorem Phrase.level_eq_of_operands? (h : p.operands? = some q) : p.level = q.level + 1 := by
  cases p <;> cases h <;> rfl

/-- The operators of a phrase are those of its level. -/
theorem Phrase.operator_iff : Operator p k op ↔ BinaryOp.ofToken? p.level k = some op := by
  constructor
  · rintro ⟨⟩ <;> rfl
  · intro h
    cases p <;> cases k <;> cases h <;> constructor

/-- Operators of a level extend what is derived at that level. -/
theorem Derives.chain (h : Derives (l + 1) ks f) (steps : List Step)
    (ho : ∀ s ∈ steps, BinaryOp.ofToken? (l + 1) s.token = some s.op)
    (hs : ∀ s ∈ steps, Derives l s.tokens s.formula) :
    Derives (l + 1) (chainTokens ks steps) (chainFormula f steps) := by
  induction steps generalizing ks f with
  | nil => simpa [chainTokens, chainFormula] using h
  | cons s steps ih =>
    obtain ⟨ho, ho'⟩ := List.forall_mem_cons.1 ho
    obtain ⟨hs, hs'⟩ := List.forall_mem_cons.1 hs
    simpa [chainTokens, chainFormula] using ih (h.binary ho hs) ho' hs'

theorem Phrase.Produces.derives (h : Produces p ks f) : Derives p.level ks f := by
  induction h with
  | chain steps hq _ ho _ ih ihs =>
    rw [level_eq_of_operands? hq]
    refine ih.tighter.chain steps (fun s hs => ?_) ihs
    rw [← level_eq_of_operands? hq]
    exact operator_iff.1 (ho s hs)
  | minus _ ih => exact ih.minus
  | plus _ ih => exact ih.plus
  | unsigned _ ih => exact ih
  | number x => exact .number x
  | text s => exact .text s
  | boolean b => exact .boolean b
  | booleanCall b => exact .booleanCall b
  | field id => exact .field id
  | paren _ ih => exact ih.paren
  | not hn _ ih => exact ih.not hn
  | call arguments hn _ ih => exact .call arguments hn ih

/-! ## From levels to rules -/

/-- The loosest phrase with operators up to a level. -/
def Phrase.ofLevel : Nat → Phrase
  | 0 => signed
  | 1 => product
  | 2 => sum
  | 3 => concatenation
  | _ => expression

/-- One more operator at the end of a phrase. -/
theorem Phrase.Produces.snoc (h : Produces p ks f) (hq : p.operands? = some q) (ho : Operator p k op)
    (hg : Produces q ks' g) : Produces p (ks ++ k :: ks') (.binary op f g) := by
  cases h with
  | @chain _ q' ks f steps hq' hf hop hs =>
    obtain rfl : q' = q := Option.some.inj (hq'.symm.trans hq)
    have hc := Produces.chain (steps ++ [⟨k, op, ks', g⟩]) hq hf
      (List.forall_mem_append.2 ⟨hop, by simpa using ho⟩) (List.forall_mem_append.2 ⟨hs, by simpa using hg⟩)
    simpa [chainTokens, chainFormula] using hc
  | _ => cases hq

/-- An operand alone is a phrase. -/
theorem Phrase.Produces.alone (h : Produces q ks f) (hq : p.operands? = some q) : Produces p ks f := by
  have hc := Produces.chain [] hq h nofun nofun
  rwa [chainTokens, List.flatMap_nil, List.append_nil] at hc

/-- A phrase of a level is one of the next looser level. -/
theorem Phrase.Produces.looser (h : Produces (ofLevel l) ks f) : Produces (ofLevel (l + 1)) ks f := by
  match l with
  | 0 | 1 | 2 | 3 => exact h.alone rfl
  | _ + 4 => exact h

/-- Where a level has an operator, it has operands. -/
theorem Phrase.operands?_ofLevel (h : BinaryOp.ofToken? (l + 1) k = some op) :
    (ofLevel (l + 1)).operands? = some (ofLevel l) ∧ Operator (ofLevel (l + 1)) k op := by
  match l with
  | 0 | 1 | 2 | 3 => exact ⟨rfl, operator_iff.2 h⟩
  | _ + 4 => cases h

theorem Derives.produces (h : Derives l ks f) : Produces (ofLevel l) ks f := by
  induction h with
  | number x => exact .unsigned (.number x)
  | text s => exact .unsigned (.text s)
  | boolean b => exact .unsigned (.boolean b)
  | booleanCall b => exact .unsigned (.booleanCall b)
  | field id => exact .unsigned (.field id)
  | paren _ ih => exact .unsigned (.paren ih)
  | not hn _ ih => exact .unsigned (.not hn ih)
  | call parts hn _ ih => exact .unsigned (.call parts hn ih)
  | minus _ ih => exact .minus ih
  | plus _ ih => exact .plus ih
  | tighter _ ih => exact ih.looser
  | binary _ ho _ ihl ihr =>
    obtain ⟨hq, hop⟩ := operands?_ofLevel ho
    exact ihl.snoc hq hop ihr

/-! ## Whole formulas -/

theorem producesFormula_append_finish_iff : ProducesFormula (ks ++ [.finish]) f ↔ DerivesFormula ks f := by
  constructor
  · generalize he : ks ++ [.finish] = ks'
    rintro (h | h)
    · rw [List.append_cancel_right he]
      exact .inl h.derives
    · rw [List.append_cancel_right he]
      exact .inr ⟨_, rfl, h.derives⟩
  · rintro (h | ⟨ks, rfl, h⟩)
    · exact .plain h.produces
    · exact .equals h.produces

theorem DerivesFormula.unique (hf : DerivesFormula ks f) (hg : DerivesFormula ks g) : f = g := by
  obtain ⟨ts, rfl⟩ : ∃ ts, kinds ts = ks := ⟨ks.map fun k => ⟨k, "", 0⟩, by simp [kinds, Function.comp_def]⟩
  exact Except.ok.inj ((parseTokens_eq_ok_iff.2 hf).symm.trans (parseTokens_eq_ok_iff.2 hg))

theorem ProducesFormula.exists_finish (h : ProducesFormula ks f) : ∃ ks', ks = ks' ++ [.finish] := by
  cases h <;> exact ⟨_, rfl⟩

/-- The grammar is unambiguous. -/
theorem ProducesFormula.unique (hf : ProducesFormula ks f) (hg : ProducesFormula ks g) : f = g := by
  obtain ⟨ks, rfl⟩ := hf.exists_finish
  rw [producesFormula_append_finish_iff] at hf hg
  exact hf.unique hg

end Rules

/-! ## The parser -/

theorem tokenize_eq_ok_iff {text : String} {ts : List Token} : tokenize text = .ok ts ↔
    ∃ us, lex text = .ok us ∧ ts = us ++ [⟨.finish, "", text.utf8ByteSize⟩] := by
  unfold tokenize
  cases lex text with
  | error e => exact ⟨nofun, nofun⟩
  | ok us => simp [Except.map, eq_comm]

/-- What a text with tokens spells depends on what its tokens say. -/
theorem parse_eq_ok_iff_derivesFormula {text : String} {ts : List Token} (h : lex text = .ok ts) {f : Formula} :
    parse text = .ok f ↔ DerivesFormula (kinds ts) f := by
  rw [← parseTokens_eq_ok_iff]
  simp only [parse, h]
  cases parseTokens ts <;> simp

/-- The parser accepts the tokens that the rules produce, with their formula, and no others; there is one formula at
most. -/
theorem parse_eq_ok_iff_produces {text : String} {ts : List Token} (h : tokenize text = .ok ts) :
    (∀ f, parse text = .ok f ↔ ProducesFormula (kinds ts) f) ∧
      ∀ f g, ProducesFormula (kinds ts) f → ProducesFormula (kinds ts) g → f = g := by
  refine ⟨fun f => ?_, fun f g => ProducesFormula.unique⟩
  obtain ⟨us, hl, rfl⟩ := tokenize_eq_ok_iff.1 h
  rw [kinds_append, parse_eq_ok_iff_derivesFormula hl, ← producesFormula_append_finish_iff]
  rfl

/-- The tokens of a comparison with an equals sign in front. -/
def comparisonTokens : List Token :=
  [⟨.equal, "=", 0⟩, ⟨.fieldRef "a", "\x7ba\x7d", 1⟩, ⟨.equal, "=", 4⟩, ⟨.minus, "-", 5⟩,
    ⟨.fieldRef "b", "\x7bb\x7d", 6⟩, ⟨.ampersand, "&", 9⟩, ⟨.fieldRef "c", "\x7bc\x7d", 10⟩, ⟨.finish, "", 13⟩]

theorem tokenize_comparison : tokenize "=\x7ba\x7d=-\x7bb\x7d&\x7bc\x7d" = .ok comparisonTokens := by
  -- a token of one character, and a reference, before the rest of the text
  have char (c : Char) {k : TokenKind} {after : List Char} {ls : List Lexeme} (hc : Text.isWhitespace c = false)
      (hr : TokenKind.read c after = .ok (k, 0)) (h : Lexed after ls []) : Lexed (c :: after) (⟨[], [c], k⟩ :: ls) [] :=
    @Lexed.lexeme [] [] after [] c k ls nofun hc hr h
  have ref (body : List Char) {after : List Char} {k : TokenKind} {ls : List Lexeme}
      (hr : TokenKind.read '\x7b' (body ++ after) = .ok (k, body.length)) (h : Lexed after ls []) :
      Lexed ('\x7b' :: (body ++ after)) (⟨[], '\x7b' :: body, k⟩ :: ls) [] :=
    @Lexed.lexeme [] body after [] '\x7b' k ls nofun rfl hr h
  have hc := ref ['c', '\x7d'] rfl (.blank nofun)
  have hb := ref ['b', '\x7d'] rfl (char '&' rfl rfl hc)
  have ha := ref ['a', '\x7d'] rfl (char '=' rfl rfl (char '-' rfl rfl hb))
  have hscan := scan_eq_iff_lexed.2 (char '=' rfl rfl ha)
  have htext : "=\x7ba\x7d=-\x7bb\x7d&\x7bc\x7d".toList =
      ['=', '\x7b', 'a', '\x7d', '=', '-', '\x7b', 'b', '\x7d', '&', '\x7b', 'c', '\x7d'] := String.toList_ofList
  rw [tokenize, lex, htext]
  simp only [List.cons_append, List.nil_append] at hscan
  rw [hscan]
  rfl

theorem producesFormula_comparison : ProducesFormula (kinds comparisonTokens) (.binary .equal (.field { id := "a" })
    (.binary .concat (.unary .negate (.field { id := "b" })) (.field { id := "c" }))) := by
  have ref (id : String) : Produces signed [.fieldRef id] (.field { id }) := .unsigned (.field id)
  have left : Produces concatenation [.fieldRef "a"] (.field { id := "a" }) :=
    (((ref "a").alone rfl : Produces product _ _).alone rfl : Produces sum _ _).alone rfl
  have negated : Produces sum [.minus, .fieldRef "b"] (.unary .negate (.field { id := "b" })) :=
    ((ref "b").minus.alone rfl : Produces product _ _).alone rfl
  have added : Produces sum [.fieldRef "c"] (.field { id := "c" }) :=
    ((ref "c").alone rfl : Produces product _ _).alone rfl
  exact .equals ((left.alone rfl).snoc rfl .equal ((negated.alone rfl).snoc rfl .concat added))

/-- Only the equals sign in front is left out: the other one compares, looser than what comes after it. -/
theorem parse_eq_ok_iff_produces_comparison : tokenize "=\x7ba\x7d=-\x7bb\x7d&\x7bc\x7d" = .ok comparisonTokens ∧
    parse "=\x7ba\x7d=-\x7bb\x7d&\x7bc\x7d" = .ok (.binary .equal (.field { id := "a" })
      (.binary .concat (.unary .negate (.field { id := "b" })) (.field { id := "c" }))) :=
  ⟨tokenize_comparison, ((parse_eq_ok_iff_produces tokenize_comparison).1 _).2 producesFormula_comparison⟩

end ComputedFields
