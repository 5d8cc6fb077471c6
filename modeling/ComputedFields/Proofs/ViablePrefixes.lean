import ComputedFields.Proofs.ParserFaults
import ComputedFields.Proofs.TokenPositions

/-!
# Formulas up to an error

An error of the parser stands at the first token that cannot go on with what comes before it, or at a `NOT` of nothing:
the text up to there can be completed to a formula. Completions need no more than a number and brackets.

- `Viable`, `ViableArguments`: tokens that a text completes to a formula of a level, or to arguments. There is one lemma
  for each way to go on (`Viable.binary`, `Viable.paren`, `Viable.not`, `viable_identifier`, `ViableArguments.call`);
- `FailsAfter`: a fault stands after tokens with a property. What fails inside a phrase fails inside the phrases around
  it (`FailsAfter.cons`, `FailsAfter.append`);
- `failsAfter_parseLevel`: the parser fails after tokens that can be completed, by recursion along its calls;
- `exists_parse_before_error`: so the text before an error can be completed.
-/

namespace ComputedFields

/-! ## Tokens that can be completed -/

section Viable

variable {l : Nat} {k : TokenKind} {ks ks' : List TokenKind} {name : String} {op : BinaryOp} {f left : Formula}

/-- Some text completes the tokens `ks` to a formula with operators up to the level `l`. -/
def Viable (l : Nat) (ks : List TokenKind) : Prop :=
  ∃ tail ks' f, Spells tail ks' ∧ Derives l (ks ++ ks') f

/-- Some text completes the tokens `ks` to one or more arguments and the closing bracket. -/
def ViableArguments (ks : List TokenKind) : Prop :=
  ∃ tail ks', ∃ parts : List (List TokenKind × Formula), parts ≠ [] ∧ Spells tail ks' ∧
    ks ++ ks' = List.intercalate [.comma] (parts.map (·.1)) ++ [.rightParen] ∧ ∀ p ∈ parts, Derives loosest p.1 p.2

theorem Spells.close {tail : List Char} (h : Spells tail ks) : Spells (tail ++ [')']) (ks ++ [.rightParen]) :=
  h.append (ends_cons.2 breaksToken_rightParen) (.char rfl rfl .nil)

theorem Derives.viable (h : Derives l ks f) : Viable l ks := ⟨[], [], f, .nil, by simpa using h⟩

theorem derives_number (l : Nat) (x : Float) : Derives l [.number x] (.literal (.number x)) := by
  induction l with
  | zero => exact .number x
  | succ l ih => exact .tighter ih

/-- Where a formula may start, a number will do. -/
theorem viable_nil (l : Nat) : Viable l [] := by
  have hone : Spells ['1'] [.number _] := .char rfl rfl .nil
  exact ⟨['1'], _, _, hone, derives_number l _⟩

theorem Viable.tighter (h : Viable l ks) : Viable (l + 1) ks := by
  obtain ⟨tail, ks', f, hs, hd⟩ := h
  exact ⟨tail, ks', f, hs, hd.tighter⟩

theorem Viable.minus (h : Viable 0 ks) : Viable 0 (.minus :: ks) := by
  obtain ⟨tail, ks', f, hs, hd⟩ := h
  exact ⟨tail, ks', _, hs, hd.minus⟩

theorem Viable.plus (h : Viable 0 ks) : Viable 0 (.plus :: ks) := by
  obtain ⟨tail, ks', f, hs, hd⟩ := h
  exact ⟨tail, ks', _, hs, hd.plus⟩

theorem Viable.binary (h : Viable l ks') (hl : Derives (l + 1) ks left) (ho : BinaryOp.ofToken? (l + 1) k = some op) :
    Viable (l + 1) (ks ++ k :: ks') := by
  obtain ⟨tail, ks'', f, hs, hd⟩ := h
  refine ⟨tail, ks'', .binary op left f, hs, ?_⟩
  simpa using hl.binary ho hd

theorem Viable.paren (h : Viable loosest ks) : Viable 0 (.leftParen :: ks) := by
  obtain ⟨tail, ks', f, hs, hd⟩ := h
  exact ⟨_, _, f, hs.close, by simpa using hd.paren⟩

theorem Viable.not (hn : Text.eqIgnoringAsciiCase name "NOT" = true) (h : Viable loosest ks) :
    Viable 0 (.identifier name :: .leftParen :: ks) := by
  obtain ⟨tail, ks', f, hs, hd⟩ := h
  exact ⟨_, _, _, hs.close, by simpa using hd.not hn⟩

theorem viable_boolean (b : Bool) : Viable 0 [.boolean b, .leftParen] :=
  ⟨[')'], [.rightParen], _, .char rfl rfl .nil, .booleanCall b⟩

theorem Viable.argument (h : Viable loosest ks) : ViableArguments ks := by
  obtain ⟨tail, ks', f, hs, hd⟩ := h
  exact ⟨_, _, [(ks ++ ks', f)], by simp, hs.close, by simp, by simpa using hd⟩

theorem ViableArguments.comma (h : ViableArguments ks') (hd : Derives loosest ks f) :
    ViableArguments (ks ++ .comma :: ks') := by
  obtain ⟨tail, ks'', parts, hne, hs, he, hp⟩ := h
  obtain ⟨p, parts, rfl⟩ := List.exists_cons_of_ne_nil hne
  refine ⟨tail, ks'', (ks, f) :: p :: parts, by simp, hs, ?_, List.forall_mem_cons.2 ⟨hd, hp⟩⟩
  rw [List.append_assoc, List.cons_append, he]
  simp [List.intercalate]

theorem ViableArguments.call (hn : Text.eqIgnoringAsciiCase name "NOT" = false) (h : ViableArguments ks) :
    Viable 0 (.identifier name :: .leftParen :: ks) := by
  obtain ⟨tail, ks', parts, _, hs, he, hp⟩ := h
  refine ⟨tail, ks', .call (Text.toUpper name) (parts.map (·.2)), hs, ?_⟩
  simpa [he] using Derives.call parts hn hp

theorem viable_open (name : String) : Viable 0 [.identifier name, .leftParen] := by
  cases hn : Text.eqIgnoringAsciiCase name "NOT" with
  | true => exact (viable_nil loosest).not hn
  | false => exact (viable_nil loosest).argument.call hn

/-- A name can be the name of a function. -/
theorem viable_identifier (name : String) : Viable 0 [.identifier name] := by
  obtain ⟨tail, ks, f, hs, hd⟩ := viable_open name
  exact ⟨'(' :: tail, .leftParen :: ks, f, .char rfl rfl hs, hd⟩

end Viable

/-! ## Faults after such tokens -/

section Faults

variable {e : ParseFault} {t : Token} {ts us : List Token} {P : List TokenKind → Prop}

/-- A fault stands at the first of the tokens that are left, or at a `NOT` with nothing in its brackets. -/
def ParseFault.StandsAt : ParseFault → List Token → Prop
  | unmet _ rest, ts => ts = rest
  | emptyNot token, ts => ∃ us, ts = token :: us

/-- A fault stands after tokens that have a property. -/
def FailsAfter (ts : List Token) (e : ParseFault) (P : List TokenKind → Prop) : Prop :=
  ∃ us vs, ts = us ++ vs ∧ e.StandsAt vs ∧ P (kinds us)

theorem failsAfter_unmet {expected : Expected} {rest : List Token} (us : List Token) (h : P (kinds us)) :
    FailsAfter (us ++ rest) (.unmet expected rest) P :=
  ⟨us, rest, rfl, rfl, h⟩

theorem FailsAfter.imp {Q : List TokenKind → Prop} (h : FailsAfter ts e P) (hi : ∀ ks, P ks → Q ks) :
    FailsAfter ts e Q := by
  obtain ⟨us, vs, rfl, he, hp⟩ := h
  exact ⟨us, vs, rfl, he, hi _ hp⟩

theorem FailsAfter.append (h : FailsAfter ts e fun ks => P (kinds us ++ ks)) : FailsAfter (us ++ ts) e P := by
  obtain ⟨vs, ws, rfl, he, hp⟩ := h
  exact ⟨us ++ vs, ws, by simp, he, by simpa using hp⟩

theorem FailsAfter.cons (h : FailsAfter ts e fun ks => P (t.kind :: ks)) : FailsAfter (t :: ts) e P :=
  @FailsAfter.append e ts [t] P h

mutual

/-- The parser fails after tokens that can be completed. -/
theorem failsAfter_parseLevel {l : Nat} {ts : List Token} {e : ParseFault} (h : parseLevel l ts = .error e) :
    FailsAfter ts e (Viable l) := by
  cases l with
  | zero =>
    rw [parseLevel] at h
    exact failsAfter_parseUnary h
  | succ l =>
    obtain h | ⟨left, mid, hr, ho⟩ := fails_parseLevel_succ h
    · exact (failsAfter_parseLevel h).imp fun _ => Viable.tighter
    · have hb := hr.bound
      obtain ⟨us, rfl, hd⟩ := derives_of_parseLevel hr
      exact (failsAfter_parseOperators ho hd.tighter).append
termination_by (ts.length, l + 2)
decreasing_by
  · exact Prod.Lex.right _ (by omega)
  · exact Prod.Lex.right _ (by omega)
  · subst_vars
    exact Prod.Lex.left _ _ hb

theorem failsAfter_parseOperators {l : Nat} {ts : List Token} {left : Formula} {ks : List TokenKind} {e : ParseFault}
    (h : parseOperators l left ts = .error e) (hl : Derives (l + 1) ks left) :
    FailsAfter ts e fun ks' => Viable (l + 1) (ks ++ ks') := by
  match ts, h with
  | [], h => exact absurd h fails_parseOperators_nil
  | t :: us, h =>
    obtain ⟨op, ho, h | ⟨right, mid, hr, hm⟩⟩ := fails_parseOperators_cons h
    · exact ((failsAfter_parseLevel h).imp fun _ hv => hv.binary hl ho).cons
    · have hb := hr.bound
      obtain ⟨vs, rfl, hd⟩ := derives_of_parseLevel hr
      have hf := failsAfter_parseOperators hm (hl.binary ho hd)
      exact (hf.imp fun ks' hv => by simpa using hv).append.cons
termination_by (ts.length, 0)
decreasing_by
  · exact Prod.Lex.left _ _ (Nat.lt_succ_self _)
  · subst_vars
    exact Prod.Lex.left _ _ (Nat.lt_succ_of_lt hb)

theorem failsAfter_parseUnary {ts : List Token} {e : ParseFault} (h : parseUnary ts = .error e) :
    FailsAfter ts e (Viable 0) := by
  match ts, h with
  | [], h =>
    rw [fails_parseUnary_nil h]
    exact failsAfter_unmet [] (viable_nil 0)
  | t :: us, h =>
    obtain ⟨hk, hf⟩ | ⟨hk, hf⟩ | hf := fails_parseUnary_cons h
    · exact ((failsAfter_parseUnary hf).imp fun _ hv => hk ▸ hv.minus).cons
    · exact ((failsAfter_parseUnary hf).imp fun _ hv => hk ▸ hv.plus).cons
    · exact failsAfter_parsePrimary hf
termination_by (ts.length, 1)
decreasing_by
  · exact Prod.Lex.left _ _ (Nat.lt_succ_self _)
  · exact Prod.Lex.left _ _ (Nat.lt_succ_self _)
  · exact Prod.Lex.right _ Nat.zero_lt_one

theorem failsAfter_parsePrimary {t : Token} {ts : List Token} {e : ParseFault} (h : parsePrimary t ts = .error e) :
    FailsAfter (t :: ts) e (Viable 0) := by
  obtain ⟨b, hk, hf⟩ | ⟨hk, hf⟩ | ⟨name, hk, hf⟩ | rfl := fails_parsePrimary h
  · obtain ⟨u, us, rfl, hu, rfl⟩ := fails_skipEmptyBrackets hf
    exact failsAfter_unmet [t, u] (by simpa [hk, hu] using viable_boolean b)
  · obtain hf | ⟨f, rest, hr, rfl⟩ := hf
    · exact ((failsAfter_parseLevel hf).imp fun _ hv => hk ▸ hv.paren).cons
    · obtain ⟨us, rfl, hd⟩ := derives_of_parseLevel hr
      exact failsAfter_unmet (t :: us) (by simpa [hk] using hd.viable.paren)
  · obtain rfl | ⟨u, us, rfl, hu, ⟨hn, hf⟩ | ⟨hn, hf⟩⟩ := hf
    · exact failsAfter_unmet [t] (by simpa [hk] using viable_identifier name)
    · obtain rfl | hf | ⟨f, rest, expected, hr, rfl⟩ := fails_parseNot hf
      · exact ⟨[], _, rfl, ⟨_, rfl⟩, viable_nil 0⟩
      · refine ((failsAfter_parseLevel hf).imp fun _ hv => ?_).cons.cons
        rw [hk, hu]
        exact hv.not hn
      · obtain ⟨vs, rfl, hd⟩ := derives_of_parseLevel hr
        exact failsAfter_unmet (t :: u :: vs) (by simpa [hk, hu] using hd.viable.not hn)
    · obtain rfl | hf := fails_parseArguments hf
      · exact failsAfter_unmet [t, u] (by simpa [hk, hu] using viable_open name)
      · refine ((failsAfter_parseArgumentList hf).imp fun _ hv => ?_).cons.cons
        rw [hk, hu]
        exact hv.call hn
  · exact failsAfter_unmet [] (viable_nil 0)
termination_by ((t :: ts).length, 0)
decreasing_by
  · exact Prod.Lex.left _ _ (Nat.lt_succ_self _)
  · subst_vars
    exact Prod.Lex.left _ _ (Nat.lt_succ_of_lt (Nat.lt_succ_self _))
  · subst_vars
    exact Prod.Lex.left _ _ (Nat.lt_succ_of_lt (Nat.lt_succ_self _))

theorem failsAfter_parseArgumentList {ts : List Token} {e : ParseFault} (h : parseArgumentList ts = .error e) :
    FailsAfter ts e ViableArguments := by
  obtain h | ⟨f, rest, hr, hf⟩ := fails_parseArgumentList h
  · exact (failsAfter_parseLevel h).imp fun _ => Viable.argument
  · have hb := hr.bound
    obtain ⟨us, rfl, hd⟩ := derives_of_parseLevel hr
    obtain rfl | ⟨u, vs, rfl, hu, hf⟩ := hf
    · exact failsAfter_unmet us hd.viable.argument
    · refine ((failsAfter_parseArgumentList hf).imp fun _ hv => ?_).cons.append
      rw [hu]
      exact hv.comma hd
termination_by (ts.length, loosest + 3)
decreasing_by
  · exact Prod.Lex.right _ (by omega)
  · subst_vars
    exact Prod.Lex.left _ _ (Nat.lt_of_succ_lt hb)

end

/-- Some text completes the tokens `ks` to a whole formula. -/
def ViableFormula (ks : List TokenKind) : Prop := ∃ tail ks' f, Spells tail ks' ∧ DerivesFormula (ks ++ ks') f

theorem Viable.formula {ks : List TokenKind} (h : Viable loosest ks) : ViableFormula ks := by
  obtain ⟨tail, ks', f, hs, hd⟩ := h
  exact ⟨tail, ks', f, hs, .inl hd⟩

theorem Viable.equals {ks : List TokenKind} (h : Viable loosest ks) : ViableFormula (.equal :: ks) := by
  obtain ⟨tail, ks', f, hs, hd⟩ := h
  exact ⟨tail, ks', f, hs, .inr ⟨_, rfl, hd⟩⟩

theorem skipEquals_cases (ts : List Token) :
    skipEquals ts = ts ∨ ∃ t us, ts = t :: us ∧ t.kind = .equal ∧ skipEquals ts = us := by
  cases ts with
  | nil => exact .inl rfl
  | cons t us =>
    dsimp only [skipEquals]
    split
    · next hk => exact .inr ⟨t, us, rfl, hk, rfl⟩
    · exact .inl rfl

theorem failsAfter_parseTokens (h : parseTokens ts = .error e) : FailsAfter ts e ViableFormula := by
  have hlevel : FailsAfter (skipEquals ts) e (Viable loosest) := by
    obtain h | ⟨f, rest, hr, rfl⟩ := fails_parseTokens h
    · exact failsAfter_parseLevel h
    · obtain ⟨us, he, hd⟩ := derives_of_parseLevel hr
      rw [he]
      exact failsAfter_unmet us hd.viable
  obtain he | ⟨t, us, rfl, hk, he⟩ := skipEquals_cases ts
  · rw [he] at hlevel
    exact hlevel.imp fun _ => Viable.formula
  · rw [he] at hlevel
    exact (hlevel.imp fun _ hv => hk ▸ hv.equals).cons

/-- The error of a fault is at the token where it stands, or at the end. -/
theorem ParseFault.StandsAt.position_toError (h : e.StandsAt ts) (stop : Nat) :
    (e.toError stop).position = (ts.head?.map (·.position)).getD stop := by
  cases e with
  | unmet expected rest =>
    obtain rfl : ts = rest := h
    cases ts <;> rfl
  | emptyNot token =>
    obtain ⟨us, rfl⟩ := h
    rfl

end Faults

/-! ## Texts up to an error -/

section Texts

open Text (byteLength byteLength_append byteLength_toList)

variable {formula : String} {e : ParseError}

/-- A text can be cut where a token starts, or at its end, and has the tokens before it. -/
theorem Lexed.exists_cut {cs rest : List Char} {front back : List Lexeme} (h : Lexed cs (front ++ back) rest) :
    ∃ before after, cs = before ++ after ∧ Spells before (front.map (·.kind)) ∧
      ((Token.place (byteLength (front.flatMap Lexeme.text)) back).head?.map (·.position)).getD (byteLength cs) =
        byteLength before := by
  obtain ⟨hf, hrest⟩ := lexed_iff_fronts.1 h
  have hcs := hf.eq_append
  have hfront := hf.left
  cases back with
  | nil =>
    refine ⟨cs, [], by simp, ?_, rfl⟩
    simpa using h.spells
  | cons l back =>
    have hgap : IsBlank l.gap := hf.isBlank_gap l (by simp)
    rw [List.flatMap_cons, Lexeme.text, List.append_assoc, List.append_assoc] at hfront
    refine ⟨front.flatMap Lexeme.text ++ l.gap, l.source ++ (back.flatMap Lexeme.text ++ rest), ?_,
      (hfront.lexed_cut hgap).spells, ?_⟩
    · rw [hcs]
      simp [Lexeme.text]
    · rw [byteLength_append]
      rfl

theorem parse_eq_error_iff_lexed : parse formula = .error (.parse e) ↔ ∃ ls rest fault,
    Lexed formula.toList ls rest ∧ parseTokens (Token.place 0 ls) = .error fault ∧
      e = fault.toError formula.utf8ByteSize := by
  rw [parse]
  constructor
  · intro h
    split at h
    · cases h
    · next ts hl =>
      obtain ⟨ls, rest, hlexed, rfl⟩ := lex_eq_ok_iff_lexed.1 hl
      split at h
      · next fault hfault =>
        cases h
        exact ⟨ls, rest, fault, hlexed, hfault, rfl⟩
      · cases h
  · rintro ⟨ls, rest, fault, hl, hfault, rfl⟩
    rw [lex_eq_ok_iff_lexed.2 ⟨ls, rest, hl, rfl⟩]
    dsimp only
    rw [hfault]

/-- A completion of what a text spells completes the text, after a space. -/
theorem exists_parse_append {before : List Char} {ks : List TokenKind} (hs : Spells before ks) (hv : ViableFormula ks) :
    ∃ rest f, parse (String.ofList before ++ rest) = .ok f := by
  obtain ⟨tail, ks', f, ht, hd⟩ := hv
  have hspace : Ends (' ' :: tail) := ends_cons.2 (breaksToken_of_isWhitespace rfl)
  refine ⟨String.ofList (' ' :: tail), f, parse_eq_ok_iff_spells.2 ⟨ks ++ ks', ?_, hd⟩⟩
  rw [String.toList_append, String.toList_ofList, String.toList_ofList]
  exact hs.append hspace (ht.space rfl)

/-- An error of the parser is at the start of a token, or at the end, and the text before it can be completed. -/
theorem exists_parse_before_error (h : parse formula = .error (.parse e)) :
    (∃ ts, tokenize formula = .ok ts ∧
      ∃ t ∈ ts, t.position = e.position ∧ (t.kind = .finish → e.position = formula.utf8ByteSize)) ∧
    ∃ p : formula.Pos, p.offset.byteIdx = e.position ∧
      ∃ rest f, parse ((formula.sliceTo p).copy ++ rest) = .ok f := by
  obtain ⟨ls, rest, fault, hl, hfault, rfl⟩ := parse_eq_error_iff_lexed.1 h
  obtain ⟨us, vs, hts, hstands, hv⟩ := failsAfter_parseTokens hfault
  have hposition := hstands.position_toError formula.utf8ByteSize
  constructor
  · refine ⟨_, tokenize_eq_ok_iff_lexed.2 ⟨ls, rest, hl, rfl⟩, ?_⟩
    cases vs with
    | nil => exact ⟨_, List.mem_append_right _ (List.mem_singleton_self _), hposition.symm, fun _ => hposition⟩
    | cons t vs =>
      have ht : t ∈ Token.place 0 ls := by simp [hts]
      refine ⟨t, List.mem_append_left _ ht, hposition.symm, fun hk => absurd hk ?_⟩
      obtain ⟨front, l, back, rfl, rfl⟩ := Token.exists_of_mem_place ht
      exact ((lexed_iff_fronts.1 hl).1.isWhole l (by simp)).kind_ne_finish
  · obtain ⟨front, back, rfl, rfl, rfl⟩ := Token.exists_of_place_eq_append hts
    obtain ⟨before, after, htext, hs, hstart⟩ := hl.exists_cut
    obtain ⟨p, hp⟩ := exists_splits htext
    rw [kinds_place] at hv
    rw [byteLength_toList] at hstart
    rw [Nat.zero_add, hstart] at hposition
    refine ⟨p, (byteIdx_of_splits hp).trans hposition.symm, ?_⟩
    rw [hp.copy_sliceTo_eq]
    exact exists_parse_append hs hv

theorem lexed_missingBracket : Lexed "('ü'\x7bé\x7d)".toList [⟨[], ['('], .leftParen⟩,
    ⟨[], ['\'', 'ü', '\''], .text "ü"⟩, ⟨[], ['\x7b', 'é', '\x7d'], .fieldRef "é"⟩, ⟨[], [')'], .rightParen⟩] [] := by
  rw [show "('ü'\x7bé\x7d)".toList = ['(', '\'', 'ü', '\'', '\x7b', 'é', '\x7d', ')'] from String.toList_ofList]
  have hclose : Lexed [')'] _ [] := @Lexed.lexeme [] [] [] [] ')' _ [] nofun (by decide) rfl (.blank nofun)
  have hfield : Lexed ['\x7b', 'é', '\x7d', ')'] _ [] :=
    @Lexed.lexeme [] ['é', '\x7d'] _ [] '\x7b' _ _ nofun (by decide) rfl hclose
  have htext : Lexed ['\'', 'ü', '\'', '\x7b', 'é', '\x7d', ')'] _ [] :=
    @Lexed.lexeme [] ['ü', '\''] _ [] '\'' _ _ nofun (by decide) rfl hfield
  exact @Lexed.lexeme [] [] _ [] '(' _ _ nofun (by decide) rfl htext

theorem exists_parse_before_error_missingBracket :
    parse "('ü'\x7bé\x7d)" = .error (.parse ⟨5, .rightParen, .token (.fieldRef "é")⟩) ∧
    (∃ ts, tokenize "('ü'\x7bé\x7d)" = .ok ts ∧
      ∃ t ∈ ts, t.position = 5 ∧ (t.kind = .finish → 5 = "('ü'\x7bé\x7d)".utf8ByteSize)) ∧
    ∃ p : "('ü'\x7bé\x7d)".Pos, p.offset.byteIdx = 5 ∧
      ∃ rest f, parse (("('ü'\x7bé\x7d)".sliceTo p).copy ++ rest) = .ok f := by
  have h : parse "('ü'\x7bé\x7d)" = .error (.parse ⟨5, .rightParen, .token (.fieldRef "é")⟩) := by
    refine parse_eq_error_iff_lexed.2 ⟨_, _, .unmet .rightParen (Token.place 5
      [⟨[], ['\x7b', 'é', '\x7d'], .fieldRef "é"⟩, ⟨[], [')'], .rightParen⟩]), lexed_missingBracket, ?_, rfl⟩
    have hstart : byteLength (Lexeme.text ⟨[], ['('], .leftParen⟩) +
      byteLength (Lexeme.text ⟨[], ['\'', 'ü', '\''], .text "ü"⟩) = 5 := rfl
    simp [parseTokens, skipEquals, Token.place, loosest, parseLevel, parseOperators, parseUnary, parsePrimary,
      BinaryOp.ofToken?, hstart]
  exact ⟨h, exists_parse_before_error h⟩

end Texts

end ComputedFields
