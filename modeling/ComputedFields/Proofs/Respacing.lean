import ComputedFields.Proofs.TokenPositions

/-!
# Tokens with other whitespace between them

A token ends where it does because of what comes after it, but it needs none of it (`Fronts.isWhole`). Whitespace goes
on with no token, so tokens can be written with any whitespace between them.

- `lexed_of_isWhole`: whole lexemes that whitespace keeps apart are the lexemes of the text that they make up;
- `Token.write`, `IsSpacing`: tokens written with gaps between them, and the gaps that keep them apart;
- `tokenize_write`: the text has the same tokens, but for their positions, and so the same formula, if it has one.
-/

namespace ComputedFields

/-! ## Lexemes apart -/

section Lexemes

variable {ls : List Lexeme} {rest : List Char}

/-- Lexemes that all have gaps go on with no token before them. -/
theorem ends_flatMap_text (hb : ∀ l ∈ ls, IsBlank l.gap) (ha : ∀ l ∈ ls, l.gap ≠ []) (hr : IsBlank rest) :
    Ends (ls.flatMap Lexeme.text ++ rest) := by
  cases ls with
  | nil => exact hr.ends
  | cons l ls =>
    obtain ⟨c, gap, hg⟩ := List.exists_cons_of_ne_nil (ha l List.mem_cons_self)
    have hc : Text.isWhitespace c = true := hb l List.mem_cons_self c (by simp [hg])
    simp only [List.flatMap_cons, Lexeme.text, hg, List.cons_append]
    exact ends_cons.2 (breaksToken_of_isWhitespace hc)

theorem lexed_of_isWhole (hw : ∀ l ∈ ls, l.IsWhole) (hb : ∀ l ∈ ls, IsBlank l.gap) (ha : ∀ l ∈ ls.tail, l.gap ≠ [])
    (hr : IsBlank rest) : Lexed (ls.flatMap Lexeme.text ++ rest) ls rest := by
  induction ls with
  | nil => exact .blank hr
  | cons l ls ih =>
    obtain ⟨⟨c, body, hs, hc, hk⟩, hw⟩ := List.forall_mem_cons.1 hw
    obtain ⟨hg, hb⟩ := List.forall_mem_cons.1 hb
    have hafter : Lexed (ls.flatMap Lexeme.text ++ rest) ls rest := ih hw hb fun m hm => ha m (List.mem_of_mem_tail hm)
    have hk' := ((read_append_iff (ends_flatMap_text hb ha hr)).2 hk).1
    obtain ⟨gap, source, kind⟩ := l
    simp only at hs
    subst hs
    simpa [Lexeme.text] using Lexed.lexeme hg hc hk' hafter

end Lexemes

/-! ## Tokens apart -/

/-- What a token says and how it is spelled, wherever it stands. -/
def Token.content (t : Token) : TokenKind × String := (t.kind, t.source)

/-- Tokens with a gap before each. -/
def Token.write : List String → List Token → String
  | g :: gaps, t :: ts => g ++ t.source ++ write gaps ts
  | _, _ => ""

/-- Gaps that keep tokens apart: whitespace before each token. Before the first one and before the end there need not be
any. -/
structure IsSpacing (gaps : List String) (ts : List Token) : Prop where
  length_eq : gaps.length = ts.length
  blank : ∀ g ∈ gaps, IsBlank g.toList
  apart : ∀ g ∈ gaps.tail.dropLast, g ≠ ""

/-- Lexemes with other gaps. -/
def Lexeme.respace (gaps : List String) (ls : List Lexeme) : List Lexeme :=
  (gaps.zip ls).map fun (g, l) => { l with gap := g.toList }

section Respaced

variable {gaps : List String} {ls : List Lexeme}

theorem Token.map_content_place (start : Nat) (ls : List Lexeme) :
    (place start ls).map content = ls.map fun l => (l.kind, String.ofList l.source) := by
  induction ls generalizing start with
  | nil => rfl
  | cons l ls ih =>
    rw [place, List.map_cons, ih]
    rfl

theorem Token.toList_write_place (h : gaps.length = ls.length) (start : Nat) (last : String) (position : Nat) :
    (write (gaps ++ [last]) (place start ls ++ [⟨.finish, "", position⟩])).toList =
      (Lexeme.respace gaps ls).flatMap Lexeme.text ++ last.toList := by
  induction ls generalizing gaps start with
  | nil =>
    obtain rfl := List.eq_nil_of_length_eq_zero h
    simp [write, place, Lexeme.respace]
  | cons l ls ih =>
    obtain ⟨g, gaps, rfl⟩ := List.exists_cons_of_length_eq_add_one h
    have ih := ih (Nat.succ.inj h) (start + Text.byteLength l.text)
    simp only [place, List.cons_append, write, String.toList_append, ih, String.toList_ofList]
    simp [Lexeme.respace, Lexeme.text]

theorem Lexeme.map_respace {α : Type} {f : Lexeme → α} (hf : ∀ l gap, f { l with gap } = f l)
    (h : gaps.length = ls.length) : (respace gaps ls).map f = ls.map f := by
  induction ls generalizing gaps with
  | nil => simp [respace]
  | cons l ls ih =>
    obtain ⟨g, gaps, rfl⟩ := List.exists_cons_of_length_eq_add_one h
    have ih := ih (Nat.succ.inj h)
    simp only [respace, List.zip_cons_cons, List.map_cons, hf] at ih ⊢
    rw [ih]

theorem Lexeme.exists_of_mem_respace {m : Lexeme} (h : m ∈ respace gaps ls) :
    ∃ g ∈ gaps, ∃ l ∈ ls, m = { l with gap := g.toList } := by
  obtain ⟨⟨g, l⟩, hm, rfl⟩ := List.mem_map.1 h
  obtain ⟨hg, hl⟩ := List.of_mem_zip hm
  exact ⟨g, hg, l, hl, rfl⟩

theorem Lexeme.tail_respace (gaps : List String) (ls : List Lexeme) :
    (respace gaps ls).tail = respace gaps.tail ls.tail := by
  cases gaps with
  | nil => rfl
  | cons g gaps =>
    cases ls with
    | nil => simp [respace]
    | cons l ls => rfl

/-- Lexemes of a text are lexemes again with gaps that keep them apart. -/
theorem lexed_respace (hw : ∀ l ∈ ls, l.IsWhole) (hb : ∀ g ∈ gaps, IsBlank g.toList) (ha : ∀ g ∈ gaps.tail, g ≠ "")
    {rest : List Char} (hr : IsBlank rest) :
    Lexed ((Lexeme.respace gaps ls).flatMap Lexeme.text ++ rest) (Lexeme.respace gaps ls) rest := by
  refine lexed_of_isWhole (fun m hm => ?_) (fun m hm => ?_) (fun m hm => ?_) hr
  · obtain ⟨g, _, l, hl, rfl⟩ := Lexeme.exists_of_mem_respace hm
    exact hw l hl
  · obtain ⟨g, hg, l, _, rfl⟩ := Lexeme.exists_of_mem_respace hm
    exact hb g hg
  · rw [Lexeme.tail_respace] at hm
    obtain ⟨g, hg, l, _, rfl⟩ := Lexeme.exists_of_mem_respace hm
    intro he
    exact ha g hg (String.toList_eq_nil_iff.1 he)

theorem parse_eq_ok_iff_of_lexed {text : String} {rest : List Char} {f : Formula} (h : Lexed text.toList ls rest) :
    parse text = .ok f ↔ DerivesFormula (ls.map (·.kind)) f := by
  rw [parse_eq_ok_iff, scan_eq_iff_lexed.2 h]
  exact and_iff_right rfl

/-- Tokens can be written with other whitespace between them, if only there is some. -/
theorem tokenize_write {formula : String} {ts : List Token} (h : tokenize formula = .ok ts) (hg : IsSpacing gaps ts) :
    (∃ us, tokenize (Token.write gaps ts) = .ok us ∧ us.map Token.content = ts.map Token.content) ∧
      ∀ f, parse (Token.write gaps ts) = .ok f ↔ parse formula = .ok f := by
  obtain ⟨ls, rest, hl, rfl⟩ := tokenize_eq_ok_iff_lexed.1 h
  obtain ⟨hlen, hblank, hapart⟩ := hg
  have hplace : (Token.place 0 ls).length = ls.length := by
    simpa using congrArg List.length (Token.map_content_place 0 ls)
  have hne : gaps ≠ [] := by
    rintro rfl
    simp at hlen
  obtain ⟨inner, last, rfl⟩ : ∃ inner last, gaps = inner ++ [last] := ⟨_, _, (List.dropLast_concat_getLast hne).symm⟩
  have hinner : inner.length = ls.length := by simpa [hplace] using hlen
  obtain ⟨hb, hlast⟩ := List.forall_mem_append.1 hblank
  have ha : ∀ g ∈ inner.tail, g ≠ "" := by
    cases inner with
    | nil => exact List.forall_mem_nil _
    | cons g inner => simpa using hapart
  have hnew : Lexed (Token.write (inner ++ [last]) (Token.place 0 ls ++ [⟨.finish, "", formula.utf8ByteSize⟩])).toList
      (Lexeme.respace inner ls) last.toList := by
    rw [Token.toList_write_place hinner]
    exact lexed_respace (lexed_iff_fronts.1 hl).1.isWhole hb ha (hlast last (by simp))
  refine ⟨⟨_, tokenize_eq_ok_iff_lexed.2 ⟨_, _, hnew, rfl⟩, ?_⟩, fun f => ?_⟩
  · rw [List.map_append, List.map_append, Token.map_content_place, Token.map_content_place,
      Lexeme.map_respace (fun _ _ => rfl) hinner]
    rfl
  · rw [parse_eq_ok_iff_of_lexed hnew, parse_eq_ok_iff_of_lexed hl, Lexeme.map_respace (fun _ _ => rfl) hinner]

/-- A numeral, a name that could be the letter of its exponent, a sign and a numeral, with nothing between them. -/
def closeTokens : List Token :=
  [⟨.number (Decimal.Numeral.toFloat ⟨1, 0⟩), "1", 0⟩, ⟨.identifier "e", "e", 1⟩, ⟨.plus, "+", 2⟩,
    ⟨.number (Decimal.Numeral.toFloat ⟨5, -1⟩), ".5", 3⟩, ⟨.finish, "", 5⟩]

theorem lexed_closeTokens : Lexed "1e+.5".toList [⟨[], ['1'], .number (Decimal.Numeral.toFloat ⟨1, 0⟩)⟩,
    ⟨[], ['e'], .identifier "e"⟩, ⟨[], ['+'], .plus⟩,
    ⟨[], ['.', '5'], .number (Decimal.Numeral.toFloat ⟨5, -1⟩)⟩] [] := by
  rw [show "1e+.5".toList = ['1', 'e', '+', '.', '5'] from String.toList_ofList]
  have hfraction : Lexed ['.', '5'] _ [] := @Lexed.lexeme [] ['5'] [] [] '.' _ [] nofun (by decide) rfl (.blank nofun)
  have hsign : Lexed ['+', '.', '5'] _ [] := @Lexed.lexeme [] [] _ [] '+' _ _ nofun (by decide) rfl hfraction
  have hname : Lexed ['e', '+', '.', '5'] _ [] := @Lexed.lexeme [] [] _ [] 'e' _ _ nofun (by decide) rfl hsign
  exact @Lexed.lexeme [] [] _ [] '1' _ _ nofun (by decide) rfl hname

theorem tokenize_closeTokens : tokenize "1e+.5" = .ok closeTokens :=
  tokenize_eq_ok_iff_lexed.2 ⟨_, _, lexed_closeTokens, rfl⟩

theorem isSpacing_closeTokens : IsSpacing ["", " ", "\n", "  ", "\t"] closeTokens := by
  have hblank : (["", " ", "\n", "  ", "\t"].all fun g => g.toList.all Text.isWhitespace) = true := rfl
  refine ⟨rfl, fun g hg => ?_, by decide⟩
  exact List.all_eq_true.1 (List.all_eq_true.1 hblank g hg)

theorem tokenize_write_closeTokens : tokenize "1e+.5" = .ok closeTokens ∧
    IsSpacing ["", " ", "\n", "  ", "\t"] closeTokens ∧
    Token.write ["", " ", "\n", "  ", "\t"] closeTokens = "1 e\n+  .5\t" ∧
    (∃ us, tokenize "1 e\n+  .5\t" = .ok us ∧ us.map Token.content = closeTokens.map Token.content) ∧
      ∀ f, parse "1 e\n+  .5\t" = .ok f ↔ parse "1e+.5" = .ok f := by
  have hwrite : Token.write ["", " ", "\n", "  ", "\t"] closeTokens = "1 e\n+  .5\t" := rfl
  have h := tokenize_write tokenize_closeTokens isSpacing_closeTokens
  rw [hwrite] at h
  exact ⟨tokenize_closeTokens, isSpacing_closeTokens, hwrite, h⟩

end Respaced

end ComputedFields
