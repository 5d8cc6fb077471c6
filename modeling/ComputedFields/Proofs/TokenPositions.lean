import ComputedFields.Proofs.TokenCuts

/-!
# Where tokens stand

The position of a token is the number of bytes before it. Here positions are those of the text itself, which lie between
its characters.

- `Token.exists_of_place_eq_append`, `Token.exists_of_mem_place`: a token stands after the text of the lexemes before
  its own and the gap in front of it;
- `exists_extract`: so the source of a token is the text between two positions, at its start and at its stop;
- `Token.pairwise_place`, `Lexed.exists_mem_place`: tokens stand one after the other, and only whitespace is outside;
- `accountsFor_tokenize`: so the tokens of a text account for all of it;
- `failsAt_of_tokenize_eq_error`: where a text has a fault, the text before it has the tokens found so far.
-/

namespace ComputedFields

open Text (byteLength byteLength_append byteLength_ofList byteLength_toList)

/-! ## Positions of a text -/

section Positions

variable {s : String} {before source after : List Char}

/-- A text has a position wherever it is parted. -/
theorem exists_splits (h : s.toList = before ++ after) :
    ∃ p : s.Pos, p.Splits (String.ofList before) (String.ofList after) := by
  have hs : s = String.ofList before ++ String.ofList after := by
    rw [← String.ofList_append, ← h, String.ofList_toList]
  exact ⟨.ofEqAppend hs, String.Pos.splits_ofEqAppend hs⟩

theorem byteIdx_of_splits {t : String} {p : s.Pos} (h : p.Splits (String.ofList before) t) :
    p.offset.byteIdx = byteLength before := by
  rw [h.offset_eq_rawEndPos, String.byteIdx_rawEndPos, byteLength_ofList]

theorem extract_of_splits {a m b : String} {p q : s.Pos} (hp : p.Splits a (m ++ b)) (hq : q.Splits (a ++ m) b) :
    String.extract p q = m := by
  have hstart : p.offset.byteIdx = a.toByteArray.size + 0 := by
    rw [hp.offset_eq_rawEndPos, String.byteIdx_rawEndPos, String.size_toByteArray, Nat.add_zero]
  have hstop : q.offset.byteIdx = a.toByteArray.size + m.toByteArray.size := by
    rw [hq.offset_eq_rawEndPos, String.byteIdx_rawEndPos, String.utf8ByteSize_append, String.size_toByteArray,
      String.size_toByteArray]
  rw [← String.toByteArray_inj, String.toByteArray_extract, hstart, hstop, hp.eq_append, String.toByteArray_append,
    String.toByteArray_append, ByteArray.extract_append_size_add, ByteArray.extract_append_eq_left rfl]

/-- A part of a text stands between two positions. -/
theorem exists_extract (h : s.toList = before ++ source ++ after) :
    ∃ p q : s.Pos, p.offset.byteIdx = byteLength before ∧ q.offset.byteIdx = byteLength before + byteLength source ∧
      String.extract p q = String.ofList source := by
  obtain ⟨q, hq⟩ := exists_splits h
  rw [List.append_assoc] at h
  obtain ⟨p, hp⟩ := exists_splits h
  refine ⟨p, q, byteIdx_of_splits hp, ?_, ?_⟩
  · rw [byteIdx_of_splits hq, byteLength_append]
  · rw [String.ofList_append] at hp hq
    exact extract_of_splits hp hq

end Positions

/-! ## Tokens of lexemes -/

theorem byteLength_pos {cs : List Char} (h : cs ≠ []) : 0 < byteLength cs := by
  obtain ⟨c, cs, rfl⟩ := List.exists_cons_of_ne_nil h
  have hc := c.utf8Size_pos
  rw [byteLength]
  omega

theorem Lexeme.byteLength_text (l : Lexeme) : byteLength l.text = byteLength l.gap + byteLength l.source :=
  byteLength_append _ _

namespace Token

variable {ls : List Lexeme} {start : Nat} {t : Token}

/-- Tokens are parted where their lexemes are, and the later ones stand after the text of the earlier ones. -/
theorem exists_of_place_eq_append {us vs : List Token} (h : place start ls = us ++ vs) :
    ∃ front back, ls = front ++ back ∧ us = place start front ∧
      vs = place (start + byteLength (front.flatMap Lexeme.text)) back := by
  induction us generalizing start ls with
  | nil => exact ⟨[], ls, rfl, rfl, h.symm⟩
  | cons u us ih =>
    cases ls with
    | nil => cases h
    | cons l ls =>
      rw [place, List.cons_append] at h
      obtain ⟨rfl, htail⟩ := List.cons.inj h
      obtain ⟨front, back, rfl, rfl, rfl⟩ := ih htail
      refine ⟨l :: front, back, rfl, rfl, ?_⟩
      rw [List.flatMap_cons, byteLength_append, Nat.add_assoc]

/-- A token stands after the lexemes before its own, and after the gap in front of it. -/
theorem exists_of_mem_place (h : t ∈ place start ls) : ∃ front l back, ls = front ++ l :: back ∧
    t = ⟨l.kind, String.ofList l.source, start + byteLength (front.flatMap Lexeme.text ++ l.gap)⟩ := by
  obtain ⟨us, vs, h⟩ := List.append_of_mem h
  obtain ⟨front, back, rfl, _, hback⟩ := exists_of_place_eq_append h
  cases back with
  | nil => cases hback
  | cons l back =>
    obtain ⟨rfl, _⟩ := List.cons.inj hback
    refine ⟨front, l, back, rfl, ?_⟩
    rw [byteLength_append, Nat.add_assoc]

theorem le_position_of_mem_place (h : t ∈ place start ls) : start ≤ t.position := by
  obtain ⟨front, l, back, rfl, rfl⟩ := exists_of_mem_place h
  exact Nat.le_add_right _ _

theorem stop_le_of_mem_place (h : t ∈ place start ls) : t.stop ≤ start + byteLength (ls.flatMap Lexeme.text) := by
  obtain ⟨front, l, back, rfl, rfl⟩ := exists_of_mem_place h
  simp only [stop, byteLength_ofList, List.flatMap_append, List.flatMap_cons, byteLength_append, l.byteLength_text]
  omega

/-- A token that says something takes at least one byte. -/
theorem position_lt_stop (h : t.source ≠ "") : t.position < t.stop := by
  have hs : t.source.utf8ByteSize ≠ 0 := fun h0 => h (String.utf8ByteSize_eq_zero_iff.1 h0)
  rw [stop]
  omega

theorem source_ne_empty_of_mem_place (hs : ∀ l ∈ ls, l.source ≠ []) (h : t ∈ place start ls) : t.source ≠ "" := by
  obtain ⟨front, l, back, rfl, rfl⟩ := exists_of_mem_place h
  intro he
  exact hs l (by simp) (String.ofList_eq_empty_iff.1 he)

/-- Tokens stand one after the other. -/
theorem pairwise_place (hs : ∀ l ∈ ls, l.source ≠ []) (start : Nat) :
    (place start ls).Pairwise fun t u => t.position < u.position ∧ t.stop ≤ u.position := by
  induction ls generalizing start with
  | nil => exact .nil
  | cons l ls ih =>
    rw [place]
    refine .cons (fun u hu => ?_) (ih (fun m hm => hs m (List.mem_cons_of_mem _ hm)) _)
    have hl := byteLength_pos (hs l List.mem_cons_self)
    have hle := le_position_of_mem_place hu
    rw [l.byteLength_text] at hle
    simp only [stop, byteLength_ofList]
    omega

end Token

/-! ## Texts with tokens -/

section Texts

variable {formula : String} {ts : List Token}

theorem lex_eq_ok_iff_lexed :
    lex formula = .ok ts ↔ ∃ ls rest, Lexed formula.toList ls rest ∧ ts = Token.place 0 ls := by
  unfold lex
  dsimp only
  constructor
  · intro h
    cases hf : (scan formula.toList).fault with
    | some e =>
      rw [hf] at h
      cases h
    | none =>
      rw [hf] at h
      have hs : scan formula.toList = ⟨(scan formula.toList).lexemes, (scan formula.toList).rest, none⟩ := by rw [← hf]
      exact ⟨_, _, scan_eq_iff_lexed.1 hs, (Except.ok.inj h).symm⟩
  · rintro ⟨ls, rest, hl, rfl⟩
    rw [scan_eq_iff_lexed.2 hl]

theorem tokenize_eq_ok_iff_lexed : tokenize formula = .ok ts ↔ ∃ ls rest, Lexed formula.toList ls rest ∧
    ts = Token.place 0 ls ++ [⟨.finish, "", formula.utf8ByteSize⟩] := by
  rw [tokenize]
  constructor
  · intro h
    cases hl : lex formula with
    | error e =>
      rw [hl] at h
      cases h
    | ok us =>
      rw [hl] at h
      cases h
      obtain ⟨ls, rest, hlexed, rfl⟩ := lex_eq_ok_iff_lexed.1 hl
      exact ⟨ls, rest, hlexed, rfl⟩
  · rintro ⟨ls, rest, hl, rfl⟩
    rw [lex_eq_ok_iff_lexed.2 ⟨ls, rest, hl, rfl⟩]
    rfl

/-- A character stands in one of two parts of a text. -/
theorem append_eq_append_cons {a b before after : List Char} {c : Char} (h : a ++ b = before ++ c :: after) :
    (∃ w, a = before ++ c :: w) ∨ ∃ w, before = a ++ w ∧ b = w ++ c :: after := by
  obtain ⟨w, hb, ha⟩ | ⟨w, ha, hb⟩ := List.append_eq_append_iff.1 h
  · exact .inr ⟨w, hb, ha⟩
  · cases w with
    | nil => exact .inr ⟨[], by simpa using ha.symm, by simpa using hb.symm⟩
    | cons d w =>
      cases hb
      exact .inl ⟨w, ha⟩

/-- A character that is not whitespace stands in a token. -/
theorem Lexed.exists_mem_place {cs rest before after : List Char} {ls : List Lexeme} {c : Char} (h : Lexed cs ls rest)
    (hcs : cs = before ++ c :: after) (hc : Text.isWhitespace c = false) (start : Nat) :
    ∃ t ∈ Token.place start ls, t.position ≤ start + byteLength before ∧ start + byteLength before < t.stop := by
  have hblank {w : List Char} (hw : IsBlank w) : c ∉ w := fun hm => by
    rw [hw c hm] at hc
    cases hc
  induction h generalizing before start with
  | blank hb => exact absurd (by simp [hcs]) (hblank hb)
  | @lexeme gap body tail rest d kind ls hg _ _ _ ih =>
    rw [List.append_assoc] at hcs
    obtain ⟨w, rfl⟩ | ⟨w, rfl, hbody⟩ := append_eq_append_cons hcs
    · exact absurd (by simp) (hblank hg)
    · rw [Token.place]
      obtain ⟨v, hv⟩ | ⟨v, rfl, htail⟩ := append_eq_append_cons hbody
      · refine ⟨_, List.mem_cons_self, ?_⟩
        have hpos := c.utf8Size_pos
        simp only [Token.stop, hv, byteLength_ofList, byteLength_append, byteLength]
        omega
      · obtain ⟨t, ht, hle, hlt⟩ := ih htail (start + byteLength (gap ++ d :: body))
        refine ⟨t, List.mem_cons_of_mem _ ht, ?_⟩
        simp only [byteLength_append] at hle hlt ⊢
        omega

end Texts

/-! ## What tokens leave out -/

section Outside

variable {formula : String} {ls : List Lexeme} {rest : List Char} {t : Token}

theorem Lexed.exists_extract_of_mem_place (h : Lexed formula.toList ls rest) (ht : t ∈ Token.place 0 ls) :
    ∃ p q : formula.Pos, p.offset.byteIdx = t.position ∧ q.offset.byteIdx = t.stop ∧ String.extract p q = t.source := by
  obtain ⟨front, l, back, rfl, rfl⟩ := Token.exists_of_mem_place ht
  have he : formula.toList = (front.flatMap Lexeme.text ++ l.gap) ++ l.source ++
      (back.flatMap Lexeme.text ++ rest) := by
    rw [(lexed_iff_fronts.1 h).1.eq_append]
    simp [Lexeme.text]
  simpa [Token.stop, byteLength_ofList] using exists_extract he

theorem Lexed.stop_le (h : Lexed formula.toList ls rest) (ht : t ∈ Token.place 0 ls) :
    t.stop ≤ formula.utf8ByteSize := by
  have hstop := Token.stop_le_of_mem_place ht
  rw [← byteLength_toList, (lexed_iff_fronts.1 h).1.eq_append, byteLength_append]
  omega

/-- What is outside all tokens is whitespace. -/
theorem Lexed.isWhitespace_of_outside (h : Lexed formula.toList ls rest) {p : formula.Pos} (hp : p ≠ formula.endPos)
    (ho : ∀ t ∈ Token.place 0 ls, ¬ (t.position ≤ p.offset.byteIdx ∧ p.offset.byteIdx < t.stop)) :
    Text.isWhitespace (p.get hp) = true := by
  have hs := p.splits_next_right hp
  have he : formula.toList =
      (formula.sliceTo p).copy.toList ++ p.get hp :: (formula.sliceFrom (p.next hp)).copy.toList :=
    (congrArg String.toList hs.eq_append).trans (by simp)
  by_contra hc
  obtain ⟨t, ht, hle, hlt⟩ := h.exists_mem_place he (by simpa using hc) 0
  refine ho t ht ?_
  rw [hs.offset_eq_rawEndPos, String.byteIdx_rawEndPos, ← byteLength_toList]
  omega

/-- The tokens account for all of a formula. -/
structure AccountsFor (tokens : List Token) (formula : String) : Prop where
  /-- A token is what stands between its start and its stop, which lie between characters. -/
  source : ∀ t ∈ tokens, ∃ p q : formula.Pos, p.offset.byteIdx = t.position ∧ q.offset.byteIdx = t.stop ∧
    String.extract p q = t.source
  /-- A token starts after the start, and not before the stop, of those in front of it. -/
  apart : tokens.Pairwise fun t u => t.position < u.position ∧ t.stop ≤ u.position
  /-- What is outside all tokens is whitespace. -/
  gaps : ∀ (p : formula.Pos) (h : p ≠ formula.endPos),
    (∀ t ∈ tokens, ¬ (t.position ≤ p.offset.byteIdx ∧ p.offset.byteIdx < t.stop)) → Text.isWhitespace (p.get h) = true
  /-- The last token, and no other, is the end of the formula, and no other token is empty. -/
  finish : ∃ front, tokens = front ++ [⟨.finish, "", formula.utf8ByteSize⟩] ∧
    ∀ t ∈ front, t.kind ≠ .finish ∧ t.source ≠ ""

/-- Nothing but whitespace gets lost between the tokens of a formula. -/
theorem accountsFor_tokenize {ts : List Token} (h : tokenize formula = .ok ts) : AccountsFor ts formula := by
  obtain ⟨ls, rest, hl, rfl⟩ := tokenize_eq_ok_iff_lexed.1 h
  have hwhole := (lexed_iff_fronts.1 hl).1.isWhole
  have hsource (l : Lexeme) (hm : l ∈ ls) : l.source ≠ [] := (hwhole l hm).source_ne_nil
  refine ⟨?_, ?_, ?_, ?_⟩
  · intro t ht
    obtain ht | ht := List.mem_append.1 ht
    · exact hl.exists_extract_of_mem_place ht
    · rw [List.mem_singleton.1 ht]
      have he : formula.toList = formula.toList ++ [] ++ [] := by simp
      simpa [Token.stop, byteLength_toList, byteLength] using exists_extract he
  · refine List.pairwise_append.2 ⟨Token.pairwise_place hsource 0, List.pairwise_singleton _ _, fun t ht u hu => ?_⟩
    rw [List.mem_singleton.1 hu]
    have hlt := Token.position_lt_stop (Token.source_ne_empty_of_mem_place hsource ht)
    have hle := hl.stop_le ht
    exact ⟨Nat.lt_of_lt_of_le hlt hle, hle⟩
  · intro p hp ho
    exact hl.isWhitespace_of_outside hp fun t ht => ho t (List.mem_append_left _ ht)
  · refine ⟨_, rfl, fun t ht => ⟨?_, Token.source_ne_empty_of_mem_place hsource ht⟩⟩
    obtain ⟨front, l, back, rfl, rfl⟩ := Token.exists_of_mem_place ht
    exact (hwhole l (by simp)).kind_ne_finish

theorem lexed_umlauts : Lexed "'né' &\x7bü\x7d".toList [⟨[], ['\'', 'n', 'é', '\''], .text "né"⟩,
    ⟨[' '], ['&'], .ampersand⟩, ⟨[], ['\x7b', 'ü', '\x7d'], .fieldRef "ü"⟩] [] := by
  rw [show "'né' &\x7bü\x7d".toList = ['\'', 'n', 'é', '\'', ' ', '&', '\x7b', 'ü', '\x7d'] from String.toList_ofList]
  have hfield : Lexed ['\x7b', 'ü', '\x7d'] _ [] :=
    @Lexed.lexeme [] ['ü', '\x7d'] [] [] '\x7b' _ [] nofun (by decide) rfl (.blank nofun)
  have hoperator : Lexed (' ' :: '&' :: ['\x7b', 'ü', '\x7d']) _ [] :=
    @Lexed.lexeme [' '] [] _ [] '&' _ _ (by simp [IsBlank]; decide) (by decide) rfl hfield
  exact @Lexed.lexeme [] ['n', 'é', '\''] _ [] '\'' _ _ nofun (by decide) rfl hoperator

theorem accountsFor_tokenize_umlauts : tokenize "'né' &\x7bü\x7d" = .ok [⟨.text "né", "'né'", 0⟩, ⟨.ampersand, "&", 6⟩,
      ⟨.fieldRef "ü", "\x7bü\x7d", 7⟩, ⟨.finish, "", 11⟩] ∧
    AccountsFor [⟨.text "né", "'né'", 0⟩, ⟨.ampersand, "&", 6⟩, ⟨.fieldRef "ü", "\x7bü\x7d", 7⟩, ⟨.finish, "", 11⟩]
      "'né' &\x7bü\x7d" := by
  have h : tokenize "'né' &\x7bü\x7d" = .ok [⟨.text "né", "'né'", 0⟩, ⟨.ampersand, "&", 6⟩,
      ⟨.fieldRef "ü", "\x7bü\x7d", 7⟩, ⟨.finish, "", 11⟩] := tokenize_eq_ok_iff_lexed.2 ⟨_, _, lexed_umlauts, rfl⟩
  exact ⟨h, accountsFor_tokenize h⟩

end Outside

/-! ## Texts with a fault -/

section Faults

variable {formula : String} {e : LexError}

/-- The tokens that scanning finds before it stops, at the end of the text or at a fault. -/
def scannedTokens (formula : String) : List Token := Token.place 0 (scan formula.toList).lexemes

theorem tokenize_eq_error_iff_lex : tokenize formula = .error e ↔ lex formula = .error e := by
  rw [tokenize]
  cases lex formula with
  | ok ts => exact ⟨nofun, nofun⟩
  | error e' => rfl

theorem tokenize_eq_error_iff : tokenize formula = .error e ↔
    (scan formula.toList).fault = some e.fault ∧ (scan formula.toList).faultPosition = e.position := by
  rw [tokenize_eq_error_iff_lex, lex]
  cases (scan formula.toList).fault with
  | none => exact ⟨nofun, nofun⟩
  | some fault =>
    constructor
    · intro h
      cases h
      exact ⟨rfl, rfl⟩
    · rintro ⟨hf, hp⟩
      cases hf
      rw [hp]

theorem parse_of_tokenize_eq_error (h : tokenize formula = .error e) : parse formula = .error (.lex e) := by
  rw [parse, tokenize_eq_error_iff_lex.1 h]

/-- Where a text has a fault, it has tokens before it, and none starts there. -/
structure FailsAt (formula : String) (e : LexError) (p : formula.Pos) : Prop where
  position : p.offset.byteIdx = e.position
  inside : p ≠ formula.endPos
  fault : ∃ c after, (formula.sliceFrom p).copy.toList = c :: after ∧ Text.isWhitespace c = false ∧
    TokenKind.read c after = .error e.fault
  /-- The tokens found so far are those of the text before the fault. -/
  tokens : tokenize (formula.sliceTo p).copy = .ok (scannedTokens formula ++ [⟨.finish, "", e.position⟩])

theorem takeWhile_gap {gap after : List Char} {c : Char} (hg : IsBlank gap) (hc : Text.isWhitespace c = false) :
    (gap ++ c :: after).takeWhile Text.isWhitespace = gap := by
  rw [List.takeWhile_append_of_pos hg, List.takeWhile_cons_of_neg (by simp [hc]), List.append_nil]

/-- The error of a text without tokens is where the first token is missing. -/
theorem failsAt_of_tokenize_eq_error (h : tokenize formula = .error e) :
    parse formula = .error (.lex e) ∧ ∃ p : formula.Pos, FailsAt formula e p := by
  refine ⟨parse_of_tokenize_eq_error h, ?_⟩
  obtain ⟨hfault, hposition⟩ := tokenize_eq_error_iff.1 h
  have hscan : scan formula.toList = ⟨(scan formula.toList).lexemes, (scan formula.toList).rest, some e.fault⟩ := by
    rw [← hfault]
  obtain ⟨hf, gap, c, after, hrest, hg, hc, hr⟩ := scan_eq_iff_stuck.1 hscan
  rw [Scan.faultPosition, hrest, takeWhile_gap hg hc, ← byteLength_append] at hposition
  rw [hrest] at hf
  have htext : formula.toList = (scan formula.toList).lexemes.flatMap Lexeme.text ++ gap ++ c :: after := by
    rw [List.append_assoc]
    exact hf.eq_append
  obtain ⟨p, hp⟩ := exists_splits htext
  refine ⟨p, ?_, ?_, ?_, ?_⟩
  · rw [byteIdx_of_splits hp, hposition]
  · intro hend
    have hnil := String.ofList_eq_empty_iff.1 (hp.eq_endPos_iff.1 hend)
    cases hnil
  · exact ⟨c, after, by rw [hp.copy_sliceFrom_eq, String.toList_ofList], hc, hr⟩
  · have hl := hf.lexed_cut hg
    rw [← String.toList_ofList (l := _ ++ gap)] at hl
    rw [hp.copy_sliceTo_eq, ← hposition, ← byteLength_ofList]
    exact tokenize_eq_ok_iff_lexed.2 ⟨_, gap, hl, rfl⟩

theorem failsAt_of_tokenize_eq_error_umlaut : tokenize "'ü'<!" = .error ⟨5, .loneExclamation⟩ ∧
    parse "'ü'<!" = .error (.lex ⟨5, .loneExclamation⟩) ∧
      ∃ p : "'ü'<!".Pos, FailsAt "'ü'<!" ⟨5, .loneExclamation⟩ p := by
  have hless : Fronts ['<', '!'] [⟨[], ['<'], .less⟩] ['!'] :=
    @Fronts.lexeme [] [] ['!'] _ '<' _ [] nofun (by decide) rfl (.nil _)
  have htext : Fronts "'ü'<!".toList [⟨[], ['\'', 'ü', '\''], .text "ü"⟩, ⟨[], ['<'], .less⟩] ['!'] := by
    rw [show "'ü'<!".toList = ['\'', 'ü', '\'', '<', '!'] from String.toList_ofList]
    exact @Fronts.lexeme [] ['ü', '\''] _ _ '\'' _ _ nofun (by decide) rfl hless
  have hstuck : Stuck ['!'] .loneExclamation := ⟨[], '!', [], rfl, nofun, by decide, rfl⟩
  have h : tokenize "'ü'<!" = .error ⟨5, .loneExclamation⟩ := by
    rw [tokenize_eq_error_iff, scan_eq_iff_stuck.2 ⟨htext, hstuck⟩]
    exact ⟨rfl, rfl⟩
  exact ⟨h, failsAt_of_tokenize_eq_error h⟩

end Faults

end ComputedFields
