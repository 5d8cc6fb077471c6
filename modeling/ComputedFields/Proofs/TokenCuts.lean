import ComputedFields.Proofs.Lexing

/-!
# Texts cut after a token

How a token is read depends on some characters after it, which may decide that it goes no further. Cutting a text takes
such characters away and brings no others, so a token stays the same wherever the text is cut after it.

- `numeralLength_of_append`: a numeral that ends before the cut is as long in the text that is left. An exponent counts
  only if it has a digit, so this is not just a matter of the next character;
- `read_of_append`: a token that ends before the cut is read in the same way in the text that is left;
- `Fronts`: lexemes at the front of a text, with anything after them. These are what scanning finds also where it fails
  (`scan_eq_iff_stuck`);
- `Fronts.cut`: the lexemes at the front of a text stay the same wherever the text is cut after them. In particular each
  of them is a lexeme on its own (`Fronts.isWhole`).
-/

namespace ComputedFields

/-! ## Numerals -/

section Numerals

variable {a u : List Char}

/-- A run of characters that ends before the cut. -/
theorem takeWhile_of_append {p : Char → Bool} (h : ((a ++ u).takeWhile p).length ≤ a.length) :
    a.takeWhile p = (a ++ u).takeWhile p := by
  induction a with
  | nil => exact (List.eq_nil_of_length_eq_zero (Nat.le_zero.1 h)).symm
  | cons c a ih =>
    rw [List.cons_append, List.takeWhile_cons] at h ⊢
    rw [List.takeWhile_cons]
    split at h
    · next hc =>
      rw [if_pos hc, if_pos hc, ih (Nat.le_of_succ_le_succ h)]
    · next hc => rw [if_neg hc, if_neg hc]

theorem digitRun_of_append (h : digitRun (a ++ u) ≤ a.length) : digitRun a = digitRun (a ++ u) :=
  congrArg List.length (takeWhile_of_append h)

theorem fractionLength_of_append (h : fractionLength (a ++ u) ≤ a.length) :
    fractionLength a = fractionLength (a ++ u) := by
  cases a with
  | nil => exact (Nat.le_zero.1 h).symm
  | cons c a =>
    by_cases hc : c = '.'
    · simp only [hc, List.cons_append, fractionLength, List.length_cons] at h ⊢
      have hd : digitRun a = digitRun (a ++ u) := digitRun_of_append (by omega)
      rw [hd]
    · simp [fractionLength, hc]

theorem exponentLength_of_append (h : exponentLength (a ++ u) ≤ a.length) :
    exponentLength a = exponentLength (a ++ u) := by
  cases a with
  | nil => exact (Nat.le_zero.1 h).symm
  | cons e a =>
    rw [List.cons_append, exponentLength_cons, List.length_cons] at h
    rw [List.cons_append, exponentLength_cons, exponentLength_cons]
    by_cases he : e = 'e' ∨ e = 'E'
    · rw [if_pos he] at h
      rw [if_pos he, if_pos he]
      cases a with
      | nil =>
        -- with nothing but the letter before the cut, digits after it would belong to the numeral
        have hd : digitRun (u.drop (signLength u)) = 0 := by
          by_contra hd
          rw [List.nil_append, if_neg hd, List.length_nil] at h
          omega
        rw [List.nil_append, if_pos hd]
        rfl
      | cons s a =>
        have hs : signLength (s :: a ++ u) = signLength (s :: a) := rfl
        have hle := signLength_le (s :: a)
        rw [hs, List.drop_append_of_le_length hle] at h ⊢
        have hd : digitRun ((s :: a).drop (signLength (s :: a))) =
            digitRun ((s :: a).drop (signLength (s :: a)) ++ u) := by
          apply digitRun_of_append
          rw [List.length_drop]
          split at h <;> omega
        rw [hd]
    · rw [if_neg he, if_neg he]

theorem numeralLength_of_append (h : numeralLength (a ++ u) ≤ a.length) : numeralLength a = numeralLength (a ++ u) := by
  rw [numeralLength_eq] at h
  have hw : digitRun a = digitRun (a ++ u) := digitRun_of_append (by omega)
  rw [← hw, List.drop_append_of_le_length (digitRun_le a)] at h
  have hf : fractionLength (a.drop (digitRun a)) = fractionLength (a.drop (digitRun a) ++ u) := by
    apply fractionLength_of_append
    rw [List.length_drop]
    omega
  rw [← hf, List.drop_append_of_le_length (wholeAndFraction_le a)] at h
  rw [numeralLength_eq, numeralLength_eq, ← hw, List.drop_append_of_le_length (digitRun_le a), ← hf,
    List.drop_append_of_le_length (wholeAndFraction_le a)]
  congr 1
  apply exponentLength_of_append
  rw [List.length_drop]
  omega

end Numerals

/-! ## Tokens -/

section Tokens

open TokenKind

variable {a u : List Char} {c : Char} {k : TokenKind} {n : Nat}

theorem readLess_of_append (h : (readLess (a ++ u)).2 ≤ a.length) : readLess a = readLess (a ++ u) := by
  cases a with
  | nil =>
    unfold readLess at h ⊢
    split at h
    · cases h
    · cases h
    · rfl
  | cons d a =>
    by_cases he : d = '='
    · simp [readLess, he]
    · by_cases hg : d = '>'
      · simp [readLess, hg]
      · simp [readLess, he, hg]

theorem readGreater_of_append (h : (readGreater (a ++ u)).2 ≤ a.length) : readGreater a = readGreater (a ++ u) := by
  cases a with
  | nil =>
    unfold readGreater at h ⊢
    split at h
    · cases h
    · rfl
  | cons d a =>
    by_cases he : d = '='
    · simp [readGreater, he]
    · simp [readGreater, he]

theorem readExclamation_of_append (h : readExclamation (a ++ u) = .ok (k, n)) (hn : n ≤ a.length) :
    readExclamation a = .ok (k, n) := by
  cases a with
  | nil =>
    unfold readExclamation at h
    split at h
    · cases h
      cases hn
    · cases h
  | cons d a =>
    by_cases he : d = '='
    · simpa [readExclamation, he] using h
    · simp [readExclamation, he] at h

/-- A numeral that starts with a point has a digit after it. -/
theorem startsNumeral_of_append (h : startsNumeral c (a ++ u) = true)
    (hn : (readNumeral (c :: (a ++ u))).2 ≤ a.length) : startsNumeral c a = true := by
  cases a with
  | cons d a => exact h
  | nil =>
    simp only [startsNumeral, List.nil_append, Bool.or_eq_true, Bool.and_eq_true, beq_iff_eq] at h
    obtain hc | ⟨rfl, hu⟩ := h
    · simp [startsNumeral, hc]
    · obtain ⟨d, hd, hdigit⟩ := (Option.any_eq_true ..).1 hu
      obtain ⟨v, rfl⟩ := List.head?_eq_some_iff.1 hd
      have hw : digitRun ('.' :: d :: v) = 0 := rfl
      have hf : fractionLength ('.' :: d :: v) = digitRun v + 2 := by
        simp [fractionLength, digitRun, hdigit]
      simp only [List.nil_append, readNumeral, numeralLength_eq, hw, List.drop_zero, hf, List.length_nil] at hn
      omega

theorem startsNumeral_append_of (u : List Char) (h : startsNumeral c a = true) : startsNumeral c (a ++ u) = true := by
  cases a with
  | cons d a => exact h
  | nil =>
    have hc : c.isDigit = true := by simpa [startsNumeral] using h
    simp [startsNumeral, hc]

theorem readNumeral_of_append (h : (readNumeral (c :: (a ++ u))).2 ≤ a.length) :
    readNumeral (c :: a) = readNumeral (c :: (a ++ u)) := by
  have hle : numeralLength (c :: a ++ u) ≤ (c :: a).length := by
    have h' : numeralLength (c :: a ++ u) - 1 ≤ a.length := h
    rw [List.length_cons]
    omega
  have hn := numeralLength_of_append hle
  rw [← List.cons_append, readNumeral, readNumeral, ← hn, List.take_append_of_le_length (numeralLength_le (c :: a))]

theorem readName_of_append (h : (readName c (a ++ u)).2 ≤ a.length) : readName c a = readName c (a ++ u) := by
  have hw : a.takeWhile isNamePart = (a ++ u).takeWhile isNamePart := takeWhile_of_append h
  rw [readName, readName, hw]

/-- A token other than a quoted text or a reference, with the text cut after it. -/
theorem read_of_append_of_ne (hq : ¬ (c = '"' ∨ c = '\'')) (hb : c ≠ '\x7b')
    (h : TokenKind.read c (a ++ u) = .ok (k, n)) (hn : n ≤ a.length) : TokenKind.read c a = .ok (k, n) := by
  unfold TokenKind.read at h ⊢
  cases hc : ofChar? c with
  | some k' =>
    simp only [hc] at h ⊢
    exact h
  | none =>
    simp only [hc, if_neg hq, if_neg hb] at h ⊢
    by_cases hl : c = '<'
    · rw [if_pos hl] at h ⊢
      have e := Except.ok.inj h
      rw [readLess_of_append (by rw [e]; exact hn), e]
    rw [if_neg hl] at h ⊢
    by_cases hg : c = '>'
    · rw [if_pos hg] at h ⊢
      have e := Except.ok.inj h
      rw [readGreater_of_append (by rw [e]; exact hn), e]
    rw [if_neg hg] at h ⊢
    by_cases he : c = '!'
    · rw [if_pos he] at h ⊢
      exact readExclamation_of_append h hn
    rw [if_neg he] at h ⊢
    by_cases hs : startsNumeral c (a ++ u) = true
    · rw [if_pos hs] at h
      have e := Except.ok.inj h
      have hle : (readNumeral (c :: (a ++ u))).2 ≤ a.length := by
        rw [e]
        exact hn
      rw [if_pos (startsNumeral_of_append hs hle), readNumeral_of_append hle, e]
    · have hs' : ¬ startsNumeral c a = true := fun ha => hs (startsNumeral_append_of u ha)
      rw [if_neg hs] at h
      rw [if_neg hs']
      by_cases hw : isNameStart c = true
      · rw [if_pos hw] at h ⊢
        have e := Except.ok.inj h
        rw [readName_of_append (by rw [e]; exact hn), e]
      · rw [if_neg hw] at h
        cases h

/-- A token that ends before the cut is read in the same way in the text that is left. -/
theorem read_of_append (h : TokenKind.read c (a ++ u) = .ok (k, n)) (hn : n ≤ a.length) :
    TokenKind.read c a = .ok (k, n) := by
  by_cases hq : c = '"' ∨ c = '\''
  · rw [read_quote hq] at h ⊢
    exact readText_append_iff.1 ⟨h, hn⟩
  · by_cases hb : c = '\x7b'
    · rw [hb, read_brace] at h ⊢
      exact readReference_append_iff.1 ⟨h, hn⟩
    · exact read_of_append_of_ne hq hb h hn

/-- No token of a text is its end. -/
theorem ne_finish_of_read (h : TokenKind.read c a = .ok (k, n)) : k ≠ finish := by
  rintro rfl
  obtain ⟨h, _⟩ | ⟨_, h⟩ | ⟨_, h⟩ | ⟨_, h⟩ | h | ⟨_, h⟩ | h | h := read_cases h
  · unfold ofChar? at h
    grind
  · unfold readLess at h
    split at h <;> cases h
  · unfold readGreater at h
    split at h <;> cases h
  · unfold readExclamation at h
    split at h <;> cases h
  · obtain ⟨_, _, hk⟩ := readText_eq_ok_iff.1 h
    cases hk
  · obtain ⟨_, _, _, hk, _⟩ := readReference_eq_ok_iff.1 h
    cases hk
  · cases h
  · simp only [readName, ofWord] at h
    split_ifs at h <;> cases h

end Tokens

/-! ## Lexemes at the front of a text -/

section Lexemes

variable {cs rest : List Char} {ls : List Lexeme}

/-- `Fronts cs ls rest`: the text `cs` begins with the lexemes `ls`, and `rest` comes after them. Each token is read
with all that comes after it. -/
inductive Fronts : List Char → List Lexeme → List Char → Prop
  | nil (cs : List Char) : Fronts cs [] cs
  | lexeme {gap body after rest : List Char} {c : Char} {kind : TokenKind} {ls : List Lexeme} : IsBlank gap →
      Text.isWhitespace c = false → TokenKind.read c (body ++ after) = .ok (kind, body.length) → Fronts after ls rest →
      Fronts (gap ++ c :: body ++ after) (⟨gap, c :: body, kind⟩ :: ls) rest

/-- `Stuck cs e`: after some whitespace there is no token, for the reason `e`. -/
def Stuck (cs : List Char) (e : LexFault) : Prop :=
  ∃ gap c after, cs = gap ++ c :: after ∧ IsBlank gap ∧ Text.isWhitespace c = false ∧ TokenKind.read c after = .error e

theorem Fronts.eq_append (h : Fronts cs ls rest) : cs = ls.flatMap Lexeme.text ++ rest := by
  induction h with
  | nil cs => rfl
  | lexeme _ _ _ _ ih => simp [Lexeme.text, ← ih]

theorem Fronts.isBlank_gap (h : Fronts cs ls rest) : ∀ l ∈ ls, IsBlank l.gap := by
  induction h with
  | nil cs => exact List.forall_mem_nil _
  | lexeme hg _ _ _ ih => exact List.forall_mem_cons.2 ⟨hg, ih⟩

theorem lexed_iff_fronts : Lexed cs ls rest ↔ Fronts cs ls rest ∧ IsBlank rest := by
  constructor
  · intro h
    induction h with
    | blank hb => exact ⟨.nil _, hb⟩
    | lexeme hg hc hr _ ih => exact ⟨.lexeme hg hc hr ih.1, ih.2⟩
  · rintro ⟨h, hb⟩
    induction h with
    | nil cs => exact .blank hb
    | lexeme hg hc hr _ ih => exact .lexeme hg hc hr (ih hb)

/-- Whitespace in front of a text is parted from the first other character. -/
theorem exists_of_dropWhile_eq_cons {c : Char} {after : List Char} (h : cs.dropWhile Text.isWhitespace = c :: after) :
    Text.isWhitespace c = false ∧ cs = cs.takeWhile Text.isWhitespace ++ c :: after := by
  constructor
  · have hc := List.head?_dropWhile_not Text.isWhitespace cs
    rw [h] at hc
    simpa using hc
  · rw [← h, List.takeWhile_append_dropWhile]

theorem scan_stuck {e : LexFault} (h : Stuck cs e) : scan cs = ⟨[], cs, some e⟩ := by
  obtain ⟨gap, c, after, rfl, hg, hc, hr⟩ := h
  have hd : (gap ++ c :: after).dropWhile Text.isWhitespace = c :: after := by
    rw [hg.dropWhile_append, List.dropWhile_cons_of_neg (by simp [hc])]
  rw [scan]
  split
  · next he =>
    rw [hd] at he
    cases he
  · next d tail he =>
    rw [hd] at he
    cases he
    simp only [hr]

/-- Where scanning fails, it has found lexemes at the front of the text and no token after them. -/
theorem scan_eq_iff_stuck {e : LexFault} : scan cs = ⟨ls, rest, some e⟩ ↔ Fronts cs ls rest ∧ Stuck rest e := by
  constructor
  · intro h
    fun_induction scan cs generalizing ls with
    | case1 => cases h
    | case2 cs c after hd e' hr =>
      cases h
      obtain ⟨hc, hcs⟩ := exists_of_dropWhile_eq_cons hd
      exact ⟨.nil _, _, c, after, hcs, isBlank_takeWhile _, hc, hr⟩
    | case3 cs c after hd kind n hr s =>
      rename_i ih
      simp only [Scan.mk.injEq] at h
      obtain ⟨rfl, hrest, hfault⟩ := h
      have hscan : scan (after.drop n) = ⟨s.lexemes, rest, some e⟩ := by rw [← hrest, ← hfault]
      obtain ⟨hf, hs⟩ := ih hscan
      obtain ⟨hc, hcs⟩ := exists_of_dropWhile_eq_cons hd
      have hlen : (after.take n).length = n := List.length_take_of_le (read_le hr)
      have hl := Fronts.lexeme (isBlank_takeWhile cs) hc (by rw [List.take_append_drop, hlen, hr]) hf
      rw [List.append_assoc, List.cons_append, List.take_append_drop, ← hcs] at hl
      exact ⟨hl, hs⟩
  · rintro ⟨h, hs⟩
    induction h with
    | nil cs => exact scan_stuck hs
    | lexeme hg hc hr _ ih => rw [scan_lexeme hg hc hr, ih hs]

/-- The first of some lexemes, with the others in the text after them. -/
theorem Fronts.left {ls' : List Lexeme} (h : Fronts cs (ls ++ ls') rest) :
    Fronts cs ls (ls'.flatMap Lexeme.text ++ rest) := by
  induction ls generalizing cs with
  | nil =>
    have he : cs = ls'.flatMap Lexeme.text ++ rest := h.eq_append
    rw [← he]
    exact .nil cs
  | cons l ls ih =>
    cases h with
    | lexeme hg hc hr h => exact .lexeme hg hc hr (ih h)

/-- A text can be cut anywhere after its lexemes. -/
theorem Fronts.cut {u v : List Char} (h : Fronts cs ls (u ++ v)) : Fronts (ls.flatMap Lexeme.text ++ u) ls u := by
  generalize hr : u ++ v = rest at h
  induction h with
  | nil cs => exact .nil u
  | @lexeme gap body after rest c kind ls hg hc hk h ih =>
    have ha : after = ls.flatMap Lexeme.text ++ u ++ v := by rw [h.eq_append, ← hr, List.append_assoc]
    have hk' : TokenKind.read c (body ++ (ls.flatMap Lexeme.text ++ u)) = .ok (kind, body.length) := by
      rw [ha, ← List.append_assoc] at hk
      exact read_of_append hk (by simp)
    simpa [Lexeme.text] using Fronts.lexeme hg hc hk' (ih hr)

/-- Lexemes are all there is to a text that is cut in the whitespace after them. -/
theorem Fronts.lexed_cut {gap v : List Char} (h : Fronts cs ls (gap ++ v)) (hg : IsBlank gap) :
    Lexed (ls.flatMap Lexeme.text ++ gap) ls gap :=
  lexed_iff_fronts.2 ⟨h.cut, hg⟩

/-- The source of a lexeme spells its token with nothing after it. -/
def Lexeme.IsWhole (l : Lexeme) : Prop :=
  ∃ c body, l.source = c :: body ∧ Text.isWhitespace c = false ∧ TokenKind.read c body = .ok (l.kind, body.length)

/-- The lexemes of a text do not need what comes after them. -/
theorem Fronts.isWhole (h : Fronts cs ls rest) : ∀ l ∈ ls, l.IsWhole := by
  induction h with
  | nil cs => exact List.forall_mem_nil _
  | @lexeme gap body after rest c kind ls hg hc hk h ih =>
    exact List.forall_mem_cons.2 ⟨⟨c, body, rfl, hc, read_of_append hk (Nat.le_refl _)⟩, ih⟩

theorem Lexeme.IsWhole.source_ne_nil {l : Lexeme} (h : l.IsWhole) : l.source ≠ [] := by
  obtain ⟨c, body, hs, _⟩ := h
  rw [hs]
  exact List.cons_ne_nil c body

theorem Lexeme.IsWhole.kind_ne_finish {l : Lexeme} (h : l.IsWhole) : l.kind ≠ .finish := by
  obtain ⟨c, body, _, _, hr⟩ := h
  exact ne_finish_of_read hr

end Lexemes

end ComputedFields
