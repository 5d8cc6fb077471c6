import ComputedFields.Formula.Inlining
import ComputedFields.Proofs.Grammar
import ComputedFields.Proofs.TokenBounds
import Mathlib.Data.List.Basic
import Mathlib.Data.List.TakeWhile

/-!
# What texts spell

`Lexed` is the sequence of lexemes of a text as a relation, and scanning computes it (`scan_eq_iff_lexed`). `Spells`
forgets the gaps and the sources and keeps what the tokens say:

- whitespace around a text does not matter (`spells_blank_append`, `spells_append_blank`, `spells_trimChars`), and
  trimming takes it off and nothing else (`trimChars_append`);
- texts can be put one after the other if no token of the first goes on in the second (`Spells.append`), and inside
  brackets always (`Spells.bracketed`);
- an id in braces spells a reference (`Spells.reference`);
- a text parses if the tokens that it spells derive a formula (`parse_eq_ok_iff_spells`), and its body then spells the
  formula without an equals sign in front (`exists_spells_formulaBody`).
-/

namespace ComputedFields

/-! ## Lexemes -/

/-- Only whitespace. -/
def IsBlank (cs : List Char) : Prop := ∀ c ∈ cs, Text.isWhitespace c = true

theorem IsBlank.dropWhile_append {w : List Char} (h : IsBlank w) (cs : List Char) :
    (w ++ cs).dropWhile Text.isWhitespace = cs.dropWhile Text.isWhitespace :=
  List.dropWhile_append_of_pos h

theorem isBlank_takeWhile (cs : List Char) : IsBlank (cs.takeWhile Text.isWhitespace) :=
  List.all_eq_true.1 List.all_takeWhile

/-- `Lexed cs ls rest`: the text `cs` consists of the lexemes `ls` and the whitespace `rest`. Each token is read with
all that comes after it. -/
inductive Lexed : List Char → List Lexeme → List Char → Prop
  | blank {cs : List Char} : IsBlank cs → Lexed cs [] cs
  | lexeme {gap body after rest : List Char} {c : Char} {kind : TokenKind} {ls : List Lexeme} : IsBlank gap →
      Text.isWhitespace c = false → TokenKind.read c (body ++ after) = .ok (kind, body.length) → Lexed after ls rest →
      Lexed (gap ++ c :: body ++ after) (⟨gap, c :: body, kind⟩ :: ls) rest

theorem scan_blank {cs : List Char} (h : IsBlank cs) : scan cs = ⟨[], cs, none⟩ := by
  have hd := List.dropWhile_eq_nil_iff.2 h
  rw [scan]
  split
  · rfl
  · next he =>
    rw [hd] at he
    cases he

theorem scan_lexeme {gap body after : List Char} {c : Char} {kind : TokenKind} (hg : IsBlank gap)
    (hc : Text.isWhitespace c = false) (hr : TokenKind.read c (body ++ after) = .ok (kind, body.length)) :
    scan (gap ++ c :: body ++ after) =
      { scan after with lexemes := ⟨gap, c :: body, kind⟩ :: (scan after).lexemes } := by
  have hd : (gap ++ c :: body ++ after).dropWhile Text.isWhitespace = c :: (body ++ after) := by
    rw [List.append_assoc, hg.dropWhile_append, List.cons_append, List.dropWhile_cons_of_neg (by simp [hc])]
  have ht : (gap ++ c :: body ++ after).takeWhile Text.isWhitespace = gap := by
    rw [List.append_assoc, List.takeWhile_append_of_pos hg, List.cons_append, List.takeWhile_cons_of_neg (by simp [hc]),
      List.append_nil]
  rw [scan]
  split
  · next he =>
    rw [hd] at he
    cases he
  · next d tail he =>
    rw [hd] at he
    cases he
    simp only [hr, ht, List.take_left, List.drop_left]

/-- Scanning finds the lexemes of a text. -/
theorem scan_eq_iff_lexed {cs rest : List Char} {ls : List Lexeme} : scan cs = ⟨ls, rest, none⟩ ↔ Lexed cs ls rest := by
  constructor
  · intro h
    fun_induction scan cs generalizing ls with
    | case1 cs hd =>
      cases h
      exact .blank (List.dropWhile_eq_nil_iff.1 hd)
    | case2 => cases h
    | case3 cs c after hd kind n hr s =>
      rename_i ih
      have hn := read_le hr
      have hlen : (after.take n).length = n := by rw [List.length_take]; omega
      have hc : Text.isWhitespace c = false := by
        have := List.head?_dropWhile_not Text.isWhitespace cs
        rw [hd] at this
        simpa using this
      have hcs : cs = cs.takeWhile Text.isWhitespace ++ c :: after.take n ++ after.drop n := by
        rw [List.append_assoc, List.cons_append, List.take_append_drop, ← hd, List.takeWhile_append_dropWhile]
      simp only [Scan.mk.injEq] at h
      obtain ⟨rfl, hrest, hfault⟩ := h
      have hs : scan (after.drop n) = ⟨s.lexemes, rest, none⟩ := by rw [← hrest, ← hfault]
      have hl := Lexed.lexeme (isBlank_takeWhile cs) hc (by rw [List.take_append_drop, hlen, hr]) (ih hs)
      rwa [← hcs] at hl
  · intro h
    induction h with
    | blank hb => exact scan_blank hb
    | lexeme hg hc hr _ ih => rw [scan_lexeme hg hc hr, ih]

/-! ## Tokens -/

/-- `Spells cs ks`: the text `cs` consists of tokens that say `ks`, with whitespace around them. -/
inductive Spells : List Char → List TokenKind → Prop
  | nil : Spells [] []
  | space {c : Char} {cs : List Char} {ks : List TokenKind} : Text.isWhitespace c = true → Spells cs ks →
      Spells (c :: cs) ks
  | token {c : Char} {body after : List Char} {k : TokenKind} {ks : List TokenKind} : Text.isWhitespace c = false →
      TokenKind.read c (body ++ after) = .ok (k, body.length) → Spells after ks → Spells (c :: body ++ after) (k :: ks)

theorem spells_cons_of_space {c : Char} {cs : List Char} {ks : List TokenKind} (hc : Text.isWhitespace c = true) :
    Spells (c :: cs) ks ↔ Spells cs ks := by
  constructor
  · intro h
    cases h with
    | space _ h => exact h
    | token hc' =>
      rw [hc] at hc'
      cases hc'
  · exact .space hc

theorem spells_blank_append {w cs : List Char} {ks : List TokenKind} (hw : IsBlank w) :
    Spells (w ++ cs) ks ↔ Spells cs ks := by
  induction w with
  | nil => rfl
  | cons c w ih =>
    obtain ⟨hc, hw⟩ := List.forall_mem_cons.1 hw
    rw [List.cons_append, spells_cons_of_space hc, ih hw]

theorem spells_of_isBlank {w : List Char} (hw : IsBlank w) : Spells w [] := by
  rw [← List.append_nil w, spells_blank_append hw]
  exact .nil

theorem Lexed.spells {cs rest : List Char} {ls : List Lexeme} (h : Lexed cs ls rest) :
    Spells cs (ls.map (·.kind)) := by
  induction h with
  | blank hb => exact spells_of_isBlank hb
  | lexeme hg hc hr _ ih =>
    rw [List.append_assoc, spells_blank_append hg]
    exact .token hc hr ih

theorem Spells.exists_lexed {cs : List Char} {ks : List TokenKind} (h : Spells cs ks) :
    ∃ ls rest, Lexed cs ls rest ∧ ls.map (·.kind) = ks := by
  induction h with
  | nil => exact ⟨[], [], .blank nofun, rfl⟩
  | @space c cs ks hc _ ih =>
    obtain ⟨ls, rest, hl, hk⟩ := ih
    cases hl with
    | blank hb => exact ⟨[], c :: cs, .blank (List.forall_mem_cons.2 ⟨hc, hb⟩), hk⟩
    | lexeme hg hd hr hl => exact ⟨_, _, .lexeme (List.forall_mem_cons.2 ⟨hc, hg⟩) hd hr hl, hk⟩
  | @token c body after k ks hc hr _ ih =>
    obtain ⟨ls, rest, hl, hk⟩ := ih
    exact ⟨⟨[], c :: body, k⟩ :: ls, rest, @Lexed.lexeme [] body after rest c k ls nofun hc hr hl, by simp [hk]⟩

theorem spells_iff_scan {cs : List Char} {ks : List TokenKind} :
    Spells cs ks ↔ (scan cs).fault = none ∧ (scan cs).kinds = ks := by
  constructor
  · intro h
    obtain ⟨ls, rest, hl, hk⟩ := h.exists_lexed
    rw [scan_eq_iff_lexed.2 hl]
    exact ⟨rfl, hk⟩
  · rintro ⟨hf, rfl⟩
    have hs : scan cs = ⟨(scan cs).lexemes, (scan cs).rest, none⟩ := by rw [← hf]
    exact (scan_eq_iff_lexed.1 hs).spells

/-- A text spells one sequence of tokens at most. -/
theorem Spells.unique {cs : List Char} {ks ks' : List TokenKind} (h : Spells cs ks) (h' : Spells cs ks') : ks = ks' :=
  (spells_iff_scan.1 h).2.symm.trans (spells_iff_scan.1 h').2

/-- A text parses if the tokens that it spells derive a formula. -/
theorem parse_eq_ok_iff_spells {text : String} {f : Formula} :
    parse text = .ok f ↔ ∃ ks, Spells text.toList ks ∧ DerivesFormula ks f := by
  rw [parse_eq_ok_iff]
  constructor
  · rintro ⟨hf, hd⟩
    exact ⟨_, spells_iff_scan.2 ⟨hf, rfl⟩, hd⟩
  · rintro ⟨ks, hs, hd⟩
    obtain ⟨hf, rfl⟩ := spells_iff_scan.1 hs
    exact ⟨hf, hd⟩

/-! ## Texts put together -/

theorem IsBlank.ends {w : List Char} (h : IsBlank w) : Ends w :=
  fun c hc => breaksToken_of_isWhitespace (h c (List.mem_of_mem_head? hc))

theorem read_append_ends {c : Char} {a u v : List Char} {k : TokenKind} {n : Nat}
    (h : TokenKind.read c (a ++ u) = .ok (k, n)) (hn : n ≤ a.length) (hu : Ends u) (hv : Ends v) :
    TokenKind.read c (a ++ v) = .ok (k, n) :=
  ((read_append_iff hv).2 ((read_append_iff hu).1 ⟨h, hn⟩)).1

theorem Spells.append {cs ds : List Char} {ks ks' : List TokenKind} (h : Spells cs ks) (he : Ends ds)
    (hd : Spells ds ks') : Spells (cs ++ ds) (ks ++ ks') := by
  induction h with
  | nil => exact hd
  | space hc _ ih => exact ih.space hc
  | @token c body after k ks hc hr _ ih =>
    have hr' := ((read_append_iff he).2 hr).1
    rw [List.append_assoc] at hr'
    simpa using Spells.token hc hr' ih

/-- A token of one character. -/
theorem Spells.char {c : Char} {cs : List Char} {k : TokenKind} {ks : List TokenKind}
    (hc : Text.isWhitespace c = false) (hr : TokenKind.read c cs = .ok (k, 0)) (h : Spells cs ks) :
    Spells (c :: cs) (k :: ks) :=
  @Spells.token c [] cs k ks hc hr h

/-- Brackets end every token, so what stands in brackets and what comes after them are spelled on their own. -/
theorem Spells.bracketed {cs ds : List Char} {ks ks' : List TokenKind} (h : Spells cs ks) (hd : Spells ds ks') :
    Spells ('(' :: cs ++ ')' :: ds) (.leftParen :: ks ++ .rightParen :: ks') :=
  .char rfl rfl (h.append (ends_cons.2 breaksToken_rightParen) (.char rfl rfl hd))

/-! ## Whitespace around a text -/

theorem Spells.of_append_blank {cs w : List Char} {ks : List TokenKind} (h : Spells (cs ++ w) ks) (hw : IsBlank w) :
    Spells cs ks := by
  generalize ht : cs ++ w = text at h
  induction h generalizing cs with
  | nil =>
    rw [(List.append_eq_nil_iff.1 ht).1]
    exact .nil
  | @space c after ks hc h ih =>
    cases cs with
    | nil =>
      rw [List.nil_append] at ht
      exact (h.space hc).unique (ht ▸ spells_of_isBlank hw) ▸ .nil
    | cons d cs =>
      obtain ⟨rfl, rfl⟩ := List.cons.inj ht
      exact .space hc (ih rfl)
  | @token c body after k ks hc hr h ih =>
    cases cs with
    | nil =>
      have hc' := hw c (by rw [List.nil_append] at ht; simp [ht])
      rw [hc] at hc'
      cases hc'
    | cons d cs =>
      obtain ⟨rfl, hb⟩ := List.cons.inj ht
      have hb : cs ++ w = body ++ after := hb
      have hn : body.length ≤ cs.length := read_le_of_append_whitespace (by rw [hb]; exact hr) hw
      obtain ⟨front, rfl⟩ := List.prefix_of_prefix_length_le ⟨after, rfl⟩ (hb ▸ List.prefix_append cs w) hn
      have ha : front ++ w = after := by simpa using hb
      rw [← ha, ← List.append_assoc] at hr
      exact .token hc ((read_append_iff hw.ends).1 ⟨hr, by simp⟩) (ih ha)

theorem spells_append_blank {cs w : List Char} {ks : List TokenKind} (hw : IsBlank w) :
    Spells (cs ++ w) ks ↔ Spells cs ks := by
  constructor
  · exact fun h => h.of_append_blank hw
  · intro h
    simpa using h.append hw.ends (spells_of_isBlank hw)

theorem exists_trimStart (cs : List Char) : ∃ w, IsBlank w ∧ cs = w ++ Text.trimStart cs :=
  ⟨_, isBlank_takeWhile cs, List.takeWhile_append_dropWhile.symm⟩

theorem exists_trimEnd (cs : List Char) : ∃ w, IsBlank w ∧ cs = Text.trimEnd cs ++ w := by
  obtain ⟨w, hw, h⟩ := exists_trimStart cs.reverse
  refine ⟨w.reverse, fun c hc => hw c (List.mem_reverse.1 hc), ?_⟩
  rw [Text.trimEnd, ← List.reverse_append, ← h, List.reverse_reverse]

theorem spells_trimChars {cs : List Char} {ks : List TokenKind} : Spells (Text.trimChars cs) ks ↔ Spells cs ks := by
  obtain ⟨w, hw, hs⟩ := exists_trimStart cs
  obtain ⟨w', hw', he⟩ := exists_trimEnd (Text.trimStart cs)
  rw [Text.trimChars, ← spells_append_blank hw', ← he, ← spells_blank_append hw, ← hs]

theorem isWhitespace_of_trimChars_eq_cons {c : Char} {cs ds : List Char} (h : Text.trimChars cs = c :: ds) :
    Text.isWhitespace c = false := by
  obtain ⟨w, _, he⟩ := exists_trimEnd (Text.trimStart cs)
  have hd : cs.dropWhile Text.isWhitespace = c :: (ds ++ w) := by
    rw [← List.cons_append, ← h]
    exact he
  have hc := List.head?_dropWhile_not Text.isWhitespace cs
  rw [hd] at hc
  simpa using hc

section Trimming

variable {w w' cs : List Char}

theorem trimStart_append (hw : IsBlank w) (h : ∀ c ∈ cs.head?, Text.isWhitespace c = false) :
    Text.trimStart (w ++ cs) = cs := by
  rw [Text.trimStart, hw.dropWhile_append]
  cases cs with
  | nil => rfl
  | cons c cs => simp [h c rfl]

theorem trimEnd_append (hw : IsBlank w) (h : ∀ c ∈ cs.getLast?, Text.isWhitespace c = false) :
    Text.trimEnd (cs ++ w) = cs := by
  have hreverse : IsBlank w.reverse := fun c hc => hw c (List.mem_reverse.1 hc)
  rw [Text.trimEnd, List.reverse_append, trimStart_append hreverse (by rwa [List.head?_reverse]), List.reverse_reverse]

/-- Whitespace is taken off a text up to a first and a last character that are none. -/
theorem trimChars_append (hw : IsBlank w) (hw' : IsBlank w') (hne : cs ≠ [])
    (hfirst : ∀ c ∈ cs.head?, Text.isWhitespace c = false) (hlast : ∀ c ∈ cs.getLast?, Text.isWhitespace c = false) :
    Text.trimChars (w ++ (cs ++ w')) = cs := by
  have hhead : (cs ++ w').head? = cs.head? := List.head?_append_of_ne_nil cs hne
  rw [Text.trimChars, trimStart_append hw (by rwa [hhead]), trimEnd_append hw' hlast]

end Trimming

/-! ## References -/

/-- Ids that braces hold as they are. -/
def isPlainId (id : List Char) : Bool :=
  !id.isEmpty && id.all fun c => !Text.isWhitespace c && c != '\x7b' && c != '\x7d'

/-- An id in braces, with whatever comes after it. -/
theorem Spells.reference {id cs : List Char} {ks : List TokenKind} (hid : isPlainId id = true) (h : Spells cs ks) :
    Spells ('\x7b' :: (id ++ '\x7d' :: cs)) (.fieldRef (String.ofList id) :: ks) := by
  obtain ⟨hne, hchars⟩ : id ≠ [] ∧ ∀ c ∈ id, (Text.isWhitespace c = false ∧ c ≠ '\x7b') ∧ c ≠ '\x7d' := by
    simpa [isPlainId] using hid
  have htrim : Text.trimChars id = id := by
    have h := @trimChars_append [] [] id nofun nofun hne (fun c hc => (hchars c (List.mem_of_mem_head? hc)).1.1)
      fun c hc => (hchars c (List.mem_of_getLast? hc)).1.1
    rwa [List.nil_append, List.append_nil] at h
  have hread : TokenKind.read '\x7b' (id ++ ['\x7d'] ++ cs) =
      .ok (.fieldRef (String.ofList id), (id ++ ['\x7d']).length) := by
    refine readReference_eq_ok_iff.2 ⟨id, fun c hc => ?_, ?_, ?_, ?_, cs, by simp⟩
    · simp [hchars c hc]
    · rwa [htrim]
    · rw [htrim]
    · simp
  simpa using Spells.token rfl hread h

theorem Spells.parse {cs : List Char} {ks : List TokenKind} {f : Formula} (h : Spells cs ks)
    (hd : DerivesFormula ks f) : parse (String.ofList cs) = .ok f := by
  rw [parse_eq_ok_iff_spells, String.toList_ofList]
  exact ⟨ks, h, hd⟩

/-- A reference. -/
theorem parse_reference (id : List Char) (hid : isPlainId id = true) :
    parse (String.ofList ('\x7b' :: (id ++ ['\x7d']))) = .ok (.field { id := String.ofList id }) :=
  (Spells.reference hid .nil).parse (.inl (Derives.field _).operand)

/-- Two references with an operator of one character between them. -/
theorem parse_references (a b : List Char) {c : Char} {k : TokenKind} {l : Nat} {op : BinaryOp}
    (ha : isPlainId a = true) (hb : isPlainId b = true) (hc : Text.isWhitespace c = false)
    (hr : ∀ cs, TokenKind.read c cs = .ok (k, 0)) (hop : BinaryOp.ofToken? (l + 1) k = some op) (hl : l < loosest) :
    parse (String.ofList ('\x7b' :: (a ++ '\x7d' :: c :: '\x7b' :: (b ++ ['\x7d'])))) =
      .ok (.binary op (.field { id := String.ofList a }) (.field { id := String.ofList b })) := by
  have hleft : Derives (l + 1) [.fieldRef (String.ofList a)] (.field { id := String.ofList a }) :=
    (Derives.field _).operand
  exact (Spells.reference ha (.char hc (hr _) (.reference hb .nil))).parse
    (.inl ((hleft.binary hop (Derives.field _).operand).mono hl))

/-! ## Bodies of formulas -/

theorem spells_equal {cs : List Char} {ks : List TokenKind} (h : Spells ('=' :: cs) ks) :
    ∃ ks', ks = .equal :: ks' ∧ Spells cs ks' := by
  generalize ht : '=' :: cs = text at h
  cases h with
  | nil => cases ht
  | space hc _ =>
    cases ht
    cases hc
  | @token c body after k ks hc hr h =>
    obtain ⟨rfl, rfl⟩ := List.cons.inj ht
    have hk : TokenKind.equal = k ∧ 0 = body.length := by simpa using Except.ok.inj hr
    obtain ⟨rfl, hn⟩ := hk
    rw [List.eq_nil_of_length_eq_zero hn.symm]
    exact ⟨ks, rfl, h⟩

/-- The body of a formula spells it without an equals sign in front. -/
theorem exists_spells_formulaBody {text : String} {f : Formula} (h : parse text = .ok f) :
    ∃ ks, Spells (formulaBody text.toList) ks ∧ Derives loosest ks f := by
  obtain ⟨ks, hs, hd⟩ := parse_eq_ok_iff_spells.1 h
  rw [← spells_trimChars] at hs
  unfold formulaBody
  split
  · next rest he =>
    rw [he] at hs
    obtain ⟨ks', rfl, hr⟩ := spells_equal hs
    refine ⟨ks', spells_trimChars.2 hr, ?_⟩
    obtain hd | ⟨_, e, hd⟩ := hd
    · obtain ⟨_, _, e, hk⟩ := hd.starts
      cases e
      cases hk
    · cases e
      exact hd
  · next hne =>
    obtain hd | ⟨ks', rfl, hd⟩ := hd
    · exact ⟨ks, hs, hd⟩
    · generalize ht : Text.trimChars text.toList = body at hs hne
      cases hs with
      | space hc _ =>
        rw [isWhitespace_of_trimChars_eq_cons ht] at hc
        cases hc
      | token _ hr _ =>
        rw [eq_of_read_equal hr] at hne
        exact absurd rfl (hne _)

end ComputedFields
