import ComputedFields.Proofs.JsonTexts

/-!
# Quoted text in code

Keys, names and texts of a schema come into code between quotes and nowhere else, so quoted text has to end where it is
meant to, and to stand for the text that was quoted.

- `EscapedForm`, `escapedForm`: how a character is written between double quotes;
- `readDoubleQuoted?`, `readDoubling?`: the quoted text at the front of a code, and the code after it;
- `readDoubleQuoted?_append`: text between double quotes is read back, whatever comes after it;
- `readDoubling?_eq_some_iff`: a text is read with doubled quotes exactly if it was quoted in this way and the code goes
  on with something else than a quote;
- `doubleQuoted_inj`, `doublingQuotes_inj`: so quoted texts are different for different texts;
- `unescapedQuotes_doubleQuoted`: only the first and the last character of an escaped text are quotes of the code;
- `quotesSafely`: all ways to quote, together.
-/

namespace ComputedFields

/-! ## Escapes -/

theorem hexDigit_plain : ∀ n < 16, hexDigit n ≠ '"' ∧ hexDigit n ≠ '\\' ∧ 0x20 < (hexDigit n).toNat := by decide

/-- How a character is written between double quotes: as it is, or with a letter after a backslash, which digits may
follow. -/
inductive EscapedForm (c : Char) : List Char → Prop where
  | plain (hquote : c ≠ '"') (hslash : c ≠ '\\') (hc : 0x20 ≤ c.toNat) : EscapedForm c [c]
  | escaped {e : Char} {ds : List Char} (he : 0x20 < e.toNat)
    (hds : ∀ d ∈ ds, d ≠ '"' ∧ d ≠ '\\' ∧ 0x20 < d.toNat) : EscapedForm c ('\\' :: e :: ds)

theorem escapedForm (c : Char) : EscapedForm c (escapeChar c) := by
  unfold escapeChar
  split_ifs with hquote hslash h3 h4 h5 h6 h7 hc
  iterate 7 exact .escaped (by decide) (List.forall_mem_nil _)
  · have high := hexDigit_plain (c.toNat / 16) (by omega)
    have low := hexDigit_plain (c.toNat % 16) (by omega)
    refine .escaped (by decide) ?_
    simp only [List.forall_mem_cons]
    exact ⟨by decide, by decide, high, low, List.forall_mem_nil _⟩
  · exact .plain hquote hslash (Nat.le_of_not_lt hc)

theorem lt_toNat_of_mem_escapeChar {c d : Char} (h : d ∈ escapeChar c) :
    0x20 < d.toNat ∨ d = c ∧ 0x20 ≤ d.toNat := by
  have hform := escapedForm c
  generalize escapeChar c = written at h hform
  cases hform with
  | plain hquote hslash hc =>
    obtain rfl := List.mem_singleton.1 h
    exact .inr ⟨rfl, hc⟩
  | escaped he hds =>
    obtain rfl | h := List.mem_cons.1 h
    · exact .inl (by decide)
    · obtain rfl | h := List.mem_cons.1 h
      · exact .inl he
      · exact .inl (hds d h).2.2

/-! ## Double quotes -/

/-- The text between double quotes at the front of a code, with the escapes of JSON, and the code after it. -/
def readDoubleQuoted? : List Char → Option (List Char × List Char)
  | '"' :: cs =>
    match Json.quoted cs with
    | ⟨.ok s, .ok n⟩ => some (s, cs.drop n)
    | _ => none
  | _ => none

theorem toList_doubleQuoted (s : String) :
    (doubleQuoted s).toList = '"' :: s.toList.flatMap escapeChar ++ ['"'] := String.toList_ofList

theorem readDoubleQuoted?_append (s : String) (rest : List Char) :
    readDoubleQuoted? ((doubleQuoted s).toList ++ rest) = some (s.toList, rest) := by
  rw [toList_doubleQuoted, List.cons_append, List.cons_append, List.append_assoc, List.singleton_append,
    readDoubleQuoted?, Json.quoted_flatMap_escapeChar]
  exact congrArg some (congrArg (s.toList, ·) (Json.drop_escaped s.toList rest))

theorem doubleQuoted_inj {s s' : String} (h : doubleQuoted s = doubleQuoted s') : s = s' := by
  have hread := readDoubleQuoted?_append s []
  rw [h, readDoubleQuoted?_append s' []] at hread
  exact String.toList_injective (congrArg Prod.fst (Option.some.inj hread)).symm

/-- The places of the double quotes that no backslash escapes, counted from `i` on; a backslash may stand before the
first character. -/
def unescapedQuotes (escaped : Bool) (i : Nat) : List Char → List Nat
  | [] => []
  | c :: cs =>
    if escaped then unescapedQuotes false (i + 1) cs
    else if c = '\\' then unescapedQuotes true (i + 1) cs
    else if c = '"' then i :: unescapedQuotes false (i + 1) cs
    else unescapedQuotes false (i + 1) cs

theorem unescapedQuotes_backslash (i : Nat) (c : Char) (cs : List Char) :
    unescapedQuotes false i ('\\' :: c :: cs) = unescapedQuotes false (i + 2) cs := rfl

theorem unescapedQuotes_plain {as : List Char} (h : ∀ c ∈ as, c ≠ '"' ∧ c ≠ '\\') (i : Nat) (cs : List Char) :
    unescapedQuotes false i (as ++ cs) = unescapedQuotes false (i + as.length) cs := by
  induction as generalizing i with
  | nil => rfl
  | cons c as ih =>
    obtain ⟨⟨hquote, hslash⟩, h⟩ := List.forall_mem_cons.1 h
    rw [List.cons_append, unescapedQuotes, if_neg (by simp), if_neg hslash, if_neg hquote, ih h, List.length_cons]
    congr 1
    omega

theorem unescapedQuotes_escapeChar (c : Char) (i : Nat) (cs : List Char) :
    unescapedQuotes false i (escapeChar c ++ cs) = unescapedQuotes false (i + (escapeChar c).length) cs := by
  have hform := escapedForm c
  generalize escapeChar c = written at hform
  cases hform with
  | plain hquote hslash hc => exact unescapedQuotes_plain (List.forall_mem_singleton.2 ⟨hquote, hslash⟩) i cs
  | @escaped e ds he hds =>
    have hplain := unescapedQuotes_plain (fun d hd => ⟨(hds d hd).1, (hds d hd).2.1⟩) (i + 2) cs
    rw [List.cons_append, List.cons_append, unescapedQuotes_backslash, hplain, List.length_cons, List.length_cons]
    congr 1
    omega

theorem unescapedQuotes_flatMap (s : List Char) (i : Nat) (cs : List Char) :
    unescapedQuotes false i (s.flatMap escapeChar ++ cs) =
      unescapedQuotes false (i + (s.flatMap escapeChar).length) cs := by
  induction s generalizing i with
  | nil => rfl
  | cons c s ih =>
    rw [List.flatMap_cons, List.append_assoc, unescapedQuotes_escapeChar, ih, List.length_append, Nat.add_assoc]

theorem unescapedQuotes_doubleQuoted (s : String) :
    unescapedQuotes false 0 (doubleQuoted s).toList = [0, (doubleQuoted s).length - 1] := by
  rw [← String.length_toList, toList_doubleQuoted, List.cons_append, unescapedQuotes, if_neg (by simp),
    if_neg (by decide), if_pos rfl, unescapedQuotes_flatMap]
  simp [unescapedQuotes, Nat.add_comm]

/-- Text between double quotes has no control characters, and so no line breaks. -/
theorem le_toNat_of_mem_doubleQuoted {s : String} {c : Char} (h : c ∈ (doubleQuoted s).toList) : 0x20 ≤ c.toNat := by
  rw [toList_doubleQuoted, List.cons_append, List.mem_cons, List.mem_append, List.mem_singleton] at h
  obtain rfl | h | rfl := h
  · decide
  · obtain ⟨d, -, hc⟩ := List.mem_flatMap.1 h
    obtain h | ⟨-, h⟩ := lt_toNat_of_mem_escapeChar hc
    · exact Nat.le_of_lt h
    · exact h
  · decide

/-! ## Doubled quotes -/

/-- The text up to a quote that is not written twice, and the code after it; `quoteRead` if the last character was a
quote. -/
def readDoubled? (quote : Char) (quoteRead : Bool) : List Char → Option (List Char × List Char)
  | [] => if quoteRead then some ([], []) else none
  | c :: cs =>
    if quoteRead then
      if c = quote then (readDoubled? quote false cs).map fun (s, rest) => (c :: s, rest) else some ([], c :: cs)
    else if c = quote then readDoubled? quote true cs
    else (readDoubled? quote false cs).map fun (s, rest) => (c :: s, rest)

/-- The text between quotes at the front of a code, in which the quote is written twice, and the code after it. -/
def readDoubling? (quote : Char) : List Char → Option (List Char × List Char)
  | [] => none
  | c :: cs => if c = quote then readDoubled? quote false cs else none

variable {quote : Char}

theorem readDoubled?_twice (c : Char) (cs : List Char) : readDoubled? quote false (twice quote c ++ cs) =
    (readDoubled? quote false cs).map fun (s, rest) => (c :: s, rest) := by
  unfold twice
  split
  · next h => simp [readDoubled?, h]
  · next h => simp [readDoubled?, h]

theorem readDoubled?_quote {rest : List Char} (h : rest.head? ≠ some quote) :
    readDoubled? quote false (quote :: rest) = some ([], rest) := by
  rw [readDoubled?, if_neg (by simp), if_pos rfl]
  cases rest with
  | nil => rfl
  | cons d rest => rw [readDoubled?, if_pos rfl, if_neg (by simpa using h)]

theorem readDoubled?_flatMap (s : List Char) {rest : List Char} (h : rest.head? ≠ some quote) :
    readDoubled? quote false (s.flatMap (twice quote) ++ quote :: rest) = some (s, rest) := by
  induction s with
  | nil => exact readDoubled?_quote h
  | cons c s ih =>
    rw [List.flatMap_cons, List.append_assoc, readDoubled?_twice, ih]
    rfl

/-- What is read was written with doubled quotes, and the code does not go on with a quote. -/
theorem eq_of_readDoubled? {cs s rest : List Char} {quoteRead : Bool}
    (h : readDoubled? quote quoteRead cs = some (s, rest)) :
    (if quoteRead then quote :: cs else cs) = s.flatMap (twice quote) ++ quote :: rest ∧
      rest.head? ≠ some quote := by
  induction cs generalizing quoteRead s with
  | nil =>
    rw [readDoubled?] at h
    split at h
    · next hr =>
      cases h
      simp [hr]
    · cases h
  | cons c cs ih =>
    rw [readDoubled?] at h
    split_ifs at h with hr hc hc
    · obtain ⟨⟨s', rest'⟩, hread, he⟩ := Option.map_eq_some_iff.1 h
      cases he
      obtain ⟨rfl, hrest⟩ := ih hread
      exact ⟨by simp [hr, hc, twice], hrest⟩
    · cases h
      exact ⟨by simp [hr], by simpa using hc⟩
    · obtain ⟨hcs, hrest⟩ := ih h
      exact ⟨by simpa [hr, hc] using hcs, hrest⟩
    · obtain ⟨⟨s', rest'⟩, hread, he⟩ := Option.map_eq_some_iff.1 h
      cases he
      obtain ⟨rfl, hrest⟩ := ih hread
      exact ⟨by simp [hr, hc, twice], hrest⟩

/-- A text is read off the front of a code exactly if the code begins with the quoted text and does not go on with a
quote. -/
theorem readDoubling?_eq_some_iff {s : String} {cs rest : List Char} :
    readDoubling? quote cs = some (s.toList, rest) ↔
      cs = (doublingQuotes quote s).toList ++ rest ∧ rest.head? ≠ some quote := by
  have hquoted : (doublingQuotes quote s).toList ++ rest =
      quote :: (s.toList.flatMap (twice quote) ++ quote :: rest) := by
    rw [doublingQuotes, String.toList_ofList, List.cons_append, List.cons_append, List.append_assoc,
      List.singleton_append]
  rw [hquoted]
  constructor
  · intro h
    cases cs with
    | nil => cases h
    | cons c cs =>
      rw [readDoubling?] at h
      split at h
      · next hc =>
        obtain ⟨rfl, hrest⟩ := eq_of_readDoubled? h
        exact ⟨congrArg (· :: _) hc, hrest⟩
      · cases h
  · rintro ⟨rfl, hrest⟩
    rw [readDoubling?, if_pos rfl, readDoubled?_flatMap s.toList hrest]

theorem doublingQuotes_inj {s s' : String} (h : doublingQuotes quote s = doublingQuotes quote s') : s = s' := by
  have hread : readDoubling? quote (doublingQuotes quote s).toList = some (s.toList, []) :=
    readDoubling?_eq_some_iff.2 ⟨by simp, by simp⟩
  have hread' : readDoubling? quote (doublingQuotes quote s).toList = some (s'.toList, []) :=
    readDoubling?_eq_some_iff.2 ⟨by simp [h], by simp⟩
  rw [hread] at hread'
  exact String.toList_injective (congrArg Prod.fst (Option.some.inj hread'))

/-! ## All quotes -/

/-- Quoted text ends where it is meant to, whatever the text is, and stands for it. -/
structure QuotesSafely (s : String) : Prop where
  /-- Between double quotes it is read back, and the code goes on right after the last character, -/
  reads_doubleQuoted : ∀ rest, readDoubleQuoted? ((doubleQuoted s).toList ++ rest) = some (s.toList, rest)
  /-- of the double quotes in it only the first and the last character are not escaped, -/
  quotes_doubleQuoted : unescapedQuotes false 0 (doubleQuoted s).toList = [0, (doubleQuoted s).length - 1]
  /-- and there is no control character in it. -/
  controls_doubleQuoted : ∀ c ∈ (doubleQuoted s).toList, 0x20 ≤ c.toNat
  /-- As a text of SQL it is read back exactly where it stands and is not followed by a quote. -/
  reads_sqlText : ∀ cs rest, readDoubling? '\'' cs = some (s.toList, rest) ↔
    cs = (sqlText s).toList ++ rest ∧ rest.head? ≠ some '\''
  /-- As a name of SQL it is read back exactly where it stands and is not followed by a quote. -/
  reads_sqlName : ∀ cs rest, readDoubling? '"' cs = some (s.toList, rest) ↔
    cs = (sqlName s).toList ++ rest ∧ rest.head? ≠ some '"'

theorem quotesSafely (s : String) : QuotesSafely s where
  reads_doubleQuoted := readDoubleQuoted?_append s
  quotes_doubleQuoted := unescapedQuotes_doubleQuoted s
  controls_doubleQuoted _ := le_toNat_of_mem_doubleQuoted
  reads_sqlText _ _ := readDoubling?_eq_some_iff
  reads_sqlName _ _ := readDoubling?_eq_some_iff

example : doubleQuoted "a\"b\\c\n" = "\"a\\\"b\\\\c\\n\"" ∧ sqlText "it's" = "'it''s'" := by decide

end ComputedFields
