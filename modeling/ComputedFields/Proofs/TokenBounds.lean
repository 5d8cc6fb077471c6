import ComputedFields.Formula.Lexeme
import Mathlib.Tactic.SplitIfs

/-!
# Where tokens end

A token is read off the front of a text, and how far it reaches depends on little of what comes after it.

- `breaksToken`, `Ends`: the characters that go on with no token, whitespace and brackets among them, and the texts that
  begin with one;
- `read_append_iff`: a text that goes on with no token can be put after a token and taken away again;
- `read_le_of_append_whitespace`: no token reaches into whitespace at the end of the text;
- `eq_of_read_equal`, `eq_of_read_fieldRef`: which character equals signs and references start with.

Names and numerals are runs of characters, so they end at the latest where such a text begins. Quoted texts and
references reach as far as their closing mark, which is why the first statement bounds the length of the token.
-/

namespace ComputedFields

/-! ## Characters that end a token -/

/-- Characters that go on with no token. -/
def breaksToken (c : Char) : Bool :=
  !isNamePart c && !c.isDigit && c != '.' && c != '=' && c != '>' && c != '+' && c != '-'

/-- Texts that go on with no token before them: nothing, or one of these characters, comes first. -/
def Ends (u : List Char) : Prop := ∀ c ∈ u.head?, breaksToken c = true

theorem ends_nil : Ends [] := fun _ h => by cases h

theorem ends_cons {c : Char} {u : List Char} : Ends (c :: u) ↔ breaksToken c = true := by simp [Ends]

theorem breaksToken_leftParen : breaksToken '(' = true := by decide

theorem breaksToken_rightParen : breaksToken ')' = true := by decide

theorem breaksToken_brace : breaksToken '\x7b' = true := by decide

theorem isNamePart_e : isNamePart 'e' = true := by decide

theorem isNamePart_E : isNamePart 'E' = true := by decide

/-- The code points of whitespace. -/
def whitespacePoints : List Nat :=
  List.range' 0x09 5 ++ [0x20, 0x85, 0xA0, 0x1680] ++ List.range' 0x2000 11 ++ [0x2028, 0x2029, 0x202F, 0x205F, 0x3000]

theorem mem_whitespacePoints {c : Char} (h : Text.isWhitespace c = true) : c.toNat ∈ whitespacePoints := by
  simp only [Text.isWhitespace, Bool.or_eq_true, Bool.and_eq_true, decide_eq_true_eq, beq_iff_eq] at h
  simp only [whitespacePoints, List.mem_append, List.mem_range'_1, List.mem_cons, List.not_mem_nil, or_false]
  omega

theorem breaksToken_of_isWhitespace {c : Char} (h : Text.isWhitespace c = true) : breaksToken c = true := by
  have hall : ∀ n ∈ whitespacePoints, breaksToken (Char.ofNat n) = true := by decide +kernel
  have hc := hall _ (mem_whitespacePoints h)
  rwa [Char.ofNat_toNat] at hc

theorem Ends.head_ne {c d : Char} {v : List Char} (h : Ends (c :: v)) (hd : breaksToken d = false) : c ≠ d := by
  rintro rfl
  rw [ends_cons.1 h] at hd
  cases hd

/-- A run of characters ends where the text ends, if nothing after it goes on with a token. -/
theorem takeWhile_append_of_ends {a u : List Char} {p : Char → Bool} (hp : ∀ c, breaksToken c = true → p c = false)
    (hu : Ends u) : (a ++ u).takeWhile p = a.takeWhile p := by
  induction a with
  | nil =>
    cases u with
    | nil => rfl
    | cons c u => simp [hp c (ends_cons.1 hu)]
  | cons c a ih =>
    rw [List.cons_append, List.takeWhile_cons, List.takeWhile_cons, ih]

theorem isDigit_eq_false_of_breaksToken {c : Char} (h : breaksToken c = true) : c.isDigit = false := by
  simp only [breaksToken, Bool.and_eq_true, Bool.not_eq_true'] at h
  exact h.1.1.1.1.1.2

theorem isNamePart_eq_false_of_breaksToken {c : Char} (h : breaksToken c = true) : isNamePart c = false := by
  simp only [breaksToken, Bool.and_eq_true, Bool.not_eq_true'] at h
  exact h.1.1.1.1.1.1

/-! ## Numerals -/

section Numerals

variable {a u : List Char}

theorem digitRun_append (hu : Ends u) : digitRun (a ++ u) = digitRun a := by
  rw [digitRun, takeWhile_append_of_ends (fun _ => isDigit_eq_false_of_breaksToken) hu, digitRun]

theorem digitRun_le (a : List Char) : digitRun a ≤ a.length := (List.takeWhile_prefix _).length_le

theorem fractionLength_append (hu : Ends u) : fractionLength (a ++ u) = fractionLength a := by
  cases a with
  | nil =>
    cases u with
    | nil => rfl
    | cons c u =>
      have hc : c ≠ '.' := hu.head_ne (by decide)
      simp [fractionLength, hc]
  | cons c a =>
    by_cases hc : c = '.'
    · simp [fractionLength, hc, digitRun_append hu]
    · simp [fractionLength, hc]

theorem fractionLength_le (a : List Char) : fractionLength a ≤ a.length := by
  cases a with
  | nil => simp [fractionLength]
  | cons c a =>
    by_cases hc : c = '.'
    · have := digitRun_le a
      simp only [fractionLength, hc, List.length_cons]
      omega
    · simp [fractionLength, hc]

/-- The length of the sign at the front. -/
def signLength : List Char → Nat
  | c :: _ => if c = '+' ∨ c = '-' then 1 else 0
  | [] => 0

theorem signLength_append (hu : Ends u) : signLength (a ++ u) = signLength a := by
  cases a with
  | nil =>
    cases u with
    | nil => rfl
    | cons c u =>
      have hp : c ≠ '+' := hu.head_ne (by decide)
      have hm : c ≠ '-' := hu.head_ne (by decide)
      simp [signLength, hp, hm]
  | cons c a => rfl

theorem signLength_le (a : List Char) : signLength a ≤ a.length := by
  cases a with
  | nil => simp [signLength]
  | cons c a =>
    simp only [signLength, List.length_cons]
    split <;> omega

theorem exponentLength_cons (e : Char) (cs : List Char) : exponentLength (e :: cs) =
    if e = 'e' ∨ e = 'E' then
      if digitRun (cs.drop (signLength cs)) = 0 then 0 else 1 + signLength cs + digitRun (cs.drop (signLength cs))
    else 0 := by
  cases cs <;> rfl

theorem exponentLength_append (hu : Ends u) : exponentLength (a ++ u) = exponentLength a := by
  cases a with
  | nil =>
    cases u with
    | nil => rfl
    | cons c u =>
      have hn := isNamePart_eq_false_of_breaksToken (ends_cons.1 hu)
      have hc : ¬ (c = 'e' ∨ c = 'E') := by
        rintro (rfl | rfl)
        · rw [isNamePart_e] at hn; cases hn
        · rw [isNamePart_E] at hn; cases hn
      rw [List.nil_append, exponentLength_cons, if_neg hc]
      rfl
  | cons e a =>
    rw [List.cons_append, exponentLength_cons, exponentLength_cons, signLength_append hu,
      List.drop_append_of_le_length (signLength_le a), digitRun_append hu]

theorem exponentLength_le (a : List Char) : exponentLength a ≤ a.length := by
  cases a with
  | nil => simp [exponentLength]
  | cons e a =>
    have hd := digitRun_le (a.drop (signLength a))
    have hs := signLength_le a
    rw [List.length_drop] at hd
    rw [exponentLength_cons, List.length_cons]
    split
    · split <;> omega
    · omega

theorem numeralLength_eq (a : List Char) : numeralLength a = digitRun a + fractionLength (a.drop (digitRun a)) +
    exponentLength (a.drop (digitRun a + fractionLength (a.drop (digitRun a)))) := rfl

theorem wholeAndFraction_le (a : List Char) : digitRun a + fractionLength (a.drop (digitRun a)) ≤ a.length := by
  have hw := digitRun_le a
  have hf := fractionLength_le (a.drop (digitRun a))
  rw [List.length_drop] at hf
  omega

theorem numeralLength_append (hu : Ends u) : numeralLength (a ++ u) = numeralLength a := by
  rw [numeralLength_eq, numeralLength_eq, digitRun_append hu, List.drop_append_of_le_length (digitRun_le a),
    fractionLength_append hu, List.drop_append_of_le_length (wholeAndFraction_le a), exponentLength_append hu]

theorem numeralLength_le (a : List Char) : numeralLength a ≤ a.length := by
  have hw := wholeAndFraction_le a
  have he := exponentLength_le (a.drop (digitRun a + fractionLength (a.drop (digitRun a))))
  rw [List.length_drop] at he
  rw [numeralLength_eq]
  omega

end Numerals

/-! ## Closing marks -/

section Marks

variable {a u body rest : List Char} {mark : Char}

/-- What comes after the closing mark can be put there and left off. -/
theorem exists_append_mark_iff : ((∃ rest, a ++ u = body ++ mark :: rest) ∧ body.length + 1 ≤ a.length) ↔
    ∃ rest, a = body ++ mark :: rest := by
  constructor
  · rintro ⟨⟨rest, he⟩, hn⟩
    obtain ⟨w, rfl, _⟩ | ⟨w, rfl, hw⟩ := List.append_eq_append_iff.1 he
    · rw [List.length_append] at hn
      omega
    · cases w with
      | nil =>
        rw [List.append_nil] at hn
        omega
      | cons c w =>
        cases hw
        exact ⟨w, rfl⟩
  · rintro ⟨rest, rfl⟩
    exact ⟨⟨rest ++ u, by simp⟩, by simp⟩

/-- The closing mark does not lie in a text without one. -/
theorem length_lt_of_append_mark (h : a ++ u = body ++ mark :: rest) (hu : mark ∉ u) : body.length + 1 ≤ a.length := by
  obtain ⟨w, rfl, hw⟩ | ⟨w, rfl, hw⟩ := List.append_eq_append_iff.1 h
  · exact absurd (by rw [hw]; simp) hu
  · cases w with
    | nil => exact absurd (by rw [← List.nil_append u, ← hw]; simp) hu
    | cons c w =>
      rw [List.length_append, List.length_cons]
      omega

end Marks

/-! ## Quoted text -/

section Quoted

/-- `Quoted q body value`: between the quotes `q`, the text `body` stands for `value`. -/
inductive Quoted (q : Char) : List Char → List Char → Prop
  | nil : Quoted q [] []
  | escape (e : Char) {body value : List Char} : Quoted q body value →
      Quoted q ('\\' :: e :: body) (unescape e :: value)
  | other {c : Char} {body value : List Char} : c ≠ '\\' → c ≠ q → Quoted q body value →
      Quoted q (c :: body) (c :: value)

variable {q : Char} {a u value : List Char} {n : Nat}

/-- A quoted text reaches as far as the first quote that is not escaped. A backslash closes none. -/
theorem readQuoted_eq_some_iff : readQuoted q a = some (value, n) ↔
    q ≠ '\\' ∧ ∃ body, Quoted q body value ∧ n = body.length + 1 ∧ ∃ rest, a = body ++ q :: rest := by
  constructor
  · intro h
    fun_induction readQuoted q a generalizing value n with
    | case1 => cases h
    | case2 => cases h
    | case3 e rest ih =>
      obtain ⟨⟨v, m⟩, hr, he⟩ := Option.map_eq_some_iff.1 h
      cases he
      obtain ⟨hq, body, hb, rfl, after, rfl⟩ := ih hr
      exact ⟨hq, _, hb.escape e, rfl, after, rfl⟩
    | case4 rest hq =>
      cases h
      exact ⟨hq, [], .nil, rfl, rest, rfl⟩
    | case5 c cs hc hcq ih =>
      obtain ⟨⟨v, m⟩, hr, he⟩ := Option.map_eq_some_iff.1 h
      cases he
      obtain ⟨hq, body, hb, rfl, after, rfl⟩ := ih hr
      exact ⟨hq, _, hb.other hc hcq, rfl, after, rfl⟩
  · rintro ⟨hq, body, hb, rfl, rest, rfl⟩
    induction hb with
    | nil =>
      rw [List.nil_append, readQuoted.eq_def]
      simp [hq]
    | escape e _ ih =>
      rw [List.cons_append, List.cons_append, readQuoted, if_pos rfl, ih]
      rfl
    | other hc hcq _ ih =>
      rw [List.cons_append, readQuoted.eq_def]
      simp only [if_neg hc, if_neg hcq, ih]
      rfl

theorem readQuoted_append_iff : (readQuoted q (a ++ u) = some (value, n) ∧ n ≤ a.length) ↔
    readQuoted q a = some (value, n) := by
  rw [readQuoted_eq_some_iff, readQuoted_eq_some_iff]
  constructor
  · rintro ⟨⟨hq, body, hb, rfl, hr⟩, hn⟩
    exact ⟨hq, body, hb, rfl, exists_append_mark_iff.1 ⟨hr, hn⟩⟩
  · rintro ⟨hq, body, hb, rfl, hr⟩
    obtain ⟨hr, hn⟩ := exists_append_mark_iff.2 hr
    exact ⟨⟨hq, body, hb, rfl, hr⟩, hn⟩

theorem readQuoted_le_of_append (h : readQuoted q (a ++ u) = some (value, n)) (hu : q ∉ u) : n ≤ a.length := by
  obtain ⟨_, body, _, rfl, rest, he⟩ := readQuoted_eq_some_iff.1 h
  exact length_lt_of_append_mark he hu

end Quoted

/-! ## References -/

section References

variable {a u : List Char} {k : TokenKind} {n : Nat}

/-- A reference is read if a closing brace comes before any opening one, and not only whitespace stands before it. -/
theorem readReference_eq_ok_iff : TokenKind.readReference a = .ok (k, n) ↔
    ∃ inner, (∀ c ∈ inner, (c != '\x7b' && c != '\x7d') = true) ∧ Text.trimChars inner ≠ [] ∧
      k = .fieldRef (String.ofList (Text.trimChars inner)) ∧ n = inner.length + 1 ∧
      ∃ rest, a = inner ++ '\x7d' :: rest := by
  constructor
  · intro h
    dsimp only [TokenKind.readReference] at h
    split at h
    · next rest hd =>
      split at h
      · cases h
      · next hi =>
        cases h
        refine ⟨_, List.all_eq_true.1 List.all_takeWhile, by simpa using hi, rfl, rfl, rest, ?_⟩
        rw [← hd]
        exact (List.prefix_iff_eq_append.1 (List.takeWhile_prefix _)).symm
    · cases h
  · rintro ⟨inner, hi, ht, rfl, rfl, rest, rfl⟩
    have htake : (inner ++ '\x7d' :: rest).takeWhile (fun c => c != '\x7b' && c != '\x7d') = inner := by
      rw [List.takeWhile_append_of_pos hi]
      simp
    dsimp only [TokenKind.readReference]
    rw [htake, List.drop_left]
    simp [ht]

theorem readReference_append_iff : (TokenKind.readReference (a ++ u) = .ok (k, n) ∧ n ≤ a.length) ↔
    TokenKind.readReference a = .ok (k, n) := by
  rw [readReference_eq_ok_iff, readReference_eq_ok_iff]
  constructor
  · rintro ⟨⟨inner, hi, ht, rfl, rfl, hr⟩, hn⟩
    exact ⟨inner, hi, ht, rfl, rfl, exists_append_mark_iff.1 ⟨hr, hn⟩⟩
  · rintro ⟨inner, hi, ht, rfl, rfl, hr⟩
    obtain ⟨hr, hn⟩ := exists_append_mark_iff.2 hr
    exact ⟨⟨inner, hi, ht, rfl, rfl, hr⟩, hn⟩

theorem readReference_le_of_append (h : TokenKind.readReference (a ++ u) = .ok (k, n)) (hu : '\x7d' ∉ u) :
    n ≤ a.length := by
  obtain ⟨inner, _, _, _, rfl, rest, he⟩ := readReference_eq_ok_iff.1 h
  exact length_lt_of_append_mark he hu

end References

/-! ## Tokens -/

section Tokens

open TokenKind

variable {a u : List Char} {c : Char} {k : TokenKind} {n : Nat}

theorem readLess_append (hu : Ends u) : readLess (a ++ u) = readLess a := by
  cases a with
  | nil =>
    cases u with
    | nil => rfl
    | cons c u =>
      have he : c ≠ '=' := hu.head_ne (by decide)
      have hg : c ≠ '>' := hu.head_ne (by decide)
      simp [readLess, he, hg]
  | cons c a =>
    by_cases he : c = '='
    · simp [readLess, he]
    · by_cases hg : c = '>'
      · simp [readLess, hg]
      · simp [readLess, he, hg]

theorem readGreater_append (hu : Ends u) : readGreater (a ++ u) = readGreater a := by
  cases a with
  | nil =>
    cases u with
    | nil => rfl
    | cons c u =>
      have he : c ≠ '=' := hu.head_ne (by decide)
      simp [readGreater, he]
  | cons c a =>
    by_cases he : c = '='
    · simp [readGreater, he]
    · simp [readGreater, he]

theorem readExclamation_append (hu : Ends u) : readExclamation (a ++ u) = readExclamation a := by
  cases a with
  | nil =>
    cases u with
    | nil => rfl
    | cons c u =>
      have he : c ≠ '=' := hu.head_ne (by decide)
      simp [readExclamation, he]
  | cons c a =>
    by_cases he : c = '='
    · simp [readExclamation, he]
    · simp [readExclamation, he]

theorem startsNumeral_append (hu : Ends u) : startsNumeral c (a ++ u) = startsNumeral c a := by
  cases a with
  | nil =>
    cases u with
    | nil => rfl
    | cons d u => simp [startsNumeral, isDigit_eq_false_of_breaksToken (ends_cons.1 hu)]
  | cons d a => rfl

theorem readNumeral_append (hu : Ends u) : readNumeral (a ++ u) = readNumeral a := by
  rw [readNumeral, readNumeral, numeralLength_append hu, List.take_append_of_le_length (numeralLength_le a)]

theorem readName_append (hu : Ends u) : readName c (a ++ u) = readName c a := by
  rw [readName, readName, takeWhile_append_of_ends (fun _ => isNamePart_eq_false_of_breaksToken) hu]

theorem readText_eq_ok_iff :
    readText c a = .ok (k, n) ↔ ∃ value, readQuoted c a = some (value, n) ∧ k = text (String.ofList value) := by
  unfold readText
  cases hr : readQuoted c a with
  | none => simp
  | some r =>
    obtain ⟨value, m⟩ := r
    simp only [Except.ok.injEq, Prod.mk.injEq, Option.some.injEq]
    constructor
    · rintro ⟨rfl, rfl⟩
      exact ⟨value, ⟨rfl, rfl⟩, rfl⟩
    · rintro ⟨_, ⟨rfl, rfl⟩, rfl⟩
      exact ⟨rfl, rfl⟩

theorem readText_append_iff : (readText c (a ++ u) = .ok (k, n) ∧ n ≤ a.length) ↔ readText c a = .ok (k, n) := by
  rw [readText_eq_ok_iff, readText_eq_ok_iff]
  constructor
  · rintro ⟨⟨value, hr, rfl⟩, hn⟩
    exact ⟨value, readQuoted_append_iff.1 ⟨hr, hn⟩, rfl⟩
  · rintro ⟨value, hr, rfl⟩
    obtain ⟨hr, hn⟩ := readQuoted_append_iff.2 hr
    exact ⟨⟨value, hr, rfl⟩, hn⟩

theorem readLess_le (a : List Char) : (readLess a).2 ≤ a.length := by
  unfold readLess
  split <;> simp

theorem readGreater_le (a : List Char) : (readGreater a).2 ≤ a.length := by
  unfold readGreater
  split <;> simp

theorem readExclamation_le (h : readExclamation a = .ok (k, n)) : n ≤ a.length := by
  unfold readExclamation at h
  split at h
  · cases h
    simp
  · cases h

theorem readNumeral_le (c : Char) (a : List Char) : (readNumeral (c :: a)).2 ≤ a.length := by
  have := numeralLength_le (c :: a)
  simp only [List.length_cons] at this
  simp only [readNumeral]
  omega

theorem readName_le (c : Char) (a : List Char) : (readName c a).2 ≤ a.length := (List.takeWhile_prefix _).length_le

theorem read_quote (h : c = '"' ∨ c = '\'') : TokenKind.read c a = readText c a := by
  rcases h with rfl | rfl <;> rfl

theorem read_brace : TokenKind.read '\x7b' a = readReference a := rfl

/-- All ways to read a token. -/
theorem read_cases (h : TokenKind.read c a = .ok (k, n)) :
    (ofChar? c = some k ∧ n = 0) ∨ (c = '<' ∧ readLess a = (k, n)) ∨ (c = '>' ∧ readGreater a = (k, n)) ∨
      (c = '!' ∧ readExclamation a = .ok (k, n)) ∨ readText c a = .ok (k, n) ∨
      (c = '\x7b' ∧ readReference a = .ok (k, n)) ∨ readNumeral (c :: a) = (k, n) ∨ readName c a = (k, n) := by
  unfold TokenKind.read at h
  cases hc : ofChar? c with
  | some k' =>
    simp only [hc, Except.ok.injEq, Prod.mk.injEq] at h
    exact .inl ⟨congrArg some h.1, h.2.symm⟩
  | none =>
    simp only [hc] at h
    split_ifs at h with h1 h2 h3 h4 h5 h6 h7
    · exact .inr (.inl ⟨h1, Except.ok.inj h⟩)
    · exact .inr (.inr (.inl ⟨h2, Except.ok.inj h⟩))
    · exact .inr (.inr (.inr (.inl ⟨h3, h⟩)))
    · exact .inr (.inr (.inr (.inr (.inl h))))
    · exact .inr (.inr (.inr (.inr (.inr (.inl ⟨h5, h⟩)))))
    · exact .inr (.inr (.inr (.inr (.inr (.inr (.inl (Except.ok.inj h)))))))
    · exact .inr (.inr (.inr (.inr (.inr (.inr (.inr (Except.ok.inj h)))))))

theorem read_le (h : TokenKind.read c a = .ok (k, n)) : n ≤ a.length := by
  obtain ⟨_, rfl⟩ | ⟨_, h⟩ | ⟨_, h⟩ | ⟨_, h⟩ | h | ⟨_, h⟩ | h | h := read_cases h
  · exact Nat.zero_le _
  · simpa [h] using readLess_le a
  · simpa [h] using readGreater_le a
  · exact readExclamation_le h
  · exact (readText_append_iff (u := []).2 h).2
  · exact (readReference_append_iff (u := []).2 h).2
  · simpa [h] using readNumeral_le c a
  · simpa [h] using readName_le c a

/-- Tokens other than quoted texts and references are read off the front of a text in the same way whatever comes after
it, as long as that goes on with no token. -/
theorem read_append_of_ends (hu : Ends u) (hq : ¬ (c = '"' ∨ c = '\'')) (hb : c ≠ '\x7b') :
    TokenKind.read c (a ++ u) = TokenKind.read c a := by
  unfold TokenKind.read
  simp only [readLess_append hu, readGreater_append hu, readExclamation_append hu, startsNumeral_append hu,
    ← List.cons_append, readNumeral_append hu, readName_append hu, if_neg hq, if_neg hb]

/-- A token is read off the front of a text in the same way whatever comes after it, as long as that goes on with no
token and the token does not reach into it. -/
theorem read_append_iff (hu : Ends u) :
    (TokenKind.read c (a ++ u) = .ok (k, n) ∧ n ≤ a.length) ↔ TokenKind.read c a = .ok (k, n) := by
  by_cases hq : c = '"' ∨ c = '\''
  · rw [read_quote hq, read_quote hq]
    exact readText_append_iff
  · by_cases hb : c = '\x7b'
    · rw [hb, read_brace, read_brace]
      exact readReference_append_iff
    · rw [read_append_of_ends hu hq hb]
      exact and_iff_left_of_imp read_le

/-- No token reaches into the whitespace at the end of a text. -/
theorem read_le_of_append_whitespace (h : TokenKind.read c (a ++ u) = .ok (k, n))
    (hu : ∀ d ∈ u, Text.isWhitespace d = true) : n ≤ a.length := by
  have hfree {d : Char} (hd : Text.isWhitespace d = false) : d ∉ u := fun hm => by
    rw [hu d hm] at hd
    cases hd
  by_cases hq : c = '"' ∨ c = '\''
  · rw [read_quote hq] at h
    obtain ⟨value, hr, _⟩ := readText_eq_ok_iff.1 h
    exact readQuoted_le_of_append hr (hfree (by rcases hq with rfl | rfl <;> rfl))
  · by_cases hb : c = '\x7b'
    · rw [hb, read_brace] at h
      exact readReference_le_of_append h (hfree rfl)
    · rw [read_append_of_ends (fun d hd => breaksToken_of_isWhitespace (hu d (List.mem_of_mem_head? hd))) hq hb] at h
      exact read_le h

/-- Which character a token starts with, for equals signs and references. -/
theorem read_kind (h : TokenKind.read c a = .ok (k, n)) :
    ofChar? c = some k ∨ (c = '\x7b' ∧ ∃ id, k = fieldRef id) ∨ k ≠ equal ∧ ∀ id, k ≠ fieldRef id := by
  obtain ⟨h, _⟩ | ⟨_, h⟩ | ⟨_, h⟩ | ⟨_, h⟩ | h | ⟨hc, h⟩ | h | h := read_cases h
  · exact .inl h
  · unfold readLess at h
    split at h <;> cases h <;> simp
  · unfold readGreater at h
    split at h <;> cases h <;> simp
  · unfold readExclamation at h
    split at h <;> cases h
    simp
  · obtain ⟨_, _, rfl⟩ := readText_eq_ok_iff.1 h
    simp
  · obtain ⟨_, _, _, rfl, _⟩ := readReference_eq_ok_iff.1 h
    exact .inr (.inl ⟨hc, _, rfl⟩)
  · cases h
    simp
  · cases h
    unfold ofWord
    split_ifs <;> simp

theorem ofChar?_eq_equal (h : ofChar? c = some equal) : c = '=' := by
  unfold ofChar? at h
  grind

theorem ofChar?_ne_fieldRef (id : String) : ofChar? c ≠ some (fieldRef id) := by
  unfold ofChar?
  grind

theorem eq_of_read_equal (h : TokenKind.read c a = .ok (equal, n)) : c = '=' := by
  obtain h | ⟨_, _, h⟩ | h := read_kind h
  · exact ofChar?_eq_equal h
  · cases h
  · exact absurd rfl h.1

theorem eq_of_read_fieldRef {id : String} (h : TokenKind.read c a = .ok (fieldRef id, n)) : c = '\x7b' := by
  obtain h | h | h := read_kind h
  · exact absurd h (ofChar?_ne_fieldRef id)
  · exact h.1
  · exact absurd rfl (h.2 id)

end Tokens

end ComputedFields
