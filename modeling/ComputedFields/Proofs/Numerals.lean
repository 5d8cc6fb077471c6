import ComputedFields.Proofs.TokenBounds
import Mathlib.Data.List.TakeWhile

/-!
# Numerals

A numeral has digits, perhaps a decimal point with digits after it, and perhaps an exponent. What stands before the
exponent has at least one digit.

- `NumeralText`: the parts of a numeral, put together by `NumeralText.source`;
- `NumeralText.readChars?_source`: every numeral is read, as the double nearest to the number that it denotes;
- `exists_source_eq_take`: what is cut off the front of a text as a numeral is one;
- `NumeralText.length_source_le`: it is at least as long as any other numeral there;
- `exists_cutsNumeral`: so the source of a number token is the longest numeral at its place.
-/

namespace ComputedFields

open Decimal

/-! ## Parts of numerals -/

/-- An exponent: its letter, an optional sign and one or more digits. -/
structure ExponentText where
  letter : Char
  sign : List Char
  digits : List Char
  letter_eq : letter = 'e' ∨ letter = 'E'
  sign_eq : sign = [] ∨ sign = ['+'] ∨ sign = ['-']
  digits_ne_nil : digits ≠ []
  isDigit_digits : ∀ c ∈ digits, c.isDigit = true

def ExponentText.source (e : ExponentText) : List Char := e.letter :: (e.sign ++ e.digits)

def ExponentText.value (e : ExponentText) : Int :=
  if e.sign = ['-'] then -(ofDigits e.digits : Int) else ofDigits e.digits

/-- A numeral: digits, an optional fraction, which is what stands after a decimal point, and an optional exponent. The
whole part or the fraction has a digit. -/
structure NumeralText where
  whole : List Char
  fraction : Option (List Char)
  exponent : Option ExponentText
  isDigit_whole : ∀ c ∈ whole, c.isDigit = true
  isDigit_fraction : ∀ ds ∈ fraction, ∀ c ∈ ds, c.isDigit = true
  hasDigit : whole ≠ [] ∨ ∃ ds ∈ fraction, ds ≠ []

namespace NumeralText

def source (n : NumeralText) : List Char :=
  n.whole ++ (n.fraction.elim [] ('.' :: ·) ++ n.exponent.elim [] ExponentText.source)

/-- The number that a numeral denotes: all its digits, scaled by the exponent and by the length of the fraction. -/
def value (n : NumeralText) : Numeral :=
  ⟨ofDigits (n.whole ++ n.fraction.getD []), n.exponent.elim 0 ExponentText.value - (n.fraction.getD []).length⟩

end NumeralText

/-! ## Runs of digits -/

section Digits

variable {cs ds rest : List Char}

theorem take_digitRun (cs : List Char) : cs.take (digitRun cs) = cs.takeWhile Char.isDigit :=
  (List.prefix_iff_eq_take.1 (List.takeWhile_prefix _)).symm

theorem drop_digitRun (cs : List Char) : cs.drop (digitRun cs) = cs.dropWhile Char.isDigit :=
  calc cs.drop (digitRun cs)
    _ = (cs.takeWhile Char.isDigit ++ cs.dropWhile Char.isDigit).drop (cs.takeWhile Char.isDigit).length := by
      rw [List.takeWhile_append_dropWhile, digitRun]
    _ = cs.dropWhile Char.isDigit := List.drop_left

theorem isDigit_of_mem_takeWhile : ∀ c ∈ cs.takeWhile Char.isDigit, c.isDigit = true :=
  fun _ => List.mem_takeWhile_imp

theorem takeWhile_isDigit_append (cs : List Char) (hd : ∀ c ∈ ds, c.isDigit = true)
    (hc : ∀ c ∈ cs.head?, c.isDigit = false) : (ds ++ cs).takeWhile Char.isDigit = ds ∧
      (ds ++ cs).dropWhile Char.isDigit = cs := by
  rw [List.takeWhile_append_of_pos hd, List.dropWhile_append_of_pos hd]
  cases cs with
  | nil => simp
  | cons c cs => simp [hc c rfl]

theorem le_digitRun_append (rest : List Char) (hd : ∀ c ∈ ds, c.isDigit = true) :
    ds.length ≤ digitRun (ds ++ rest) := by
  rw [digitRun, List.takeWhile_append_of_pos hd, List.length_append]
  exact Nat.le_add_right _ _

theorem digitRun_append_eq (hd : ∀ c ∈ ds, c.isDigit = true) (hr : ∀ c ∈ rest.head?, c.isDigit = false) :
    digitRun (ds ++ rest) = ds.length := by
  rw [digitRun, (takeWhile_isDigit_append rest hd hr).1]

end Digits

/-! ## Reading -/

namespace ExponentText

variable (e : ExponentText)

theorem ne_of_mem_digits {c d : Char} (hc : c ∈ e.digits) (hd : d.isDigit = false) : c ≠ d := by
  rintro rfl
  rw [e.isDigit_digits c hc] at hd
  cases hd

theorem readExponent?_source : readExponent? e.source = some e.value := by
  have hdigits : ∀ c ∈ e.digits, c.isDigit = true := e.isDigit_digits
  rcases e.sign_eq with hs | hs | hs
  · obtain ⟨d, ds, hds⟩ := List.exists_cons_of_ne_nil e.digits_ne_nil
    have hmem : d ∈ e.digits := hds ▸ List.mem_cons_self
    have hplus : d ≠ '+' := e.ne_of_mem_digits hmem rfl
    have hminus : d ≠ '-' := e.ne_of_mem_digits hmem rfl
    rw [hds] at hdigits
    simpa [readExponent?, source, value, e.letter_eq, hs, hds, hplus, hminus] using hdigits
  · simpa [readExponent?, source, value, e.letter_eq, hs, e.digits_ne_nil] using hdigits
  · simpa [readExponent?, source, value, e.letter_eq, hs, e.digits_ne_nil] using hdigits

/-- An exponent starts with neither a digit nor a decimal point. -/
theorem head_source_append (rest : List Char) : ∀ c ∈ (e.source ++ rest).head?, c.isDigit = false ∧ c ≠ '.' := by
  intro c hc
  cases hc
  rcases e.letter_eq with h | h <;> simp [h]

end ExponentText

namespace NumeralText

variable (n : NumeralText)

theorem head_exponent :
    ∀ c ∈ (n.exponent.elim [] ExponentText.source).head?, c.isDigit = false ∧ c ≠ '.' := by
  cases n.exponent with
  | none => simp
  | some e => simpa using e.head_source_append []

theorem readExponent?_exponent :
    readExponent? (n.exponent.elim [] ExponentText.source) = some (n.exponent.elim 0 ExponentText.value) := by
  cases n.exponent with
  | none => rfl
  | some e => exact e.readExponent?_source

theorem readUnsigned?_source : readUnsigned? n.source = some n.value := by
  have hexponent := n.head_exponent
  have hread := n.readExponent?_exponent
  cases hf : n.fraction with
  | none =>
    have hwhole : n.whole ≠ [] := by simpa [hf] using n.hasDigit
    obtain ⟨htake, hdrop⟩ := takeWhile_isDigit_append _ n.isDigit_whole fun c hc => (hexponent c hc).1
    -- what follows the digits is not taken for a fraction
    have hpoint (ds : List Char) : n.exponent.elim [] ExponentText.source ≠ '.' :: ds := fun h =>
      (hexponent '.' (by rw [h]; rfl)).2 rfl
    simp [readUnsigned?, source, value, hf, htake, hdrop, hwhole, hread]
  | some ds =>
    obtain ⟨htake, hdrop⟩ := takeWhile_isDigit_append ('.' :: (ds ++ n.exponent.elim [] ExponentText.source))
      n.isDigit_whole (by simp)
    obtain ⟨htake', hdrop'⟩ := takeWhile_isDigit_append _ (n.isDigit_fraction ds hf) fun c hc => (hexponent c hc).1
    have hempty : (n.whole.isEmpty && ds.isEmpty) = false := by
      rcases n.hasDigit with h | ⟨_, hds, h⟩
      · simp [h]
      · cases hf.symm.trans hds
        simp [h]
    simp [readUnsigned?, source, value, hf, htake, hdrop, htake', hdrop', hempty, hread]

/-- A numeral starts with a digit or with a decimal point. -/
theorem exists_source_eq_cons : ∃ c cs, n.source = c :: cs ∧ (c.isDigit = true ∨ c = '.') := by
  rw [source]
  cases hw : n.whole with
  | cons c cs => exact ⟨c, _, rfl, .inl (n.isDigit_whole c (hw ▸ List.mem_cons_self))⟩
  | nil =>
    obtain h | ⟨ds, hds, -⟩ := n.hasDigit
    · exact absurd hw h
    · rw [Option.mem_def.1 hds]
      exact ⟨'.', _, rfl, .inr rfl⟩

/-- A numeral is read as the double nearest to the number that it denotes. -/
theorem readChars?_source : readChars? n.source = some n.value.toFloat := by
  have hread := n.readUnsigned?_source
  obtain ⟨c, cs, hs, hc⟩ := n.exists_source_eq_cons
  have hminus : c ≠ '-' := by
    rintro rfl
    simp at hc
  have hplus : c ≠ '+' := by
    rintro rfl
    simp at hc
  rw [hs] at hread ⊢
  simp [readChars?, readMagnitude?, hminus, hplus, hread]

end NumeralText

/-! ## The longest numeral -/

/-- Digits are cut off together with the numeral after them. -/
theorem numeralLength_digits_append {ds rest : List Char} (hd : ∀ c ∈ ds, c.isDigit = true)
    (hr : ∀ c ∈ rest.head?, c.isDigit = false) : numeralLength (ds ++ rest) = ds.length + numeralLength rest := by
  have hzero : digitRun rest = 0 := digitRun_append_eq (List.forall_mem_nil _) hr
  rw [numeralLength_eq, numeralLength_eq, digitRun_append_eq hd hr, ← List.drop_drop, List.drop_left, hzero,
    List.drop_zero, Nat.zero_add, Nat.add_assoc]

theorem numeralLength_point (cs : List Char) :
    numeralLength ('.' :: cs) = digitRun cs + 1 + exponentLength (cs.drop (digitRun cs)) := by
  rw [numeralLength_eq, show digitRun ('.' :: cs) = 0 from rfl, List.drop_zero, fractionLength, Nat.zero_add,
    List.drop_succ_cons]

theorem numeralLength_of_head {cs : List Char} (h : ∀ c ∈ cs.head?, c.isDigit = false ∧ c ≠ '.') :
    numeralLength cs = exponentLength cs := by
  have hrun : digitRun cs = 0 := digitRun_append_eq (List.forall_mem_nil _) fun c hc => (h c hc).1
  have hpoint : fractionLength cs = 0 := by
    cases cs with
    | nil => rfl
    | cons c cs => simp [fractionLength, (h c rfl).2]
  rw [numeralLength_eq, hrun, List.drop_zero, hpoint, Nat.zero_add, List.drop_zero]

theorem signLength_eq_zero {c : Char} {cs : List Char} (h : c.isDigit = true) : signLength (c :: cs) = 0 := by
  rw [signLength, if_neg]
  rintro (rfl | rfl) <;> cases h

theorem ExponentText.length_source_le (e : ExponentText) (rest : List Char) :
    e.source.length ≤ exponentLength (e.source ++ rest) := by
  have hsign : signLength (e.sign ++ (e.digits ++ rest)) = e.sign.length := by
    rcases e.sign_eq with hs | hs | hs
    · obtain ⟨d, ds, hds⟩ := List.exists_cons_of_ne_nil e.digits_ne_nil
      rw [hs, hds]
      exact signLength_eq_zero (e.isDigit_digits d (hds ▸ List.mem_cons_self))
    · rw [hs]
      rfl
    · rw [hs]
      rfl
  have hrun := le_digitRun_append rest e.isDigit_digits
  have hpos := List.length_pos_iff.2 e.digits_ne_nil
  rw [source, List.cons_append, List.append_assoc, exponentLength_cons, if_pos e.letter_eq, hsign, List.drop_left,
    if_neg (by omega), List.length_cons, List.length_append]
  omega

/-- No numeral at the front of a text is longer than what is cut off there. Digits may go on after the last part of the
numeral, but not after the parts before it. -/
theorem NumeralText.length_source_le (n : NumeralText) (rest : List Char) :
    n.source.length ≤ numeralLength (n.source ++ rest) := by
  rw [source, List.append_assoc, List.append_assoc, List.length_append, List.length_append]
  cases hf : n.fraction with
  | none =>
    cases n.exponent with
    | none =>
      have hrun := le_digitRun_append rest n.isDigit_whole
      rw [numeralLength_eq]
      simp only [Option.elim_none, List.nil_append, List.length_nil]
      omega
    | some e =>
      have hhead := e.head_source_append rest
      have hle := e.length_source_le rest
      simp only [Option.elim_none, Option.elim_some, List.nil_append, List.length_nil]
      rw [numeralLength_digits_append n.isDigit_whole fun c hc => (hhead c hc).1, numeralLength_of_head hhead]
      omega
  | some ds =>
    have hdigits := n.isDigit_fraction ds hf
    rw [Option.elim_some, List.cons_append, numeralLength_digits_append n.isDigit_whole (by simp), numeralLength_point,
      List.length_cons]
    cases n.exponent with
    | none =>
      have hrun := le_digitRun_append rest hdigits
      simp only [Option.elim_none, List.nil_append, List.length_nil]
      omega
    | some e =>
      have hrun := digitRun_append_eq hdigits fun c hc => (e.head_source_append rest c hc).1
      have hle := e.length_source_le rest
      rw [Option.elim_some, hrun, List.drop_left]
      omega

/-! ## Cutting -/

theorem take_signLength (cs : List Char) :
    cs.take (signLength cs) = [] ∨ cs.take (signLength cs) = ['+'] ∨ cs.take (signLength cs) = ['-'] := by
  cases cs with
  | nil => exact .inl rfl
  | cons c cs =>
    rw [signLength]
    split_ifs with hc
    · rcases hc with rfl | rfl
      · exact .inr (.inl rfl)
      · exact .inr (.inr rfl)
    · exact .inl rfl

theorem exists_take_exponentLength (cs : List Char) :
    ∃ e : Option ExponentText, e.elim [] ExponentText.source = cs.take (exponentLength cs) := by
  cases cs with
  | nil => exact ⟨none, rfl⟩
  | cons c cs =>
    rw [exponentLength_cons]
    split_ifs with hc hd
    · exact ⟨none, rfl⟩
    · have hne : (cs.drop (signLength cs)).takeWhile Char.isDigit ≠ [] := by
        rwa [ne_eq, ← List.length_eq_zero_iff]
      refine ⟨some ⟨c, _, _, hc, take_signLength cs, hne, isDigit_of_mem_takeWhile⟩, ?_⟩
      rw [Nat.add_assoc, Nat.add_comm 1, List.take_succ_cons, List.take_add, take_digitRun]
      rfl
    · exact ⟨none, rfl⟩

/-- A decimal point and digits, or nothing if the text does not start with a decimal point. -/
theorem exists_take_fractionLength (cs : List Char) : ∃ f : Option (List Char),
    f.elim [] ('.' :: ·) = cs.take (fractionLength cs) ∧ (∀ ds ∈ f, ∀ c ∈ ds, c.isDigit = true) ∧
      ∀ ds, cs = '.' :: ds → f = some (ds.takeWhile Char.isDigit) := by
  cases cs with
  | nil => exact ⟨none, rfl, by simp, by simp⟩
  | cons c cs =>
    by_cases hc : c = '.'
    · subst hc
      refine ⟨some (cs.takeWhile Char.isDigit), ?_, ?_, by simp⟩
      · rw [fractionLength, List.take_succ_cons, take_digitRun]
        rfl
      · simpa using fun c => List.mem_takeWhile_imp
    · exact ⟨none, by simp [fractionLength, hc], by simp, by simp [hc]⟩

theorem startsNumeral_iff {c : Char} {cs : List Char} :
    TokenKind.startsNumeral c cs = true ↔ c.isDigit = true ∨ c = '.' ∧ ∃ d ∈ cs.head?, d.isDigit = true := by
  cases cs <;> simp [TokenKind.startsNumeral]

/-- What is cut off the front of a text as a numeral is one. -/
theorem exists_source_eq_take {c : Char} {cs : List Char} (h : TokenKind.startsNumeral c cs = true) :
    ∃ n : NumeralText, n.source = (c :: cs).take (numeralLength (c :: cs)) := by
  obtain ⟨f, hf, hdigits, hpoint⟩ := exists_take_fractionLength ((c :: cs).dropWhile Char.isDigit)
  obtain ⟨e, he⟩ := exists_take_exponentLength
    ((c :: cs).drop (digitRun (c :: cs) + fractionLength ((c :: cs).dropWhile Char.isDigit)))
  refine ⟨⟨(c :: cs).takeWhile Char.isDigit, f, e, isDigit_of_mem_takeWhile, hdigits, ?_⟩, ?_⟩
  · rcases startsNumeral_iff.1 h with hc | ⟨rfl, d, hd, hdigit⟩
    · exact .inl (by simp [hc])
    · obtain ⟨ds, rfl⟩ := List.head?_eq_some_iff.1 hd
      exact .inr ⟨_, hpoint (d :: ds) rfl, by simp [hdigit]⟩
  · rw [numeralLength_eq, drop_digitRun, List.take_add, List.take_add, take_digitRun, drop_digitRun, ← hf, ← he,
      List.append_assoc]
    rfl

theorem read_of_startsNumeral {c : Char} {cs : List Char} (h : TokenKind.startsNumeral c cs = true) :
    TokenKind.read c cs = .ok (TokenKind.readNumeral (c :: cs)) := by
  have hne (d : Char) (hd : (d.isDigit || d == '.') = false) : c ≠ d := by
    rintro rfl
    rcases startsNumeral_iff.1 h with hc | ⟨rfl, -⟩
    · simp [hc] at hd
    · cases hd
  have hone : TokenKind.ofChar? c = none := by simp [TokenKind.ofChar?, hne]
  simp [TokenKind.read, hone, hne, h]

/-- The source of a number token is a numeral, and the token says the double nearest to the number that it denotes. -/
theorem exists_read_of_startsNumeral {c : Char} {cs : List Char} (h : TokenKind.startsNumeral c cs = true) :
    ∃ (n : NumeralText) (body after : List Char), cs = body ++ after ∧ n.source = c :: body ∧
      numeralLength (c :: cs) = body.length + 1 ∧
      TokenKind.read c cs = .ok (.number n.value.toFloat, body.length) := by
  obtain ⟨n, hn⟩ := exists_source_eq_take h
  obtain ⟨k, hk⟩ : ∃ k, numeralLength (c :: cs) = k + 1 := by
    refine Nat.exists_eq_succ_of_ne_zero fun hzero => ?_
    obtain ⟨d, ds, hs, -⟩ := n.exists_source_eq_cons
    rw [hzero, hs] at hn
    cases hn
  rw [hk, List.take_succ_cons] at hn
  have hle := numeralLength_le (c :: cs)
  rw [hk, List.length_cons] at hle
  have hbody : (cs.take k).length = k := List.length_take_of_le (Nat.le_of_succ_le_succ hle)
  refine ⟨n, cs.take k, cs.drop k, (List.take_append_drop k cs).symm, hn, by rw [hk, hbody], ?_⟩
  rw [read_of_startsNumeral h, TokenKind.readNumeral, hk, List.take_succ_cons, ← hn, n.readChars?_source, hbody]
  rfl

/-- A text is a numeral. -/
def IsNumeral (cs : List Char) : Prop := ∃ n : NumeralText, n.source = cs

/-- At the front of a text stands the longest numeral there, and the number that it is read as makes a token. -/
structure CutsNumeral (c : Char) (body after : List Char) : Prop where
  isNumeral : IsNumeral (c :: body)
  longest : ∀ source, IsNumeral source → source <+: c :: (body ++ after) → source.length ≤ (c :: body).length
  read : ∃ x, readChars? (c :: body) = some x ∧ TokenKind.read c (body ++ after) = .ok (.number x, body.length)

/-- A number is read wherever a digit stands, or a decimal point with a digit after it. The text that is taken for it is
the longest numeral there. Since every numeral is read, the number is always that of the text. -/
theorem exists_cutsNumeral {c : Char} {cs : List Char}
    (h : c.isDigit = true ∨ c = '.' ∧ ∃ d ∈ cs.head?, d.isDigit = true) :
    (∀ n : NumeralText, readChars? n.source = some n.value.toFloat) ∧
      ∃ body after, cs = body ++ after ∧ CutsNumeral c body after := by
  refine ⟨NumeralText.readChars?_source, ?_⟩
  obtain ⟨n, body, after, rfl, hn, hlength, hread⟩ := exists_read_of_startsNumeral (startsNumeral_iff.2 h)
  refine ⟨body, after, rfl, ⟨n, hn⟩, ?_, n.value.toFloat, hn ▸ n.readChars?_source, hread⟩
  rintro _ ⟨m, rfl⟩ ⟨rest, hm⟩
  have hle := m.length_source_le rest
  rwa [hm, hlength] at hle

/-- After the exponent stands a letter that could begin another one. -/
theorem exists_cutsNumeral_point : ('5'.isDigit = true ∧ ['5', 'e', '3', 'e', '+'].head? = some '5') ∧
    ∃ body after, ['5', 'e', '3', 'e', '+'] = body ++ after ∧ CutsNumeral '.' body after :=
  ⟨⟨rfl, rfl⟩, (exists_cutsNumeral (.inr ⟨rfl, '5', rfl, rfl⟩)).2⟩

end ComputedFields
