import ComputedFields.Proofs.Alike
import ComputedFields.Proofs.FullInlining
import ComputedFields.Proofs.NumberText
import ComputedFields.Proofs.Numerals
import ComputedFields.Proofs.Overflow
import ComputedFields.Target.Fragment

/-!
# Number literals

- `exists_numeral_of_read`: what is scanned as a numeral denotes a number, and is read as the double nearest to it;
- `numerals_eq`: the numbers of a formula are those that its text writes, in the same order;
- `isDecimal_write`: decimals are written with digits around at most one decimal point;
- `writesNumber_parse`: every number literal is emitted as such a numeral, unless it is too large for a double.
-/

namespace ComputedFields

open Decimal

/-! ## Numerals in texts -/

theorem startsNumeral_of_read {c : Char} {cs : List Char} {x : Float} {k : Nat}
    (h : TokenKind.read c cs = .ok (.number x, k)) :
    TokenKind.startsNumeral c cs = true := by
  unfold TokenKind.read at h
  cases hc : TokenKind.ofChar? c with
  | some kind =>
    simp only [hc, Except.ok.injEq, Prod.mk.injEq] at h
    rw [h.1] at hc
    unfold TokenKind.ofChar? at hc
    grind
  | none =>
    simp only [hc] at h
    split_ifs at h with h1 h2 h3 h4 h5 h6 h7
    · unfold TokenKind.readLess at h
      split at h <;> cases h
    · unfold TokenKind.readGreater at h
      split at h <;> cases h
    · unfold TokenKind.readExclamation at h
      split at h <;> cases h
    · obtain ⟨_, _, h⟩ := readText_eq_ok_iff.1 h
      cases h
    · obtain ⟨_, _, _, h, _⟩ := readReference_eq_ok_iff.1 h
      cases h
    · exact h6
    · have hword := congrArg Prod.fst (Except.ok.inj h)
      simp only [TokenKind.readName, TokenKind.ofWord] at hword
      split_ifs at hword

/-- The source of a number token denotes a number, and the token says the double nearest to it. -/
theorem exists_numeral_of_read {c : Char} {body after : List Char} {x : Float}
    (h : TokenKind.read c (body ++ after) = .ok (.number x, body.length)) :
    ∃ n, readUnsigned? (c :: body) = some n ∧ n.toFloat = x := by
  obtain ⟨n, body', after', hcs, hn, -, hread⟩ := exists_read_of_startsNumeral (startsNumeral_of_read h)
  obtain ⟨hx, hlength⟩ : x = n.value.toFloat ∧ body.length = body'.length := by simpa using h.symm.trans hread
  rw [(List.append_inj hcs hlength).1, ← hn]
  exact ⟨n.value, n.readUnsigned?_source, hx.symm⟩

/-! ## Numbers of formulas -/

/-- The number that a token says. -/
def TokenKind.numerals : TokenKind → List Float
  | .number x => [x]
  | _ => []

/-- The number that a lexeme writes. -/
def Lexeme.numeral? (l : Lexeme) : Option Numeral :=
  match l.kind with
  | .number _ => readUnsigned? l.source
  | _ => none

/-- The numbers that a text writes, from left to right. -/
def writtenNumerals (text : String) : List Numeral := (scan text.toList).lexemes.filterMap Lexeme.numeral?

theorem Lexed.numerals_eq {cs rest : List Char} {ls : List Lexeme} (h : Lexed cs ls rest) :
    (ls.map (·.kind)).flatMap TokenKind.numerals = (ls.filterMap Lexeme.numeral?).map Numeral.toFloat := by
  induction h with
  | blank hb => rfl
  | @lexeme gap body after rest c kind ls hg hc hr _ ih =>
    rw [List.map_cons, List.flatMap_cons, ih]
    cases kind with
    | number x =>
      obtain ⟨n, hn, rfl⟩ := exists_numeral_of_read hr
      simp [TokenKind.numerals, Lexeme.numeral?, hn]
    | _ => rfl

theorem Formula.numeralsIn_eq_flatMap (fs : List Formula) : numeralsIn fs = fs.flatMap numerals := by
  induction fs with
  | nil => rfl
  | cons f fs ih => rw [numeralsIn, ih, List.flatMap_cons]

theorem collects_numerals : Collects Formula.numerals TokenKind.numerals where
  number _ := rfl
  text _ := rfl
  boolean _ := rfl
  field _ := rfl
  call _ fs := by rw [Formula.numerals, Formula.numeralsIn_eq_flatMap]
  unary _ _ := by rw [Formula.numerals]
  binary _ _ _ := by rw [Formula.numerals]
  other {k} h := by
    cases k with
    | number x => cases h
    | _ => rfl

/-- The numbers of a formula are those that its text writes. -/
theorem numerals_eq {text : String} {f : Formula} (h : parse text = .ok f) :
    f.numerals = (writtenNumerals text).map Numeral.toFloat := by
  obtain ⟨ks, hs, hd⟩ := parse_eq_ok_iff_spells.1 h
  obtain ⟨ls, rest, hl, rfl⟩ := hs.exists_lexed
  rw [hd.collect_eq collects_numerals, hl.numerals_eq, writtenNumerals, scan_eq_iff_lexed.2 hl]

/-! ## Written numbers -/

/-- One or more digits, and perhaps a decimal point with one or more digits after it. -/
def isDecimal (cs : List Char) : Bool :=
  let rest := cs.dropWhile Char.isDigit
  !(cs.takeWhile Char.isDigit).isEmpty &&
    (rest.isEmpty || rest.head? == some '.' && !rest.tail.isEmpty && rest.tail.all Char.isDigit)

theorem isDecimal_of_isDigit {ds : List Char} (hne : ds ≠ []) (hd : ∀ c ∈ ds, c.isDigit = true) :
    isDecimal ds = true := by
  obtain ⟨htake, hdrop⟩ := takeWhile_isDigit_append [] hd nofun
  rw [List.append_nil] at htake hdrop
  simp [isDecimal, htake, hdrop, hne]

theorem isDecimal_append_point {ds ds' : List Char} (hne : ds ≠ []) (hd : ∀ c ∈ ds, c.isDigit = true)
    (hne' : ds' ≠ []) (hd' : ∀ c ∈ ds', c.isDigit = true) : isDecimal (ds ++ '.' :: ds') = true := by
  obtain ⟨htake, hdrop⟩ := takeWhile_isDigit_append ('.' :: ds') hd (by simp)
  simpa [isDecimal, htake, hdrop, hne, hne'] using hd'

theorem isDecimal_positional {d : Digits} (hne : d.digits ≠ []) (hd : ∀ c ∈ d.digits, c.isDigit = true) :
    isDecimal (d.positional plain) = true := by
  have hzeros (n : Nat) : ∀ c ∈ zeros n, c.isDigit = true := fun c hc => by
    rw [List.eq_of_mem_replicate hc]
    decide
  unfold Digits.positional
  split_ifs with hpoint hlength
  · exact isDecimal_append_point (List.cons_ne_nil '0' []) (by simp) (by simp [hne])
      (List.forall_mem_append.2 ⟨hzeros _, hd⟩)
  · exact isDecimal_of_isDigit (by simp [hne]) (by simpa [plain] using List.forall_mem_append.2 ⟨hd, hzeros _⟩)
  · rw [List.append_assoc, List.singleton_append]
    refine isDecimal_append_point ?_ (fun c hc => hd c (List.mem_of_mem_take hc)) ?_
      (fun c hc => hd c (List.mem_of_mem_drop hc))
    · rw [ne_eq, List.take_eq_nil_iff]
      simp only [hne, or_false]
      omega
    · rw [ne_eq, List.drop_eq_nil_iff]
      omega

theorem isDecimal_write (s : Scaled) : isDecimal ((Digits.ofScaled s).write plain) = true := by
  refine isDecimal_positional ?_ fun c hc => isDigit_of_mem_ofScaled hc
  simp only [Digits.ofScaled]
  split <;> exact List.cons_ne_nil _ _

/-- A number is written as a decimal, and as a word if it is too large for a double. -/
structure WritesNumber (n : Numeral) (code : String) : Prop where
  isDecimal_iff : isDecimal code.toList = true ↔ n.value < overflow
  eq_inf_iff : code = "inf" ↔ overflow ≤ n.value

theorem writesNumber_numberText (n : Numeral) : WritesNumber n (numberText n.toFloat) := by
  obtain ⟨hsign, hnan, hiff⟩ := rounds_toFloat n
  have hplus : signChars n.toFloat = [] := by
    unfold Decimal.sign at hsign
    unfold signChars
    split_ifs at hsign ⊢
    rfl
  have hfinite {code : String} (hb : biased n.toFloat ≠ 2047) (hd : isDecimal code.toList = true) :
      WritesNumber n code := by
    refine ⟨iff_of_true hd (not_le.1 (mt hiff.2 hb)), iff_of_false ?_ (mt hiff.2 hb)⟩
    rintro rfl
    revert hd
    decide
  have hform := numberForm n.toFloat
  generalize hcode : numberText n.toFloat = code at hform ⊢
  generalize hcs : code.toList = cs at hform
  cases hform with
  | notANumber hn =>
    rw [hnan] at hn
    cases hn
  | zero hz =>
    refine hfinite ?_ (by rw [hcs]; decide)
    rw [(beq_zero_iff.1 hz).1]
    decide
  | infinity hn ho =>
    have hb : biased n.toFloat = 2047 := by
      by_contra hb
      rw [ofFloat?_eq, if_neg hb] at ho
      split_ifs at ho
    rw [hplus, List.nil_append] at hcs
    refine ⟨iff_of_false ?_ (not_lt.2 (hiff.1 hb)), iff_of_true ?_ (hiff.1 hb)⟩
    · rw [hcs]
      decide
    · rw [← String.toList_inj, hcs]
      rfl
  | finite ho hm =>
    refine hfinite (fun hb => ?_) (by rw [hcs, hplus]; exact isDecimal_write _)
    rw [ofFloat?_eq, if_pos hb] at ho
    cases ho

/-- The number literals of a formula stand for the numerals of its text, and every target emits each of them as a
decimal, except those that are too large for a double: these it emits as the word for infinity. -/
theorem writesNumber_parse {text : String} {f : Formula} (h : parse text = .ok f) :
    List.Forall₂ (fun n x => ∀ t : Target, WritesNumber n (t.literal (.number x))) (writtenNumerals text)
      f.numerals := by
  rw [numerals_eq h, List.forall₂_map_right_iff, List.forall₂_same]
  exact fun n _ _ => writesNumber_numberText n

theorem lexed_credit : Lexed "-2.50".toList
    [⟨[], ['-'], .minus⟩, ⟨[], ['2', '.', '5', '0'], .number (Numeral.toFloat ⟨250, -2⟩)⟩] [] := by
  rw [show "-2.50".toList = ['-', '2', '.', '5', '0'] from String.toList_ofList]
  have hnumber : Lexed ['2', '.', '5', '0'] _ [] :=
    @Lexed.lexeme [] ['.', '5', '0'] [] [] '2' _ [] nofun (by decide) rfl (.blank nofun)
  exact @Lexed.lexeme [] [] _ [] '-' _ _ nofun (by decide) rfl hnumber

theorem writesNumber_parse_credit :
    parse "-2.50" = .ok (.unary .negate (.literal (.number (Numeral.toFloat ⟨250, -2⟩)))) ∧
      ∀ t : Target, isDecimal (t.literal (.number (Numeral.toFloat ⟨250, -2⟩))).toList = true := by
  have hparse : parse "-2.50" = .ok (.unary .negate (.literal (.number (Numeral.toFloat ⟨250, -2⟩)))) :=
    parse_eq_ok_iff_spells.2 ⟨_, lexed_credit.spells,
      .inl (.tighter (.tighter (.tighter (.tighter (.minus (.number _))))))⟩
  have hwritten : writtenNumerals "-2.50" = [⟨250, -2⟩] := by
    rw [writtenNumerals, scan_eq_iff_lexed.2 lexed_credit]
    rfl
  refine ⟨hparse, fun t => ?_⟩
  have hwrites := writesNumber_parse hparse
  rw [hwritten] at hwrites
  exact ((List.forall₂_cons.1 hwrites).1 t).isDecimal_iff.2 (mul_pow_lt_overflow (by decide) (by decide))

/-- A numeral that is too large for a double is emitted as a word. -/
theorem literal_large : parse "1e309" = .ok (.literal (.number (Numeral.toFloat ⟨1, 309⟩))) ∧
    ∀ t : Target, t.literal (.number (Numeral.toFloat ⟨1, 309⟩)) = "inf" ∧
      isDecimal (t.literal (.number (Numeral.toFloat ⟨1, 309⟩))).toList = false := by
  have hlexed : Lexed "1e309".toList
      [⟨[], ['1', 'e', '3', '0', '9'], .number (Numeral.toFloat ⟨1, 309⟩)⟩] [] := by
    rw [show "1e309".toList = ['1', 'e', '3', '0', '9'] from String.toList_ofList]
    exact @Lexed.lexeme [] ['e', '3', '0', '9'] [] [] '1' _ [] nofun (by decide) rfl (.blank nofun)
  have hvalue : overflow ≤ Scaled.value ⟨1, 309⟩ := by
    rw [Scaled.value, Nat.cast_one, one_mul]
    exact overflow_le_pow le_rfl
  have hcode (t : Target) : t.literal (.number (Numeral.toFloat ⟨1, 309⟩)) = "inf" :=
    (writesNumber_numberText ⟨1, 309⟩).eq_inf_iff.2 hvalue
  refine ⟨parse_eq_ok_iff_spells.2 ⟨_, hlexed.spells,
    .inl (.tighter (.tighter (.tighter (.tighter (.number _)))))⟩, fun t => ⟨hcode t, ?_⟩⟩
  rw [hcode t]
  decide

end ComputedFields
