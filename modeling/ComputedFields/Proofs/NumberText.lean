import ComputedFields.Formula.Basic
import ComputedFields.Proofs.Doubles

/-!
# Numbers as text

- `isNumberChar_of_mem_numberText`: the characters that numbers are written with;
- `valueOf_positional`: digits around a point stand for the decimal that they were written for;
- `numberForm`: the four forms of a written number;
- `eq_of_numberText_eq`: numbers without a sign are told apart by their texts;
- `eq_neg_of_numberText`: a number is written with a sign only if it is the negation of what is written without.
-/

namespace ComputedFields

namespace Decimal

/-! ## Characters -/

/-- The characters of numbers in positional notation, of infinities and of what is not a number. -/
def isNumberChar (c : Char) : Bool := c.isDigit || c ∈ ['.', '-', 'N', 'a', 'i', 'n', 'f']

theorem isDigit_of_mem_ofScaled {s : Scaled} {c : Char} (h : c ∈ (Digits.ofScaled s).digits) : c.isDigit = true := by
  simp only [Digits.ofScaled] at h
  split at h
  next =>
    rw [List.mem_singleton.1 h]
    decide
  next d rest hd =>
    have hc : c ∈ dropTrailingZeros (Nat.toDigits 10 s.coefficient) := hd ▸ h
    rw [dropTrailingZeros, List.mem_reverse] at hc
    exact Nat.isDigit_of_mem_toDigits (by decide) (by decide)
      (List.mem_reverse.1 ((List.dropWhile_suffix _).subset hc))

theorem isDigit_of_mem_positional {d : Digits} (hd : ∀ c ∈ d.digits, c.isDigit = true) {c : Char}
    (h : c ∈ d.positional plain) : c.isDigit = true ∨ c = '.' := by
  have zero : ∀ n, c ∈ zeros n → c.isDigit = true := fun n hc => by
    rw [List.eq_of_mem_replicate hc]
    decide
  unfold Digits.positional at h
  split at h
  · simp only [List.mem_append, List.mem_cons, List.not_mem_nil, or_false] at h
    obtain ((rfl | rfl) | h) | h := h
    · exact .inl (by decide)
    · exact .inr rfl
    · exact .inl (zero _ h)
    · exact .inl (hd c h)
  · split at h
    · simp only [plain, List.append_nil, List.mem_append] at h
      obtain h | h := h
      · exact .inl (hd c h)
      · exact .inl (zero _ h)
    · simp only [List.mem_append, List.mem_singleton] at h
      obtain (h | rfl) | h := h
      · exact .inl (hd c (List.mem_of_mem_take h))
      · exact .inr rfl
      · exact .inl (hd c (List.mem_of_mem_drop h))

/-! ## Values -/

/-- The number that digits around a point stand for. -/
def valueOf (cs : List Char) : ℚ :=
  let after := (cs.dropWhile (· != '.')).drop 1
  Nat.ofDigitChars 10 (cs.takeWhile (· != '.') ++ after) 0 / 10 ^ after.length

theorem ne_point_of_isDigit {c : Char} (h : c.isDigit = true) : (c != '.') = true := by
  rw [bne_iff_ne]
  rintro rfl
  cases h

theorem valueOf_of_isDigit {cs : List Char} (h : ∀ c ∈ cs, c.isDigit = true) :
    valueOf cs = Nat.ofDigitChars 10 cs 0 := by
  have hp : ∀ c ∈ cs, (c != '.') = true := fun c hc => ne_point_of_isDigit (h c hc)
  rw [valueOf, List.takeWhile_eq_self_iff.2 hp, List.dropWhile_eq_nil_iff.2 hp]
  simp

theorem valueOf_append_point {cs : List Char} (h : ∀ c ∈ cs, c.isDigit = true) (ds : List Char) :
    valueOf (cs ++ '.' :: ds) = Nat.ofDigitChars 10 (cs ++ ds) 0 / 10 ^ ds.length := by
  have hp : ∀ c ∈ cs, (c != '.') = true := fun c hc => ne_point_of_isDigit (h c hc)
  rw [valueOf, List.takeWhile_append_of_pos hp, List.dropWhile_append_of_pos hp]
  simp

/-- Digits around a point, with zeros where digits are missing, stand for `0.d₁d₂… * 10 ^ point`. -/
theorem valueOf_positional {d : Digits} (h : ∀ c ∈ d.digits, c.isDigit = true) :
    valueOf (d.positional plain) = Nat.ofDigitChars 10 d.digits 0 * 10 ^ (d.point - d.digits.length) := by
  have zero (n : Nat) : ∀ c ∈ zeros n, c.isDigit = true := fun c hc => by
    rw [List.eq_of_mem_replicate hc]
    decide
  have hten : (10 : ℚ) ≠ 0 := by norm_num
  unfold Digits.positional
  split_ifs with hp hl
  · have hdigits : Nat.ofDigitChars 10 (['0'] ++ (zeros (-d.point).toNat ++ d.digits)) 0 =
        Nat.ofDigitChars 10 d.digits 0 := by
      simp [zeros, Nat.ofDigitChars_append, Nat.ofDigitChars_cons]
    rw [show ['0', '.'] ++ zeros (-d.point).toNat ++ d.digits = ['0'] ++ '.' :: (zeros (-d.point).toNat ++ d.digits) by
      simp, valueOf_append_point (List.forall_mem_singleton.2 rfl), hdigits, div_eq_mul_inv, ← zpow_natCast, ← zpow_neg]
    congr 2
    rw [List.length_append, zeros, List.length_replicate]
    omega
  · rw [plain, List.append_nil, valueOf_of_isDigit fun c hc => (List.mem_append.1 hc).elim (h c) (zero _ c),
      Nat.ofDigitChars_append, zeros, Nat.ofDigitChars_replicate_zero]
    push_cast
    rw [mul_comm, ← zpow_natCast]
    congr 2
    omega
  · rw [List.append_assoc, List.singleton_append, valueOf_append_point fun c hc => h c (List.mem_of_mem_take hc),
      List.take_append_drop, div_eq_mul_inv, ← zpow_natCast, ← zpow_neg]
    congr 2
    rw [List.length_drop]
    omega

theorem eq_append_zeros (ds : List Char) : ∃ n, ds = dropTrailingZeros ds ++ zeros n := by
  refine ⟨(ds.reverse.takeWhile (· == '0')).length, ?_⟩
  have hz : ds.reverse.takeWhile (· == '0') = zeros (ds.reverse.takeWhile (· == '0')).length :=
    List.eq_replicate_iff.2 ⟨rfl, fun c hc => by simpa using List.mem_takeWhile_imp hc⟩
  have h := List.takeWhile_append_dropWhile (p := (· == '0')) (l := ds.reverse)
  rw [dropTrailingZeros, ← List.reverse_inj, List.reverse_append, List.reverse_reverse]
  nth_rewrite 1 [← h]
  rw [zeros, List.reverse_replicate]
  exact congrArg (· ++ _) hz

/-- Zeros at the end are left out without changing the number. -/
theorem value_ofScaled (s : Scaled) : (Nat.ofDigitChars 10 (Digits.ofScaled s).digits 0 : ℚ) *
    10 ^ ((Digits.ofScaled s).point - (Digits.ofScaled s).digits.length) = s.value := by
  obtain ⟨n, hn⟩ := eq_append_zeros (Nat.toDigits 10 s.coefficient)
  have hc : s.coefficient = 10 ^ n * Nat.ofDigitChars 10 (dropTrailingZeros (Nat.toDigits 10 s.coefficient)) 0 := by
    have h := Nat.ofDigitChars_ten_toDigits (n := s.coefficient)
    rw [hn, Nat.ofDigitChars_append, zeros, Nat.ofDigitChars_replicate_zero] at h
    exact h.symm
  have hlen := congrArg List.length hn
  rw [List.length_append, zeros, List.length_replicate] at hlen
  unfold Digits.ofScaled Scaled.value
  dsimp only
  split
  next hd =>
    rw [hd, Nat.ofDigitChars_nil, mul_zero] at hc
    rw [hc]
    norm_num [Nat.ofDigitChars_cons]
  next d rest hd =>
    rw [hd] at hc hlen
    have hten : (10 : ℚ) ≠ 0 := by norm_num
    rw [hlen, hc]
    push_cast
    rw [mul_comm (10 ^ n : ℚ), mul_assoc, ← zpow_natCast, ← zpow_add₀ hten]
    congr 2
    ring

/-- The text of a decimal stands for it. -/
theorem valueOf_write (s : Scaled) : valueOf ((Digits.ofScaled s).write plain) = s.value := by
  rw [← value_ofScaled]
  exact valueOf_positional fun c hc => isDigit_of_mem_ofScaled hc

theorem isDigit_of_mem_write {s : Scaled} {c : Char} (h : c ∈ (Digits.ofScaled s).write plain) :
    c.isDigit = true ∨ c = '.' := isDigit_of_mem_positional (fun _ hc => isDigit_of_mem_ofScaled hc) h

end Decimal

open Decimal

/-! ## Written numbers -/

variable {x y : Float}

/-- The sign that a number is written with. -/
def signChars (x : Float) : List Char := if signBit x then ['-'] else []

/-- The four forms of a written number. -/
inductive NumberForm (x : Float) : List Char → Prop where
  | notANumber (h : x.isNaN = true) : NumberForm x ['N', 'a', 'N']
  | zero (h : (x == 0) = true) : NumberForm x ['0']
  | infinity (hn : x.isNaN = false) (h : Magnitude.ofFloat? x = none) : NumberForm x (signChars x ++ ['i', 'n', 'f'])
  | finite {m : Magnitude} (h : Magnitude.ofFloat? x = some m) (hm : m.IsDouble) :
    NumberForm x (signChars x ++ (Digits.ofScaled (shortest m)).write plain)

theorem numberForm (x : Float) : NumberForm x (numberText x).toList := by
  rw [numberText]
  split
  next hz =>
    rw [show "0".toList = ['0'] from String.toList_ofList]
    exact .zero hz
  next hz =>
    rw [Bool.not_eq_true] at hz
    rw [write]
    split
    next hn =>
      rw [show "NaN".toList = ['N', 'a', 'N'] from String.toList_ofList]
      exact .notANumber hn
    next hn =>
      have hsign : (if signBit x then "-" else "").toList = signChars x := by
        unfold signChars
        split
        · exact String.toList_ofList
        · exact String.toList_ofList
      rw [String.toList_append, hsign]
      cases h : Magnitude.ofFloat? x with
      | none =>
        rw [show "inf".toList = ['i', 'n', 'f'] from String.toList_ofList]
        exact .infinity (by simpa using hn) h
      | some m =>
        have hm := isDouble_of_ofFloat? h hz
        rw [String.toList_ofList, if_neg hm.pos.ne']
        exact .finite h hm

theorem isNumberChar_of_mem_numberText {c : Char} (h : c ∈ (numberText x).toList) : isNumberChar c = true := by
  have word {cs : List Char} (hcs : cs.all isNumberChar = true) (hc : c ∈ cs) : isNumberChar c = true :=
    List.all_eq_true.1 hcs c hc
  have sign : (signChars x).all isNumberChar = true := by
    unfold signChars
    split <;> decide
  have hform := numberForm x
  generalize (numberText x).toList = cs at h hform
  cases hform with
  | notANumber hn => exact word (by decide) h
  | zero hz => exact word (by decide) h
  | infinity hn ho => exact (List.mem_append.1 h).elim (word sign) (word (by decide))
  | finite ho hm =>
    refine (List.mem_append.1 h).elim (word sign) fun hc => ?_
    obtain hd | rfl := isDigit_of_mem_write hc
    · simp [isNumberChar, hd]
    · decide

theorem signChars_eq_nil {cs ds : List Char} (h : signChars x ++ cs = ds) (hds : '-' ∉ ds) :
    signBit x = false ∧ cs = ds := by
  unfold signChars at h
  split at h
  next => exact absurd (h ▸ List.mem_cons_self) hds
  next hs => exact ⟨by simpa using hs, h⟩

namespace NumberForm

variable {m : Magnitude} {cs : List Char}

theorem not_mem_write {s : Scaled} {c : Char} (hc : (c.isDigit || c == '.') = false) :
    c ∉ (Digits.ofScaled s).write plain := fun h => by
  obtain hd | rfl := isDigit_of_mem_write h <;> simp_all

/-- What follows a sign is an infinity or a decimal. -/
theorem of_sign (h : NumberForm x ('-' :: cs)) : signBit x = true ∧
    (x.isNaN = false ∧ Magnitude.ofFloat? x = none ∧ cs = ['i', 'n', 'f'] ∨
      ∃ m, Magnitude.ofFloat? x = some m ∧ m.IsDouble ∧ cs = (Digits.ofScaled (shortest m)).write plain) := by
  generalize hds : '-' :: cs = ds at h
  cases h with
  | notANumber hn => cases hds
  | zero hz => cases hds
  | infinity hn ho =>
    unfold signChars at hds
    split at hds
    next hs =>
      cases hds
      exact ⟨hs, .inl ⟨hn, ho, rfl⟩⟩
    next => cases hds
  | finite ho hm =>
    unfold signChars at hds
    split at hds
    next hs =>
      cases hds
      exact ⟨hs, .inr ⟨_, ho, hm, rfl⟩⟩
    next => exact absurd (hds ▸ List.mem_cons_self) (not_mem_write (by decide))

theorem of_infinity (h : NumberForm x ['i', 'n', 'f']) :
    signBit x = false ∧ x.isNaN = false ∧ Magnitude.ofFloat? x = none := by
  generalize hds : ['i', 'n', 'f'] = ds at h
  cases h with
  | notANumber hn => cases hds
  | zero hz => cases hds
  | infinity hn ho => exact ⟨(signChars_eq_nil hds.symm (by decide)).1, hn, ho⟩
  | finite ho hm =>
    have hmem : 'i' ∈ (Digits.ofScaled (shortest _)).write plain :=
      (signChars_eq_nil hds.symm (by decide)).2 ▸ List.mem_cons_self
    exact absurd hmem (not_mem_write (by decide))

/-- Only zero is written with the digit zero alone. -/
theorem write_ne_zero (hm : m.IsDouble) : (Digits.ofScaled (shortest m)).write plain ≠ ['0'] := fun h => by
  have hv := valueOf_write (shortest m)
  rw [h, valueOf_of_isDigit (List.forall_mem_singleton.2 rfl)] at hv
  exact absurd hv.symm (Magnitude.shortest_pos hm).ne'

theorem of_zero (h : NumberForm x ['0']) : (x == 0) = true := by
  generalize hds : ['0'] = ds at h
  cases h with
  | notANumber hn => cases hds
  | zero hz => exact hz
  | infinity hn ho => cases (signChars_eq_nil hds.symm (by decide)).2
  | finite ho hm => exact absurd (signChars_eq_nil hds.symm (by decide)).2 (write_ne_zero hm)

/-- Decimals are read back. -/
theorem of_decimal (hm : m.IsDouble) (h : NumberForm x ((Digits.ofScaled (shortest m)).write plain)) :
    signBit x = false ∧ Magnitude.ofFloat? x = some m := by
  generalize hds : (Digits.ofScaled (shortest m)).write plain = ds at h
  have absent {c : Char} (hc : (c.isDigit || c == '.') = false) : c ∉ ds := hds ▸ not_mem_write hc
  cases h with
  | notANumber hn => exact absurd List.mem_cons_self (absent (c := 'N') (by decide))
  | zero hz => exact absurd hds (write_ne_zero hm)
  | infinity hn ho => exact absurd (List.mem_append_right _ List.mem_cons_self) (absent (c := 'i') (by decide))
  | finite ho hm' =>
    obtain ⟨hs, hw⟩ := signChars_eq_nil rfl (absent (by decide))
    have hv := valueOf_write (shortest m)
    rw [hds, ← hw, valueOf_write] at hv
    exact ⟨hs, Magnitude.eq_of_shortest_eq hm' hm hv ▸ ho⟩

end NumberForm

/-- Numbers without a sign are told apart by their texts. -/
theorem eq_of_numberText_eq (hnx : x.isNaN = false) (hsx : signBit x = false) (hny : y.isNaN = false)
    (hsy : signBit y = false) (h : numberText x = numberText y) : x = y := by
  have unsigned (cs : List Char) : signChars y ++ cs = cs := by simp [signChars, hsy]
  have same (h : Magnitude.ofFloat? x = Magnitude.ofFloat? y) : x = y := by
    obtain ⟨hb, hf⟩ := parts_of_ofFloat?_eq hnx hny h
    exact eq_of_parts (hsx.trans hsy.symm) hb hf
  have hx := numberForm x
  have hy := numberForm y
  rw [h] at hx
  generalize (numberText y).toList = cs at hx hy
  cases hy with
  | notANumber hn => cases hny.symm.trans hn
  | zero hz =>
    obtain ⟨hb, hf⟩ := beq_zero_iff.1 hz
    obtain ⟨hb', hf'⟩ := beq_zero_iff.1 hx.of_zero
    exact eq_of_parts (hsx.trans hsy.symm) (hb'.trans hb.symm) (hf'.trans hf.symm)
  | infinity hn ho =>
    rw [unsigned] at hx
    exact same (hx.of_infinity.2.2.trans ho.symm)
  | finite ho hm =>
    rw [unsigned] at hx
    exact same ((hx.of_decimal hm).2.trans ho.symm)

/-- Only numbers with a sign are written with one. -/
theorem signBit_of_numberText {s : String} (h : numberText x = "-" ++ s) : signBit x = true := by
  have hx := numberForm x
  rw [h, String.toList_append, show "-".toList = ['-'] from String.toList_ofList] at hx
  exact hx.of_sign.1

/-- A number is written with a sign only if it is the negation of the number that is written without. -/
theorem eq_neg_of_numberText (h : numberText x = "-" ++ numberText y) : x = -y := by
  have hx := numberForm x
  have hy := numberForm y
  rw [h, String.toList_append, show "-".toList = ['-'] from String.toList_ofList] at hx
  generalize (numberText y).toList = cs at hx hy
  obtain ⟨hs, ⟨hn, ho, rfl⟩ | ⟨m, ho, hm, rfl⟩⟩ := hx.of_sign
  · obtain ⟨hs', hn', ho'⟩ := hy.of_infinity
    exact eq_neg_of_ofFloat?_eq hn hn' (by simp [hs, hs']) (ho.trans ho'.symm)
  · obtain ⟨hs', ho'⟩ := hy.of_decimal hm
    exact eq_neg_of_ofFloat?_eq (isNaN_of_ofFloat? ho) (isNaN_of_ofFloat? ho') (by simp [hs, hs'])
      (ho.trans ho'.symm)

end ComputedFields
