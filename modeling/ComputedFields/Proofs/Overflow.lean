import ComputedFields.Decimal.Numeral
import ComputedFields.Proofs.ResidualBits

/-!
# Numerals that are too large

A numeral stands for a rational number, which is read as a double.

- `overflow`: the least number that is too large for a double;
- `rounds_round`: a number is rounded to infinity exactly if it reaches `overflow`;
- `rounds_mul`, `rounds_div`, `rounds_ofScientific`: products, quotients and powers of ten;
- `rounds_toFloat`: a numeral is read as a positive number, and as infinity exactly if it reaches `overflow`.
-/

namespace ComputedFields.Decimal

open Float.Model Float.Model.UnpackedFloat

variable {q : ℚ} {m : Nat} {e : Int} {a : Accuracy}

/-! ## Overflow -/

/-- The middle between the largest double and the power of two that follows it. -/
def overflow : ℚ := (2 ^ 53 - 1 / 2) * 2 ^ (971 : Int)

theorem overflow_le : overflow ≤ 2 ^ (1024 : Int) := by
  have h : (2 : ℚ) ^ (1024 : Int) = 2 ^ 53 * 2 ^ (971 : Int) := by
    rw [← zpow_natCast, ← zpow_add₀ two_ne_zero]
    rfl
  rw [h, overflow]
  gcongr
  norm_num

theorem le_overflow : 2 ^ (1023 : Int) ≤ overflow := by
  have h : (2 : ℚ) ^ (1023 : Int) = 2 ^ 52 * 2 ^ (971 : Int) := by
    rw [← zpow_natCast, ← zpow_add₀ two_ne_zero]
    rfl
  rw [h, overflow]
  gcongr
  norm_num

/-- The exponent of the rounded number is too large for a double exactly if the number reaches `overflow`. -/
theorem Represents.le_cutExponent_iff (h : Represents (.ofMantissaAndAccuracy m a) q) (he : e ≤ 971) {r : Nat}
    (hr : (Decimal.cut m e a).roundedMantissa = r) :
    972 ≤ cutExponent r (cutExponent m e) ↔ overflow ≤ q * 2 ^ e := by
  have hcut : cutExponent m e = max e (max (m.log2 + 1 + e - 53) (-1074)) := rfl
  have hle : r ≤ 2 ^ 53 := hr ▸ roundedMantissa_cut_le h
  rw [cutExponent_rounded hle (by omega)]
  rcases lt_trichotomy (cutExponent m e) 971 with hc | hc | hc
  · have hlt : q * 2 ^ e < 2 ^ (1023 : Int) := h.lt_pow (by omega)
    refine iff_of_false ?_ (not_le.2 (hlt.trans_le le_overflow))
    split_ifs <;> omega
  · have hround := (h.cut (e := e)).le_roundedMantissa_iff (2 ^ 52)
    have hnum : (2 * ((2 ^ 52 : Nat) : ℚ) - 1 / 2) = 2 ^ 53 - 1 / 2 := by norm_num
    rw [hr, hc, le_div_iff₀ (zpow_pos two_pos _), hnum] at hround
    rw [overflow, ← hround, hc]
    split_ifs <;> omega
  · have hm : m ≠ 0 := by
      rintro rfl
      have hlog : Nat.log2 0 = 0 := rfl
      omega
    refine iff_of_true ?_ (overflow_le.trans (h.pow_le hm (by omega)))
    split_ifs <;> omega

/-- A number that reaches `overflow` is not rounded to zero. -/
theorem Represents.mantissa_cut_ne_zero (h : Represents (.ofMantissaAndAccuracy m a) q) (he : e ≤ 971) {r : Nat}
    (hr : (Decimal.cut m e a).roundedMantissa = r) (hq : overflow ≤ q * 2 ^ e) :
    (Decimal.cut r (cutExponent m e) .exact).mantissa ≠ 0 := by
  have hlog : (1023 : Int) < m.log2 + 1 + e :=
    (zpow_lt_zpow_iff_right₀ one_lt_two).1 ((le_overflow.trans hq).trans_lt (h.lt_pow le_rfl))
  have hcut : cutExponent m e = m.log2 + 1 + e - 53 := by
    unfold cutExponent
    omega
  have hm : m ≠ 0 := by
    rintro rfl
    have hlog' : Nat.log2 0 = 0 := rfl
    omega
  -- The leading digit stays, so the rounded mantissa has all its digits.
  have hle : 2 ^ 52 ≤ r := by
    have hpow : (2 : ℚ) ^ (52 + cutExponent m e) ≤ q * 2 ^ e := h.pow_le hm (by omega)
    have hround := (h.cut (e := e)).le_roundedMantissa_iff (2 ^ 51)
    rw [hr, le_div_iff₀ (zpow_pos two_pos _)] at hround
    refine hround.2 (le_trans ?_ hpow)
    rw [zpow_add₀ two_ne_zero]
    gcongr
    norm_num
  intro hz
  have hlt := (represents_exact r).cut (e := cutExponent m e) |>.mantissa_le.2
  rw [hz, div_lt_iff₀ (zpow_pos two_pos _), Nat.cast_zero, zero_add, one_mul] at hlt
  have hle' : (2 : ℚ) ^ (52 + cutExponent m e) ≤ r * 2 ^ cutExponent m e := by
    rw [zpow_add₀ two_ne_zero]
    gcongr
    exact_mod_cast hle
  have hexp := (zpow_lt_zpow_iff_right₀ one_lt_two).1 (hle'.trans_lt hlt)
  have hrle : r ≤ 2 ^ 53 := hr ▸ roundedMantissa_cut_le h
  rw [cutExponent_rounded hrle (by omega)] at hexp
  split_ifs at hexp <;> omega

/-! ## Packing -/

/-- The double that an unpacked number is packed into. -/
def packed (u : UnpackedFloat) : Float := .ofModel (.pack u)

theorem parts_packed_zero (s : Sign) : sign (packed (.zero s)) = s ∧ biased (packed (.zero s)) = 0 :=
  (parts_of_packComponents (x := packed (.zero s)) rfl).imp_right And.left

theorem parts_packed_infinity (s : Sign) : sign (packed (.infinity s)) = s ∧
    biased (packed (.infinity s)) = 2047 ∧ fraction (packed (.infinity s)) = 0 :=
  parts_of_packComponents (x := packed (.infinity s)) rfl

theorem toBitVec_packed (u : UnpackedFloat) : (packed u).toBits.toBitVec = UnpackedFloat.pack .binary64 u := rfl

theorem packed_of_le {s : Sign} (hm : 0 < m) (he : 972 ≤ e) : packed (.finite s m e hm) = packed (.infinity s) := by
  have hle : 2048 ≤ (e + 1023 + 52).toNat + 1 := by omega
  rw [← Float.toBits_inj, ← UInt64.toBitVec_inj, toBitVec_packed, toBitVec_packed]
  exact if_pos hle

theorem parts_packed_of_lt {s : Sign} (hm : 0 < m) (he : e < 972) : sign (packed (.finite s m e hm)) = s ∧
    biased (packed (.finite s m e hm)) ≤ (e + 1075).toNat := by
  have hlt : ¬ 2048 ≤ (e + 1023 + 52).toNat + 1 := by omega
  have hbits := (toBitVec_packed (.finite s m e hm)).trans (if_neg hlt)
  split_ifs at hbits
  · obtain ⟨hs, hb, -⟩ := parts_of_packComponents hbits
    refine ⟨hs, hb.trans_le ?_⟩
    rw [BitVec.toNat_ofNat]
    exact (Nat.mod_le _ _).trans (by change (e + 1023 + 52).toNat ≤ _; omega)
  · obtain ⟨hs, hb, -⟩ := parts_of_packComponents hbits
    exact ⟨hs, hb.trans_le (Nat.zero_le _)⟩

/-- The double that a number without a sign is rounded to: infinity if it reaches `overflow`, and else a finite one. -/
structure Rounds (x : Float) (q : ℚ) : Prop where
  sign_eq : sign x = .positive
  isNaN_eq : x.isNaN = false
  biased_eq_iff : biased x = 2047 ↔ overflow ≤ q

variable {x y : Float}

theorem Rounds.of_lt (hs : sign x = .positive) (hb : biased x < 2047) (hq : q < overflow) : Rounds x q where
  sign_eq := hs
  isNaN_eq := by
    rw [Bool.eq_false_iff, ne_eq, isNaN_eq_true_iff]
    omega
  biased_eq_iff := iff_of_false hb.ne (not_le.2 hq)

theorem rounds_infinity (hq : overflow ≤ q) : Rounds (packed (.infinity .positive)) q := by
  obtain ⟨hs, hb, hf⟩ := parts_packed_infinity .positive
  refine ⟨hs, ?_, iff_of_true hb hq⟩
  rw [Bool.eq_false_iff, ne_eq, isNaN_eq_true_iff]
  exact fun h => h.2 hf

theorem rounds_zero (hq : q < overflow) : Rounds (packed (.zero .positive)) q := by
  obtain ⟨hs, hb⟩ := parts_packed_zero .positive
  exact .of_lt hs (by omega) hq

/-- A number is rounded to infinity exactly if it reaches `overflow`. -/
theorem rounds_round (h : Represents (.ofMantissaAndAccuracy m a) q) (he : e ≤ 971) :
    Rounds (packed (roundWithAccuracy .binary64 .positive m e a)) (q * 2 ^ e) := by
  rw [roundWithAccuracy_eq .positive m e a rfl]
  have hiff := h.le_cutExponent_iff he rfl
  by_cases hq : overflow ≤ q * 2 ^ e
  · rw [dif_neg (h.mantissa_cut_ne_zero he rfl hq), packed_of_le _ (hiff.2 hq)]
    exact rounds_infinity hq
  · have hlt := not_le.1 (mt hiff.1 hq)
    split_ifs with hz
    · exact rounds_zero (not_le.1 hq)
    · obtain ⟨hs, hb⟩ := parts_packed_of_lt (s := .positive) (Nat.pos_of_ne_zero hz) hlt
      exact .of_lt hs (by omega) (not_le.1 hq)

/-! ## Products and quotients -/

theorem rounds_mul {m₁ m₂ : Nat} {e₁ e₂ : Int} (h₁ : 0 < m₁) (h₂ : 0 < m₂) (he : e₁ + e₂ ≤ 971) :
    Rounds (packed (mul .binary64 (.finite .positive m₁ e₁ h₁) (.finite .positive m₂ e₂ h₂)))
      (m₁ * 2 ^ e₁ * (m₂ * 2 ^ e₂)) := by
  have hq : (m₁ * 2 ^ e₁ * (m₂ * 2 ^ e₂) : ℚ) = (m₁ * m₂ : Nat) * 2 ^ (e₁ + e₂) := by
    rw [zpow_add₀ two_ne_zero]
    push_cast
    ring
  rw [hq]
  exact rounds_round (represents_exact _) he

theorem rounds_div {m₁ m₂ : Nat} {e₁ e₂ : Int} (h₁ : 0 < m₁) (h₂ : 0 < m₂) (he : e₁ - e₂ ≤ 971) :
    Rounds (packed (div .binary64 (.finite .positive m₁ e₁ h₁) (.finite .positive m₂ e₂ h₂)))
      (m₁ * 2 ^ e₁ / (m₂ * 2 ^ e₂)) := by
  have hdiv : ∃ (n : Nat) (e : Int), e ≤ e₁ - e₂ ∧ (m₁ * 2 ^ e₁ / (m₂ * 2 ^ e₂) : ℚ) = (n : ℚ) / m₂ * 2 ^ e ∧
      divCore .binary64 m₁ e₁ m₂ e₂ = (n / m₂, e, accuracyOfFraction (n % m₂) m₂) := by
    refine ⟨_, _, min_le_left _ _, ?_, rfl⟩
    generalize hT : min (e₁ - e₂) _ = e
    have hle : e ≤ e₁ - e₂ := hT ▸ min_le_left _ _
    have hpow : (2 : ℚ) ^ (e₁ - e₂ - e).toNat * 2 ^ e * 2 ^ e₂ = 2 ^ e₁ := by
      rw [← zpow_natCast, Int.toNat_of_nonneg (by omega), ← zpow_add₀ two_ne_zero, ← zpow_add₀ two_ne_zero]
      congr 1
      omega
    rw [Nat.shiftLeft_eq, ← hpow]
    have hm₂ : (m₂ : ℚ) ≠ 0 := by exact_mod_cast h₂.ne'
    push_cast
    field_simp
  obtain ⟨n, e, hle, hq, hdiv⟩ := hdiv
  rw [hq, UnpackedFloat.div]
  simp only [hdiv]
  exact rounds_round (represents_div n h₂) (hle.trans he)

/-! ## Scientific notation -/

theorem rounds_ofScientificModel (m : Nat) (e : Int) :
    Rounds (.ofModel (Float.Model.ofScientific m e)) (m * 10 ^ e) := by
  change Rounds (packed (UnpackedFloat.ofScientific .binary64 m e)) _
  have hone : (1 : ℚ) < overflow := (one_lt_zpow₀ one_lt_two (by decide)).trans_le le_overflow
  unfold UnpackedFloat.ofScientific
  split_ifs with hm hlarge hsmall hsign
  · rw [hm, Nat.cast_zero, zero_mul]
    exact rounds_zero (zero_lt_one.trans hone)
  · have hm' : (1 : ℚ) ≤ m := by exact_mod_cast Nat.pos_of_ne_zero hm
    have hlarge : (2048 : Int) < e := hlarge
    refine rounds_infinity (overflow_le.trans ?_)
    calc (2 : ℚ) ^ (1024 : Int) ≤ 2 ^ e := zpow_le_zpow_right₀ one_le_two (by omega)
      _ ≤ 10 ^ e := zpow_le_zpow_left₀ (by omega) (by norm_num) (by norm_num)
      _ ≤ m * 10 ^ e := le_mul_of_one_le_left (by positivity) hm'
  · have hsmall : e < -(2048 + m.log2) := hsmall
    have hlt : (m : ℚ) < 2 ^ (m.log2 + 1) := by exact_mod_cast Nat.lt_log2_self
    have hm' : (m : ℚ) < 10 ^ (-e) :=
      calc (m : ℚ) < 2 ^ (m.log2 + 1) := hlt
        _ = 2 ^ ((m.log2 + 1 : Nat) : Int) := (zpow_natCast _ _).symm
        _ ≤ 2 ^ (-e) := zpow_le_zpow_right₀ one_le_two (by omega)
        _ ≤ 10 ^ (-e) := zpow_le_zpow_left₀ (by omega) (by norm_num) (by norm_num)
    refine rounds_zero (lt_trans ?_ hone)
    rwa [zpow_neg, ← one_div, lt_div_iff₀ (by positivity)] at hm'
  · have hq : (m * 10 ^ e : ℚ) = ((m <<< 53 : Nat) : ℚ) * 2 ^ (-53 : Int) * ((10 ^ e.toNat : Nat) * 2 ^ (0 : Int)) := by
      have he : (10 : ℚ) ^ e = 10 ^ e.toNat := by rw [← zpow_natCast, Int.toNat_of_nonneg hsign]
      rw [he, Nat.shiftLeft_eq]
      push_cast
      norm_num
      ring
    rw [hq]
    exact rounds_mul _ _ (by decide)
  · have hq : (m * 10 ^ e : ℚ) = m * 2 ^ (0 : Int) / ((10 ^ (-e).toNat : Nat) * 2 ^ (0 : Int)) := by
      have he : (10 : ℚ) ^ e = (10 ^ (-e).toNat)⁻¹ := by
        rw [← zpow_natCast, Int.toNat_of_nonneg (by omega), zpow_neg, inv_inv]
      rw [he]
      push_cast
      simp [div_eq_mul_inv]
    rw [hq]
    exact rounds_div _ _ (by decide)

/-- A double that is far from the largest one. -/
structure Moderate (x : Float) : Prop where
  sign_eq : sign x = .positive
  biased_lt : biased x < 1500

theorem Moderate.unpack_eq (h : Moderate x) : biased x = 0 ∧ x.toModel.unpack = .zero .positive ∨ ∃ m e hm,
    x.toModel.unpack = .finite .positive m e hm ∧ (biased x : Int) - 1075 ≤ e ∧ (m * 2 ^ e : ℚ) < 2 ^ (478 : Int) ∧
      e ≤ 425 := by
  obtain ⟨hs, hb⟩ := h
  have hf := fraction_lt (x := x)
  have hleading : leadingBit = 2 ^ 52 := by decide
  have hbound {m : Nat} {e : Int} (hm : m < 2 ^ 53) (he : e ≤ 425) : (m * 2 ^ e : ℚ) < 2 ^ (478 : Int) := by
    have hm : (m : ℚ) < 2 ^ (53 : Int) := by exact_mod_cast hm
    calc (m * 2 ^ e : ℚ) < 2 ^ (53 : Int) * 2 ^ e := mul_lt_mul_of_pos_right hm (zpow_pos two_pos _)
      _ ≤ 2 ^ (53 : Int) * 2 ^ (425 : Int) := by gcongr; exact one_le_two
      _ = 2 ^ (478 : Int) := (zpow_add₀ two_ne_zero _ _).symm
  have hu := unpacks x
  generalize x.toModel.unpack = u at hu ⊢
  rw [← hs]
  cases hu with
  | infinity hb' hf => omega
  | notANumber hb' hf => omega
  | zero hb' hf => exact .inl ⟨hb', rfl⟩
  | subnormal hb' hf' => exact .inr ⟨_, _, _, rfl, by omega, hbound (by omega) (by omega), by omega⟩
  | normal hb₀ hb' hpos => exact .inr ⟨_, _, _, rfl, by omega, hbound (by omega) (by omega), by omega⟩

theorem moderate_round (h : Represents (.ofMantissaAndAccuracy m a) q) (he : e ≤ 400)
    (hq : q * 2 ^ e < 2 ^ (400 : Int)) : Moderate (packed (roundWithAccuracy .binary64 .positive m e a)) := by
  have hcut : cutExponent m e ≤ 400 := by
    have hlog : m = 0 ∨ m.log2 + e < 400 := by
      rcases Nat.eq_zero_or_pos m with hm | hm
      · exact .inl hm
      · exact .inr ((zpow_lt_zpow_iff_right₀ one_lt_two).1 ((h.pow_le hm.ne' le_rfl).trans_lt hq))
    have hzero : Nat.log2 0 = 0 := rfl
    unfold cutExponent
    rcases hlog with rfl | hlog <;> omega
  have hle : -1074 ≤ cutExponent m e := (le_max_right _ _).trans (le_max_right _ _)
  rw [roundWithAccuracy_eq .positive m e a rfl]
  have hround := cutExponent_rounded (roundedMantissa_cut_le (e := e) h) hle
  split_ifs with hz
  · obtain ⟨hs, hb⟩ := parts_packed_zero .positive
    exact ⟨hs, by omega⟩
  · have hlt : cutExponent (cut m e a).roundedMantissa (cutExponent m e) ≤ 401 := by
      rw [hround]
      split_ifs <;> omega
    obtain ⟨hs, hb⟩ := parts_packed_of_lt (s := .positive) (Nat.pos_of_ne_zero hz) (hlt.trans_lt (by decide))
    exact ⟨hs, by omega⟩

theorem moderate_toFloat {n : UInt64} (hn : n.toNat < 2 ^ 53) : Moderate n.toFloat := by
  change Moderate (packed (UnpackedFloat.normalize .binary64 (n.toNat : Int) 0 .positive))
  rcases Nat.eq_zero_or_pos n.toNat with h0 | hpos
  · obtain ⟨hs, hb⟩ := parts_packed_zero .positive
    rw [h0]
    exact ⟨hs, hb.trans_lt (by decide)⟩
  · have hcompare : compare (n.toNat : Int) 0 = .gt := Int.compare_eq_gt.2 (by exact_mod_cast hpos)
    simp only [UnpackedFloat.normalize, hcompare, UnpackedFloat.round, decreaseExponent, Int.toNat_natCast]
    generalize (0 - _ : Int).toNat = k
    refine moderate_round (represents_exact _) (by omega) ?_
    have hn' : (n.toNat : ℚ) < 2 ^ 53 := by exact_mod_cast hn
    calc ((n.toNat <<< k : Nat) : ℚ) * 2 ^ (0 - k : Int) = n.toNat := by
          rw [Nat.shiftLeft_eq, zero_sub, zpow_neg, zpow_natCast]
          push_cast
          field_simp
      _ < 2 ^ 53 := hn'
      _ = 2 ^ (53 : Int) := (zpow_natCast _ 53).symm
      _ ≤ 2 ^ (400 : Int) := zpow_le_zpow_right₀ one_le_two (by decide)

theorem Rounds.congr {q' : ℚ} (h : Rounds x q) (hq : q < overflow) (hq' : q' < overflow) : Rounds x q' :=
  ⟨h.sign_eq, h.isNaN_eq, h.biased_eq_iff.trans (iff_of_false (not_le.2 hq) (not_le.2 hq'))⟩

theorem Moderate.rounds_mul (hx : Moderate x) (hy : Moderate y) (hq : q < overflow) : Rounds (x * y) q := by
  change Rounds (packed (UnpackedFloat.mul .binary64 x.toModel.unpack y.toModel.unpack)) q
  rcases hx.unpack_eq with ⟨-, hx⟩ | ⟨m, e, hm, hx, -, hlt, he⟩ <;>
    rcases hy.unpack_eq with ⟨-, hy⟩ | ⟨m', e', hm', hy, -, hlt', he'⟩ <;> rw [hx, hy]
  · exact rounds_zero hq
  · exact rounds_zero hq
  · exact rounds_zero hq
  · refine (Decimal.rounds_mul hm hm' (by omega)).congr ?_ hq
    calc (m * 2 ^ e * (m' * 2 ^ e') : ℚ) < 2 ^ (478 : Int) * 2 ^ (478 : Int) := by gcongr
      _ = 2 ^ (956 : Int) := (zpow_add₀ two_ne_zero _ _).symm
      _ ≤ 2 ^ (1023 : Int) := zpow_le_zpow_right₀ one_le_two (by decide)
      _ ≤ overflow := le_overflow

theorem Moderate.rounds_div (hx : Moderate x) (hy : Moderate y) (hone : 1023 ≤ biased y) (hq : q < overflow) :
    Rounds (x / y) q := by
  change Rounds (packed (UnpackedFloat.div .binary64 x.toModel.unpack y.toModel.unpack)) q
  obtain ⟨hzero, -⟩ | ⟨m', e', hm', hy, hle, -, -⟩ := hy.unpack_eq
  · omega
  rcases hx.unpack_eq with ⟨-, hx⟩ | ⟨m, e, hm, hx, -, hlt, he⟩ <;> rw [hx, hy]
  · exact rounds_zero hq
  · refine (Decimal.rounds_div hm hm' (by omega)).congr ?_ hq
    have hm'' : (1 : ℚ) ≤ m' := by exact_mod_cast hm'
    have hge : (2 : ℚ) ^ (-52 : Int) ≤ m' * 2 ^ e' :=
      calc (2 : ℚ) ^ (-52 : Int) ≤ 2 ^ e' := zpow_le_zpow_right₀ one_le_two (by omega)
        _ ≤ m' * 2 ^ e' := le_mul_of_one_le_left (by positivity) hm''
    calc (m * 2 ^ e / (m' * 2 ^ e') : ℚ) < 2 ^ (478 : Int) / 2 ^ (-52 : Int) := by gcongr
      _ = 2 ^ (530 : Int) := (zpow_sub₀ two_ne_zero _ _).symm
      _ ≤ 2 ^ (1023 : Int) := zpow_le_zpow_right₀ one_le_two (by decide)
      _ ≤ overflow := le_overflow

theorem parts_of_mem_powersOfTen : ∀ y ∈ Float.exactlyRepresentablePowersOfTen.toList,
    signBit y = false ∧ biased y < 1500 ∧ 1023 ≤ biased y := by
  decide

/-- Whole numbers and powers of ten that are exact as doubles. -/
theorem moderate_of_lt {m e : Nat} (hm : m < 2 ^ 53) (he : e < Float.exactlyRepresentablePowersOfTen.size) :
    Moderate m.toUInt64.toFloat ∧ Moderate Float.exactlyRepresentablePowersOfTen[e] ∧
      1023 ≤ biased Float.exactlyRepresentablePowersOfTen[e] := by
  obtain ⟨hs, hlt, hle⟩ := parts_of_mem_powersOfTen _ (Array.getElem_mem_toList he)
  refine ⟨moderate_toFloat ?_, ⟨by simp [sign, hs], hlt⟩, hle⟩
  rw [UInt64.toNat_ofNat']
  omega

/-- Such numbers are far below `overflow`. -/
theorem mul_pow_lt_overflow {m : Nat} {e : Int} (hm : m < 2 ^ 53) (he : e ≤ 22) : (m * 10 ^ e : ℚ) < overflow := by
  have hm : (m : ℚ) < 2 ^ (53 : Int) := by exact_mod_cast hm
  calc (m * 10 ^ e : ℚ) < 2 ^ (53 : Int) * 10 ^ e := mul_lt_mul_of_pos_right hm (by positivity)
    _ ≤ 2 ^ (53 : Int) * 10 ^ (22 : Int) := by gcongr; norm_num
    _ ≤ 2 ^ (53 : Int) * 2 ^ (970 : Int) := by
      gcongr
      calc (10 : ℚ) ^ (22 : Int) ≤ 2 ^ (80 : Int) := by norm_num
        _ ≤ 2 ^ (970 : Int) := zpow_le_zpow_right₀ one_le_two (by decide)
    _ = 2 ^ (1023 : Int) := (zpow_add₀ two_ne_zero _ _).symm
    _ ≤ overflow := le_overflow

theorem rounds_ofScientific (m : Nat) (s : Bool) (e : Nat) :
    Rounds (Float.ofScientific m s e) (m * 10 ^ (if s then -e else e : Int)) := by
  unfold Float.ofScientific
  split_ifs with hfast hs
  · obtain ⟨hx, hy, hone⟩ := moderate_of_lt hfast.1 (Nat.lt_succ_of_le hfast.2)
    exact hx.rounds_div hy hone (mul_pow_lt_overflow hfast.1 (by omega))
  · obtain ⟨hx, hy, -⟩ := moderate_of_lt hfast.1 (Nat.lt_succ_of_le hfast.2)
    exact hx.rounds_mul hy (mul_pow_lt_overflow hfast.1 (by omega))
  · exact rounds_ofScientificModel m (Int.negOfNat e)
  · exact rounds_ofScientificModel m e

theorem infinity_eq_packed : infinity = packed (.infinity .positive) := by
  rw [← Float.toBits_inj]
  rfl

/-- The number `10 ^ 309` is too large for a double. -/
theorem overflow_le_pow {n : Int} (hn : 309 ≤ n) : overflow ≤ 10 ^ n := by
  have h93 : (2 : ℚ) ^ 93 ≤ 10 ^ 28 := by norm_num
  calc overflow ≤ 2 ^ (1024 : Int) := overflow_le
    _ = (2 ^ 93) ^ 11 * 2 := by
      rw [← pow_mul, ← pow_succ]
      exact zpow_natCast 2 1024
    _ ≤ (10 ^ 28) ^ 11 * 10 := by gcongr; norm_num
    _ = 10 ^ (309 : Int) := by
      rw [← pow_mul, ← pow_succ]
      exact (zpow_natCast 10 309).symm
    _ ≤ 10 ^ n := zpow_le_zpow_right₀ (by norm_num) hn

/-- A numeral is read as a positive number, and as infinity exactly if it reaches `overflow`. -/
theorem rounds_toFloat (n : Numeral) : Rounds n.toFloat n.value := by
  have hcount : 0 < digitCount n.coefficient := Nat.length_toDigits_pos
  dsimp only [Numeral.toFloat]
  split_ifs with hzero hlarge hsmall
  · have hvalue : n.value = (0 : Nat) * 10 ^ (0 : Int) := by simp [Scaled.value, hzero]
    rw [hvalue]
    exact rounds_ofScientific 0 false 0
  · have hle : (10 : ℚ) ^ (digitCount n.coefficient - 1) ≤ n.coefficient := by
      exact_mod_cast Rounding.pow_digitCount_le (Nat.pos_of_ne_zero hzero)
    rw [infinity_eq_packed]
    refine rounds_infinity ?_
    calc overflow ≤ 10 ^ ((digitCount n.coefficient - 1 : Nat) + n.exponent : Int) := overflow_le_pow (by omega)
      _ = 10 ^ (digitCount n.coefficient - 1) * 10 ^ n.exponent := by rw [zpow_add₀ (by norm_num), zpow_natCast]
      _ ≤ n.value := mul_le_mul_of_nonneg_right hle (by positivity)
  · have hlt : (n.coefficient : ℚ) < 10 ^ digitCount n.coefficient := by
      exact_mod_cast Rounding.lt_pow_digitCount _
    refine Rounds.congr (rounds_ofScientific 0 false 0) (mul_pow_lt_overflow (by decide) (by decide)) ?_
    calc n.value < 10 ^ digitCount n.coefficient * 10 ^ n.exponent := mul_lt_mul_of_pos_right hlt (by positivity)
      _ = 10 ^ (digitCount n.coefficient + n.exponent) := by rw [zpow_add₀ (by norm_num), zpow_natCast]
      _ ≤ 10 ^ (0 : Int) := zpow_le_zpow_right₀ (by norm_num) (by omega)
      _ = (1 : Nat) * 10 ^ (0 : Int) := by simp
      _ < overflow := mul_pow_lt_overflow (by decide) (by decide)
  · have hvalue : n.value = n.coefficient *
        10 ^ (if decide (n.exponent < 0) then -(n.exponent.natAbs : Int) else n.exponent.natAbs) := by
      rw [Scaled.value]
      congr 2
      split_ifs with h <;> rw [decide_eq_true_eq] at h <;> omega
    rw [hvalue]
    exact rounds_ofScientific _ _ _

end ComputedFields.Decimal
