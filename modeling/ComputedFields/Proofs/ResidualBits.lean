import ComputedFields.Proofs.Doubles

/-!
# Residual bits

Rounding cuts the digits of a number off and keeps two bits about the rest.

- `Represents`: the numbers that a mantissa and its residual bits can stand for;
- `Represents.shiftRight`, `Represents.cut`: cutting digits off keeps what is needed to round;
- `Represents.le_roundedMantissa_iff`: rounding reaches an even number from the middle below it on;
- `represents_exact`, `represents_div`: products and quotients before they are rounded.
-/

namespace ComputedFields.Decimal

open Float.Model Float.Model.UnpackedFloat

/-! ## Residual bits -/

/-- The number that a mantissa stands for together with its round bit. -/
def truncated (em : ExtendedMantissa) : ℚ := em.mantissa + if em.roundBit then 1 / 2 else 0

/-- The numbers that a mantissa and its residual bits can stand for. -/
def Represents (em : ExtendedMantissa) (q : ℚ) : Prop :=
  if em.stickyBit then truncated em < q ∧ q < truncated em + 1 / 2 else q = truncated em

variable {em : ExtendedMantissa} {q : ℚ}

theorem Represents.truncated_le (h : Represents em q) : truncated em ≤ q ∧ q < truncated em + 1 / 2 := by
  unfold Represents at h
  split_ifs at h
  · exact ⟨h.1.le, h.2⟩
  · exact ⟨h.ge, by linarith⟩

theorem Represents.mantissa_le (h : Represents em q) : (em.mantissa : ℚ) ≤ q ∧ q < em.mantissa + 1 := by
  obtain ⟨hle, hlt⟩ := h.truncated_le
  unfold truncated at hle hlt
  split_ifs at hle hlt <;> constructor <;> linarith

theorem truncated_shiftRightOne (em : ExtendedMantissa) : truncated em.shiftRightOne = em.mantissa / 2 := by
  have hm : (em.mantissa : ℚ) = 2 * (em.mantissa / 2 : Nat) + (em.mantissa % 2 : Nat) := by
    exact_mod_cast (Nat.div_add_mod em.mantissa 2).symm
  rcases Nat.mod_two_eq_zero_or_one em.mantissa with hp | hp <;>
    simp only [truncated, ExtendedMantissa.shiftRightOne, hp] at hm ⊢ <;> norm_num at hm ⊢ <;> linarith

/-- A number is its mantissa exactly if both residual bits are clear. -/
theorem Represents.eq_mantissa_iff (h : Represents em q) :
    q = em.mantissa ↔ (em.roundBit || em.stickyBit) = false := by
  unfold Represents truncated at h
  cases hr : em.roundBit <;> cases hs : em.stickyBit <;> simp only [hr, hs] at h <;> norm_num at h ⊢ <;> linarith

theorem Represents.shiftRightOne (h : Represents em q) : Represents em.shiftRightOne (q / 2) := by
  have hbit : em.shiftRightOne.stickyBit = (em.roundBit || em.stickyBit) := rfl
  have hiff := h.eq_mantissa_iff
  obtain ⟨hle, hlt⟩ := h.mantissa_le
  rw [Represents, truncated_shiftRightOne, hbit]
  split_ifs with hs
  · have hne : (em.mantissa : ℚ) ≠ q := fun heq => by simp [hiff.1 heq.symm] at hs
    have hlt' := lt_of_le_of_ne hle hne
    constructor <;> linarith
  · rw [hiff.2 (Bool.eq_false_iff.2 hs)]

/-- Bits that are shifted out are remembered as far as rounding needs them. -/
theorem Represents.shiftRight (h : Represents em q) (n : Nat) : Represents (em >>> n) (q / 2 ^ n) := by
  change Represents (n.repeat ExtendedMantissa.shiftRightOne em) _
  induction n with
  | zero => simpa [Nat.repeat] using h
  | succ n ih =>
    rw [Nat.repeat, pow_succ, ← div_div]
    exact ih.shiftRightOne

/-- Rounding reaches an even number from the middle below it on. -/
theorem Represents.le_roundedMantissa_iff (h : Represents em q) (n : Nat) :
    2 * n ≤ em.roundedMantissa ↔ (2 * n : ℚ) - 1 / 2 ≤ q := by
  obtain ⟨m, r, s⟩ := em
  obtain ⟨hle, hlt⟩ := h.truncated_le
  -- The whole number nearest to the represented ones; only a tie may be rounded to the number below it.
  have hk : ∃ k : Nat, (2 * n ≤ ExtendedMantissa.roundedMantissa ⟨m, r, s⟩ ↔ 2 * n ≤ k) ∧
      (k : ℚ) - 1 / 2 ≤ q ∧ q < k + 1 / 2 := by
    refine ⟨m + if r then 1 else 0, ?_, ?_⟩
    · cases r <;> cases s <;>
        simp [ExtendedMantissa.roundedMantissa, ExtendedMantissa.accuracy, Accuracy.roundToNearestEven]
      omega
    · cases r <;> simp only [truncated] at hle hlt <;> norm_num at hle hlt ⊢ <;> constructor <;> linarith
  obtain ⟨k, hround, hge, hlt⟩ := hk
  rw [hround]
  constructor
  · intro hn
    have hn : (2 * n : ℚ) ≤ k := by exact_mod_cast hn
    linarith
  · intro hn
    by_contra hlt'
    have hk : (k : ℚ) + 1 ≤ 2 * n := by exact_mod_cast Nat.lt_of_not_le hlt'
    linarith

theorem represents_exact (m : Nat) : Represents (.ofMantissaAndAccuracy m .exact) m := by
  simp [Represents, truncated, ExtendedMantissa.ofMantissaAndAccuracy]

/-- The accuracy of a division with a remainder. -/
theorem represents_div (n : Nat) {d : Nat} (hd : 0 < d) :
    Represents (.ofMantissaAndAccuracy (n / d) (accuracyOfFraction (n % d) d)) (n / d) := by
  have hd' : (0 : ℚ) < d := by exact_mod_cast hd
  have hn : (n : ℚ) / d = (n / d : Nat) + (n % d : Nat) / d := by
    rw [add_div' _ _ _ hd'.ne', div_left_inj' hd'.ne']
    exact_mod_cast (Nat.div_add_mod' n d).symm
  have hone : ((n % d : Nat) : ℚ) / d < 1 := by
    rw [div_lt_one hd']
    exact_mod_cast Nat.mod_lt n hd
  rw [hn]
  unfold accuracyOfFraction
  split_ifs with h0
  · simpa [h0] using represents_exact (n / d)
  · have hpos : (0 : ℚ) < (n % d : Nat) / d := by positivity
    unfold Represents truncated
    cases hc : compare (2 * (n % d)) d with
    | lt =>
      have hc : (2 * (n % d : Nat) : ℚ) < d := by exact_mod_cast Nat.compare_eq_lt.1 hc
      have hc : ((n % d : Nat) : ℚ) / d < 1 / 2 := by
        rw [div_lt_div_iff₀ hd' two_pos]
        linarith
      simp only [ExtendedMantissa.ofMantissaAndAccuracy, if_true, Bool.false_eq_true, if_false]
      constructor <;> linarith
    | eq =>
      have hc : (2 * (n % d : Nat) : ℚ) = d := by exact_mod_cast Nat.compare_eq_eq.1 hc
      have hc : ((n % d : Nat) : ℚ) / d = 1 / 2 := by
        rw [div_eq_div_iff hd'.ne' two_ne_zero]
        linarith
      simp only [ExtendedMantissa.ofMantissaAndAccuracy, if_true, Bool.false_eq_true, if_false, hc]
    | gt =>
      have hc : (d : ℚ) < 2 * (n % d : Nat) := by exact_mod_cast Nat.compare_eq_gt.1 hc
      have hc : (1 : ℚ) / 2 < (n % d : Nat) / d := by
        rw [div_lt_div_iff₀ two_pos hd']
        linarith
      simp only [ExtendedMantissa.ofMantissaAndAccuracy, if_true]
      constructor <;> linarith

/-! ## Rounding -/

/-- The exponent at which the digits of a number are cut off. -/
def cutExponent (m : Nat) (e : Int) : Int := max e (max (m.log2 + 1 + e - 53) (-1074))

/-- What remains of a number where its digits are cut off. -/
def cut (m : Nat) (e : Int) (a : Accuracy) : ExtendedMantissa :=
  ExtendedMantissa.ofMantissaAndAccuracy m a >>> (cutExponent m e - e).toNat

variable {m : Nat} {e : Int} {a : Accuracy}

theorem shiftToTargetExponent_eq (m : Nat) (e : Int) (a : Accuracy) :
    shiftToTargetExponent .binary64 m e a = (cut m e a, cutExponent m e) := by
  have ht : Format.targetExponent .binary64 (totalExponent m e) = max (m.log2 + 1 + e - 53) (-1074) := rfl
  have hshift : (max (m.log2 + 1 + e - 53) (-1074) - e).toNat = (cutExponent m e - e).toNat := by
    unfold cutExponent
    omega
  have he : e ≤ cutExponent m e := le_max_left _ _
  rw [shiftToTargetExponent, shiftToExponent, ht, hshift, Int.toNat_of_nonneg (by omega), cut]
  simp

/-- A number is cut off and rounded; should that carry into one more digit, this digit is cut off as well. -/
theorem roundWithAccuracy_eq (s : Sign) (m : Nat) (e : Int) (a : Accuracy) {r : Nat}
    (hr : (cut m e a).roundedMantissa = r) : roundWithAccuracy .binary64 s m e a =
      if h : (cut r (cutExponent m e) .exact).mantissa = 0 then .zero s
      else .finite s _ (cutExponent r (cutExponent m e)) (Nat.pos_of_ne_zero h) := by
  simp only [roundWithAccuracy, shiftToTargetExponent_eq, hr]

theorem Represents.cut (h : Represents (.ofMantissaAndAccuracy m a) q) :
    Represents (cut m e a) (q * 2 ^ e / 2 ^ cutExponent m e) := by
  have he : e ≤ cutExponent m e := le_max_left _ _
  have hpow : (2 : ℚ) ^ cutExponent m e = 2 ^ e * 2 ^ (cutExponent m e - e).toNat := by
    rw [← zpow_natCast, ← zpow_add₀ two_ne_zero, Int.toNat_of_nonneg (by omega)]
    congr 1
    omega
  rw [hpow, mul_comm q, mul_div_mul_left _ _ (zpow_ne_zero _ two_ne_zero)]
  exact h.shiftRight _

theorem mantissa_ofMantissaAndAccuracy (m : Nat) (a : Accuracy) :
    (ExtendedMantissa.ofMantissaAndAccuracy m a).mantissa = m := by
  rcases a with _ | (_ | _ | _) <;> rfl

/-- A number lies below the power of two that its mantissa does not reach. -/
theorem Represents.lt_pow (h : Represents (.ofMantissaAndAccuracy m a) q) {n : Int} (hn : m.log2 + 1 + e ≤ n) :
    q * 2 ^ e < 2 ^ n := by
  have hm : q < m + 1 := by simpa [mantissa_ofMantissaAndAccuracy] using h.mantissa_le.2
  have hm' : (m : ℚ) + 1 ≤ 2 ^ (m.log2 + 1) := by exact_mod_cast Nat.lt_log2_self
  calc q * 2 ^ e < 2 ^ (m.log2 + 1) * 2 ^ e := mul_lt_mul_of_pos_right (hm.trans_le hm') (zpow_pos two_pos _)
    _ = 2 ^ ((m.log2 + 1 : Nat) + e : Int) := by rw [zpow_add₀ two_ne_zero, zpow_natCast]
    _ ≤ 2 ^ n := zpow_le_zpow_right₀ one_le_two (by push_cast; exact hn)

/-- A number that is not cut to nothing reaches the power of two of its leading digit. -/
theorem Represents.pow_le (h : Represents (.ofMantissaAndAccuracy m a) q) (hm : m ≠ 0) {n : Int}
    (hn : n ≤ m.log2 + e) : (2 : ℚ) ^ n ≤ q * 2 ^ e := by
  have hm' : (2 : ℚ) ^ m.log2 ≤ m := by exact_mod_cast Nat.log2_self_le hm
  have hq : (m : ℚ) ≤ q := by simpa [mantissa_ofMantissaAndAccuracy] using h.mantissa_le.1
  calc (2 : ℚ) ^ n ≤ 2 ^ (m.log2 + e : Int) := zpow_le_zpow_right₀ one_le_two hn
    _ = 2 ^ m.log2 * 2 ^ e := by rw [zpow_add₀ two_ne_zero, zpow_natCast]
    _ ≤ q * 2 ^ e := mul_le_mul_of_nonneg_right (hm'.trans hq) (zpow_nonneg zero_le_two _)

theorem roundedMantissa_le (em : ExtendedMantissa) : em.roundedMantissa ≤ em.mantissa + 1 := by
  obtain ⟨m, r, s⟩ := em
  cases r <;> cases s <;>
    simp only [ExtendedMantissa.roundedMantissa, ExtendedMantissa.accuracy, Accuracy.roundToNearestEven] <;> omega

theorem roundedMantissa_cut_le (h : Represents (.ofMantissaAndAccuracy m a) q) :
    (cut m e a).roundedMantissa ≤ 2 ^ 53 := by
  have hlt : q * 2 ^ e / 2 ^ cutExponent m e < 2 ^ 53 := by
    rw [div_lt_iff₀ (zpow_pos two_pos _), ← zpow_natCast, ← zpow_add₀ two_ne_zero]
    refine h.lt_pow ?_
    unfold cutExponent
    push_cast
    omega
  have hm : (cut m e a).mantissa < 2 ^ 53 := by exact_mod_cast (h.cut.mantissa_le.1.trans_lt hlt)
  exact (roundedMantissa_le _).trans hm

/-- Rounding cuts one more digit off exactly if it carries. -/
theorem cutExponent_rounded {r : Nat} (hr : r ≤ 2 ^ 53) (he : -1074 ≤ e) :
    cutExponent r e = e + if r = 2 ^ 53 then 1 else 0 := by
  split_ifs with hr'
  · have hlog : r.log2 = 53 := by rw [hr']; decide
    rw [cutExponent, hlog]
    omega
  · have hlog : r.log2 < 53 := by
      rcases Nat.eq_zero_or_pos r with h0 | h0
      · simp [h0]
      · exact (Nat.log2_lt h0.ne').2 (by omega)
    rw [cutExponent]
    omega

end ComputedFields.Decimal
