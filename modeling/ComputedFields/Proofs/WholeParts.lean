import ComputedFields.Decimal.Rounding
import ComputedFields.Proofs.ResidualBits

/-!
# Whole parts of numbers

- `wholePart`: what is left of a number without its fraction, exactly;
- `hasWhole`: the whole part by what a double stands for;
- `toNat_toUInt64`: conversion to a word cuts the fraction off and stops at the largest word;
- `toCount_zero`, `toCount_one`: counts that are read from numbers;
- `wholePart_eq_or_le`: a number that is not its count is larger than every word.
-/

namespace ComputedFields.Decimal

open Float.Model Float.Model.UnpackedFloat

/-- The number that a magnitude stands for. -/
def Magnitude.value (m : Magnitude) : ℚ := m.significand * 2 ^ m.exponent

/-- A number without its fraction. Negative numbers and what is not a number count as zero, and infinity is larger than
every whole number. -/
def wholePart (x : Float) : ℕ∞ :=
  if x.isNaN || signBit x then 0
  else match Magnitude.ofFloat? x with
    | some m => (⌊m.value⌋₊ : ℕ)
    | none => ⊤

/-- The whole part of what a double stands for. -/
inductive HasWhole : UnpackedFloat → ℕ∞ → Prop where
  | notANumber : HasWhole .notANumber 0
  | zero (s : Sign) : HasWhole (.zero s) 0
  | negativeInfinity : HasWhole (.infinity .negative) 0
  | negative {m : Nat} {e : Int} (hm : 0 < m) : HasWhole (.finite .negative m e hm) 0
  | finite {m : Nat} {e : Int} (hm : 0 < m) (hlt : m < 2 * leadingBit) (hnormal : e ≠ -1074 → leadingBit ≤ m) :
    HasWhole (.finite .positive m e hm) (⌊(m : ℚ) * 2 ^ e⌋₊ : ℕ)
  | infinity : HasWhole (.infinity .positive) ⊤

variable {x : Float}

theorem hasWhole_of_signBit {u : UnpackedFloat} (h : Unpacks x u) (hs : signBit x = true) : HasWhole u 0 := by
  have hsign : sign x = .negative := if_pos hs
  cases h with
  | infinity hb hf => exact hsign ▸ .negativeInfinity
  | notANumber hb hf => exact .notANumber
  | zero hb hf => exact .zero _
  | subnormal hb hf => exact hsign ▸ .negative hf
  | normal hb hb' hpos => exact hsign ▸ .negative hpos

theorem hasWhole (x : Float) : HasWhole x.toModel.unpack (wholePart x) := by
  have h := unpacks x
  generalize x.toModel.unpack = u at h
  cases hs : signBit x with
  | true =>
    rw [wholePart, hs, Bool.or_true, if_pos rfl]
    exact hasWhole_of_signBit h hs
  | false =>
    have hsign : sign x = .positive := if_neg (by rw [hs]; decide)
    have hlt := fraction_lt (x := x)
    rw [wholePart, hs, Bool.or_false, ofFloat?_eq]
    cases h with
    | infinity hb hf =>
      rw [if_neg (fun hn => (isNaN_eq_true_iff.1 hn).2 hf), if_pos hb, hsign]
      exact .infinity
    | notANumber hb hf =>
      rw [if_pos (isNaN_eq_true_iff.2 ⟨hb, hf⟩)]
      exact .notANumber
    | zero hb hf =>
      rw [if_neg (fun hn => (isNaN_eq_true_iff.1 hn).2 hf), if_neg (by omega), if_pos hb, hf]
      simpa [Magnitude.value] using HasWhole.zero _
    | subnormal hb hf =>
      rw [if_neg (fun hn => by have := (isNaN_eq_true_iff.1 hn).1; omega), if_neg (by omega), if_pos hb, hsign]
      exact .finite hf (by omega) (fun h => absurd rfl h)
    | normal hb hb' hpos =>
      rw [if_neg (fun hn => hb' (isNaN_eq_true_iff.1 hn).1), if_neg hb', if_neg hb, hsign]
      exact .finite hpos (by omega) (fun _ => by omega)

/-! ## Conversion to words -/

theorem roundToInt_eq (s : Sign) (m : Nat) (e : Int) : roundToInt s m e = s.apply ⌊(m : ℚ) * 2 ^ e⌋₊ := by
  have hshift : (0 - (e - e.toNat)).toNat = (-e).toNat := by omega
  have hvalue : ((m <<< e.toNat : Nat) : ℚ) / 2 ^ (-e).toNat = m * 2 ^ e := by
    rw [div_eq_iff (by positivity), mul_assoc, zpow_mul_pow_toNat two_ne_zero, Nat.shiftLeft_eq]
    push_cast
    rfl
  have hrep := (represents_exact (m <<< e.toNat)).shiftRight (-e).toNat
  rw [hvalue] at hrep
  rw [(Nat.floor_eq_iff (by positivity)).2 hrep.mantissa_le, ← hshift]
  simp only [roundToInt, decreaseExponent, shiftToExponent, Int.sub_zero]

theorem toNat_ofNatClamp (n : Nat) : (UInt64.ofNatClamp n).toNat = min n (2 ^ 64 - 1) := by
  unfold UInt64.ofNatClamp
  split_ifs with h
  · rw [UInt64.toNat_ofNatLT, min_eq_left (by change n < 2 ^ 64 at h; omega)]
  · rw [UInt64.toNat_ofNatLT, min_eq_right (by change ¬ n < 2 ^ 64 at h; omega)]
    rfl

theorem toNat_toUInt64 (x : Float) : (x.toUInt64.toNat : ℕ∞) = min (wholePart x) (2 ^ 64 - 1 : ℕ) := by
  change ((UInt64.ofNatClamp (x.toModel.unpack.toInt 0 (UInt64.size - 1)).toNat).toNat : ℕ∞) = _
  rw [toNat_ofNatClamp]
  have h := hasWhole x
  generalize x.toModel.unpack = u, wholePart x = w at h
  cases h with
  | finite hm hlt hnormal =>
    rw [UnpackedFloat.toInt, roundToInt_eq, Sign.apply, Int.toNat_natCast]
    push_cast
    rfl
  | infinity => rfl
  | notANumber => rfl
  | zero => rfl
  | negativeInfinity => rfl
  | negative hm =>
    rw [UnpackedFloat.toInt, roundToInt_eq, Sign.apply, Int.toNat_of_nonpos (by omega)]
    rfl

/-! ## Counts -/

theorem lt_iff {y : Float} : x < y ↔ x.toModel.unpack.compare y.toModel.unpack = some .lt := by
  change decide (x.toModel < y.toModel) = true ↔ _
  rw [decide_eq_true_iff]
  change (x.toModel.unpack.compare y.toModel.unpack == some .lt) = true ↔ _
  rw [beq_iff_eq]

theorem wholePart_of_not_pos (h : ¬ 0 < x) : wholePart x = 0 := by
  have hzero : (0 : Float).toModel.unpack = .zero .positive := rfl
  rw [lt_iff, hzero] at h
  have hx := hasWhole x
  generalize x.toModel.unpack = u, wholePart x = w at h hx
  cases hx with
  | finite => exact absurd rfl h
  | infinity => exact absurd rfl h
  | _ => rfl

theorem unpack_one : (1 : Float).toModel.unpack = .finite .positive leadingBit (-52) (by decide) := rfl

theorem one_le_wholePart (h : 1 < x) : 1 ≤ wholePart x := by
  rw [lt_iff, unpack_one] at h
  have hx := hasWhole x
  generalize x.toModel.unpack = u, wholePart x = w at h hx
  cases hx with
  | @finite m e hm hlt hnormal =>
    have he : -52 ≤ e := by
      by_contra hlt
      rw [UnpackedFloat.compare, Int.compare_eq_gt.2 (not_le.1 hlt)] at h
      cases h
    have hm : (leadingBit : ℚ) ≤ m := by exact_mod_cast hnormal (by omega)
    have hvalue : (1 : ℚ) ≤ m * 2 ^ e :=
      calc (1 : ℚ) = leadingBit * 2 ^ (-52 : Int) := by norm_num [leadingBit]
        _ ≤ m * 2 ^ e := mul_le_mul hm (zpow_le_zpow_right₀ one_le_two he) (by positivity) (by positivity)
    exact_mod_cast (Nat.one_le_floor_iff _).2 hvalue
  | infinity => exact le_top
  | notANumber => cases h
  | zero => cases h
  | negativeInfinity => cases h
  | negative => cases h

theorem wholePart_le_one (h : ¬ 1 < x) : wholePart x ≤ 1 := by
  rw [lt_iff, unpack_one] at h
  have hx := hasWhole x
  generalize x.toModel.unpack = u, wholePart x = w at h hx
  cases hx with
  | @finite m e hm hlt hnormal =>
    have he : e ≤ -52 := by
      by_contra hlt
      rw [UnpackedFloat.compare, Int.compare_eq_lt.2 (not_le.1 hlt)] at h
      exact h rfl
    have hm : (m : ℚ) < 2 * leadingBit := by exact_mod_cast hlt
    have hvalue : (m : ℚ) * 2 ^ e < 2 :=
      calc (m : ℚ) * 2 ^ e ≤ m * 2 ^ (-52 : Int) := by gcongr; exact one_le_two
        _ < 2 * leadingBit * 2 ^ (-52 : Int) := by gcongr
        _ = 2 := by norm_num [leadingBit]
    exact_mod_cast Nat.le_of_lt_succ ((Nat.floor_lt (by positivity)).2 (by exact_mod_cast hvalue))
  | infinity => exact absurd rfl h
  | _ => exact zero_le_one

/-- A count is the whole part of its number, unless that is larger than every word. -/
theorem toCount_zero (x : Float) : (toCount 0 x : ℕ∞) = min (wholePart x) (2 ^ 64 - 1 : ℕ) := by
  rw [toCount]
  split_ifs with h
  · exact toNat_toUInt64 x
  · rw [wholePart_of_not_pos h]
    rfl

/-- A count that starts at one is no less than that. -/
theorem toCount_one (x : Float) : (toCount 1 x : ℕ∞) = min (max (wholePart x) 1) (2 ^ 64 - 1 : ℕ) := by
  rw [toCount]
  split_ifs with h
  · rw [toNat_toUInt64, max_eq_left (one_le_wholePart h)]
  · rw [max_eq_right (wholePart_le_one h)]
    rfl

theorem toCount_lt (least x : Float) : toCount least x < 2 ^ 64 := UInt64.toNat_lt _

/-- A number that is not its count is larger than every word. -/
theorem wholePart_eq_or_le (x : Float) :
    wholePart x = toCount 0 x ∨ toCount 0 x = 2 ^ 64 - 1 ∧ (2 ^ 64 : ℕ) ≤ wholePart x := by
  have hcount := toCount_zero x
  obtain hle | hlt := le_or_gt (wholePart x) (2 ^ 64 - 1 : ℕ)
  · exact .inl (by rw [hcount, min_eq_left hle])
  · rw [min_eq_right hlt.le] at hcount
    exact .inr ⟨by exact_mod_cast hcount, Order.add_one_le_of_lt hlt⟩

theorem wholePart_of_toCount_lt (h : toCount 0 x < 2 ^ 64 - 1) : wholePart x = toCount 0 x :=
  (wholePart_eq_or_le x).resolve_right fun hle => by omega

theorem toCount_le_wholePart (x : Float) : (toCount 0 x : ℕ∞) ≤ wholePart x := by
  rw [toCount_zero]
  exact min_le_left _ _

end ComputedFields.Decimal
