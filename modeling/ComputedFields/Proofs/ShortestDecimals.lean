import ComputedFields.Decimal.Shortest
import Mathlib.Algebra.Order.Field.Power
import Mathlib.Algebra.Order.Ring.Rat
import Mathlib.Tactic.Linarith
import Mathlib.Tactic.Positivity
import Mathlib.Tactic.Ring

/-!
# Shortest decimals read back

- `Rounding.Contains`: the numbers that round to a double;
- `contains_shortest`: the shortest decimal rounds to the double, since seventeen digits always do;
- `Magnitude.eq_of_contains`: no number rounds to two doubles;
- `eq_of_shortest_eq`: so doubles with the same shortest decimal are equal.
-/

namespace ComputedFields.Decimal

/-! ## Intervals -/

/-- Between two bounds, which belong to the interval if it is closed. -/
def Between (closed : Bool) (low x high : ℚ) : Prop :=
  if closed then low ≤ x ∧ x ≤ high else low < x ∧ x < high

theorem Between.of_lt {closed : Bool} {low x high : ℚ} (hl : low < x) (hh : x < high) : Between closed low x high := by
  cases closed
  · exact ⟨hl, hh⟩
  · exact ⟨hl.le, hh.le⟩

theorem Between.le {closed : Bool} {low x high : ℚ} (h : Between closed low x high) : low ≤ x ∧ x ≤ high := by
  cases closed
  · exact ⟨h.1.le, h.2.le⟩
  · exact h

theorem between_mul_iff {closed : Bool} {low x high c : ℚ} (hc : 0 < c) :
    Between closed (low * c) (x * c) (high * c) ↔ Between closed low x high := by
  simp only [Between, mul_le_mul_iff_of_pos_right hc, mul_lt_mul_iff_of_pos_right hc]

/-- Intervals that touch share a number only if both are closed. -/
theorem Between.closed_of_le {c c' : Bool} {low x high low' high' : ℚ} (h : Between c low x high)
    (h' : Between c' low' x high') (hl : high ≤ low') : c = true ∧ c' = true ∧ high = low' := by
  cases c
  · exact absurd (h.2.trans_le (hl.trans h'.le.1)) (lt_irrefl x)
  · cases c'
    · exact absurd (h'.1.trans_le (h.le.2.trans hl)) (lt_irrefl low')
    · exact ⟨rfl, rfl, le_antisymm hl (h'.1.trans h.2)⟩

theorem zpow_mul_pow_toNat {b : ℚ} (hb : b ≠ 0) (e : Int) : b ^ e * b ^ (-e).toNat = b ^ e.toNat := by
  rw [← zpow_natCast, ← zpow_natCast, ← zpow_add₀ hb]
  congr 1
  omega

/-- The number that a decimal stands for. -/
def Scaled.value (s : Scaled) : ℚ := s.coefficient * 10 ^ s.exponent

namespace Rounding

variable {r : Rounding} {e : Int}

/-- The numbers that round to the double. -/
def Contains (r : Rounding) (q : ℚ) : Prop := Between r.closed r.low (q * r.denominator) r.high

/-- The double is strictly inside the interval. -/
structure Proper (r : Rounding) : Prop where
  low_lt : r.low < r.value
  lt_high : r.value < r.high
  denominator_pos : 0 < r.denominator

/-- A multiple of a power of ten, without fractions. -/
theorem cast_multiple (d : Nat) : ((d * (r.denominator * 10 ^ e.toNat) : Nat) : ℚ) =
    d * 10 ^ e * r.denominator * 10 ^ (-e).toNat := by
  push_cast
  rw [← zpow_mul_pow_toNat (by norm_num : (10 : ℚ) ≠ 0)]
  ring

theorem contains_multiple_iff (d : Nat) :
    r.Contains (d * 10 ^ e) ↔ Between r.closed (r.low * 10 ^ (-e).toNat : Nat)
      (d * (r.denominator * 10 ^ e.toNat) : Nat) (r.high * 10 ^ (-e).toNat : Nat) := by
  rw [cast_multiple, Nat.cast_mul, Nat.cast_mul, Nat.cast_pow, Nat.cast_ofNat, between_mul_iff (by positivity),
    Contains]

/-- The four outcomes of looking at the multiples next to the double: it is one itself, the lower or the upper one is
taken, or none rounds to the double. -/
theorem nearest?_cases (r : Rounding) (e : Int) :
    let d := r.value * 10 ^ (-e).toNat / (r.denominator * 10 ^ e.toNat)
    (r.value * 10 ^ (-e).toNat = d * (r.denominator * 10 ^ e.toNat) ∧ r.nearest? e = some ⟨d, e⟩) ∨
    (r.Contains (d * 10 ^ e) ∧ r.nearest? e = some ⟨d, e⟩) ∨
    (r.Contains ((d + 1 : Nat) * 10 ^ e) ∧ r.nearest? e = some ⟨d + 1, e⟩) ∨
    (¬ r.Contains (d * 10 ^ e) ∧ ¬ r.Contains ((d + 1 : Nat) * 10 ^ e) ∧ r.nearest? e = none) := by
  unfold nearest?
  extract_lets d up unit within d' rest
  have hw (n : Nat) : within n = true ↔ r.Contains (n * 10 ^ e) := by
    rw [contains_multiple_iff]
    simp only [within, Between, Nat.cast_le, Nat.cast_lt]
    split <;> simp [up, unit, Nat.pow_eq]
  rw [show d' = d from rfl, ← hw, ← hw]
  split_ifs with hrest hd hd'
  · exact .inl ⟨le_antisymm (Nat.sub_eq_zero_iff_le.1 hrest) (Nat.div_mul_le_self _ _), rfl⟩
  · exact .inr (.inl ⟨(Bool.and_eq_true_iff.1 hd).1, rfl⟩)
  · exact .inr (.inr (.inl ⟨hd', rfl⟩))
  · simp only [hd', Bool.false_and, Bool.not_false, Bool.and_true] at hd
    exact .inr (.inr (.inr ⟨hd, hd', rfl⟩))

/-- What is found rounds to the double. -/
theorem contains_of_nearest? (hr : r.Proper) {s : Scaled} (h : r.nearest? e = some s) : r.Contains s.value := by
  obtain ⟨hv, he⟩ | ⟨hc, he⟩ | ⟨hc, he⟩ | ⟨-, -, he⟩ := nearest?_cases r e
  · cases he.symm.trans h
    rw [Scaled.value, contains_multiple_iff, ← hv]
    have hpos : 0 < 10 ^ (-e).toNat := by positivity
    exact .of_lt (by exact_mod_cast Nat.mul_lt_mul_of_pos_right hr.low_lt hpos)
      (by exact_mod_cast Nat.mul_lt_mul_of_pos_right hr.lt_high hpos)
  · cases he.symm.trans h
    exact hc
  · cases he.symm.trans h
    exact hc
  · cases he.symm.trans h

/-- Multiples that are nearer to each other than the two ends of the interval do not all miss it. -/
theorem le_of_nearest?_eq_none (hr : r.Proper) (h : r.nearest? e = none) :
    (r.high - r.low : ℚ) ≤ r.denominator * 10 ^ e := by
  obtain ⟨-, he⟩ | ⟨-, he⟩ | ⟨-, he⟩ | ⟨hd, hd', -⟩ := nearest?_cases r e
  iterate 3 cases he.symm.trans h
  generalize hn : r.value * 10 ^ (-e).toNat / (r.denominator * 10 ^ e.toNat) = d at hd hd'
  have hup : (0 : ℚ) < 10 ^ (-e).toNat := by positivity
  have hunit : 0 < r.denominator * 10 ^ e.toNat := Nat.mul_pos hr.denominator_pos (by positivity)
  have hlow : (d * 10 ^ e : ℚ) * r.denominator ≤ r.value := by
    refine le_of_mul_le_mul_right ?_ hup
    rw [← cast_multiple]
    exact_mod_cast hn ▸ Nat.div_mul_le_self _ _
  have hhigh : (r.value : ℚ) ≤ (d + 1 : Nat) * 10 ^ e * r.denominator := by
    refine le_of_mul_le_mul_right ?_ hup
    rw [← cast_multiple]
    exact_mod_cast hn ▸ (Nat.lt_mul_of_div_lt (Nat.lt_succ_self _) hunit).le
  have hl : (d * 10 ^ e : ℚ) * r.denominator ≤ r.low := by
    by_contra hlt
    exact hd (.of_lt (not_le.1 hlt) (hlow.trans_lt (by exact_mod_cast hr.lt_high)))
  have hh : (r.high : ℚ) ≤ (d + 1 : Nat) * 10 ^ e * r.denominator := by
    by_contra hlt
    exact hd' (.of_lt (lt_of_lt_of_le (by exact_mod_cast hr.low_lt) hhigh) (not_le.1 hlt))
  push_cast at hh
  linarith

/-! ## Decimal points -/

theorem lt_pow_digitCount (n : Nat) : n < 10 ^ digitCount n :=
  (Nat.length_toDigits_le_iff (by decide) Nat.length_toDigits_pos).1 le_rfl

theorem pow_digitCount_le {n : Nat} (hn : 0 < n) : 10 ^ (digitCount n - 1) ≤ n := by
  by_contra h
  have hlt : n < 10 ^ (digitCount n - 1) := not_le.1 h
  have hpos : 0 < digitCount n - 1 := by
    refine Nat.pos_of_ne_zero fun h0 => ?_
    rw [h0, pow_zero] at hlt
    omega
  have hle : digitCount n ≤ digitCount n - 1 := (Nat.length_toDigits_le_iff (by decide) hpos).2 hlt
  omega

/-- No smaller power of ten than the one with the decimal point is above the double. -/
theorem pow_decimalPoint_le (hv : 0 < r.value) : (r.denominator : ℚ) * 10 ^ (r.decimalPoint - 1) ≤ r.value := by
  unfold decimalPoint
  extract_lets p
  split_ifs with h
  · have hup : (0 : ℚ) < 10 ^ (-p).toNat := by positivity
    rw [add_sub_cancel_right]
    refine le_of_mul_le_mul_right ?_ hup
    rw [mul_assoc, zpow_mul_pow_toNat (by norm_num)]
    exact_mod_cast h
  · have hd : (r.denominator : ℚ) ≤ 10 ^ (digitCount r.denominator : Int) := by
      exact_mod_cast (lt_pow_digitCount r.denominator).le
    have hn : (10 : ℚ) ^ ((digitCount r.value : Int) - 1) ≤ r.value := by
      have hpos : 0 < digitCount r.value := Nat.length_toDigits_pos
      rw [show (digitCount r.value : Int) - 1 = ((digitCount r.value - 1 : Nat) : Int) by omega]
      exact_mod_cast pow_digitCount_le hv
    calc (r.denominator : ℚ) * 10 ^ (p - 1)
      _ ≤ 10 ^ (digitCount r.denominator : Int) * 10 ^ (p - 1) := by gcongr
      _ = 10 ^ ((digitCount r.value : Int) - 1) := by
        rw [← zpow_add₀ (by norm_num)]
        congr 1
        omega
      _ ≤ r.value := hn

end Rounding

/-! ## Doubles -/

namespace Magnitude

variable {m m' : Magnitude} {q : ℚ}

/-- The magnitudes of doubles other than zero: the leading bit is set unless the exponent is the least one. -/
structure IsDouble (m : Magnitude) : Prop where
  pos : 0 < m.significand
  lt : m.significand < 2 * leadingBit
  least : -1074 ≤ m.exponent
  normal : m.exponent ≠ -1074 → leadingBit ≤ m.significand

/-- The distance to the lower end of the interval, in quarters of a unit. -/
def quartersBelow (m : Magnitude) : Nat := if m.significand = leadingBit ∧ m.exponent ≠ -1074 then 1 else 2

theorem quartersBelow_pos : 0 < m.quartersBelow := by
  unfold quartersBelow
  split <;> decide

theorem quartersBelow_le : m.quartersBelow ≤ 2 := by
  unfold quartersBelow
  split <;> decide

theorem ofMagnitude_eq (m : Magnitude) : Rounding.ofMagnitude m =
    { low := (4 * m.significand - m.quartersBelow) * 2 ^ (m.exponent - 2).toNat
      value := 4 * m.significand * 2 ^ (m.exponent - 2).toNat
      high := (4 * m.significand + 2) * 2 ^ (m.exponent - 2).toNat
      denominator := 2 ^ (2 - m.exponent).toNat
      closed := m.significand % 2 == 0 } := rfl

theorem proper_ofMagnitude (hm : m.IsDouble) : (Rounding.ofMagnitude m).Proper := by
  have hs : 0 < 2 ^ (m.exponent - 2).toNat := by positivity
  have hb := quartersBelow_pos (m := m)
  have hm := hm.pos
  rw [ofMagnitude_eq]
  exact ⟨Nat.mul_lt_mul_of_pos_right (by omega) hs, Nat.mul_lt_mul_of_pos_right (by omega) hs, by positivity⟩

/-- The interval in quarters of a unit. -/
theorem contains_ofMagnitude_iff (hm : m.IsDouble) : (Rounding.ofMagnitude m).Contains q ↔
    Between (m.significand % 2 == 0) (4 * m.significand - m.quartersBelow) (q / 2 ^ (m.exponent - 2))
      (4 * m.significand + 2) := by
  have hscale := zpow_mul_pow_toNat (by norm_num : (2 : ℚ) ≠ 0) (m.exponent - 2)
  rw [neg_sub] at hscale
  have hle : m.quartersBelow ≤ 4 * m.significand := by
    have := hm.pos
    have := quartersBelow_le (m := m)
    omega
  have hx : q / 2 ^ (m.exponent - 2) * 2 ^ (m.exponent - 2).toNat = q * 2 ^ (2 - m.exponent).toNat := by
    rw [← hscale, ← mul_assoc, div_mul_cancel₀ q (by positivity)]
  rw [← between_mul_iff (show (0 : ℚ) < 2 ^ (m.exponent - 2).toNat by positivity), hx, Rounding.Contains,
    ofMagnitude_eq]
  push_cast [hle]
  rfl

/-- The interval of a double above the least unit starts no earlier than a quarter before the leading bit. -/
theorem leadingBit_le_low (hm : m.IsDouble) (he : m.exponent ≠ -1074) :
    (4 * leadingBit - 1 : ℚ) ≤ 4 * m.significand - m.quartersBelow := by
  have hn := hm.normal he
  have hle : 4 * leadingBit + m.quartersBelow ≤ 4 * m.significand + 1 := by
    unfold quartersBelow
    split_ifs <;> omega
  have : (4 * leadingBit + m.quartersBelow : ℚ) ≤ 4 * m.significand + 1 := by exact_mod_cast hle
  linarith

/-- No number rounds to a double and to one of a larger unit: the two intervals at most touch, and then one of them is
open. -/
theorem not_contains_of_exponent_lt (hm : m.IsDouble) (hm' : m'.IsDouble) (hlt : m.exponent < m'.exponent)
    (h : (Rounding.ofMagnitude m).Contains q) : ¬ (Rounding.ofMagnitude m').Contains q := by
  intro h'
  rw [contains_ofMagnitude_iff hm] at h
  rw [contains_ofMagnitude_iff hm'] at h'
  have hlead : (4 * leadingBit - 1 : ℚ) ≤ 4 * m'.significand - m'.quartersBelow := by
    have := hm.least
    exact leadingBit_le_low hm' (by omega)
  -- The unit of the larger one is at least twice as large.
  have hunits : (2 : ℚ) ≤ 2 ^ (m'.exponent - m.exponent) :=
    calc (2 : ℚ) = 2 ^ (1 : Int) := (zpow_one 2).symm
      _ ≤ 2 ^ (m'.exponent - m.exponent) := zpow_le_zpow_right₀ (by norm_num) (by omega)
  have hx : q / 2 ^ (m'.exponent - 2) * 2 ^ (m'.exponent - m.exponent) = q / 2 ^ (m.exponent - 2) := by
    rw [show m'.exponent - 2 = (m'.exponent - m.exponent) + (m.exponent - 2) by ring, zpow_add₀ (by norm_num),
      ← div_div, div_right_comm, div_mul_cancel₀ _ (by positivity)]
  rw [← between_mul_iff (show (0 : ℚ) < 2 ^ (m'.exponent - m.exponent) by positivity), hx] at h'
  have hs : (m.significand + 1 : ℚ) ≤ 2 * leadingBit := by exact_mod_cast hm.lt
  have hpos : (0 : ℚ) ≤ 4 * leadingBit - 1 := by norm_num [leadingBit]
  have hlow : (8 * leadingBit - 2 : ℚ) ≤ (4 * m'.significand - m'.quartersBelow) * 2 ^ (m'.exponent - m.exponent) :=
    calc (8 * leadingBit - 2 : ℚ) = (4 * leadingBit - 1) * 2 := by ring
      _ ≤ (4 * m'.significand - m'.quartersBelow) * 2 ^ (m'.exponent - m.exponent) :=
        mul_le_mul hlead hunits (by norm_num) (hpos.trans hlead)
  obtain ⟨hc, -, heq⟩ := h.closed_of_le h' (by linarith)
  have hlast : 2 * leadingBit ≤ m.significand + 1 := by
    have : (2 * leadingBit : ℚ) ≤ m.significand + 1 := by linarith
    exact_mod_cast this
  have := hm.lt
  simp only [beq_iff_eq] at hc
  omega

/-- The same for two doubles of one unit. -/
theorem not_contains_of_significand_lt (hm : m.IsDouble) (hm' : m'.IsDouble) (he : m.exponent = m'.exponent)
    (hlt : m.significand < m'.significand) (h : (Rounding.ofMagnitude m).Contains q) :
    ¬ (Rounding.ofMagnitude m').Contains q := by
  intro h'
  rw [contains_ofMagnitude_iff hm] at h
  rw [contains_ofMagnitude_iff hm', ← he] at h'
  have hquarters : m'.quartersBelow = 2 := if_neg fun hn => by
    have := hm.normal (he ▸ hn.2)
    omega
  rw [hquarters] at h'
  have hs : (m.significand + 1 : ℚ) ≤ m'.significand := by exact_mod_cast hlt
  obtain ⟨hc, hc', heq⟩ := h.closed_of_le h' (by push_cast; linarith)
  have hsucc : m'.significand = m.significand + 1 := by
    have : (m'.significand : ℚ) = m.significand + 1 := by push_cast at heq; linarith
    exact_mod_cast this
  simp only [beq_iff_eq] at hc hc'
  omega

/-- A number rounds to one double only. -/
theorem eq_of_contains (hm : m.IsDouble) (hm' : m'.IsDouble) (h : (Rounding.ofMagnitude m).Contains q)
    (h' : (Rounding.ofMagnitude m').Contains q) : m = m' := by
  obtain he | he | he := lt_trichotomy m.exponent m'.exponent
  · exact absurd h' (not_contains_of_exponent_lt hm hm' he h)
  · obtain hs | hs | hs := lt_trichotomy m.significand m'.significand
    · exact absurd h' (not_contains_of_significand_lt hm hm' he hs h)
    · cases m
      cases m'
      cases he
      cases hs
      rfl
    · exact absurd h (not_contains_of_significand_lt hm' hm he.symm hs h')
  · exact absurd h (not_contains_of_exponent_lt hm' hm he h')

/-- Seventeen digits are enough: the last of them counts less than the interval is wide. -/
theorem lt_width (hm : m.IsDouble) : 4 * m.significand < (2 + m.quartersBelow) * 10 ^ 16 := by
  have hlt := hm.lt
  unfold leadingBit at hlt
  unfold quartersBelow leadingBit
  split_ifs <;> omega

theorem exists_nearest? (hm : m.IsDouble) :
    ∃ s, (Rounding.ofMagnitude m).nearest? ((Rounding.ofMagnitude m).decimalPoint - 17) = some s := by
  generalize hr : Rounding.ofMagnitude m = r
  cases hs : r.nearest? (r.decimalPoint - 17) with
  | some s => exact ⟨s, rfl⟩
  | none =>
    have hproper : r.Proper := hr ▸ proper_ofMagnitude hm
    have hwidth := Rounding.le_of_nearest?_eq_none hproper hs
    have hpoint := Rounding.pow_decimalPoint_le (r := r) hproper.low_lt.pos
    have hpow : (10 : ℚ) ^ (r.decimalPoint - 1) = 10 ^ (r.decimalPoint - 17) * 10 ^ 16 := by
      rw [show r.decimalPoint - 1 = r.decimalPoint - 17 + (16 : Nat) by ring, zpow_add₀ (by norm_num), zpow_natCast]
    have hle : (r.high - r.low : ℚ) * 10 ^ 16 ≤ r.value := by
      rw [hpow] at hpoint
      linarith
    have hscale : (0 : ℚ) < 2 ^ (m.exponent - 2).toNat := by positivity
    have hquarters : m.quartersBelow ≤ 4 * m.significand := by
      have := hm.pos
      have := quartersBelow_le (m := m)
      omega
    rw [← hr, ofMagnitude_eq] at hle
    push_cast [hquarters] at hle
    have hlt : (4 * m.significand : ℚ) < (2 + m.quartersBelow) * 10 ^ 16 := by exact_mod_cast lt_width hm
    have := mul_lt_mul_of_pos_right hlt hscale
    linarith

/-- The shortest decimal rounds to the double. -/
theorem contains_shortest (hm : m.IsDouble) : (Rounding.ofMagnitude m).Contains (shortest m).value := by
  obtain ⟨s, hs⟩ := exists_nearest? hm
  have hfound : ((List.range 17).findSome? fun (n : Nat) =>
      (Rounding.ofMagnitude m).nearest? ((Rounding.ofMagnitude m).decimalPoint - (n + 1))).isSome = true := by
    rw [List.findSome?_isSome_iff]
    exact ⟨16, by decide, Option.isSome_iff_exists.2 ⟨s, hs⟩⟩
  obtain ⟨s', hs'⟩ := Option.isSome_iff_exists.1 hfound
  obtain ⟨n, -, hn⟩ := List.exists_of_findSome?_eq_some hs'
  have he : shortest m = s' := by
    rw [shortest, hs', Option.getD_some]
  rw [he]
  exact Rounding.contains_of_nearest? (proper_ofMagnitude hm) hn

/-- Doubles with the same shortest decimal are equal. -/
theorem eq_of_shortest_eq (hm : m.IsDouble) (hm' : m'.IsDouble) (h : (shortest m).value = (shortest m').value) :
    m = m' := by
  have hc := contains_shortest hm
  rw [h] at hc
  exact eq_of_contains hm hm' hc (contains_shortest hm')

theorem shortest_pos (hm : m.IsDouble) : 0 < (shortest m).value := by
  have hc := ((contains_ofMagnitude_iff hm).1 (contains_shortest hm)).le.1
  have hlow : (0 : ℚ) < 4 * m.significand - m.quartersBelow := by
    have hlt : m.quartersBelow < 4 * m.significand := by
      have := hm.pos
      have := quartersBelow_le (m := m)
      omega
    have : (m.quartersBelow : ℚ) < 4 * m.significand := by exact_mod_cast hlt
    linarith
  exact (div_pos_iff_of_pos_right (by positivity)).1 (hlow.trans_le hc)

end Magnitude

end ComputedFields.Decimal
