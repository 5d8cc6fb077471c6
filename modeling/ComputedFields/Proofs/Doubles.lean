import ComputedFields.Proofs.ShortestDecimals
import Mathlib

/-!
# Doubles and their bits

- `biased`, `fraction`, `sign`: the parts that the bits of a double are made of;
- `unpacks`: what a double stands for, read off its parts;
- `isNaN_eq_true_iff`, `beq_zero_iff`, `parts_neg`: tests and negation in terms of the parts;
- `isDouble_of_ofFloat?`, `eq_neg_of_ofFloat?_eq`: the magnitude of a double says all but its sign.

The lemmas about packing floats into bits are in no part of Mathlib, only in what the import of all of it brings along.
-/

namespace ComputedFields.Decimal

open Float.Model Float.Model.UnpackedFloat

/-! ## The parts of a double -/

/-- The exponent as it is stored. -/
def biased (x : Float) : Nat := x.toBits.toNat / leadingBit % 2048

/-- The significand without its leading bit. -/
def fraction (x : Float) : Nat := x.toBits.toNat % leadingBit

def sign (x : Float) : Sign := if signBit x then .negative else .positive

variable {x y : Float}

theorem signBit_iff : signBit x = true ↔ x.toBits.toNat / 2 ^ 63 = 1 := by
  rw [signBit, beq_iff_eq, ← UInt64.toNat_inj, UInt64.toNat_shiftRight, Nat.shiftRight_eq_div_pow]
  rfl

/-- The parts of a double give its bits back. -/
theorem toNat_toBits : x.toBits.toNat = (if signBit x then 2 ^ 63 else 0) + biased x * leadingBit + fraction x := by
  have hlt := x.toBits.toNat_lt
  unfold biased fraction leadingBit
  split_ifs with h <;> rw [signBit_iff] at h <;> omega

theorem eq_of_parts (hs : signBit x = signBit y) (hb : biased x = biased y) (hf : fraction x = fraction y) : x = y := by
  rw [← Float.toBits_inj, ← UInt64.toNat_inj, toNat_toBits, toNat_toBits, hs, hb, hf]

theorem toNat_unpackExponent : (@unpackExponent .binary64 x.toBits.toBitVec).toNat = biased x := by
  change x.toBits.toNat >>> 52 % 2 ^ 11 = _
  rw [Nat.shiftRight_eq_div_pow]
  rfl

theorem toNat_unpackMantissa : (@unpackMantissa .binary64 x.toBits.toBitVec).toNat = fraction x := rfl

theorem ofBitVec_unpackSign : Sign.ofBitVec (@unpackSign .binary64 x.toBits.toBitVec) = sign x := by
  have hlt := x.toBits.toNat_lt
  have h : (@unpackSign .binary64 x.toBits.toBitVec).toNat = x.toBits.toNat / 2 ^ 63 := by
    change x.toBits.toNat >>> 63 % 2 ^ 1 = _
    rw [Nat.shiftRight_eq_div_pow]
    omega
  unfold Sign.ofBitVec sign
  simp only [← BitVec.toNat_inj, h, signBit_iff, BitVec.toNat_zero]
  by_cases hsign : x.toBits.toNat / 2 ^ 63 = 1
  · rw [if_neg (by omega), if_pos hsign]
  · rw [if_pos (by omega), if_neg hsign]

/-- What a double with given parts stands for. -/
inductive Unpacks (x : Float) : UnpackedFloat → Prop where
  | infinity (hb : biased x = 2047) (hf : fraction x = 0) : Unpacks x (.infinity (sign x))
  | notANumber (hb : biased x = 2047) (hf : fraction x ≠ 0) : Unpacks x .notANumber
  | zero (hb : biased x = 0) (hf : fraction x = 0) : Unpacks x (.zero (sign x))
  | subnormal (hb : biased x = 0) (hf : 0 < fraction x) : Unpacks x (.finite (sign x) (fraction x) (-1074) hf)
  | normal (hb : biased x ≠ 0) (hb' : biased x ≠ 2047) (hpos : 0 < leadingBit + fraction x) :
    Unpacks x (.finite (sign x) (leadingBit + fraction x) (biased x - 1075) hpos)

theorem Unpacks.finite {significand : Nat} {exponent : Int} (hpos : 0 < significand)
    (h : biased x = 0 ∧ significand = fraction x ∧ exponent = -1074 ∨ biased x ≠ 0 ∧ biased x ≠ 2047 ∧
      significand = leadingBit + fraction x ∧ exponent = biased x - 1075) :
    Unpacks x (.finite (sign x) significand exponent hpos) := by
  obtain ⟨hb, rfl, rfl⟩ | ⟨hb, hb', rfl, rfl⟩ := h
  · exact .subnormal hb hpos
  · exact .normal hb hb' hpos

theorem unpacks (x : Float) : Unpacks x x.toModel.unpack := by
  change Unpacks x (UnpackedFloat.unpack .binary64 x.toBits.toBitVec)
  have hmax : @unpackExponent .binary64 x.toBits.toBitVec = -1#_ ↔ biased x = 2047 := by
    rw [← BitVec.toNat_inj, toNat_unpackExponent]
    rfl
  have hzero : @unpackExponent .binary64 x.toBits.toBitVec = 0#_ ↔ biased x = 0 := by
    rw [← BitVec.toNat_inj, toNat_unpackExponent]
    rfl
  have hfraction : @unpackMantissa .binary64 x.toBits.toBitVec = 0#_ ↔ fraction x = 0 := by
    rw [← BitVec.toNat_inj, toNat_unpackMantissa]
    rfl
  simp only [UnpackedFloat.unpack, ofBitVec_unpackSign, toNat_unpackExponent, toNat_unpackMantissa]
  split_ifs with he hm he hm
  · exact .infinity (hmax.1 he) (hfraction.1 hm)
  · exact .notANumber (hmax.1 he) (mt hfraction.2 hm)
  · exact .zero (hzero.1 he) (hfraction.1 hm)
  · refine .finite _ (.inl ⟨hzero.1 he, rfl, ?_⟩)
    rw [hzero.1 he]
    rfl
  · refine .finite _ (.inr ⟨mt hzero.2 he, mt hmax.2 ‹_›, ?_, rfl⟩)
    rw [BitVec.toNat_append, ← Nat.shiftLeft_add_eq_or_of_lt (BitVec.isLt _)]
    rfl

theorem isNaN_eq_true_iff : x.isNaN = true ↔ biased x = 2047 ∧ fraction x ≠ 0 := by
  change x.toModel.unpack.isNaN = true ↔ _
  have h := unpacks x
  generalize x.toModel.unpack = u at h
  cases h <;> simp_all [UnpackedFloat.isNaN]

theorem beq_zero_iff : (x == 0) = true ↔ biased x = 0 ∧ fraction x = 0 := by
  have h0 : (0 : Float).toModel.unpack = .zero .positive := rfl
  change (x.toModel.unpack.compare (0 : Float).toModel.unpack == some .eq) = true ↔ _
  rw [h0]
  have h := unpacks x
  generalize x.toModel.unpack = u at h
  cases h with
  | subnormal hb hf => cases sign x <;> simp [UnpackedFloat.compare, hf.ne']
  | _ => cases sign x <;> simp_all [UnpackedFloat.compare]

/-! ## Negation -/

theorem parts_of_packComponents {s : Sign} {e : BitVec 11} {m : BitVec 52}
    (h : x.toBits.toBitVec = packComponents .binary64 s e m) :
    sign x = s ∧ biased x = e.toNat ∧ fraction x = m.toNat := by
  rw [← ofBitVec_unpackSign, ← toNat_unpackExponent, ← toNat_unpackMantissa, h, unpackSign_packComponents,
    Sign.ofBitVec_toBitVec, unpackExponent_packComponents, unpackMantissa_packComponents]
  exact ⟨rfl, rfl, rfl⟩

/-- What is packed besides the sign does not depend on it. -/
theorem exists_packComponents {u : UnpackedFloat} (hu : u ≠ .notANumber) : ∃ s e m,
    UnpackedFloat.pack .binary64 u = packComponents .binary64 s e m ∧
      UnpackedFloat.pack .binary64 u.neg = packComponents .binary64 (-s) e m := by
  cases u with
  | notANumber => exact absurd rfl hu
  | infinity s => exact ⟨s, _, _, rfl, rfl⟩
  | zero s => exact ⟨s, _, _, rfl, rfl⟩
  | finite s m e hm =>
    rw [UnpackedFloat.neg, UnpackedFloat.pack, UnpackedFloat.pack]
    split_ifs
    · exact ⟨s, _, _, rfl, rfl⟩
    · exact ⟨s, _, _, rfl, rfl⟩
    · exact ⟨s, _, _, rfl, rfl⟩

/-- Negation changes the sign and nothing else. -/
theorem parts_neg (hx : x.isNaN = false) :
    sign (-x) = -sign x ∧ biased (-x) = biased x ∧ fraction (-x) = fraction x := by
  have hu : x.toModel.unpack ≠ .notANumber := by
    intro h
    have hx : x.toModel.unpack.isNaN = false := hx
    rw [h] at hx
    cases hx
  obtain ⟨s, e, m, hpack, hneg⟩ := exists_packComponents hu
  have hbits : x.toBits.toBitVec = packComponents .binary64 s e m :=
    (pack_unpack_of_valid x.toModel.valid).symm.trans hpack
  obtain ⟨hs, hb, hf⟩ := parts_of_packComponents hbits
  rw [hs, hb, hf]
  exact parts_of_packComponents hneg

/-! ## Magnitudes -/

theorem fraction_lt : fraction x < leadingBit := Nat.mod_lt _ (by decide)

theorem ofFloat?_eq : Magnitude.ofFloat? x = if biased x = 2047 then none else if biased x = 0 then
    some ⟨fraction x, -1074⟩ else some ⟨leadingBit + fraction x, (biased x : Int) - 1075⟩ := rfl

/-- The magnitude of a double other than zero. -/
theorem isDouble_of_ofFloat? {m : Magnitude} (h : Magnitude.ofFloat? x = some m) (hx : (x == 0) = false) :
    m.IsDouble := by
  have hlt := fraction_lt (x := x)
  rw [ofFloat?_eq] at h
  split_ifs at h with hb hb' <;> cases h
  · have hf : fraction x ≠ 0 := fun hf => by simp [beq_zero_iff.2 ⟨hb', hf⟩] at hx
    exact ⟨Nat.pos_of_ne_zero hf, by dsimp only; omega, le_rfl, fun h => absurd rfl h⟩
  · have hpos : 0 < leadingBit := by decide
    exact ⟨by dsimp only; omega, by dsimp only; omega, by dsimp only; omega, fun _ => by dsimp only; omega⟩

theorem isNaN_of_ofFloat? {m : Magnitude} (h : Magnitude.ofFloat? x = some m) : x.isNaN = false := by
  rw [Bool.eq_false_iff, ne_eq, isNaN_eq_true_iff]
  rintro ⟨hb, -⟩
  rw [ofFloat?_eq, if_pos hb] at h
  cases h

/-- The magnitude says all but the sign. -/
theorem parts_of_ofFloat?_eq (hx : x.isNaN = false) (hy : y.isNaN = false)
    (h : Magnitude.ofFloat? x = Magnitude.ofFloat? y) : biased x = biased y ∧ fraction x = fraction y := by
  have hlt := fraction_lt (x := x)
  have hlt' := fraction_lt (x := y)
  rw [Bool.eq_false_iff, ne_eq, isNaN_eq_true_iff] at hx hy
  rw [ofFloat?_eq, ofFloat?_eq] at h
  split_ifs at h <;> simp only [Option.some.injEq, Magnitude.mk.injEq] at h <;> omega

/-- Doubles of the same magnitude and different signs are the negations of each other. -/
theorem eq_neg_of_ofFloat?_eq (hx : x.isNaN = false) (hy : y.isNaN = false) (hs : signBit x ≠ signBit y)
    (h : Magnitude.ofFloat? x = Magnitude.ofFloat? y) : x = -y := by
  obtain ⟨hb, hf⟩ := parts_of_ofFloat?_eq hx hy h
  obtain ⟨hs', hb', hf'⟩ := parts_neg hy
  refine eq_of_parts ?_ (hb.trans hb'.symm) (hf.trans hf'.symm)
  unfold sign at hs'
  revert hs hs'
  cases signBit x <;> cases signBit y <;> cases signBit (-y) <;> simp [Neg.neg]

end ComputedFields.Decimal
