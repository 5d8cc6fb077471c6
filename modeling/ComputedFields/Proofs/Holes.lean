import ComputedFields.Proofs.TextCalls
import ComputedFields.Proofs.WholeParts

/-!
# Filling a hole in a text

A hole is given by two numbers: the place where it begins and how many characters it has. Where it ends is computed with
words, and evaluation breaks off if it is none.

- `coe_holeStart`: where a hole begins, exactly;
- `exists_holeEnd_eq_ok`, `holeEnd_eq_panic`: where it ends, exactly, if that is a word or the hole begins the text;
- `fillHole_exact`: so a call keeps the text around such a hole, and breaks off at any other.
-/

namespace ComputedFields

open Decimal

/-! ## Ends of holes -/

section

variable {cs : List Char} {first : Nat} {x y : Float}

/-- The characters of a text from an index on; there are none from an index on that it does not have. -/
noncomputable def dropFrom (cs : List Char) (i : ℕ∞) : List Char := cs.drop (min i cs.length).toNat

theorem dropFrom_of_le {i : ℕ∞} (h : cs.length ≤ i) : dropFrom cs i = [] := by
  rw [dropFrom, min_eq_right h, ENat.toNat_natCast, List.drop_length]

theorem dropFrom_natCast (cs : List Char) (i : Nat) : dropFrom cs i = cs.drop i := by
  obtain h | h := le_total i cs.length
  · rw [dropFrom, min_eq_left (by exact_mod_cast h), ENat.toNat_natCast]
  · rw [dropFrom_of_le (by exact_mod_cast h), List.drop_eq_nil_of_le h]

/-- Where a hole begins, with the place that its number stands for. -/
theorem coe_holeStart (hlength : cs.length < 2 ^ 63) :
    (holeStart cs (toCount 1 x) : ℕ∞) = min (max (wholePart x) 1 - 1) cs.length := by
  have hcount := toCount_one x
  unfold holeStart
  generalize wholePart x = w at hcount ⊢
  induction w using ENat.recTopCoe with
  | top =>
    rw [max_eq_left le_top, min_eq_right le_top, Nat.cast_inj] at hcount
    rw [hcount, min_eq_right (by omega), max_eq_left le_top, ENat.top_sub_one, min_eq_right le_top]
  | coe n =>
    rw [← Nat.cast_one, ← Nat.mono_cast.map_max, ← Nat.mono_cast.map_min, Nat.cast_inj] at hcount
    have hstart : min (toCount 1 x - 1) cs.length = min (max n 1 - 1) cs.length := by omega
    rw [hstart, Nat.mono_cast.map_min, ENat.natCast_sub, Nat.mono_cast.map_max, Nat.cast_one]

/-- A hole ends where its number says, if it begins the text or its end is a word. -/
theorem exists_holeEnd_eq_ok (hlength : cs.length < 2 ^ 63) (h : first = 0 ∨ first + wholePart y < 2 ^ 64) :
    ∃ last, holeEnd cs first (toCount 0 y) = .ok last ∧ cs.drop last = dropFrom cs (first + wholePart y) := by
  have hlt := toCount_lt 0 y
  obtain hcount | ⟨hcount, hle⟩ := wholePart_eq_or_le y
  · rw [hcount] at h ⊢
    have hend : first + toCount 0 y < 2 ^ 64 := by
      obtain h | h := h
      · omega
      · exact_mod_cast h
    refine ⟨_, holeEnd_of_lt hend, ?_⟩
    rw [← List.drop_eq_drop_min, ← Nat.cast_add, dropFrom_natCast]
  · obtain rfl : first = 0 := h.resolve_right (not_lt.2 (hle.trans le_add_self))
    have hend : (cs.length : ℕ∞) ≤ wholePart y := le_trans (by exact_mod_cast hlength.le.trans (by norm_num)) hle
    refine ⟨_, holeEnd_of_lt (by rwa [zero_add]), ?_⟩
    rw [← List.drop_eq_drop_min, hcount, List.drop_eq_nil_of_le (by omega), Nat.cast_zero, zero_add,
      dropFrom_of_le hend]

/-- Every other hole has no end. -/
theorem holeEnd_eq_panic (hpos : 0 < first) (h : 2 ^ 64 ≤ first + wholePart y) :
    holeEnd cs first (toCount 0 y) = .error (.panic .placeOverflow) := by
  apply holeEnd_of_le
  change 2 ^ 64 ≤ _
  obtain hcount | ⟨hcount, -⟩ := wholePart_eq_or_le y
  · rw [hcount] at h
    exact_mod_cast h
  · omega

end

/-- The characters before a hole are kept, and so are those from its exact end on, if there are none before it or its
end is a word. In all other cases evaluation breaks off. The length of a text in memory is a signed word. -/
theorem fillHole_exact {record : Record} {args : List Formula} {text new : List Char} {x y : Float}
    (h : ReplaceArguments (evaluateAll record args) text x y new) (hlength : text.length < 2 ^ 63) :
    ∃ b : ℕ, (b : ℕ∞) = min (max (wholePart x) 1 - 1) text.length ∧
      (evaluate record (.call "REPLACE" args) =
        .ok (.text (String.ofList (text.take b ++ new ++ dropFrom text (b + wholePart y)))) ↔
          b = 0 ∨ b + wholePart y < 2 ^ 64) ∧
      (evaluate record (.call "REPLACE" args) = .error (.panic .placeOverflow) ↔
        0 < b ∧ 2 ^ 64 ≤ b + wholePart y) := by
  have hstart := coe_holeStart (x := x) hlength
  have hcall := evaluate_call_replace h
  generalize holeStart text (toCount 1 x) = b at hstart hcall
  refine ⟨b, hstart, ?_⟩
  by_cases hb : b = 0 ∨ b + wholePart y < 2 ^ 64
  · obtain ⟨last, hlast, hdrop⟩ := exists_holeEnd_eq_ok hlength hb
    have hvalue : evaluate record (.call "REPLACE" args) =
        .ok (.text (String.ofList (text.take b ++ new ++ dropFrom text (b + wholePart y)))) := by
      rw [hcall, hlast, ← hdrop]
      rfl
    refine ⟨iff_of_true hvalue hb, iff_of_false (by simp [hvalue]) ?_⟩
    rintro ⟨hpos, hle⟩
    exact hb.elim hpos.ne' hle.not_gt
  · have hn := hb
    rw [not_or, not_lt, ← ne_eq, ← Nat.pos_iff_ne_zero] at hn
    have hpanic : evaluate record (.call "REPLACE" args) = .error (.panic .placeOverflow) := by
      rw [hcall, holeEnd_eq_panic hn.1 hn.2]
      rfl
    exact ⟨iff_of_false (by simp [hpanic]) hb, iff_of_true hpanic hn⟩

def smallReplacement : List Formula :=
  [.literal (.text "abcdef"), .literal (.number 2), .literal (.number 3), .literal (.text "X")]

theorem fillHole_exact_small :
    ReplaceArguments (evaluateAll (fun _ => .blank) smallReplacement) ['a', 'b', 'c', 'd', 'e', 'f'] 2 3 ['X'] ∧
      evaluate (fun _ => .blank) (.call "REPLACE" smallReplacement) = .ok (.text "aXef") := by
  have h : ReplaceArguments (evaluateAll (fun _ => .blank) smallReplacement) "abcdef".toList 2 3 "X".toList :=
    replaceArguments_literals _ _ _ _ _
  rw [show "abcdef".toList = ['a', 'b', 'c', 'd', 'e', 'f'] from String.toList_ofList,
    show "X".toList = ['X'] from String.toList_ofList] at h
  have htwo : wholePart 2 = (2 : ℕ) := wholePart_of_toCount_lt (x := 2) (by decide)
  have hthree : wholePart 3 = (3 : ℕ) := wholePart_of_toCount_lt (x := 3) (by decide)
  obtain ⟨b, hb, hiff, -⟩ := fillHole_exact h (by decide)
  rw [htwo] at hb
  rw [hthree] at hiff
  obtain rfl : b = 1 := Nat.cast_injective (R := ℕ∞) hb
  have hvalue := hiff.2 (.inr (by decide))
  rw [← Nat.cast_add, dropFrom_natCast] at hvalue
  exact ⟨h, hvalue⟩

def largeReplacement : List Formula :=
  [.literal (.text "abcdef"), .literal (.number 3), .literal (.number 1e20), .literal (.text "X")]

/-- A hole with more characters than the largest word, where there is nothing to keep after it. -/
theorem replace_large :
    evaluate (fun _ => .blank) (.call "REPLACE" largeReplacement) = .error (.panic .placeOverflow) ∧
      min (max (wholePart 3) 1 - 1) ['a', 'b', 'c', 'd', 'e', 'f'].length = (2 : ℕ) ∧
      ['a', 'b', 'c', 'd', 'e', 'f'].take 2 ++ ['X'] ++
        dropFrom ['a', 'b', 'c', 'd', 'e', 'f'] ((2 : ℕ) + wholePart 1e20) = ['a', 'b', 'X'] := by
  have h : ReplaceArguments (evaluateAll (fun _ => .blank) largeReplacement) "abcdef".toList 3 1e20 "X".toList :=
    replaceArguments_literals _ _ _ _ _
  rw [show "abcdef".toList = ['a', 'b', 'c', 'd', 'e', 'f'] from String.toList_ofList,
    show "X".toList = ['X'] from String.toList_ofList] at h
  have hcount : toCount 0 1e20 = 2 ^ 64 - 1 := by decide
  have hthree : wholePart 3 = (3 : ℕ) := wholePart_of_toCount_lt (x := 3) (by decide)
  have hlarge : (6 : ℕ) ≤ wholePart 1e20 :=
    calc ((6 : ℕ) : ℕ∞) ≤ toCount 0 1e20 := by rw [hcount]; exact_mod_cast (by decide)
      _ ≤ wholePart 1e20 := toCount_le_wholePart 1e20
  refine ⟨?_, ?_, ?_⟩
  · have hstart : holeStart ['a', 'b', 'c', 'd', 'e', 'f'] (toCount 1 3) = 2 := by decide
    rw [evaluate_call_replace h, hstart, hcount, holeEnd_of_le (by decide)]
    rfl
  · rw [hthree]
    rfl
  · rw [dropFrom_of_le (hlarge.trans le_add_self)]
    rfl

end ComputedFields
