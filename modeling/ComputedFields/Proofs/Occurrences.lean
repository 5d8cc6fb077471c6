import ComputedFields.Proofs.OneLine
import ComputedFields.Proofs.TextCalls
import Mathlib.Order.Bounds.Basic

/-!
# Occurrences of a text

- `Text.occurrences`: how many characters stand before each occurrence of a text in another;
- `Text.indexOf?_eq_some_iff`, `Text.indexOf?_eq_none_iff`: the first occurrence is found if there is one;
- `Text.OccursAt`: occurrences by their places, which count from one;
- `findsFirst_findPosition`: a search from a place on finds the first occurrence there.
-/

namespace ComputedFields

namespace Text

variable {needle cs : List Char} {i : Nat}

/-! ## The first occurrence -/

/-- The numbers of characters before the occurrences of `needle`. -/
def occurrences (needle cs : List Char) : Set Nat := {i | needle <+: cs.drop i}

theorem mem_occurrences : i ∈ occurrences needle cs ↔ needle <+: cs.drop i := Iff.rfl

theorem mem_occurrences_drop {k : Nat} : i ∈ occurrences needle (cs.drop k) ↔ k + i ∈ occurrences needle cs := by
  rw [mem_occurrences, mem_occurrences, List.drop_drop]

theorem isLeast_occurrences_zero (h : needle <+: cs) : IsLeast (occurrences needle cs) 0 :=
  ⟨h, fun _ _ => Nat.zero_le _⟩

/-- Where a text does not begin with `needle`, its first occurrence is that in the rest. -/
theorem isLeast_occurrences_succ {c : Char} (h : ¬ needle <+: c :: cs) :
    IsLeast (occurrences needle (c :: cs)) (i + 1) ↔ IsLeast (occurrences needle cs) i := by
  constructor
  · rintro ⟨hmem, hle⟩
    exact ⟨hmem, fun k hk => Nat.le_of_succ_le_succ (@hle (k + 1) hk)⟩
  · rintro ⟨hmem, hle⟩
    refine ⟨hmem, fun k hk => ?_⟩
    cases k with
    | zero => exact absurd hk h
    | succ k => exact Nat.succ_le_succ (hle hk)

theorem isLeast_of_indexOf?_eq_some (h : indexOf? needle cs = some i) : IsLeast (occurrences needle cs) i := by
  induction cs generalizing i with
  | nil =>
    rw [indexOf?] at h
    split at h
    · next hn =>
      cases h
      exact isLeast_occurrences_zero (List.isEmpty_iff.1 hn ▸ List.nil_prefix)
    · cases h
  | cons c cs ih =>
    rw [indexOf?] at h
    split at h
    · next hp =>
      cases h
      exact isLeast_occurrences_zero (List.isPrefixOf_iff_prefix.1 hp)
    · next hp =>
      obtain ⟨j, hj, rfl⟩ := Option.map_eq_some_iff.1 h
      exact (isLeast_occurrences_succ (mt List.isPrefixOf_iff_prefix.2 hp)).2 (ih hj)

theorem occurrences_eq_empty_of_indexOf?_eq_none (h : indexOf? needle cs = none) : occurrences needle cs = ∅ :=
  Set.eq_empty_of_forall_notMem fun i hi =>
    not_infix_of_indexOf?_eq_none h (List.IsInfix.trans hi.isInfix (List.drop_suffix i cs).isInfix)

/-- The first occurrence is found if there is one. -/
theorem indexOf?_eq_some_iff : indexOf? needle cs = some i ↔ IsLeast (occurrences needle cs) i := by
  refine ⟨isLeast_of_indexOf?_eq_some, fun h => ?_⟩
  cases hi : indexOf? needle cs with
  | none =>
    have hmem := h.1
    rw [occurrences_eq_empty_of_indexOf?_eq_none hi] at hmem
    exact hmem.elim
  | some j => rw [(isLeast_of_indexOf?_eq_some hi).unique h]

theorem indexOf?_eq_none_iff : indexOf? needle cs = none ↔ occurrences needle cs = ∅ := by
  refine ⟨occurrences_eq_empty_of_indexOf?_eq_none, fun h => ?_⟩
  cases hi : indexOf? needle cs with
  | none => rfl
  | some j =>
    have hmem := (isLeast_of_indexOf?_eq_some hi).1
    rw [h] at hmem
    exact hmem.elim

/-! ## Places -/

/-- The characters from the place `p` on, counted from one, begin with `needle`. The place after the last character is
the last one. -/
structure OccursAt (needle haystack : List Char) (p : Nat) : Prop where
  pos : 1 ≤ p
  le : p ≤ haystack.length + 1
  mem : p - 1 ∈ occurrences needle haystack

/-- The first place at or after `start` where `needle` occurs, or zero if there is none. -/
structure FindsFirst (needle haystack : List Char) (start found : Nat) : Prop where
  isLeast : found ≠ 0 → IsLeast {p | max start 1 ≤ p ∧ OccursAt needle haystack p} found
  eq_zero_iff : found = 0 ↔ ∀ p, max start 1 ≤ p → ¬ OccursAt needle haystack p

section

variable {haystack : List Char} {start found : Nat}

theorem FindsFirst.of_isLeast (h : IsLeast {p | max start 1 ≤ p ∧ OccursAt needle haystack p} found) :
    FindsFirst needle haystack start found where
  isLeast _ := h
  eq_zero_iff := iff_of_false (by have := h.1.2.pos; omega) fun hn => hn found h.1.1 h.1.2

theorem findsFirst_zero (h : ∀ p, max start 1 ≤ p → ¬ OccursAt needle haystack p) :
    FindsFirst needle haystack start 0 where
  isLeast hne := absurd rfl hne
  eq_zero_iff := iff_of_true rfl h

theorem FindsFirst.unique {found' : Nat} (h : FindsFirst needle haystack start found)
    (h' : FindsFirst needle haystack start found') : found = found' := by
  by_cases hz : found = 0
  · rw [hz, h'.eq_zero_iff.2 (h.eq_zero_iff.1 hz)]
  · exact (h.isLeast hz).unique (h'.isLeast fun hz' => hz (h.eq_zero_iff.2 (h'.eq_zero_iff.1 hz')))

theorem le_length_of_isLeast (h : IsLeast (occurrences needle cs) i) : i ≤ cs.length := by
  by_contra hlt
  have hnil : needle = [] := by
    have hmem := h.1
    rwa [mem_occurrences, List.drop_eq_nil_of_le (by omega), List.prefix_nil] at hmem
  have hzero : 0 ∈ occurrences needle cs := hnil ▸ List.nil_prefix
  have := h.2 hzero
  omega

/-- The occurrences after the first `k` characters, by their places. -/
theorem occursAt_add_iff {k : Nat} (hk : k ≤ haystack.length) : OccursAt needle haystack (k + i + 1) ↔
    i ≤ (haystack.drop k).length ∧ i ∈ occurrences needle (haystack.drop k) := by
  rw [mem_occurrences_drop, List.length_drop]
  constructor
  · rintro ⟨-, hle, hmem⟩
    exact ⟨by omega, hmem⟩
  · rintro ⟨hle, hmem⟩
    exact ⟨by omega, by omega, hmem⟩

theorem exists_eq_add_of_max_le {p : Nat} (h : max start 1 ≤ p) : ∃ i, p = start - 1 + i + 1 :=
  ⟨p - (start - 1) - 1, by omega⟩

end

end Text

open Text

/-! ## Searching from a place on -/

theorem findsFirst_findPosition (needle haystack : List Char) (start : Nat) :
    FindsFirst needle haystack start (findPosition needle haystack start) := by
  rw [findPosition]
  split_ifs with hk
  · split
    · next i hi =>
      have hleast := indexOf?_eq_some_iff.1 hi
      refine .of_isLeast ⟨⟨by omega, (occursAt_add_iff hk).2 ⟨le_length_of_isLeast hleast, hleast.1⟩⟩, ?_⟩
      rintro p ⟨hp, hoccurs⟩
      obtain ⟨j, rfl⟩ := exists_eq_add_of_max_le hp
      have := hleast.2 ((occursAt_add_iff hk).1 hoccurs).2
      omega
    · next hi =>
      refine findsFirst_zero fun p hp hoccurs => ?_
      obtain ⟨j, rfl⟩ := exists_eq_add_of_max_le hp
      have hmem := ((occursAt_add_iff hk).1 hoccurs).2
      rw [indexOf?_eq_none_iff.1 hi] at hmem
      exact hmem
  · refine findsFirst_zero fun p hp hoccurs => ?_
    have := hoccurs.le
    omega

/-- The empty text occurs at every place. -/
theorem findPosition_nil (haystack : List Char) (start : Nat) :
    findPosition [] haystack start = if max start 1 ≤ haystack.length + 1 then max start 1 else 0 := by
  refine (findsFirst_findPosition [] haystack start).unique ?_
  split_ifs with h
  · exact .of_isLeast ⟨⟨le_rfl, le_max_right _ _, h, List.nil_prefix⟩, fun p hp => hp.1⟩
  · exact findsFirst_zero fun p hp hoccurs => h (hp.trans hoccurs.le)

/-- A search finds the first place at or after its start from which on the text begins with what is looked for, and the
function for it counts the characters up to there. -/
theorem findPosition_exact (needle haystack : List Char) (start : Nat) :
    FindsFirst needle haystack start (findPosition needle haystack start) ∧
      findPosition [] haystack start = (if max start 1 ≤ haystack.length + 1 then max start 1 else 0) ∧
      ∀ record args x, SearchArguments (evaluateAll record args) needle haystack x →
        evaluate record (.call "FIND" args) =
          .ok (countValue (findPosition needle haystack (Decimal.toCount 1 x))) :=
  ⟨findsFirst_findPosition needle haystack start, findPosition_nil haystack start, fun _ _ _ => evaluate_call_find⟩

def bananaSearch : List Formula := [.literal (.text "ana"), .literal (.text "banana"), .literal (.number 3)]

/-- An occurrence is found that overlaps one before the start. -/
theorem findPosition_exact_banana :
    SearchArguments (evaluateAll (fun _ => .blank) bananaSearch) ['a', 'n', 'a'] ['b', 'a', 'n', 'a', 'n', 'a'] 3 ∧
      evaluate (fun _ => .blank) (.call "FIND" bananaSearch) = .ok (countValue 4) := by
  have h : SearchArguments (evaluateAll (fun _ => .blank) bananaSearch) "ana".toList "banana".toList 3 :=
    searchArguments_literals _ _ _ _
  rw [show "ana".toList = ['a', 'n', 'a'] from String.toList_ofList,
    show "banana".toList = ['b', 'a', 'n', 'a', 'n', 'a'] from String.toList_ofList] at h
  exact ⟨h, (findPosition_exact _ _ 3).2.2 _ _ _ h⟩

end ComputedFields
