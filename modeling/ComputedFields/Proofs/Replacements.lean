import ComputedFields.Proofs.Occurrences

/-!
# Replacing occurrences of a text

- `Text.IsCut`: a text cut at the occurrences of another, from left to right and without overlaps;
- `Text.isCut_iff`: there is one such cut, and it is the one that replacements go by;
- `Text.joinReplacing_of_lt`, `Text.joinReplacing_of_le`: one separator of a cut text replaced, or none;
- `substituted_exact`: what a call replaces.
-/

namespace ComputedFields

namespace Text

/-! ## Cuts -/

/-- The pieces of a text between the occurrences of `old`. Each of these is the first one that begins where the one
before it has ended, or later. -/
inductive IsCut (old : List Char) : List Char → List (List Char) → Prop where
  | last {text : List Char} (hnone : occurrences old text = ∅) : IsCut old text [text]
  | next {text piece rest : List Char} {ps : List (List Char)} (htext : text = piece ++ old ++ rest)
    (hfirst : IsLeast (occurrences old text) piece.length) (hrest : IsCut old rest ps) : IsCut old text (piece :: ps)

variable {old new text : List Char} {ps qs : List (List Char)}

theorem occurrences_nil (h : old ≠ []) : occurrences old [] = ∅ := by
  rw [← indexOf?_eq_none_iff, indexOf?, if_neg (by simpa using h)]

theorem eq_append_of_mem_occurrences {i : Nat} (h : i ∈ occurrences old text) :
    text = text.take i ++ old ++ text.drop (i + old.length) := by
  obtain ⟨rest, hrest⟩ := mem_occurrences.1 h
  calc text = text.take i ++ text.drop i := (List.take_append_drop i text).symm
    _ = text.take i ++ old ++ (text.drop i).drop old.length := by
      rw [← hrest, List.drop_left, List.append_assoc]
    _ = text.take i ++ old ++ text.drop (i + old.length) := by rw [List.drop_drop]

theorem isCut_pieces (hold : old ≠ []) (text : List Char) : IsCut old text (pieces old text) := by
  fun_induction pieces old text with
  | case1 text => exact absurd rfl hold
  | case2 old hne => exact .last (occurrences_nil hold)
  | case3 s ss c cs hi => exact .last (indexOf?_eq_none_iff.1 hi)
  | case4 s ss c cs i hi ih =>
    have hleast := indexOf?_eq_some_iff.1 hi
    have hlength : ((c :: cs).take i).length = i := by
      rw [List.length_take, Nat.min_eq_left (le_length_of_isLeast hleast)]
    exact .next (eq_append_of_mem_occurrences hleast.1) (hlength.symm ▸ hleast) (ih hold)

theorem IsCut.unique (h : IsCut old text ps) (h' : IsCut old text qs) : ps = qs := by
  induction h generalizing qs with
  | last hnone =>
    cases h' with
    | last => rfl
    | next htext hfirst hrest =>
      rw [hnone] at hfirst
      exact hfirst.1.elim
  | next htext hfirst hrest ih =>
    cases h' with
    | last hnone =>
      rw [hnone] at hfirst
      exact hfirst.1.elim
    | next htext' hfirst' hrest' =>
      have hsplit := htext.symm.trans htext'
      rw [List.append_assoc, List.append_assoc] at hsplit
      obtain ⟨rfl, hrests⟩ := List.append_inj hsplit (hfirst.unique hfirst')
      cases List.append_cancel_left hrests
      rw [ih hrest']

theorem isCut_iff (hold : old ≠ []) : IsCut old text ps ↔ ps = pieces old text :=
  ⟨fun h => h.unique (isCut_pieces hold text), fun h => h ▸ isCut_pieces hold text⟩

theorem IsCut.ne_nil (h : IsCut old text ps) : ps ≠ [] := by
  cases h <;> exact List.cons_ne_nil _ _

/-- The pieces with `old` between them are the text. -/
theorem IsCut.intercalate_eq (h : IsCut old text ps) : List.intercalate old ps = text := by
  induction h with
  | last => rw [List.intercalate_singleton]
  | next htext _ hrest ih => rw [List.intercalate_cons_of_ne_nil hrest.ne_nil, ih, htext]

/-! ## Pieces put together again -/

theorem joinReplacing_zero (hps : ps ≠ []) (p : List Char) :
    joinReplacing old new 0 (p :: ps) = p ++ new ++ List.intercalate old ps := by
  rw [joinReplacing]
  exact hps

theorem joinReplacing_succ (hps : ps ≠ []) (p : List Char) (n : Nat) :
    joinReplacing old new (n + 1) (p :: ps) = p ++ old ++ joinReplacing old new n ps := by
  rw [joinReplacing]
  exact hps

/-- The separator with number `n`, counted from zero, is the only one that is replaced. -/
theorem joinReplacing_of_lt {n : Nat} (h : n + 1 < ps.length) : joinReplacing old new n ps =
    List.intercalate old (ps.take (n + 1)) ++ new ++ List.intercalate old (ps.drop (n + 1)) := by
  induction ps generalizing n with
  | nil => cases h
  | cons p ps ih =>
    have hps : ps ≠ [] := by
      rintro rfl
      simp at h
    cases n with
    | zero => rw [joinReplacing_zero hps, List.take_succ_cons, List.take_zero, List.intercalate_singleton]; rfl
    | succ n =>
      have htake : ps.take (n + 1) ≠ [] := by simpa using hps
      rw [joinReplacing_succ hps, ih (by simpa using h), List.take_succ_cons, List.intercalate_cons_of_ne_nil htake,
        List.drop_succ_cons]
      simp only [List.append_assoc]

/-- No separator is replaced if there are too few. -/
theorem joinReplacing_of_le {n : Nat} (h : ps.length ≤ n + 1) :
    joinReplacing old new n ps = List.intercalate old ps := by
  induction ps generalizing n with
  | nil => rw [joinReplacing, List.intercalate_nil]
  | cons p ps ih =>
    by_cases hps : ps = []
    · rw [hps, joinReplacing, List.intercalate_singleton]
    · have hpos := List.length_pos_iff.2 hps
      obtain ⟨n, rfl⟩ : ∃ k, n = k + 1 := ⟨n - 1, by rw [List.length_cons] at h; omega⟩
      rw [joinReplacing_succ hps, ih (by simpa using h), List.intercalate_cons_of_ne_nil hps]

end Text

open Text

/-! ## Calls -/

variable {text old new : List Char} {index : Option Nat}

/-- What becomes of a text that is cut into pieces: all its separators are replaced if no number is given, and else the
one with this number, counted from one. -/
structure Replaces (text old new : List Char) (ps : List (List Char)) (index : Option Nat) (result : List Char) :
    Prop where
  all : index = none → result = List.intercalate new ps
  one : ∀ n, index = some n → 1 ≤ n → n < ps.length →
    result = List.intercalate old (ps.take n) ++ new ++ List.intercalate old (ps.drop n)
  unchanged : ∀ n, index = some n → n = 0 ∨ ps.length ≤ n → result = text

theorem replaces_substituted (hold : old ≠ []) (text new : List Char) (index : Option Nat) :
    Replaces text old new (pieces old text) index (substituted text old new index) where
  all hi := by rw [hi, substituted, replaceAll]
  one n hi hpos hlt := by
    obtain ⟨n, rfl⟩ := Nat.exists_eq_succ_of_ne_zero (Nat.pos_iff_ne_zero.1 hpos)
    rw [hi, substituted, replaceNth, joinReplacing_of_lt hlt]
  unchanged n hi h := by
    rw [hi, substituted]
    cases n with
    | zero => rfl
    | succ n =>
      have hle := h.resolve_left (Nat.succ_ne_zero n)
      rw [replaceNth, joinReplacing_of_le hle, (isCut_pieces hold text).intercalate_eq]

/-- The empty text is replaced nowhere. -/
theorem substituted_nil (text new : List Char) (index : Option Nat) : substituted text [] new index = text := by
  have hpieces : pieces [] text = [text] := by rw [pieces]
  cases index with
  | none => rw [substituted, replaceAll, hpieces, List.intercalate_singleton]
  | some n =>
    rw [substituted]
    cases n with
    | zero => rfl
    | succ n => rw [replaceNth, hpieces, joinReplacing]

/-- A substitution replaces what is between the pieces of the one cut of its text, all of it or what stands at the given
number; it changes nothing if there is no such number or nothing to look for. -/
theorem substituted_exact {record : Record} {args : List Formula}
    (h : SubstituteArguments (evaluateAll record args) text old new index) :
    ∃ result, evaluate record (.call "SUBSTITUTE" args) = .ok (.text (String.ofList result)) ∧
      (old = [] → result = text) ∧
      (old ≠ [] → ∃ ps, (∀ qs, IsCut old text qs ↔ qs = ps) ∧ Replaces text old new ps index result) := by
  refine ⟨_, evaluate_call_substitute h, fun hold => ?_, fun hold => ?_⟩
  · rw [hold, substituted_nil]
  · exact ⟨pieces old text, fun _ => isCut_iff hold, replaces_substituted hold text new index⟩

theorem isCut_adjacent : IsCut ['a', 'a'] ['a', 'a', 'a', 'a'] [[], [], []] :=
  .next rfl (isLeast_occurrences_zero (by decide))
    (.next rfl (isLeast_occurrences_zero (by decide)) (.last (occurrences_nil (by decide))))

def adjacentSubstitution : List Formula :=
  [.literal (.text "aaaa"), .literal (.text "aa"), .literal (.text "b"), .literal (.number 2)]

/-- The second of two occurrences that do not overlap. -/
theorem substituted_exact_adjacent :
    SubstituteArguments (evaluateAll (fun _ => .blank) adjacentSubstitution) ['a', 'a', 'a', 'a'] ['a', 'a'] ['b']
      (some 2) ∧
    evaluate (fun _ => .blank) (.call "SUBSTITUTE" adjacentSubstitution) = .ok (.text "aab") := by
  have h : SubstituteArguments (evaluateAll (fun _ => .blank) adjacentSubstitution) "aaaa".toList "aa".toList "b".toList
      (some 2) := substituteArguments_literals _ _ _ _ 2
  rw [show "aaaa".toList = ['a', 'a', 'a', 'a'] from String.toList_ofList,
    show "aa".toList = ['a', 'a'] from String.toList_ofList, show "b".toList = ['b'] from String.toList_ofList] at h
  obtain ⟨result, hvalue, -, hcut⟩ := substituted_exact h
  obtain ⟨ps, hps, hreplaces⟩ := hcut (by decide)
  obtain rfl := (hps _).1 isCut_adjacent
  refine ⟨h, ?_⟩
  rw [hvalue, hreplaces.one 2 rfl (by decide) (by decide)]
  rfl

end ComputedFields
