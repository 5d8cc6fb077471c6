import ComputedFields.Proofs.Occurrences

/-!
# Searching up to case

A search up to case runs on copies of both texts in lower case, and reports a place of the copy. That is a place of the
text itself if lower case adds no characters and does not depend on what stands before them.

- `Text.KeepsPlaces`: texts whose characters keep their places in lower case;
- `Text.KeepsPlaces.lowerChars_drop`: the end of such a text has the lower case form that it has in the text;
- `findsFolded_iff_keepsPlaces`: these are the texts in which searches up to case report places of the text.
-/

namespace ComputedFields

namespace Text

/-! ## Lower case of one character -/

theorem exists_lowerChar_of_ne {c : Char} (hc : c ≠ 'İ') : ∃ d, lowerChar c = [d] := by
  have hlookup : lowerExpansions.lookup c.toNat = none := by
    have hne : c.toNat ≠ 0x130 := fun h => hc (Char.toNat_inj.1 h)
    rw [lowerExpansions, List.lookup_cons, beq_false_of_ne hne]
    rfl
  rw [lowerChar, mapCase, hlookup]
  dsimp only
  split
  · exact ⟨_, rfl⟩
  · exact ⟨_, rfl⟩

theorem lowerChar_sigma : lowerChar 'Σ' = ['σ'] := by decide

/-- The capital letter with a dot has two characters in lower case, and all others have one. -/
theorem length_lowerChar (c : Char) : (lowerChar c).length = 1 + [c].count 'İ' := by
  by_cases hc : c = 'İ'
  · rw [hc]
    rfl
  · obtain ⟨d, hd⟩ := exists_lowerChar_of_ne hc
    rw [hd, List.count_singleton, if_neg (by simpa using hc)]
    rfl

/-! ## Sigmas -/

theorem lowerSigma_eq_iff {before after : List Char} :
    lowerSigma before after = 'σ' ↔ (startsCased before = true → startsCased after = true) := by
  unfold lowerSigma
  cases startsCased before <;> cases startsCased after <;> decide

theorem startsCased_append {cs : List Char} (h : startsCased cs = true) (ds : List Char) :
    startsCased (cs ++ ds) = true := by
  unfold startsCased at h ⊢
  rw [List.dropWhile_append]
  cases hd : cs.dropWhile isCaseIgnorable with
  | nil =>
    rw [hd] at h
    cases h
  | cons c rest =>
    rw [hd] at h
    exact h

/-- A sigma that does not end a word does not end it either where fewer characters before it are seen. -/
theorem lowerSigma_of_append {before ds after : List Char} (h : lowerSigma (before ++ ds) after = 'σ') :
    lowerSigma before after = 'σ' :=
  lowerSigma_eq_iff.2 fun hb => lowerSigma_eq_iff.1 h (startsCased_append hb ds)

/-! ## Lower case of a text -/

theorem length_lowerAfter (before cs : List Char) : (lowerAfter before cs).length = cs.length + cs.count 'İ' := by
  induction cs generalizing before with
  | nil => rfl
  | cons c cs ih =>
    have hhead : (if c = 'Σ' then [lowerSigma before cs] else lowerChar c).length = 1 + [c].count 'İ' := by
      split_ifs with hc
      · rw [hc]
        rfl
      · exact length_lowerChar c
    have hcount : (c :: cs).count 'İ' = [c].count 'İ' + cs.count 'İ' := by
      rw [← List.count_append, List.singleton_append]
    rw [lowerAfter, List.length_append, hhead, ih, hcount, List.length_cons]
    omega

theorem length_lowerChars {cs : List Char} (h : 'İ' ∉ cs) : (lowerChars cs).length = cs.length := by
  rw [lowerChars, length_lowerAfter, List.count_eq_zero_of_not_mem h, Nat.add_zero]

theorem drop_lowerAfter {before cs : List Char} (h : 'İ' ∉ cs) (ds : List Char) :
    (lowerAfter before (cs ++ ds)).drop cs.length = lowerAfter (cs.reverse ++ before) ds := by
  induction cs generalizing before with
  | nil => rfl
  | cons c cs ih =>
    rw [List.mem_cons, not_or] at h
    have hhead : ∃ d, (if c = 'Σ' then [lowerSigma before (cs ++ ds)] else lowerChar c) = [d] := by
      split_ifs
      · exact ⟨_, rfl⟩
      · exact exists_lowerChar_of_ne (Ne.symm h.1)
    obtain ⟨d, hd⟩ := hhead
    rw [List.cons_append, lowerAfter, hd, List.singleton_append, List.length_cons, List.drop_succ_cons, ih h.2,
      List.reverse_cons, List.append_assoc, List.singleton_append]

/-- Lower case of a text in which no sigma ends a word goes character by character. -/
theorem lowerAfter_eq_flatMap {before cs : List Char}
    (h : ∀ xs ys, cs = xs ++ 'Σ' :: ys → lowerSigma (xs.reverse ++ before) ys = 'σ') :
    lowerAfter before cs = cs.flatMap lowerChar := by
  induction cs generalizing before with
  | nil => rfl
  | cons c cs ih =>
    have hhead : (if c = 'Σ' then [lowerSigma before cs] else lowerChar c) = lowerChar c := by
      split_ifs with hc
      · subst hc
        rw [lowerChar_sigma, show lowerSigma before cs = 'σ' from h [] cs rfl]
      · rfl
    have htail : ∀ xs ys, cs = xs ++ 'Σ' :: ys → lowerSigma (xs.reverse ++ (c :: before)) ys = 'σ' := by
      rintro xs ys rfl
      simpa using h (c :: xs) ys rfl
    rw [lowerAfter, hhead, ih htail, List.flatMap_cons]

theorem flatMap_lowerChar_drop {cs : List Char} (h : 'İ' ∉ cs) (k : Nat) :
    (cs.drop k).flatMap lowerChar = (cs.flatMap lowerChar).drop k := by
  induction cs generalizing k with
  | nil => simp
  | cons c cs ih =>
    rw [List.mem_cons, not_or] at h
    cases k with
    | zero => rfl
    | succ k =>
      obtain ⟨d, hd⟩ := exists_lowerChar_of_ne (Ne.symm h.1)
      rw [List.flatMap_cons, hd, List.singleton_append, List.drop_succ_cons, List.drop_succ_cons, ih h.2]

/-- Texts whose characters keep their places in lower case: they do not have the capital letter with a dot, which is two
characters in lower case, and no capital sigma in them ends a word. -/
structure KeepsPlaces (cs : List Char) : Prop where
  notMem : 'İ' ∉ cs
  lowerSigma_eq : ∀ xs ys, cs = xs ++ 'Σ' :: ys → lowerSigma xs.reverse ys = 'σ'

namespace KeepsPlaces

variable {cs : List Char}

theorem drop (h : KeepsPlaces cs) (k : Nat) : KeepsPlaces (cs.drop k) where
  notMem hm := h.notMem (List.mem_of_mem_drop hm)
  lowerSigma_eq xs ys heq := by
    have hcs : cs = (cs.take k ++ xs) ++ 'Σ' :: ys := by
      rw [List.append_assoc, ← heq, List.take_append_drop]
    have hsigma := h.lowerSigma_eq _ _ hcs
    rw [List.reverse_append] at hsigma
    exact lowerSigma_of_append hsigma

theorem lowerChars_eq (h : KeepsPlaces cs) : lowerChars cs = cs.flatMap lowerChar :=
  lowerAfter_eq_flatMap fun xs ys heq => by
    rw [List.append_nil]
    exact h.lowerSigma_eq xs ys heq

theorem lowerChars_drop (h : KeepsPlaces cs) (k : Nat) : lowerChars (cs.drop k) = (lowerChars cs).drop k := by
  rw [(h.drop k).lowerChars_eq, h.lowerChars_eq, flatMap_lowerChar_drop h.notMem]

end KeepsPlaces

/-! ## Places up to case -/

/-- In lower case, the characters from the place `p` on begin with `needle`. -/
structure FoldsAt (needle haystack : List Char) (p : Nat) : Prop where
  pos : 1 ≤ p
  le : p ≤ haystack.length + 1
  isPrefix : lowerChars needle <+: lowerChars (haystack.drop (p - 1))

/-- A place at or after `start` where `needle` stands up to case, or zero if there is none. -/
structure FindsFolded (needle haystack : List Char) (start found : Nat) : Prop where
  foldsAt : found ≠ 0 → start ≤ found ∧ FoldsAt needle haystack found
  not_foldsAt : found = 0 → ∀ p, start ≤ p → ¬ FoldsAt needle haystack p

variable {needle haystack : List Char} {start p : Nat}

theorem KeepsPlaces.occursAt_iff (h : KeepsPlaces haystack) :
    OccursAt (lowerChars needle) (lowerChars haystack) p ↔ FoldsAt needle haystack p := by
  have hlength := length_lowerChars h.notMem
  have hdrop := h.lowerChars_drop (p - 1)
  constructor
  · rintro ⟨hpos, hle, hmem⟩
    exact ⟨hpos, hlength ▸ hle, hdrop ▸ hmem⟩
  · rintro ⟨hpos, hle, hprefix⟩
    exact ⟨hpos, hlength ▸ hle, mem_occurrences.2 (hdrop ▸ hprefix)⟩

theorem foldsAt_self {k : Nat} (hk : k ≤ haystack.length) : FoldsAt (haystack.drop k) haystack (k + 1) :=
  ⟨by omega, by omega, List.prefix_rfl⟩

end Text

open Text

variable {needle haystack : List Char}

theorem findsFolded_foldedPosition (h : KeepsPlaces haystack) (needle : List Char) {start : Nat} (hs : 1 ≤ start) :
    FindsFolded needle haystack start (foldedPosition needle haystack start) := by
  have hfinds := findsFirst_findPosition (lowerChars needle) (lowerChars haystack) start
  refine ⟨fun hne => ?_, fun hz p hp hfolds => ?_⟩
  · obtain ⟨hle, hoccurs⟩ := (hfinds.isLeast hne).1
    exact ⟨(le_max_left _ _).trans hle, h.occursAt_iff.1 hoccurs⟩
  · exact hfinds.eq_zero_iff.1 hz p (max_le hp (hs.trans hp)) (h.occursAt_iff.2 hfolds)

/-- The place after all characters of the copy is none of the text if the copy has more characters. -/
theorem notMem_of_findsFolded
    (h : ∀ needle start, 1 ≤ start → FindsFolded needle haystack start (foldedPosition needle haystack start)) :
    'İ' ∉ haystack := by
  intro hmem
  have hcount := List.count_pos_iff.2 hmem
  have hlength := length_lowerAfter [] haystack
  have hfound : foldedPosition [] haystack (haystack.length + 2) = haystack.length + 2 := by
    rw [foldedPosition, show lowerChars [] = [] from rfl, findPosition_nil, lowerChars, if_pos (by omega)]
    omega
  have hle := ((h [] (haystack.length + 2) (by omega)).foldsAt (by omega)).2.le
  omega

/-- A sigma that ends a word has another form in the copy than at the front of what is looked for. -/
theorem lowerSigma_eq_of_findsFolded
    (h : ∀ needle start, 1 ≤ start → FindsFolded needle haystack start (foldedPosition needle haystack start))
    {xs ys : List Char} (heq : haystack = xs ++ 'Σ' :: ys) : lowerSigma xs.reverse ys = 'σ' := by
  have hdotted := notMem_of_findsFolded h
  have hk : xs.length < haystack.length := by simp [heq]
  have hdrop : haystack.drop xs.length = 'Σ' :: ys := by rw [heq, List.drop_left]
  -- What is looked for is the end of the text, so it can only be found where that end begins.
  have hfinds := h (haystack.drop xs.length) (xs.length + 1) (by omega)
  have hne : foldedPosition (haystack.drop xs.length) haystack (xs.length + 1) ≠ 0 := fun hz =>
    hfinds.not_foldsAt hz _ le_rfl (foldsAt_self hk.le)
  have hfound : foldedPosition (haystack.drop xs.length) haystack (xs.length + 1) = xs.length + 1 := by
    obtain ⟨hstart, hfolds⟩ := hfinds.foldsAt hne
    have hlength := hfolds.isPrefix.length_le
    rw [length_lowerChars fun hm => hdotted (List.mem_of_mem_drop hm),
      length_lowerChars fun hm => hdotted (List.mem_of_mem_drop hm), List.length_drop, List.length_drop] at hlength
    omega
  have hmem := ((findsFirst_findPosition _ _ _).isLeast hne).1.2.mem
  rw [← foldedPosition, hfound, Nat.add_sub_cancel, mem_occurrences, hdrop, heq, lowerChars, lowerChars,
    drop_lowerAfter fun hm => hdotted (heq ▸ List.mem_append_left _ hm)] at hmem
  simp only [lowerAfter, if_true, List.singleton_append, List.append_nil, List.cons_prefix_cons] at hmem
  rw [← hmem.1, lowerSigma_eq_iff]
  exact fun hcased => by cases hcased

/-- The texts in which searches up to case report places of the text. -/
theorem findsFolded_iff_keepsPlaces (haystack : List Char) : (∀ needle start, 1 ≤ start →
      FindsFolded needle haystack start (foldedPosition needle haystack start)) ↔ KeepsPlaces haystack :=
  ⟨fun h => ⟨notMem_of_findsFolded h, fun _ _ => lowerSigma_eq_of_findsFolded h⟩,
    fun h needle _ => findsFolded_foldedPosition h needle⟩

/-- A search up to case finds the first place of the copy in lower case where what is looked for stands in lower case,
and a blank if there is none. All that is looked for in a text is found by its places in the text exactly if the
characters of the text keep their places in lower case. -/
theorem foldedPosition_exact (haystack : List Char) :
    (KeepsPlaces haystack ↔ ∀ needle start, 1 ≤ start →
      FindsFolded needle haystack start (foldedPosition needle haystack start)) ∧
    (∀ needle start,
      FindsFirst (lowerChars needle) (lowerChars haystack) start (foldedPosition needle haystack start)) ∧
    ∀ record args needle x, SearchArguments (evaluateAll record args) needle haystack x →
      evaluate record (.call "SEARCH" args) =
        .ok (if foldedPosition needle haystack (Decimal.toCount 1 x) = 0 then .blank
          else countValue (foldedPosition needle haystack (Decimal.toCount 1 x))) :=
  ⟨(findsFolded_iff_keepsPlaces haystack).symm, fun _ _ => findsFirst_findPosition _ _ _,
    fun _ _ _ _ => evaluate_call_search⟩

theorem keepsPlaces_sigma : KeepsPlaces ['Σ', 'o'] where
  notMem := by decide
  lowerSigma_eq xs ys heq := by
    cases xs with
    | nil =>
      cases heq
      rfl
    | cons x xs =>
      have hmem : 'Σ' ∈ ['o'] := (List.cons.inj heq).2 ▸ List.mem_append_right _ List.mem_cons_self
      exact absurd hmem (by decide)

def sigmaSearch : List Formula := [.literal (.text "O"), .literal (.text "Σo"), .literal (.number 1)]

theorem foldedPosition_exact_sigma :
    KeepsPlaces ['Σ', 'o'] ∧ FindsFolded ['O'] ['Σ', 'o'] 1 (foldedPosition ['O'] ['Σ', 'o'] 1) ∧
      SearchArguments (evaluateAll (fun _ => .blank) sigmaSearch) ['O'] ['Σ', 'o'] 1 ∧
      evaluate (fun _ => .blank) (.call "SEARCH" sigmaSearch) = .ok (countValue 2) := by
  obtain ⟨hkeeps, -, hvalue⟩ := foldedPosition_exact ['Σ', 'o']
  have h : SearchArguments (evaluateAll (fun _ => .blank) sigmaSearch) "O".toList "Σo".toList 1 :=
    searchArguments_literals _ _ _ _
  rw [show "O".toList = ['O'] from String.toList_ofList, show "Σo".toList = ['Σ', 'o'] from String.toList_ofList] at h
  exact ⟨keepsPlaces_sigma, hkeeps.1 keepsPlaces_sigma ['O'] 1 le_rfl, h, hvalue _ _ _ _ h⟩

def dottedSearch : List Formula := [.literal (.text "b"), .literal (.text "İb"), .literal (.number 1)]

/-- A letter that stands second in the text is reported third, since the one before it is two characters in lower
case. -/
theorem search_dotted :
    evaluate (fun _ => .blank) (.call "SEARCH" dottedSearch) = .ok (countValue 3) ∧
      FindsFolded ['b'] ['İ', 'b'] 1 2 ∧ ¬ FindsFolded ['b'] ['İ', 'b'] 1 3 := by
  have h : SearchArguments (evaluateAll (fun _ => .blank) dottedSearch) "b".toList "İb".toList 1 :=
    searchArguments_literals _ _ _ _
  rw [show "b".toList = ['b'] from String.toList_ofList, show "İb".toList = ['İ', 'b'] from String.toList_ofList] at h
  refine ⟨evaluate_call_search h, ⟨fun _ => ⟨by decide, ?_⟩, nofun⟩, fun hfinds => ?_⟩
  · exact @foldsAt_self ['İ', 'b'] 1 (by decide)
  · have hlength := (hfinds.foldsAt (by decide)).2.isPrefix.length_le
    exact absurd hlength (by decide)

end ComputedFields
