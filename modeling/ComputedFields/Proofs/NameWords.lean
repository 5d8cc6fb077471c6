import ComputedFields.Text.WordCase
import Mathlib.Data.List.Basic

/-!
# Words in snake and camel case

A case puts the words of a name together again. What it does to ASCII letters and digits is seen here:

- `isAlphanumeric_of_isAlphanum`, `exists_lowerChar_eq`, `exists_upperChar_eq`: ASCII letters and digits are part of
  words, and case mapping turns each into one of them;
- `flatten_nameWords`: words keep all letters and digits of a name, so a case has at least as many ASCII ones
  (`countP_le_snakeCase`, `countP_le_camelCase`);
- `nameWords_append_space`: what stands after a space begins a new word, which a case sets apart
  (`snakeCase_append_word`, `camelCase_append_word`).
-/

namespace ComputedFields.Text

variable {c : Char}

/-! ## ASCII characters -/

theorem isUpper_iff : c.isUpper = true ↔ 65 ≤ c.toNat ∧ c.toNat ≤ 90 := by
  have h : c.isUpper = true ↔ 65 ≤ c.val ∧ c.val ≤ 90 := decide_eq_true_iff
  rw [h, UInt32.le_iff_toNat_le, UInt32.le_iff_toNat_le]
  rfl

theorem isLower_iff : c.isLower = true ↔ 97 ≤ c.toNat ∧ c.toNat ≤ 122 := by
  change (decide (97 ≤ c.val) && decide (c.val ≤ 122)) = true ↔ _
  rw [Bool.and_eq_true, decide_eq_true_iff, decide_eq_true_iff, UInt32.le_iff_toNat_le, UInt32.le_iff_toNat_le]
  rfl

theorem isDigit_iff : c.isDigit = true ↔ 48 ≤ c.toNat ∧ c.toNat ≤ 57 := Char.isDigit_iff_toNat

theorem isAlpha_iff : c.isAlpha = true ↔ 65 ≤ c.toNat ∧ c.toNat ≤ 90 ∨ 97 ≤ c.toNat ∧ c.toNat ≤ 122 := by
  change (c.isUpper || c.isLower) = true ↔ _
  rw [Bool.or_eq_true, isUpper_iff, isLower_iff]

theorem isAlphanum_iff : c.isAlphanum = true ↔
    (65 ≤ c.toNat ∧ c.toNat ≤ 90 ∨ 97 ≤ c.toNat ∧ c.toNat ≤ 122) ∨ 48 ≤ c.toNat ∧ c.toNat ≤ 57 := by
  rw [Char.isAlphanum, Bool.or_eq_true, isAlpha_iff, isDigit_iff]

theorem toLower_eq_self (h : c.isUpper = false) : c.toLower = c := by
  have hc : ¬ (65 ≤ c.val ∧ c.val ≤ 90) := decide_eq_false_iff_not.1 h
  exact dif_neg hc

/-! ## Classes -/

theorem inside_eq_true {b e n : Nat} {bs : List Nat} (hb : b ≤ n) (he : n < e) : inside (b :: e :: bs) n = true := by
  rw [inside, if_neg (by omega), inside, if_pos he]
  rfl

theorem inside_eq_false {b n : Nat} {bs : List Nat} (h : n < b) : inside (b :: bs) n = false := by
  rw [inside, if_pos h]

theorem inside_eq_tail {b e n : Nat} {bs : List Nat} (hb : b ≤ e) (he : e ≤ n) :
    inside (b :: e :: bs) n = inside bs n := by
  rw [inside, if_neg (by omega), inside, if_neg (by omega), Bool.not_not]

theorem isAlphanumeric_of_isAlphanum (h : c.isAlphanum = true) : isAlphanumeric c = true := by
  rw [isAlphanumeric, Bool.or_eq_true]
  rcases isAlphanum_iff.1 h with (h | h) | h
  · exact .inl (inside_eq_true h.1 (by omega))
  · exact .inl ((inside_eq_tail (by omega) (by omega)).trans (inside_eq_true h.1 (by omega)))
  · exact .inr (inside_eq_true h.1 (by omega))

theorem isAlphanumeric_space : isAlphanumeric ' ' = false := by decide

theorem isUppercase_eq_false (h : c.isLower = true) : isUppercase c = false := by
  have h := isLower_iff.1 h
  exact (inside_eq_tail (by omega) (by omega)).trans (inside_eq_false (by omega))

/-! ## Case mapping -/

/-- ASCII characters are mapped by the first run of a table, if all others are of later characters. -/
theorem mapCase_of_lt (run : CaseRun) (runs : List CaseRun) {expansions : List (Nat × List Nat)}
    (hruns : (runs.all (128 ≤ ·.first)) = true) (hexpansions : (expansions.all (128 ≤ ·.1)) = true)
    (hc : c.toNat < 128) :
    mapCase (run :: runs) expansions c = ((run.image? c.toNat).map fun n => [Char.ofNat n]).getD [c] := by
  have hlookup : expansions.lookup c.toNat = none := by
    rw [List.lookup_eq_none_iff]
    intro e he
    have hle : 128 ≤ e.1 := by simpa using List.all_eq_true.1 hexpansions e he
    simp only [bne_iff_ne, ne_eq]
    omega
  have hfind : runs.findSome? (·.image? c.toNat) = none := by
    rw [List.findSome?_eq_none_iff]
    intro r hr
    have hle : 128 ≤ r.first := by simpa using List.all_eq_true.1 hruns r hr
    rw [CaseRun.image?, if_neg (by omega)]
  rw [mapCase, hlookup]
  simp only [List.findSome?_cons, hfind]
  cases run.image? c.toNat <;> rfl

theorem lowerChar_of_lt (hc : c.toNat < 128) :
    lowerChar c = (((⟨0x41, 0x5A, 1, 32⟩ : CaseRun).image? c.toNat).map fun n => [Char.ofNat n]).getD [c] :=
  mapCase_of_lt _ lowerRuns.tail (by decide) (by decide) hc

theorem upperChar_of_lt (hc : c.toNat < 128) :
    upperChar c = (((⟨0x61, 0x7A, 1, -32⟩ : CaseRun).image? c.toNat).map fun n => [Char.ofNat n]).getD [c] :=
  mapCase_of_lt _ upperRuns.tail (by decide) (by decide) hc

theorem lowerChar_of_isLower (h : c.isLower = true) : lowerChar c = [c] := by
  have h := isLower_iff.1 h
  rw [lowerChar_of_lt (by omega), CaseRun.image?, if_neg (by simp only; omega)]
  rfl

theorem toNat_ofNat_of_lt {n : Nat} (h : n < 128) : (Char.ofNat n).toNat = n := by
  have hvalid : n.isValidChar := .inl (by omega)
  rw [Char.ofNat, dif_pos hvalid]
  rfl

theorem exists_lowerChar_eq (h : c.isAlphanum = true) : ∃ d, lowerChar c = [d] ∧ d.isAlphanum = true := by
  have hc := isAlphanum_iff.1 h
  rw [lowerChar_of_lt (by omega), CaseRun.image?]
  split
  next hrun =>
    refine ⟨_, rfl, ?_⟩
    simp only at hrun ⊢
    rw [isAlphanum_iff, toNat_ofNat_of_lt (by omega)]
    omega
  next => exact ⟨c, rfl, h⟩

theorem exists_upperChar_eq (h : c.isAlphanum = true) : ∃ d, upperChar c = [d] ∧ d.isAlphanum = true := by
  have hc := isAlphanum_iff.1 h
  rw [upperChar_of_lt (by omega), CaseRun.image?]
  split
  next hrun =>
    refine ⟨_, rfl, ?_⟩
    simp only at hrun ⊢
    rw [isAlphanum_iff, toNat_ofNat_of_lt (by omega)]
    omega
  next => exact ⟨c, rfl, h⟩

/-! ## Words -/

variable {isGap : Char → Bool}

theorem flatten_finished (run : List Char) : (finished run).flatten = run.reverse := by
  unfold finished
  split
  · simp_all
  · simp

theorem flatten_runsAfter (run cs : List Char) :
    (runsAfter isGap run cs).flatten = run.reverse ++ cs.filter (!isGap ·) := by
  induction cs generalizing run with
  | nil => simp [runsAfter, flatten_finished]
  | cons c cs ih =>
    rw [runsAfter]
    split
    next h => simp [ih, flatten_finished, h]
    next h => simp [ih, h]

theorem runsAfter_append_gap (hc : isGap c = true) (run cs ds : List Char) :
    runsAfter isGap run (cs ++ c :: ds) = runsAfter isGap run cs ++ runsAfter isGap [] ds := by
  induction cs generalizing run with
  | nil => simp [runsAfter, hc]
  | cons d cs ih =>
    rw [List.cons_append, runsAfter, runsAfter]
    split
    · rw [ih, List.append_assoc]
    · rw [ih]

theorem runsAfter_of_all (run : List Char) {w : List Char} (hw : ∀ c ∈ w, isGap c = false) :
    runsAfter isGap run w = finished (w.reverse ++ run) := by
  induction w generalizing run with
  | nil => rfl
  | cons c w ih =>
    obtain ⟨hc, hw⟩ := List.forall_mem_cons.1 hw
    simp [runsAfter, hc, ih _ hw]

theorem flatten_caseWordsAfter (mode : WordMode) (word cs : List Char) :
    (caseWordsAfter mode word cs).flatten = word.reverse ++ cs := by
  fun_induction caseWordsAfter mode word cs with
  | case1 mode word => simp [flatten_finished]
  | case2 mode word c => simp
  | case3 mode word c next rest h ih => simp [ih]
  | case4 mode word c next rest h h' ih => simp [ih]
  | case5 mode word c next rest h h' ih => simp [ih]

/-- A run without capitals is one word. -/
theorem caseWordsAfter_of_all (mode : WordMode) (word : List Char) {w : List Char} (hne : w ≠ [])
    (hw : ∀ c ∈ w, isUppercase c = false) : caseWordsAfter mode word w = [word.reverse ++ w] := by
  fun_induction caseWordsAfter mode word w with
  | case1 mode word => exact absurd rfl hne
  | case2 mode word c => simp
  | case3 mode word c next rest h ih => simp [hw next (by simp)] at h
  | case4 mode word c next rest h h' ih => simp [hw c (by simp)] at h'
  | case5 mode word c next rest h h' ih =>
    rw [ih (by simp) fun d hd => hw d (List.mem_cons_of_mem _ hd)]
    simp

/-- Words keep all letters and digits of a name. -/
theorem flatten_nameWords (cs : List Char) : (nameWords cs).flatten = cs.filter isAlphanumeric := by
  have hwords (rs : List (List Char)) : (rs.flatMap (caseWordsAfter .boundary [])).flatten = rs.flatten := by
    induction rs with
    | nil => rfl
    | cons r rs ih => simp [ih, flatten_caseWordsAfter]
  rw [nameWords, hwords, runs, flatten_runsAfter]
  simp

theorem nameWords_append_space (cs ds : List Char) : nameWords (cs ++ ' ' :: ds) = nameWords cs ++ nameWords ds := by
  have hgap : (!isAlphanumeric ' ') = true := by rw [isAlphanumeric_space]; rfl
  rw [nameWords, runs, runsAfter_append_gap hgap, List.flatMap_append]
  rfl

/-- A word of small ASCII letters is one word. -/
theorem nameWords_of_isLower {w : List Char} (hne : w ≠ []) (hw : ∀ c ∈ w, c.isLower = true) : nameWords w = [w] := by
  have hrun : runs (!isAlphanumeric ·) w = [w] := by
    rw [runs, runsAfter_of_all]
    · simp [finished, hne]
    · intro c hc
      rw [isAlphanumeric_of_isAlphanum (isAlphanum_iff.2 (.inl (.inr (isLower_iff.1 (hw c hc)))))]
      rfl
  rw [nameWords, hrun, List.flatMap_singleton, caseWordsAfter_of_all _ _ hne fun c hc => isUppercase_eq_false (hw c hc)]
  simp

/-! ## Cases -/

theorem lowerWord_cons (c : Char) (cs : List Char) :
    lowerWord (c :: cs) = (if c = 'Σ' ∧ cs = [] then ['ς'] else lowerChar c) ++ lowerWord cs := by
  rw [lowerWord.eq_def]
  split
  · simp_all
  · simp_all [lowerWord]
  · simp_all

theorem lowerWord_of_isLower {w : List Char} (hw : ∀ c ∈ w, c.isLower = true) : lowerWord w = w := by
  induction w with
  | nil => rfl
  | cons c w ih =>
    obtain ⟨hc, hw⟩ := List.forall_mem_cons.1 hw
    have hsigma : c ≠ 'Σ' := by
      rintro rfl
      simp at hc
    simp [lowerWord_cons, hsigma, lowerChar_of_isLower hc, ih hw]

/-- A word in lower case has at least as many ASCII letters and digits. -/
theorem countP_le_lowerWord (w : List Char) : w.countP Char.isAlphanum ≤ (lowerWord w).countP Char.isAlphanum := by
  induction w with
  | nil => simp [lowerWord]
  | cons c w ih =>
    rw [lowerWord_cons, List.countP_append, List.countP_cons]
    split
    next hc =>
      obtain ⟨d, hd, hdc⟩ := exists_lowerChar_eq hc
      have hsigma : c ≠ 'Σ' := by
        rintro rfl
        exact absurd hc (by decide)
      simp [hsigma, hd, hdc]
      omega
    next => omega

theorem countP_le_capitalWord (w : List Char) : w.countP Char.isAlphanum ≤ (capitalWord w).countP Char.isAlphanum := by
  cases w with
  | nil => simp [capitalWord]
  | cons c w =>
    have hw := countP_le_lowerWord w
    rw [capitalWord, List.countP_append, List.countP_cons]
    split
    next hc =>
      obtain ⟨d, hd, hdc⟩ := exists_upperChar_eq hc
      simp [hd, hdc]
      omega
    next => omega

theorem countP_flatten_le {f : List Char → List Char} {p : Char → Bool} (h : ∀ w, w.countP p ≤ (f w).countP p)
    (ws : List (List Char)) : ws.flatten.countP p ≤ (ws.flatMap f).countP p := by
  induction ws with
  | nil => simp
  | cons w ws ih =>
    have hw := h w
    simp only [List.flatten_cons, List.flatMap_cons, List.countP_append]
    omega

theorem flatten_sublist_intercalate (sep : List Char) (ws : List (List Char)) :
    ws.flatten.Sublist (List.intercalate sep ws) := by
  induction ws with
  | nil => simp
  | cons w ws ih =>
    cases ws with
    | nil => simp
    | cons v ws =>
      rw [List.intercalate_cons_cons, List.flatten_cons]
      exact (List.sublist_append_left _ _).append ih

theorem intercalate_concat (sep : List Char) {ws : List (List Char)} (h : ws ≠ []) (w : List Char) :
    List.intercalate sep (ws ++ [w]) = List.intercalate sep ws ++ sep ++ w := by
  induction ws with
  | nil => exact absurd rfl h
  | cons v ws ih =>
    cases ws with
    | nil => simp [List.intercalate_cons_cons]
    | cons v' ws =>
      rw [List.cons_append, List.cons_append, List.intercalate_cons_cons, List.intercalate_cons_cons,
        ← List.cons_append, ih (by simp)]
      simp

theorem countP_flatten_nameWords (cs : List Char) :
    (nameWords cs).flatten.countP Char.isAlphanum = cs.countP Char.isAlphanum := by
  rw [flatten_nameWords, List.countP_filter]
  refine List.countP_congr fun c _ => ?_
  rw [Bool.and_eq_true]
  exact ⟨And.left, fun h => ⟨h, isAlphanumeric_of_isAlphanum h⟩⟩

theorem countP_le_snakeCase (cs : List Char) : cs.countP Char.isAlphanum ≤ (snakeCase cs).countP Char.isAlphanum :=
  calc cs.countP Char.isAlphanum
    _ = (nameWords cs).flatten.countP Char.isAlphanum := (countP_flatten_nameWords cs).symm
    _ ≤ ((nameWords cs).flatMap lowerWord).countP Char.isAlphanum := countP_flatten_le countP_le_lowerWord _
    _ = ((nameWords cs).map lowerWord).flatten.countP Char.isAlphanum := by rw [List.flatMap_def]
    _ ≤ (snakeCase cs).countP Char.isAlphanum := (flatten_sublist_intercalate _ _).countP_le

theorem countP_le_camelCase (cs : List Char) : cs.countP Char.isAlphanum ≤ (camelCase cs).countP Char.isAlphanum := by
  rw [← countP_flatten_nameWords, camelCase]
  split
  next h => simp [h]
  next w ws h =>
    have hw := countP_le_lowerWord w
    have hws := countP_flatten_le countP_le_capitalWord ws
    rw [h, List.flatten_cons, List.countP_append, List.countP_append]
    omega

/-- In snake case a last word of small ASCII letters stands after an underscore, unless there is no other word. -/
theorem snakeCase_append_word (cs : List Char) {w : List Char} (hne : w ≠ []) (hw : ∀ c ∈ w, c.isLower = true) :
    snakeCase (cs ++ ' ' :: w) = if nameWords cs = [] then w else snakeCase cs ++ '_' :: w := by
  rw [snakeCase, nameWords_append_space, nameWords_of_isLower hne hw, List.map_append, List.map_singleton,
    lowerWord_of_isLower hw]
  split
  next h => simp [h]
  next h => rw [snakeCase, intercalate_concat _ (by simpa using h)]; simp

/-- In camel case a last word of small ASCII letters has a capital, unless there is no other word. -/
theorem camelCase_append_word (cs : List Char) {w : List Char} (hne : w ≠ []) (hw : ∀ c ∈ w, c.isLower = true) :
    camelCase (cs ++ ' ' :: w) = if nameWords cs = [] then w else camelCase cs ++ capitalWord w := by
  rw [camelCase, nameWords_append_space, nameWords_of_isLower hne hw, camelCase]
  cases nameWords cs with
  | nil => simp [lowerWord_of_isLower hw]
  | cons v vs => simp

end ComputedFields.Text
