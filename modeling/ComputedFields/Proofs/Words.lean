import ComputedFields.Proofs.Brackets

/-!
# Words of expressions

Blanks outside quotes and brackets part code into words. Code that is put together from words and blanks can be taken
apart again.

- `Target.IsWord`: code without a blank outside quotes and brackets;
- `IsWord.parted_inj`, `IsWord.ne_parted`: the first word and what follows it are known from the code;
- `intercalate_inj`: words with separators between them.
-/

namespace ComputedFields

namespace Target

variable {t : Target}

/-! ## Reading words -/

/-- Reading on as long as there is no blank outside quotes and brackets. -/
def pass (t : Target) : Reader → List Char → Option Reader
  | r, [] => some r
  | r, c :: cs => if c = ' ' ∧ r = ⟨.code, []⟩ then none else (t.step r c).bind fun r => t.pass r cs

/-- Reading code as a part of a word, with some closing brackets to come and others left to come. -/
def Passes (t : Target) (awaited : List Char) (code : String) (left : List Char) : Prop :=
  t.pass ⟨.code, awaited⟩ code.toList = some ⟨.code, left⟩

/-- All quotes and brackets are closed, and no blank is outside them. -/
def IsWord (t : Target) (code : String) : Prop := t.Passes [] code []

theorem pass_append (r : Reader) (s s' : List Char) :
    t.pass r (s ++ s') = (t.pass r s).bind fun r => t.pass r s' := by
  induction s generalizing r with
  | nil => rfl
  | cons c s ih =>
    rw [List.cons_append, pass, pass]
    split_ifs
    · rfl
    · rw [Option.bind_assoc]
      exact congrArg _ (funext ih)

/-- Between brackets blanks do not matter. -/
theorem pass_of_scan {r r' : Reader} {s ρ : List Char} (hρ : ρ ≠ []) (h : t.scan r s = some r') :
    t.pass ⟨r.place, r.awaited ++ ρ⟩ s = some ⟨r'.place, r'.awaited ++ ρ⟩ := by
  induction s generalizing r with
  | nil =>
    cases h
    rfl
  | cons c s ih =>
    rw [scan] at h
    obtain ⟨r'', hc, hs⟩ := Option.bind_eq_some_iff.1 h
    rw [pass, if_neg (by simp [hρ]), step_frame ρ hc]
    exact ih hs

theorem Passes.append {s s' : String} {σ τ υ : List Char} (h : t.Passes σ s τ) (h' : t.Passes τ s' υ) :
    t.Passes σ (s ++ s') υ := by
  rw [Passes, String.toList_append, pass_append, h]
  exact h'

theorem Passes.chars {cs σ τ : List Char} (h : t.pass ⟨.code, σ⟩ cs = some ⟨.code, τ⟩) :
    t.Passes σ (String.ofList cs) τ := by
  rw [Passes, String.toList_ofList]
  exact h

theorem WellBracketed.passes {s : String} (h : t.WellBracketed s) {σ : List Char} (hσ : σ ≠ []) : t.Passes σ s σ :=
  pass_of_scan hσ h

theorem isWord_of_isBare {s : String} (h : ∀ c ∈ s.toList, t.isBare c = true ∧ c ≠ ' ') : t.IsWord s := by
  unfold IsWord Passes
  generalize s.toList = cs at h
  induction cs with
  | nil => rfl
  | cons c cs ih =>
    obtain ⟨⟨hc, hb⟩, hcs⟩ := List.forall_mem_cons.1 h
    rw [pass, if_neg (by simp [hb]), step_of_isBare hc]
    exact ih hcs

theorem isWord_numberText (x : Float) : t.IsWord (numberText x) :=
  isWord_of_isBare fun c hc => by
    have hn := isNumberChar_of_mem_numberText hc
    refine ⟨isBare_of_isNumberChar hn, ?_⟩
    rintro rfl
    cases hn

theorem isWord_parentheses {s : String} (h : t.WellBracketed s) : t.IsWord ("(" ++ s ++ ")") := by
  cases t <;> exact .append (.append (.chars rfl) (h.passes (List.cons_ne_nil _ _))) (.chars rfl)

theorem scan_of_pass {r r' : Reader} {s : List Char} (h : t.pass r s = some r') : t.scan r s = some r' := by
  induction s generalizing r with
  | nil => exact h
  | cons c s ih =>
    rw [pass] at h
    split_ifs at h
    obtain ⟨r'', hc, hs⟩ := Option.bind_eq_some_iff.1 h
    rw [scan, hc]
    exact ih hs

theorem IsWord.wellBracketed {s : String} (h : t.IsWord s) : t.WellBracketed s := scan_of_pass h

/-! ## Quoted text -/

theorem pass_eq_scan {cs : List Char} (h : ' ' ∉ cs) (r : Reader) : t.pass r cs = t.scan r cs := by
  induction cs generalizing r with
  | nil => rfl
  | cons c cs ih =>
    obtain ⟨hc, hcs⟩ := not_or.1 (mt List.mem_cons.2 h)
    rw [pass, scan, if_neg fun hb => hc hb.1.symm]
    exact congrArg _ (funext (ih hcs))

/-- Text between quotes is a word, if its characters do not close the quotes and a blank is written as it is. -/
theorem isWord_quotes {q : Char} (hq : t.isQuote q = true) {encode : Char → List Char}
    (he : ∀ c, t.scan ⟨.quoted q, []⟩ (encode c) = some ⟨.quoted q, []⟩)
    (hb : ∀ c, ' ' ∈ encode c → encode c = [' ']) (cs : List Char) :
    t.IsWord (String.ofList (q :: cs.flatMap encode ++ [q])) := by
  have one (c : Char) : t.pass ⟨.quoted q, []⟩ (encode c) = some ⟨.quoted q, []⟩ := by
    by_cases hc : ' ' ∈ encode c
    · have hs := he c
      rw [hb c hc] at hs ⊢
      rw [← hs, pass, if_neg (by simp)]
      rfl
    · rw [pass_eq_scan hc]
      exact he c
  have inside : t.pass ⟨.quoted q, []⟩ (cs.flatMap encode) = some ⟨.quoted q, []⟩ := by
    induction cs with
    | nil => rfl
    | cons c cs ih =>
      rw [List.flatMap_cons, pass_append, one c]
      exact ih
  have hblank : q ≠ ' ' := by
    rintro rfl
    cases t <;> cases hq
  refine Passes.chars ?_
  rw [pass_append, pass, if_neg fun h => hblank h.1,
    show t.step ⟨.code, []⟩ q = some ⟨.quoted q, []⟩ by simp [step, hq], Option.bind_some, inside, Option.bind_some,
    pass, if_neg (by simp), show t.step ⟨.quoted q, []⟩ q = some ⟨.code, []⟩ by simp [step]]
  rfl

theorem eq_blank_of_mem_escapeChar {c : Char} (h : ' ' ∈ escapeChar c) : c = ' ' := by
  obtain h | ⟨h, -⟩ := lt_toNat_of_mem_escapeChar h
  · exact absurd h (by decide)
  · exact h.symm

theorem isWord_doubleQuoted (ht : t ≠ sql) (s : String) : t.IsWord (doubleQuoted s) := by
  refine isWord_quotes (by simp [isQuote]) (scan_escapeChar ht) (fun c hc => ?_) s.toList
  rw [eq_blank_of_mem_escapeChar hc]
  rfl

theorem isWord_doublingQuotes {q : Char} (hq : sql.isQuote q = true) (s : String) :
    sql.IsWord (doublingQuotes q s) := by
  refine isWord_quotes hq (scan_twice hq) (fun c hc => ?_) s.toList
  unfold twice at hc ⊢
  split_ifs at hc ⊢ with h
  · subst h
    simp only [List.mem_cons, List.not_mem_nil, or_false, or_self] at hc
    subst hc
    cases hq
  · rw [List.mem_singleton.1 hc]

/-! ## Taking code apart -/

theorem pass_blank {w : List Char} (h : t.pass ⟨.code, []⟩ w = some ⟨.code, []⟩) (v : List Char) :
    t.pass ⟨.code, []⟩ (w ++ ' ' :: v) = none := by
  rw [pass_append, h, Option.bind_some, pass, if_pos ⟨rfl, rfl⟩]

/-- Of two words before a blank or the end, none is longer. -/
theorem append_inj {w w' r r' : List Char} (hw : t.pass ⟨.code, []⟩ w = some ⟨.code, []⟩)
    (hw' : t.pass ⟨.code, []⟩ w' = some ⟨.code, []⟩) (hr : ∀ c ∈ r.head?, c = ' ') (hr' : ∀ c ∈ r'.head?, c = ' ')
    (h : w ++ r = w' ++ r') : w = w' ∧ r = r' := by
  have equal {w a r : List Char} (hw : t.pass ⟨.code, []⟩ w = some ⟨.code, []⟩)
      (hwa : t.pass ⟨.code, []⟩ (w ++ a) = some ⟨.code, []⟩) (hr : ∀ c ∈ (a ++ r).head?, c = ' ') : a = [] := by
    cases a with
    | nil => rfl
    | cons c a =>
      obtain rfl : c = ' ' := hr c rfl
      rw [pass_blank hw] at hwa
      cases hwa
  obtain ⟨a, rfl, rfl⟩ | ⟨a, rfl, rfl⟩ := List.append_eq_append_iff.1 h
  · obtain rfl := equal hw hw' hr
    exact ⟨(List.append_nil w).symm, rfl⟩
  · obtain rfl := equal hw' hw hr'
    exact ⟨List.append_nil w', rfl⟩

theorem toList_parted (w s : String) : (w ++ (" " ++ s)).toList = w.toList ++ ' ' :: s.toList := by
  rw [String.toList_append, String.toList_append, show " ".toList = [' '] from String.toList_ofList]
  rfl

namespace IsWord

variable {w w' : String}

/-- The first word and what follows it are known from the code. -/
theorem parted_inj (hw : t.IsWord w) (hw' : t.IsWord w') {s s' : String}
    (h : w ++ (" " ++ s) = w' ++ (" " ++ s')) : w = w' ∧ s = s' := by
  have h := congrArg String.toList h
  rw [toList_parted, toList_parted] at h
  obtain ⟨h1, h2⟩ := append_inj hw hw' (by simp) (by simp) h
  exact ⟨String.toList_injective h1, String.toList_injective (List.cons.inj h2).2⟩

theorem ne_parted (hw : t.IsWord w) (hw' : t.IsWord w') (s : String) : w ≠ w' ++ (" " ++ s) := fun h => by
  have h := congrArg String.toList h
  rw [toList_parted, ← List.append_nil w.toList] at h
  exact List.cons_ne_nil _ _ (append_inj hw hw' (by simp) (by simp) h).2.symm

end IsWord

theorem intercalate_inj {separator : String} {ws ws' : List String} (h₁ : ∀ w ∈ ws, t.IsWord w)
    (h₂ : ∀ w ∈ ws', t.IsWord w) (hne : ws ≠ []) (hne' : ws' ≠ [])
    (h : (" " ++ separator).intercalate ws = (" " ++ separator).intercalate ws') : ws = ws' := by
  induction ws generalizing ws' with
  | nil => exact absurd rfl hne
  | cons w ws ih =>
    cases ws' with
    | nil => exact absurd rfl hne'
    | cons w' ws' =>
      obtain ⟨hw, hws⟩ := List.forall_mem_cons.1 h₁
      obtain ⟨hw', hws'⟩ := List.forall_mem_cons.1 h₂
      have more (w v : String) (vs : List String) : (" " ++ separator).intercalate (w :: v :: vs) =
          w ++ (" " ++ (separator ++ (" " ++ separator).intercalate (v :: vs))) := by
        simp only [String.intercalate_cons_cons, String.append_assoc]
      cases ws with
      | nil =>
        cases ws' with
        | nil => simpa using h
        | cons v' vs' =>
          rw [more, String.intercalate_singleton] at h
          exact absurd h (hw.ne_parted hw' _)
      | cons v vs =>
        cases ws' with
        | nil =>
          rw [more, String.intercalate_singleton] at h
          exact absurd h.symm (hw'.ne_parted hw _)
        | cons v' vs' =>
          rw [more, more] at h
          obtain ⟨rfl, hrest⟩ := hw.parted_inj hw' h
          rw [ih hws hws' (List.cons_ne_nil _ _) (List.cons_ne_nil _ _) ((String.append_right_inj _).1 hrest)]

/-! ## Texts and keys -/

theorem isWord_quotedText (s : String) : t.IsWord (t.quotedText s) := by
  cases t with
  | python => exact isWord_doubleQuoted (by decide) s
  | javascript => exact isWord_doubleQuoted (by decide) s
  | sql => exact isWord_doublingQuotes (by decide) s

theorem quotedText_inj {s s' : String} (h : t.quotedText s = t.quotedText s') : s = s' := by
  cases t with
  | python => exact doubleQuoted_inj h
  | javascript => exact doubleQuoted_inj h
  | sql => exact doublingQuotes_inj h

theorem isWord_read_stored (key : String) : t.IsWord (t.read (.stored key)) := by
  have ne {c : Char} {cs : List Char} : c :: cs ≠ [] := List.cons_ne_nil _ _
  cases t with
  | python => exact .append (.append (.chars rfl) ((wellBracketed_doubleQuoted (by decide) key).passes ne)) (.chars rfl)
  | javascript =>
    exact .append (.append (.chars rfl) ((wellBracketed_doubleQuoted (by decide) key).passes ne)) (.chars rfl)
  | sql => exact .append (.chars rfl) (isWord_doublingQuotes (by decide) key)

theorem read_stored_inj {key key' : String} (h : t.read (.stored key) = t.read (.stored key')) : key = key' := by
  cases t with
  | python => exact doubleQuoted_inj ((String.append_right_inj _).1 ((String.append_left_inj _).1 h))
  | javascript => exact doubleQuoted_inj ((String.append_right_inj _).1 ((String.append_left_inj _).1 h))
  | sql => exact doublingQuotes_inj ((String.append_right_inj _).1 h)

end Target

end ComputedFields
