import ComputedFields.Module.Names
import ComputedFields.Proofs.NameWords
import Mathlib.Data.List.Nodup
import Mathlib.Data.List.Perm.Subperm

/-!
# Identifiers that do not collide

An allocator tries an identifier, and then the same with numbers after it, until it finds one that is not taken. The
search has no bound of its own. It ends since the attempts are all different, also where upper and lower case are not
told apart, so that there are more of them than names taken:

- `Casing.suffix`: what an attempt puts after the identifier, different each time (`Casing.suffix_injective`);
- `Allocator.finds_choose`: the search ends, with the first attempt that is not taken, and the number of this attempt is
  bounded by the number of names taken;
- `isIdentifier_sanitized`: whatever a text is turned into, what is left of it is an identifier;
- `Target.isReserved_eq_false`: an underscore or a digit tells it from reserved words;
- `Allocator.used_after`: after a run of calls the names taken are those of the calls;
- `Allocator.run_allocate`: so every identifier of a run is new;
- `ModuleNames.isIdentifier_getter?`: and the getters of a module are called by identifiers.
-/

namespace ComputedFields

/-- What all targets take for an identifier: ASCII letters, digits and underscores, at least one of them, and no digit
in front. -/
structure IsIdentifier (name : String) : Prop where
  nonempty : name ≠ ""
  chars : ∀ c ∈ name.toList, c.isAlphanum = true ∨ c = '_'
  front : ∀ c ∈ name.toList.head?, c.isDigit = false

theorem isIdentifierChar_iff {c : Char} : isIdentifierChar c = true ↔ c.isAlphanum = true ∨ c = '_' := by
  simp [isIdentifierChar]

theorem isIdentifierChar_of_all {s : String} (h : s.toList.all isIdentifierChar = true) :
    ∀ c ∈ s.toList, c.isAlphanum = true ∨ c = '_' := by
  intro c hc
  exact isIdentifierChar_iff.1 (List.all_eq_true.1 h c hc)

theorem IsIdentifier.append {name s : String} (h : IsIdentifier name)
    (hs : ∀ c ∈ s.toList, c.isAlphanum = true ∨ c = '_') : IsIdentifier (name ++ s) := by
  have hname : name.toList ≠ [] := by simpa using h.nonempty
  refine ⟨?_, ?_, ?_⟩
  · intro he
    apply hname
    have hl := congrArg String.toList he
    simp only [String.toList_append, String.toList_empty, List.append_eq_nil_iff] at hl
    exact hl.1
  · intro c hc
    rw [String.toList_append, List.mem_append] at hc
    rcases hc with hc | hc
    · exact h.chars c hc
    · exact hs c hc
  · rw [String.toList_append, List.head?_append_of_ne_nil _ hname]
    exact h.front

/-- Whatever a text is turned into, what is left of it is an identifier. -/
theorem isIdentifier_sanitized (casing : Casing) (text : List Char) : IsIdentifier (casing.sanitized text) := by
  have hkept : ∀ c ∈ text.filter isIdentifierChar, c.isAlphanum = true ∨ c = '_' := by
    intro c hc
    exact isIdentifierChar_iff.1 (List.mem_filter.1 hc).2
  simp only [Casing.sanitized]
  split
  next => exact ⟨by decide, isIdentifierChar_of_all (by decide), by simp⟩
  next c cs he =>
    split
    next =>
      have hguard : IsIdentifier casing.digitGuard := by
        cases casing <;> exact ⟨by decide, isIdentifierChar_of_all (by decide), by simp [Casing.digitGuard]⟩
      exact hguard.append (by rwa [String.toList_ofList])
    next hd =>
      rw [he] at hkept ⊢
      exact ⟨by simp, by rwa [String.toList_ofList], by simpa using hd⟩

/-! ## Attempts -/

namespace Casing

/-- What stands after an identifier at an attempt: nothing at first, then the numbers from two on. -/
def suffix (casing : Casing) : Nat → String
  | 0 => ""
  | n + 1 => casing.numbered "" (n + 2)

variable {casing : Casing} {n m : Nat}

theorem numbered_eq_append (base : String) : casing.numbered base n = base ++ casing.numbered "" n := by
  cases casing <;> simp [numbered, String.append_assoc]

theorem isDigit_of_mem_toString {c : Char} (h : c ∈ (toString n).toList) : c.isDigit = true := by
  rw [Nat.toString_eq_repr, Nat.toList_repr] at h
  exact Nat.isDigit_of_mem_toDigits (by decide) (by decide) h

theorem mem_suffix {c : Char} (h : c ∈ (casing.suffix n).toList) : c = '_' ∨ c.isDigit = true := by
  cases n with
  | zero => simp [suffix] at h
  | succ n =>
    cases casing with
    | snake =>
      simp only [suffix, numbered, String.toList_append, String.toList_empty, List.nil_append, List.mem_append] at h
      rcases h with h | h
      · exact .inl (by simpa using h)
      · exact .inr (isDigit_of_mem_toString h)
    | camel =>
      simp only [suffix, numbered, String.toList_append, String.toList_empty, List.nil_append] at h
      exact .inr (isDigit_of_mem_toString h)

/-- All attempts but the first have a number. -/
theorem exists_digit_suffix (casing : Casing) (n : Nat) : ∃ c ∈ (casing.suffix (n + 1)).toList, c.isDigit = true := by
  obtain ⟨c, hc⟩ := List.exists_mem_of_ne_nil _ (Nat.toDigits_ne_nil (n := n + 2) (b := 10))
  have hmem : c ∈ (toString (n + 2)).toList := by rwa [Nat.toString_eq_repr, Nat.toList_repr]
  refine ⟨c, ?_, isDigit_of_mem_toString hmem⟩
  cases casing <;> simp only [suffix, numbered, String.toList_append, List.mem_append] <;> exact .inr hmem

theorem numbered_injective (h : casing.numbered "" n = casing.numbered "" m) : n = m := by
  have hdigits : toString n = toString m := by
    cases casing <;> exact (String.append_right_inj _).1 h
  have hlist := congrArg String.toList hdigits
  rw [Nat.toString_eq_repr, Nat.toString_eq_repr, Nat.toList_repr, Nat.toList_repr] at hlist
  simpa using congrArg (fun ds => Nat.ofDigitChars 10 ds 0) hlist

theorem suffix_injective (h : casing.suffix n = casing.suffix m) : n = m := by
  have hne (k : Nat) : casing.suffix (k + 1) ≠ "" := by
    intro he
    obtain ⟨c, hc, -⟩ := exists_digit_suffix casing k
    simp [he] at hc
  cases n with
  | zero =>
    cases m with
    | zero => rfl
    | succ m => exact absurd h.symm (hne m)
  | succ n =>
    cases m with
    | zero => exact absurd h (hne n)
    | succ m =>
      have hn := numbered_injective h
      omega

end Casing

/-! ## Reserved words -/

namespace Target

variable {t : Target}

theorem fold_append (name s : String) : t.fold (name ++ s) = t.fold name ++ t.fold s := by
  cases t <;> simp [fold]

theorem isAlpha_eq_false {c : Char} (h : c = '_' ∨ c.isDigit = true) : c.isAlpha = false := by
  rcases h with rfl | h
  · decide
  · have hd := Text.isDigit_iff.1 h
    rw [Bool.eq_false_iff, ne_eq, Text.isAlpha_iff]
    omega

theorem toLower_eq_self {c : Char} (h : c = '_' ∨ c.isDigit = true) : c.toLower = c := by
  apply Text.toLower_eq_self
  exact (Bool.or_eq_false_iff.1 (isAlpha_eq_false h)).1

theorem fold_suffix (casing : Casing) (n : Nat) : t.fold (casing.suffix n) = casing.suffix n := by
  have hmap : (casing.suffix n).toList.map Char.toLower = (casing.suffix n).toList := by
    conv_rhs => rw [← List.map_id (casing.suffix n).toList]
    exact List.map_congr_left fun c hc => toLower_eq_self (Casing.mem_suffix hc)
  cases t with
  | sql => rw [fold, hmap, String.ofList_toList]
  | python | javascript => rfl

theorem isAlpha_of_mem_reservedWords : ∀ w ∈ t.reservedWords, ∀ c ∈ w.toList, c.isAlpha = true := by
  have h : (t.reservedWords.all fun w => w.toList.all Char.isAlpha) = true := by cases t <;> decide
  intro w hw c hc
  exact List.all_eq_true.1 (List.all_eq_true.1 h w hw) c hc

/-- An underscore or a digit tells a name from reserved words. -/
theorem isReserved_eq_false {name : String} {c : Char} (hc : c ∈ name.toList) (h : c = '_' ∨ c.isDigit = true) :
    t.isReserved name = false := by
  have hmem : c ∈ (t.fold name).toList := by
    cases t with
    | sql =>
      rw [fold, String.toList_ofList]
      exact List.mem_map.2 ⟨c, hc, toLower_eq_self h⟩
    | python | javascript => exact hc
  have halpha := isAlpha_eq_false h
  rw [isReserved, List.contains_eq_mem, decide_eq_false_iff_not]
  intro hw
  rw [isAlpha_of_mem_reservedWords _ hw c hmem] at halpha
  cases halpha

end Target

/-! ## The search -/

namespace Allocator

variable {a : Allocator} {base : String}

/-- The search for a name that is not taken ends with a name: it is the first attempt that is not taken. Each attempt
before it is a name taken, so its number is no larger than theirs. -/
def Finds (a : Allocator) (base name : String) : Prop :=
  ∃ n ≤ a.used.length, name = base ++ a.casing.suffix n ∧ a.isUsed name = false ∧
    ∀ m < n, a.isUsed (base ++ a.casing.suffix m) = true

theorem candidates_eq_map :
    a.candidates base = (List.range (a.used.length + 1)).map fun n => base ++ a.casing.suffix n := by
  have hzero : base ++ a.casing.suffix 0 = base := String.append_empty
  rw [candidates, List.range_succ_eq_map, List.map_cons, List.map_map, hzero]
  congr 1
  apply List.map_congr_left
  intro n _
  exact Casing.numbered_eq_append base

/-- Attempts are different, also where upper and lower case are not told apart. -/
theorem fold_attempt_injective {n m : Nat}
    (h : a.target.fold (base ++ a.casing.suffix n) = a.target.fold (base ++ a.casing.suffix m)) : n = m := by
  rw [Target.fold_append, Target.fold_append, Target.fold_suffix, Target.fold_suffix] at h
  exact Casing.suffix_injective ((String.append_right_inj _).1 h)

/-- There are more attempts than names taken. -/
theorem exists_not_isUsed (a : Allocator) (base : String) :
    ∃ n ∈ List.range (a.used.length + 1), a.isUsed (base ++ a.casing.suffix n) = false := by
  by_contra hall
  push Not at hall
  have hnodup : ((List.range (a.used.length + 1)).map fun n => a.target.fold (base ++ a.casing.suffix n)).Nodup :=
    List.Nodup.map_on (fun _ _ _ _ => fold_attempt_injective) List.nodup_range
  have hsub : ((List.range (a.used.length + 1)).map fun n => a.target.fold (base ++ a.casing.suffix n)) ⊆ a.used := by
    intro name hname
    obtain ⟨n, hn, rfl⟩ := List.mem_map.1 hname
    simpa [isUsed] using hall n hn
  have hle := (hnodup.subperm hsub).length_le
  rw [List.length_map, List.length_range] at hle
  omega

theorem finds_choose (a : Allocator) (base : String) : a.Finds base (a.choose base) := by
  obtain ⟨k, hk, hfree⟩ := exists_not_isUsed a base
  have hsome : ((List.range (a.used.length + 1)).find? fun n => !a.isUsed (base ++ a.casing.suffix n)).isSome = true :=
    List.find?_isSome.2 ⟨k, hk, by simp [hfree]⟩
  obtain ⟨n, hn⟩ := Option.isSome_iff_exists.1 hsome
  have hchoose : a.choose base = base ++ a.casing.suffix n := by
    rw [choose, candidates_eq_map, List.find?_map]
    simp only [Function.comp_def, hn, Option.map_some, Option.getD_some]
  obtain ⟨hfree, hlt, hbefore⟩ := List.find?_range_eq_some.1 hn
  refine ⟨n, Nat.lt_succ_iff.1 (List.mem_range.1 hlt), hchoose, by simpa [hchoose] using hfree, ?_⟩
  intro m hm
  simpa using hbefore m hm

theorem isIdentifier_base (text : List Char) : IsIdentifier (a.base text) := by
  have h := isIdentifier_sanitized a.casing text
  simp only [Allocator.base]
  split
  · exact h.append (isIdentifierChar_of_all (by decide))
  · exact h

theorem isReserved_base (text : List Char) : a.target.isReserved (a.base text) = false := by
  simp only [Allocator.base]
  split
  next => exact Target.isReserved_eq_false (c := '_') (by simp) (.inl rfl)
  next h => simpa using h

/-- A number keeps an identifier one, and no reserved word has one. -/
theorem Finds.isIdentifier {text : List Char} {name : String} (h : a.Finds (a.base text) name) :
    IsIdentifier name ∧ a.target.isReserved name = false := by
  obtain ⟨n, -, rfl, -, -⟩ := h
  constructor
  · apply (isIdentifier_base text).append
    intro c hc
    rcases Casing.mem_suffix hc with h | h
    · exact .inr h
    · exact .inl (by simp [Char.isAlphanum, h])
  · cases n with
    | zero =>
      have hzero : a.base text ++ a.casing.suffix 0 = a.base text := String.append_empty
      rw [hzero]
      exact isReserved_base text
    | succ n =>
      obtain ⟨c, hc, hd⟩ := Casing.exists_digit_suffix a.casing n
      exact Target.isReserved_eq_false (by simp [hc]) (.inr hd)

end Allocator

/-! ## Runs -/

/-- What can be asked of an allocator. -/
inductive AllocatorCall where
  | reserve (name : String)
  | allocate (parts : List String)

namespace Allocator

variable (convert : Casing → List Char → List Char) {a : Allocator}

/-- The name that a call takes, and the allocator after it. -/
def step (a : Allocator) : AllocatorCall → String × Allocator
  | .reserve name => (name, a.reserve name)
  | .allocate parts => a.allocateWith convert parts

/-- The names that calls take, one after the other. -/
def run (a : Allocator) : List AllocatorCall → List String
  | [] => []
  | call :: calls => (a.step convert call).1 :: run (a.step convert call).2 calls

/-- The allocator after calls. -/
def after (a : Allocator) : List AllocatorCall → Allocator
  | [] => a
  | call :: calls => after (a.step convert call).2 calls

theorem step_snd (call : AllocatorCall) : (a.step convert call).2 = a.reserve (a.step convert call).1 := by
  cases call <;> rfl

theorem after_cons (call : AllocatorCall) (calls : List AllocatorCall) :
    a.after convert (call :: calls) = (a.reserve (a.step convert call).1).after convert calls := by
  rw [after, step_snd]

/-- Calls do not change how identifiers are spelled. -/
theorem spelling_after (calls : List AllocatorCall) :
    (a.after convert calls).target = a.target ∧ (a.after convert calls).casing = a.casing := by
  induction calls generalizing a with
  | nil => exact ⟨rfl, rfl⟩
  | cons call calls ih =>
    rw [after_cons]
    exact ih

/-- The names taken after calls are those taken before them and those of the calls. -/
theorem used_after (calls : List AllocatorCall) :
    (a.after convert calls).used = ((a.run convert calls).map a.target.fold).reverse ++ a.used := by
  induction calls generalizing a with
  | nil => rfl
  | cons call calls ih =>
    rw [after_cons, ih, run, step_snd, List.map_cons, List.reverse_cons, List.append_assoc]
    rfl

theorem run_append (before calls : List AllocatorCall) :
    a.run convert (before ++ calls) = a.run convert before ++ (a.after convert before).run convert calls := by
  induction before generalizing a with
  | nil => rfl
  | cons call before ih => rw [List.cons_append, run, ih, run, List.cons_append, after]

/-- In every run, whatever texts are turned into, the search for each identifier ends, and the result is an identifier,
no reserved word, and apart from all names that were reserved or allocated before. -/
theorem run_allocate (target : Target) (naming : Naming) (before later : List AllocatorCall) (parts : List String) :
    ∃ name names,
      (new target naming).run convert (before ++ .allocate parts :: later) =
        (new target naming).run convert before ++ name :: names ∧
      ((new target naming).after convert before).Finds
        (((new target naming).after convert before).base
          (convert (naming.casing target) (" ".intercalate parts).toList)) name ∧
      IsIdentifier name ∧ target.isReserved name = false ∧
      ∀ taken ∈ (new target naming).run convert before, target.fold taken ≠ target.fold name := by
  have htarget : ((new target naming).after convert before).target = target := (spelling_after convert before).1
  have hcasing : ((new target naming).after convert before).casing = naming.casing target :=
    (spelling_after convert before).2
  have hused := used_after convert (a := new target naming) before
  have hrun := run_append convert (a := new target naming) before (.allocate parts :: later)
  generalize (new target naming).after convert before = a at *
  have hfinds := finds_choose a (a.base (convert a.casing (" ".intercalate parts).toList))
  have hname := hfinds.isIdentifier
  refine ⟨_, _, hrun, hcasing ▸ hfinds, hname.1, htarget ▸ hname.2, ?_⟩
  intro taken htaken he
  obtain ⟨n, -, -, hfree, -⟩ := hfinds
  have hmem : target.fold taken ∈ a.used := by
    rw [hused]
    exact List.mem_append_left _ (List.mem_reverse.2 (List.mem_map_of_mem htaken))
  rw [isUsed, List.contains_eq_mem, decide_eq_false_iff_not, htarget] at hfree
  exact hfree (he ▸ hmem)

end Allocator

/-! ## Names of a module -/

section Names

variable {a : Allocator} {name : String}

/-- Every name of a list is found by an allocator that spells names in the same way. -/
theorem Allocator.exists_finds_of_mem_allocateAll {l : List (String × List String)} {key : String}
    (h : (key, name) ∈ a.allocateAll l) :
    ∃ parts, ∃ b : Allocator, (key, parts) ∈ l ∧ b.target = a.target ∧ b.casing = a.casing ∧
      b.Finds (b.base (b.casing.apply (" ".intercalate parts).toList)) name := by
  induction l generalizing a with
  | nil => cases h
  | cons p l ih =>
    obtain ⟨key', parts⟩ := p
    rcases List.mem_cons.1 h with h | h
    · cases h
      exact ⟨parts, a, List.mem_cons_self, rfl, rfl, a.finds_choose _⟩
    · obtain ⟨parts', b, hmem, htarget, hcasing, hfinds⟩ := ih h
      exact ⟨parts', b, List.mem_cons_of_mem _ hmem, htarget, hcasing, hfinds⟩

theorem Allocator.isIdentifier_of_mem_allocateAll {l : List (String × List String)} {key : String}
    (h : (key, name) ∈ a.allocateAll l) : IsIdentifier name := by
  obtain ⟨_, b, -, -, -, hfinds⟩ := exists_finds_of_mem_allocateAll h
  exact hfinds.isIdentifier.1

/-- Getters are called by identifiers. -/
theorem ModuleNames.isIdentifier_getter? {s : Schema} {o : GeneratorOptions} {id : String}
    (h : (ofSchema s o).getter? id = some name) : IsIdentifier name := by
  obtain ⟨before, after, hlist, -⟩ := List.lookup_eq_some_iff.1 h
  have hmem : (id, name) ∈ (ofSchema s o).getters := by simp [hlist]
  unfold ofSchema at hmem
  dsimp only at hmem
  split at hmem
  · obtain ⟨t, -, hmem⟩ := List.mem_flatMap.1 hmem
    exact Allocator.isIdentifier_of_mem_allocateAll hmem
  · exact Allocator.isIdentifier_of_mem_allocateAll hmem

end Names

end ComputedFields
