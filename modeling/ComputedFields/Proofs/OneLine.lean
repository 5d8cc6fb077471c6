import ComputedFields.Module.Layout
import Mathlib.Data.List.Chain

/-!
# Text on one line

What is shown in a comment must not end it. A comment to the end of a line is ended by a line break, a block comment by
`*/`.

- `Target.IsLine`: a text without the characters that a target ends a line at;
- `Unclosed`: characters that do not end a block comment;
- `Target.isLine_oneLine`: a text whose words are put on one line is one in every target;
- `Target.isLine_commentSafe`, `unclosed_commentSafe`: a text for a block comment is one line and does not end it.
-/

namespace ComputedFields

namespace Text

/-! ## Words -/

theorem eq_reverse_of_mem_finished {run r : List Char} (h : r ∈ finished run) : r = run.reverse := by
  unfold finished at h
  split at h
  · cases h
  · exact List.mem_singleton.1 h

theorem isGap_of_mem_runsAfter {isGap : Char → Bool} {run cs : List Char} (hrun : ∀ c ∈ run, isGap c = false) :
    ∀ r ∈ runsAfter isGap run cs, ∀ c ∈ r, isGap c = false := by
  have hfinished {run : List Char} (hrun : ∀ c ∈ run, isGap c = false) :
      ∀ r ∈ finished run, ∀ c ∈ r, isGap c = false := by
    intro r hr c hc
    rw [eq_reverse_of_mem_finished hr, List.mem_reverse] at hc
    exact hrun c hc
  induction cs generalizing run with
  | nil => exact hfinished hrun
  | cons c cs ih =>
    rw [runsAfter]
    split
    · exact List.forall_mem_append.2 ⟨hfinished hrun, ih nofun⟩
    · next hc => exact ih (List.forall_mem_cons.2 ⟨by simpa using hc, hrun⟩)

theorem mem_intercalate {α : Type} {separator : List α} {ls : List (List α)} {a : α}
    (h : a ∈ List.intercalate separator ls) : a ∈ separator ∨ ∃ l ∈ ls, a ∈ l := by
  induction ls with
  | nil => cases h
  | cons l ls ih =>
    cases ls with
    | nil => exact .inr ⟨l, List.mem_singleton.2 rfl, by simpa using h⟩
    | cons l' ls =>
      rw [List.intercalate_cons_cons, List.mem_append, List.mem_append] at h
      obtain (h | h) | h := h
      · exact .inr ⟨l, List.mem_cons_self, h⟩
      · exact .inl h
      · obtain h | ⟨l'', hl, h⟩ := ih h
        · exact .inl h
        · exact .inr ⟨l'', List.mem_cons_of_mem _ hl, h⟩

/-- On one line there is no whitespace but spaces. -/
theorem eq_space_of_mem_oneLine {s : String} {c : Char} (h : c ∈ (oneLine s).toList) :
    c = ' ' ∨ isWhitespace c = false := by
  rw [oneLine, String.toList_intercalate, List.map_map] at h
  obtain h | ⟨l, hl, hc⟩ := mem_intercalate h
  · exact .inl (List.mem_singleton.1 h)
  · obtain ⟨w, hw, rfl⟩ := List.mem_map.1 hl
    rw [Function.comp_apply, String.toList_ofList] at hc
    exact .inr (isGap_of_mem_runsAfter (fun _ h => absurd h List.not_mem_nil) w hw c hc)

/-! ## Lines of a text -/

theorem mem_of_mem_endedLine {line : List Char} {c : Char} (h : c ∈ endedLine line) : c ∈ line := by
  unfold endedLine at h
  split at h
  · exact List.mem_cons_of_mem _ (List.mem_reverse.1 h)
  · exact List.mem_reverse.1 h

theorem linesAfter_spec {line cs : List Char} (hline : '\n' ∉ line) :
    ∀ l ∈ linesAfter line cs, '\n' ∉ l ∧ ∀ c ∈ l, c ∈ line ∨ c ∈ cs := by
  induction cs generalizing line with
  | nil =>
    intro l hl
    rw [eq_reverse_of_mem_finished hl]
    exact ⟨fun h => hline (List.mem_reverse.1 h), fun c hc => .inl (List.mem_reverse.1 hc)⟩
  | cons c cs ih =>
    rw [linesAfter]
    split
    · refine List.forall_mem_cons.2 ⟨⟨fun h => hline (mem_of_mem_endedLine h), fun x hx => ?_⟩, fun l hl => ?_⟩
      · exact .inl (mem_of_mem_endedLine hx)
      · obtain ⟨hn, hsub⟩ := ih List.not_mem_nil l hl
        exact ⟨hn, fun x hx => .inr (List.mem_cons_of_mem _ ((hsub x hx).resolve_left List.not_mem_nil))⟩
    · next hc =>
      intro l hl
      obtain ⟨hn, hsub⟩ := ih (by simpa [Ne.symm hc] using hline) l hl
      refine ⟨hn, fun x hx => ?_⟩
      have hx := hsub x hx
      simp only [List.mem_cons] at hx ⊢
      tauto

/-- A line has characters of the text, but no line feed. -/
theorem mem_of_mem_lines {s l : String} (h : l ∈ lines s) : '\n' ∉ l.toList ∧ l.toList ⊆ s.toList := by
  obtain ⟨cs, hcs, rfl⟩ := List.mem_map.1 h
  obtain ⟨hn, hsub⟩ := linesAfter_spec List.not_mem_nil cs hcs
  rw [String.toList_ofList]
  exact ⟨hn, fun c hc => (hsub c hc).resolve_left List.not_mem_nil⟩

/-! ## Pieces -/

theorem not_infix_of_indexOf?_eq_none {needle cs : List Char} (h : indexOf? needle cs = none) :
    ¬ needle <:+: cs := by
  induction cs with
  | nil =>
    intro hn
    rw [List.infix_nil.1 hn] at h
    cases h
  | cons c cs ih =>
    rw [indexOf?] at h
    split at h
    · cases h
    · next hp =>
      rw [List.infix_cons_iff]
      rintro (hn | hn)
      · exact hp (List.isPrefixOf_iff_prefix.2 hn)
      · exact ih (Option.map_eq_none_iff.1 h) hn

/-- There is no occurrence before the first one. -/
theorem not_infix_take_of_indexOf?_eq_some {needle cs : List Char} {i : Nat} (hne : needle ≠ [])
    (h : indexOf? needle cs = some i) : ¬ needle <:+: cs.take i := by
  induction cs generalizing i with
  | nil =>
    intro hn
    rw [List.take_nil] at hn
    exact hne (List.infix_nil.1 hn)
  | cons c cs ih =>
    rw [indexOf?] at h
    split at h
    · cases h
      exact fun hn => hne (List.infix_nil.1 hn)
    · next hp =>
      obtain ⟨j, hj, rfl⟩ := Option.map_eq_some_iff.1 h
      rw [List.take_succ_cons, List.infix_cons_iff]
      rintro (hn | hn)
      · exact hp (List.isPrefixOf_iff_prefix.2 (hn.trans (List.take_prefix (j + 1) (c :: cs))))
      · exact ih hj hn

/-- The pieces of a text are parts of it, without the separator. -/
theorem pieces_spec (separator text : List Char) :
    ∀ p ∈ pieces separator text, p ⊆ text ∧ (separator ≠ [] → ¬ separator <:+: p) := by
  fun_induction pieces separator text with
  | case1 text =>
    rw [List.forall_mem_singleton]
    exact ⟨fun _ h => h, fun h => absurd rfl h⟩
  | case2 separator hne =>
    rw [List.forall_mem_singleton]
    exact ⟨fun _ h => h, fun hs hn => hs (List.infix_nil.1 hn)⟩
  | case3 s ss c cs hi =>
    rw [List.forall_mem_singleton]
    exact ⟨fun _ h => h, fun _ => not_infix_of_indexOf?_eq_none hi⟩
  | case4 s ss c cs i hi ih =>
    refine List.forall_mem_cons.2 ⟨⟨List.take_subset _ _, fun hs => not_infix_take_of_indexOf?_eq_some hs hi⟩, ?_⟩
    intro p hp
    obtain ⟨hsub, hn⟩ := ih p hp
    exact ⟨fun x hx => List.drop_subset _ _ (hsub hx), hn⟩

theorem mem_replaceAll {text old new : List Char} {c : Char} (h : c ∈ replaceAll text old new) :
    c ∈ text ∨ c ∈ new := by
  obtain h | ⟨p, hp, hc⟩ := mem_intercalate h
  · exact .inr h
  · exact .inl ((pieces_spec old text p hp).1 hc)

end Text

/-! ## Block comments -/

/-- The characters do not end a block comment. -/
def Unclosed (cs : List Char) : Prop := ¬ ['*', '/'] <:+: cs

instance (cs : List Char) : Decidable (Unclosed cs) := inferInstanceAs (Decidable (¬ ['*', '/'] <:+: cs))

theorem unclosed_iff_isChain {cs : List Char} : Unclosed cs ↔ cs.IsChain fun a b => ¬ (a = '*' ∧ b = '/') := by
  constructor
  · intro h
    refine (List.isChain_isInfix cs).imp fun a b hab => ?_
    rintro ⟨rfl, rfl⟩
    exact h hab
  · rintro h ⟨as, bs, rfl⟩
    have hpair := (List.isChain_append.1 (List.isChain_append.1 h).1).2.1
    exact List.isChain_pair.1 hpair ⟨rfl, rfl⟩

/-- The characters of the library's own texts in comments: visible ones and spaces, but no slash. -/
def isPlain (c : Char) : Bool := ' ' ≤ c && c ≤ '~' && c != '/'

theorem unclosed_of_all_isPlain {cs : List Char} (h : cs.all isPlain = true) : Unclosed cs := by
  intro hi
  have hslash := List.all_eq_true.1 h '/' (hi.subset (by simp))
  simp [isPlain] at hslash

theorem Unclosed.append {as bs : List Char} (ha : Unclosed as) (hb : Unclosed bs)
    (h : as.getLast? ≠ some '*' ∨ bs.head? ≠ some '/') : Unclosed (as ++ bs) := by
  rw [unclosed_iff_isChain] at ha hb ⊢
  refine ha.append hb ?_
  rintro a hl b hh ⟨rfl, rfl⟩
  exact h.elim (fun h => h hl) fun h => h hh

theorem unclosed_intercalate {ps : List (List Char)} (h : ∀ p ∈ ps, Unclosed p) :
    Unclosed (List.intercalate ['*', ' ', '/'] ps) := by
  induction ps with
  | nil => exact fun hi => by simpa using List.infix_nil.1 hi
  | cons p ps ih =>
    cases ps with
    | nil => simpa using h
    | cons q ps =>
      obtain ⟨hp, hps⟩ := List.forall_mem_cons.1 h
      rw [List.intercalate_cons_cons]
      have hmiddle : Unclosed ['*', ' ', '/'] := by decide
      refine (hp.append hmiddle (.inr (by simp))).append (ih hps) (.inl ?_)
      simp

theorem unclosed_commentSafe (s : String) : Unclosed (commentSafe s).toList := by
  rw [commentSafe, String.toList_ofList]
  exact unclosed_intercalate fun p hp => (Text.pieces_spec _ _ p hp).2 (by simp)

/-! ## Lines -/

namespace Target

/-- The characters that a target ends a line at. -/
def lineBreaks : Target → List Char
  | javascript => ['\n', '\r', '\u2028', '\u2029']
  | _ => ['\n', '\r']

/-- A text that is one line for a target. -/
def IsLine (t : Target) (s : String) : Prop := ∀ c ∈ t.lineBreaks, c ∉ s.toList

instance (t : Target) (s : String) : Decidable (t.IsLine s) :=
  inferInstanceAs (Decidable (∀ c ∈ t.lineBreaks, c ∉ s.toList))

theorem isLine_append {t : Target} {a b : String} : t.IsLine (a ++ b) ↔ t.IsLine a ∧ t.IsLine b := by
  simp only [IsLine, String.toList_append, List.mem_append, not_or]
  exact ⟨fun h => ⟨fun c hc => (h c hc).1, fun c hc => (h c hc).2⟩, fun h c hc => ⟨h.1 c hc, h.2 c hc⟩⟩

theorem isWhitespace_of_mem_lineBreaks {t : Target} :
    ∀ c ∈ t.lineBreaks, Text.isWhitespace c = true ∧ isPlain c = false ∧ c ∉ ['*', ' ', '/'] ∧ c.isDigit = false := by
  cases t <;> simp [lineBreaks, Text.isWhitespace, isPlain, Char.isDigit]

theorem isLine_of_all_isPlain {s : String} (h : s.toList.all isPlain = true) (t : Target) : t.IsLine s := by
  intro c hc hm
  have hp := List.all_eq_true.1 h c hm
  rw [(isWhitespace_of_mem_lineBreaks c hc).2.1] at hp
  cases hp

/-- Line breaks are whitespace, of which only spaces are left on one line. -/
theorem isLine_oneLine (t : Target) (s : String) : t.IsLine (Text.oneLine s) := by
  intro c hc hm
  obtain ⟨hw, _, hn, _⟩ := isWhitespace_of_mem_lineBreaks c hc
  obtain rfl | h := Text.eq_space_of_mem_oneLine hm
  · exact hn (by simp)
  · rw [hw] at h
    cases h

theorem isLine_commentSafe (t : Target) (s : String) : t.IsLine (commentSafe s) := by
  intro c hc hm
  rw [commentSafe, String.toList_ofList] at hm
  obtain h | h := Text.mem_replaceAll hm
  · exact isLine_oneLine t s c hc h
  · exact (isWhitespace_of_mem_lineBreaks c hc).2.2.1 h

theorem isLine_toString (t : Target) (n : Nat) : t.IsLine (toString n) := by
  intro c hc hm
  have hn : (toString n).toList = Nat.toDigits 10 n := by simp [toString, Nat.repr]
  rw [hn] at hm
  have hd := Nat.isDigit_of_mem_toDigits (by decide) (by decide) hm
  rw [(isWhitespace_of_mem_lineBreaks c hc).2.2.2] at hd
  cases hd

end Target

end ComputedFields
