import ComputedFields.Proofs.ReferenceSpans

/-!
# Splicing

Inlining changes a text at its references and nowhere else.

- `overwrite`: a text with several spans replaced at once. What becomes of a character is a matter of its own place;
- `Edit.apply`: a text with one span replaced;
- `flatMap_overwriteChar_segments`, `foldr_apply_segments`: if the spans are those of references, replacing them at once
  and replacing them one after the other, from the last to the first, both put the new texts between the segments that
  stay;
- `splices_inlineText`: so inlining replaces references, each where it stood, and leaves the other characters alone.
-/

namespace ComputedFields

open Text (byteLength byteLength_append)

/-! ## Characters and their places -/

/-- The characters of a text that starts after a number of bytes, each with the number of bytes before it. -/
def charsAfter (start : Nat) : List Char → List (Nat × Char)
  | [] => []
  | c :: cs => (start, c) :: charsAfter (start + c.utf8Size) cs

section Characters

variable {start : Nat} {cs : List Char}

theorem charsAfter_append (start : Nat) (cs ds : List Char) :
    charsAfter start (cs ++ ds) = charsAfter start cs ++ charsAfter (start + byteLength cs) ds := by
  induction cs generalizing start with
  | nil => rfl
  | cons c cs ih => rw [List.cons_append, charsAfter, charsAfter, ih, byteLength, Nat.add_assoc, List.cons_append]

theorem map_snd_charsAfter (start : Nat) (cs : List Char) : (charsAfter start cs).map (·.2) = cs := by
  induction cs generalizing start with
  | nil => rfl
  | cons c cs ih => rw [charsAfter, List.map_cons, ih]

theorem bounds_of_mem_charsAfter {p : Nat × Char} (h : p ∈ charsAfter start cs) :
    start ≤ p.1 ∧ p.1 < start + byteLength cs := by
  induction cs generalizing start with
  | nil => cases h
  | cons c cs ih =>
    have hc := c.utf8Size_pos
    rw [byteLength]
    obtain rfl | h := List.mem_cons.1 h
    · exact ⟨Nat.le_refl _, by simp only; omega⟩
    · have hbounds := ih h
      omega

end Characters

/-! ## Edits -/

/-- A span and the text to stand in its place. -/
structure Edit where
  span : Span
  text : List Char

/-- Whether the character after a number of bytes belongs to the span. -/
def Edit.covers (e : Edit) (i : Nat) : Bool := e.span.start ≤ i && i < e.span.stop

/-- What becomes of a character: outside of all spans it stays, at the start of a span the new text takes its place, and
in the rest of the span it goes. -/
def overwriteChar (edits : List Edit) (i : Nat) (c : Char) : List Char :=
  match edits.find? (·.covers i) with
  | none => [c]
  | some e => if i = e.span.start then e.text else []

/-- A text with several spans replaced at once. -/
def overwrite (edits : List Edit) (cs : List Char) : List Char :=
  (charsAfter 0 cs).flatMap fun p => overwriteChar edits p.1 p.2

/-- A text with one span replaced. -/
def Edit.apply (e : Edit) (cs : List Char) : List Char :=
  ((charsAfter 0 cs).filter (·.1 < e.span.start)).map (·.2) ++ e.text ++
    ((charsAfter 0 cs).filter (e.span.stop ≤ ·.1)).map (·.2)

section Edits

variable {edits : List Edit} {e : Edit} {i start : Nat} {c : Char} {cs source : List Char}

theorem overwriteChar_of_lt (h : ∀ e ∈ edits, i < e.span.start) : overwriteChar edits i c = [c] := by
  have hnone : edits.find? (·.covers i) = none := by
    refine List.find?_eq_none.2 fun e he => ?_
    have hlt := h e he
    simp only [Edit.covers, Bool.and_eq_true, decide_eq_true_eq]
    omega
  rw [overwriteChar, hnone]

theorem overwriteChar_cons_of_le (h : e.span.stop ≤ i) : overwriteChar (e :: edits) i c = overwriteChar edits i c := by
  have hcovers : e.covers i = false := by
    simp only [Edit.covers, Bool.and_eq_false_iff, decide_eq_false_iff_not]
    omega
  rw [overwriteChar, overwriteChar, List.find?_cons, hcovers]

theorem overwriteChar_cons_of_covers (h : e.covers i = true) :
    overwriteChar (e :: edits) i c = if i = e.span.start then e.text else [] := by
  rw [overwriteChar, List.find?_cons, h]

/-- A text before all spans stays. -/
theorem flatMap_overwriteChar_of_le (h : ∀ e ∈ edits, start + byteLength cs ≤ e.span.start) :
    ((charsAfter start cs).flatMap fun p => overwriteChar edits p.1 p.2) = cs := by
  have hchar : ∀ p ∈ charsAfter start cs, overwriteChar edits p.1 p.2 = [p.2] := fun p hp =>
    overwriteChar_of_lt fun e he => Nat.lt_of_lt_of_le (bounds_of_mem_charsAfter hp).2 (h e he)
  rw [List.flatMap_congr hchar]
  calc (charsAfter start cs).flatMap (fun p => [p.2])
    _ = (charsAfter start cs).map (·.2) := List.map_eq_flatMap.symm
    _ = cs := map_snd_charsAfter start cs

/-- The text of a span makes way for the new one. -/
theorem flatMap_overwriteChar_span (hs : source ≠ []) (new : List Char) (edits : List Edit) :
    ((charsAfter start source).flatMap fun p =>
      overwriteChar (⟨⟨start, start + byteLength source⟩, new⟩ :: edits) p.1 p.2) = new := by
  have hcovers : ∀ p ∈ charsAfter start source,
      Edit.covers ⟨⟨start, start + byteLength source⟩, new⟩ p.1 = true := by
    intro p hp
    have hbounds := bounds_of_mem_charsAfter hp
    simp only [Edit.covers, Bool.and_eq_true, decide_eq_true_eq]
    omega
  rw [List.flatMap_congr fun p hp => overwriteChar_cons_of_covers (hcovers p hp)]
  obtain ⟨c, cs, rfl⟩ := List.exists_cons_of_ne_nil hs
  have hrest : (charsAfter (start + c.utf8Size) cs).flatMap (fun p => if p.1 = start then new else []) = [] := by
    refine List.flatMap_eq_nil_iff.2 fun p hp => if_neg ?_
    have hc := c.utf8Size_pos
    have hle := (bounds_of_mem_charsAfter hp).1
    omega
  rw [charsAfter, List.flatMap_cons, if_pos rfl, hrest, List.append_nil]

/-- Texts after a span do not see it. -/
theorem flatMap_overwriteChar_cons_of_le (h : e.span.stop ≤ start) :
    ((charsAfter start cs).flatMap fun p => overwriteChar (e :: edits) p.1 p.2) =
      (charsAfter start cs).flatMap fun p => overwriteChar edits p.1 p.2 :=
  List.flatMap_congr fun _ hp => overwriteChar_cons_of_le (h.trans (bounds_of_mem_charsAfter hp).1)

/-- The characters before a place, where the text is parted there. -/
theorem map_snd_filter_lt (start : Nat) (cs ds : List Char) :
    ((charsAfter start (cs ++ ds)).filter (·.1 < start + byteLength cs)).map (·.2) = cs := by
  have hcs : ∀ p ∈ charsAfter start cs, decide (p.1 < start + byteLength cs) = true := fun p hp =>
    decide_eq_true (bounds_of_mem_charsAfter hp).2
  have hds : ∀ p ∈ charsAfter (start + byteLength cs) ds, ¬ decide (p.1 < start + byteLength cs) = true := fun p hp h =>
    Nat.not_lt_of_le (bounds_of_mem_charsAfter hp).1 (of_decide_eq_true h)
  rw [charsAfter_append, List.filter_append, List.filter_eq_self.2 hcs, List.filter_eq_nil_iff.2 hds, List.append_nil,
    map_snd_charsAfter]

/-- The characters from a place on, where the text is parted there. -/
theorem map_snd_filter_le (start : Nat) (cs ds : List Char) :
    ((charsAfter start (cs ++ ds)).filter (start + byteLength cs ≤ ·.1)).map (·.2) = ds := by
  have hcs : ∀ p ∈ charsAfter start cs, ¬ decide (start + byteLength cs ≤ p.1) = true := fun p hp h =>
    Nat.not_le_of_lt (bounds_of_mem_charsAfter hp).2 (of_decide_eq_true h)
  have hds : ∀ p ∈ charsAfter (start + byteLength cs) ds, decide (start + byteLength cs ≤ p.1) = true := fun p hp =>
    decide_eq_true (bounds_of_mem_charsAfter hp).1
  rw [charsAfter_append, List.filter_append, List.filter_eq_nil_iff.2 hcs, List.filter_eq_self.2 hds, List.nil_append,
    map_snd_charsAfter]

theorem Edit.apply_append (before source after new : List Char) :
    Edit.apply ⟨⟨byteLength before, byteLength before + byteLength source⟩, new⟩ (before ++ source ++ after) =
      before ++ new ++ after := by
  have hfront := map_snd_filter_lt 0 before (source ++ after)
  have hback := map_snd_filter_le 0 (before ++ source) after
  rw [Nat.zero_add, ← List.append_assoc] at hfront
  rw [Nat.zero_add, byteLength_append] at hback
  rw [Edit.apply, hfront, hback]

end Edits

/-! ## References -/

/-- The edits that put text in brackets in the place of references, where there is some. -/
def bracketedAt (τ : String → Option (List Char)) (spans : List (Span × String)) : List Edit :=
  spans.filterMap fun p => (τ p.2).map fun inner => ⟨p.1, '(' :: inner ++ [')']⟩

section References

variable {τ : String → Option (List Char)} {segs : List Segment} {start : Nat}

theorem le_start_of_mem_bracketedAt {e : Edit} (h : e ∈ bracketedAt τ (referenceSpansAfter start segs)) :
    start ≤ e.span.start := by
  obtain ⟨p, hp, h⟩ := List.mem_filterMap.1 h
  obtain ⟨inner, -, rfl⟩ := Option.map_eq_some_iff.1 h
  obtain ⟨front, -, -, -, hstart, -⟩ := exists_of_mem_referenceSpansAfter hp
  rw [hstart]
  exact Nat.le_add_right _ _

/-- The first segment stays, or it is a reference that is replaced. -/
theorem bracketedAt_cons_cases (τ : String → Option (List Char)) (segment : Segment) (segs : List Segment)
    (start : Nat) :
    (segment.splice τ = segment.source ∧ bracketedAt τ (referenceSpansAfter start (segment :: segs)) =
        bracketedAt τ (referenceSpansAfter (start + byteLength segment.source) segs)) ∨
      (∃ source id, segment = .reference source id) ∧
        bracketedAt τ (referenceSpansAfter start (segment :: segs)) =
          ⟨⟨start, start + byteLength segment.source⟩, segment.splice τ⟩ ::
            bracketedAt τ (referenceSpansAfter (start + byteLength segment.source) segs) := by
  cases segment with
  | plain source => exact .inl ⟨rfl, rfl⟩
  | reference source id =>
    cases hτ : τ id with
    | none =>
      refine .inl ⟨by rw [Segment.splice, hτ, Segment.source], ?_⟩
      rw [referenceSpansAfter, bracketedAt, List.filterMap_cons_none (by rw [hτ, Option.map_none])]
      rfl
    | some inner =>
      refine .inr ⟨⟨source, id, rfl⟩, ?_⟩
      have hsplice : Segment.splice τ (.reference source id) = '(' :: inner ++ [')'] := by rw [Segment.splice, hτ]
      rw [referenceSpansAfter, bracketedAt, List.filterMap_cons_some (by rw [hτ, Option.map_some]), hsplice]
      rfl

/-- References replaced at once. -/
theorem flatMap_overwriteChar_segments (τ : String → Option (List Char))
    (hs : ∀ source id, .reference source id ∈ segs → source ≠ []) (start : Nat) :
    ((charsAfter start (segs.flatMap Segment.source)).flatMap fun p =>
        overwriteChar (bracketedAt τ (referenceSpansAfter start segs)) p.1 p.2) =
      segs.flatMap (Segment.splice τ) := by
  induction segs generalizing start with
  | nil => rfl
  | cons segment segs ih =>
    have ih := ih (fun source id hm => hs source id (List.mem_cons_of_mem _ hm)) (start + byteLength segment.source)
    rw [List.flatMap_cons, List.flatMap_cons, charsAfter_append, List.flatMap_append]
    obtain ⟨hsplice, hedits⟩ | ⟨⟨source, id, rfl⟩, hedits⟩ := bracketedAt_cons_cases τ segment segs start
    · rw [hedits, ih, hsplice, flatMap_overwriteChar_of_le fun e he => le_start_of_mem_bracketedAt he]
    · have hne : (Segment.reference source id).source ≠ [] := hs source id List.mem_cons_self
      rw [hedits, flatMap_overwriteChar_span hne, flatMap_overwriteChar_cons_of_le (Nat.le_refl _), ih]

/-- References replaced one after the other, the last one first. What stands before a reference is not changed until
its own turn, so the places stay right. -/
theorem foldr_apply_segments (τ : String → Option (List Char)) (before : List Char) (segs : List Segment) :
    (bracketedAt τ (referenceSpansAfter (byteLength before) segs)).foldr Edit.apply
        (before ++ segs.flatMap Segment.source) =
      before ++ segs.flatMap (Segment.splice τ) := by
  induction segs generalizing before with
  | nil => rfl
  | cons segment segs ih =>
    have ih := ih (before ++ segment.source)
    rw [byteLength_append, List.append_assoc, ← List.flatMap_cons] at ih
    obtain ⟨hsplice, hedits⟩ | ⟨-, hedits⟩ := bracketedAt_cons_cases τ segment segs (byteLength before)
    · rw [hedits, ih, List.flatMap_cons, hsplice, List.append_assoc]
    · rw [hedits, List.foldr_cons, ih, Edit.apply_append, List.flatMap_cons, List.append_assoc]

end References

/-! ## Inlining -/

/-- The text that takes the place of a reference, without its brackets. -/
def inlinedFormula? (s : Schema) : Nat → List String → String → Option (List Char)
  | 0, _, _ => none
  | n + 1, visited, id => (inlinable? s visited id).map fun inner => (inlineText s n (id :: visited) inner).text

theorem text_inlineText_eq_splice (s : Schema) (n : Nat) (visited : List String) (cs : List Char) :
    (inlineText s n visited cs).text = (segments cs).flatMap (Segment.splice (inlinedFormula? s n visited)) := by
  cases n with
  | zero => exact (flatMap_splice_none cs).symm
  | succ n => exact inlineText_succ s n visited cs

/-- Inlining touches nothing but references. They stand apart from each other and, in a text with tokens, from quoted
text; in a text without tokens they are pairs of braces. The text after inlining is the one before with some of them
replaced by formulas in brackets, be it all at once or one after the other from the end. -/
theorem splices_inlineText (s : Schema) (n : Nat) (visited : List String) (formula : String) :
    PlacesReferences formula (referenceSpans formula.toList) ∧
      (inlineText s n visited formula.toList).text =
        overwrite (bracketedAt (inlinedFormula? s n visited) (referenceSpans formula.toList)) formula.toList ∧
      (inlineText s n visited formula.toList).text =
        (bracketedAt (inlinedFormula? s n visited) (referenceSpans formula.toList)).foldr Edit.apply
          formula.toList := by
  have hsegs := flatMap_source_segments formula.toList
  have hne (source : List Char) (id : String) (hm : .reference source id ∈ segments formula.toList) : source ≠ [] :=
    (isReference_of_mem_segments hm).ne_nil
  refine ⟨placesReferences_referenceSpans formula, ?_, ?_⟩
  · have h := flatMap_overwriteChar_segments (inlinedFormula? s n visited) hne 0
    rw [hsegs] at h
    rw [text_inlineText_eq_splice, ← h]
    rfl
  · have h := foldr_apply_segments (inlinedFormula? s n visited) [] (segments formula.toList)
    rw [hsegs] at h
    exact (text_inlineText_eq_splice s n visited formula.toList).trans h.symm

end ComputedFields
