import ComputedFields.Proofs.Saturation
import ComputedFields.Proofs.TokenPositions

/-!
# Where references stand

`referenceSpans` gives the places of the references of a text in bytes, whether the text has lexemes or not.

- `isReference_of_mem_segments`: what stands at such a place is an id in braces;
- `pairwise_referenceSpansAfter`: references stand one after the other;
- `Lexed.referenceSpans_eq`: in a text with lexemes they are the tokens for references;
- `LeftmostFrom`: matches as a search from left to right finds them, each after the end of the one before;
- `CutAtBraces.exists_pairs`: in a text without lexemes references are found in this way, as pairs of braces with more
  than whitespace between them;
- `placesReferences_referenceSpans`: all of this for the text of a formula.
-/

namespace ComputedFields

open Text (byteLength byteLength_append byteLength_ofList byteLength_toList)

/-! ## The text of a reference -/

/-- Characters other than braces. -/
def IsBraceless (cs : List Char) : Prop := ∀ c ∈ cs, c ≠ '\x7b' ∧ c ≠ '\x7d'

theorem isBraceless_iff {cs : List Char} : IsBraceless cs ↔ ∀ c ∈ cs, (c != '\x7b' && c != '\x7d') = true := by
  simp [IsBraceless]

/-- A text in braces. -/
def braced (inner : List Char) : List Char := '\x7b' :: inner ++ ['\x7d']

/-- An id in braces, perhaps with whitespace around it. -/
def IsReference (source : List Char) (id : String) : Prop :=
  ∃ inner, source = braced inner ∧ IsBraceless inner ∧ ¬ IsBlank inner ∧ id = String.ofList (Text.trimChars inner)

theorem IsReference.ne_nil {source : List Char} {id : String} (h : IsReference source id) : source ≠ [] := by
  obtain ⟨inner, rfl, -⟩ := h
  exact List.cons_ne_nil _ _

theorem trimChars_eq_nil_iff {cs : List Char} : Text.trimChars cs = [] ↔ IsBlank cs := by
  constructor
  · intro h
    obtain ⟨w, hw, hcs⟩ := exists_trimStart cs
    obtain ⟨w', hw', hend⟩ := exists_trimEnd (Text.trimStart cs)
    have htrim : Text.trimEnd (Text.trimStart cs) = [] := h
    rw [htrim, List.nil_append] at hend
    rw [hcs, hend]
    exact List.forall_mem_append.2 ⟨hw, hw'⟩
  · intro h
    have hstart : Text.trimStart cs = [] := List.dropWhile_eq_nil_iff.2 h
    rw [Text.trimChars, hstart]
    rfl

/-- The source of a token for a reference. -/
theorem Lexeme.IsWhole.isReference {l : Lexeme} {id : String} (h : l.IsWhole) (hk : l.kind = .fieldRef id) :
    IsReference l.source id := by
  obtain ⟨c, body, hs, -, hr⟩ := h
  rw [hk] at hr
  obtain rfl := eq_of_read_fieldRef hr
  rw [read_brace] at hr
  obtain ⟨inner, hi, ht, hid, hlen, rest, rfl⟩ := readReference_eq_ok_iff.1 hr
  have hrest : rest = [] := by
    rw [List.length_append, List.length_cons] at hlen
    exact List.eq_nil_of_length_eq_zero (by omega)
  refine ⟨inner, by rw [hs, hrest]; rfl, isBraceless_iff.2 hi, fun hb => ht (trimChars_eq_nil_iff.2 hb), ?_⟩
  cases hid
  rfl

theorem ofBraced_of_isBlank {inner : List Char} (h : IsBlank inner) :
    Segment.ofBraced inner = .plain (braced inner) := by
  simp [Segment.ofBraced, trimChars_eq_nil_iff.2 h, braced]

theorem ofBraced_of_not_isBlank {inner : List Char} (h : ¬ IsBlank inner) :
    Segment.ofBraced inner = .reference (braced inner) (String.ofList (Text.trimChars inner)) := by
  have ht : Text.trimChars inner ≠ [] := fun ht => h (trimChars_eq_nil_iff.1 ht)
  simp [Segment.ofBraced, ht, braced]

/-! ## Segments -/

section Segments

variable {cs source : List Char} {segs : List Segment} {start : Nat} {id : String} {p : Span × String}

theorem CutAtBraces.isReference (h : CutAtBraces cs segs) (hm : .reference source id ∈ segs) :
    IsReference source id := by
  induction h with
  | nil => cases hm
  | @pair inner rest segs hb _ ih =>
    obtain hm | hm := List.mem_cons.1 hm
    · by_cases hblank : IsBlank inner
      · rw [ofBraced_of_isBlank hblank] at hm
        cases hm
      · rw [ofBraced_of_not_isBlank hblank] at hm
        cases hm
        exact ⟨inner, rfl, isBraceless_iff.2 (bracedText?_eq_some_iff.1 hb).2.1, hblank, rfl⟩
    · exact ih hm
  | single _ _ ih =>
    obtain hm | hm := List.mem_cons.1 hm
    · cases hm
    · exact ih hm

theorem Lexed.isReference {ls : List Lexeme} {rest : List Char} (h : Lexed cs ls rest)
    (hm : .reference source id ∈ ls.flatMap Lexeme.segments) : IsReference source id := by
  obtain ⟨l, hl, hm⟩ := List.mem_flatMap.1 hm
  have hwhole := (lexed_iff_fronts.1 h).1.isWhole l hl
  unfold Lexeme.segments at hm
  split at hm
  · next id' hk =>
    simp only [List.mem_cons, reduceCtorEq, List.not_mem_nil, or_false, false_or] at hm
    cases hm
    exact hwhole.isReference hk
  · simp at hm

/-- A text has lexemes, or scanning it fails. -/
theorem lexed_or_fault (cs : List Char) : (∃ ls rest, Lexed cs ls rest) ∨ ∃ e, (scan cs).fault = some e := by
  cases hf : (scan cs).fault with
  | none => exact .inl ⟨(scan cs).lexemes, (scan cs).rest, scan_eq_iff_lexed.1 (by rw [← hf])⟩
  | some e => exact .inr ⟨e, rfl⟩

theorem segments_of_fault {e : LexFault} (h : (scan cs).fault = some e) : segments cs = bracedSegments cs := by
  simp only [segments, h]

theorem isReference_of_mem_segments (h : .reference source id ∈ segments cs) : IsReference source id := by
  obtain ⟨ls, rest, hl⟩ | ⟨e, he⟩ := lexed_or_fault cs
  · rw [hl.segments_eq] at h
    exact hl.isReference (by simpa using h)
  · rw [segments_of_fault he] at h
    exact (cutAtBraces_bracedSegments cs).isReference h

/-- A reference stands after the segments before its own. -/
theorem exists_of_mem_referenceSpansAfter (h : p ∈ referenceSpansAfter start segs) :
    ∃ front source back, segs = front ++ .reference source p.2 :: back ∧
      p.1.start = start + byteLength (front.flatMap Segment.source) ∧ p.1.stop = p.1.start + byteLength source := by
  induction segs generalizing start with
  | nil => cases h
  | cons segment segs ih =>
    have hlater (h : p ∈ referenceSpansAfter (start + byteLength segment.source) segs) :
        ∃ front source back, segment :: segs = front ++ .reference source p.2 :: back ∧
          p.1.start = start + byteLength (front.flatMap Segment.source) ∧
          p.1.stop = p.1.start + byteLength source := by
      obtain ⟨front, source, back, rfl, hstart, hstop⟩ := ih h
      refine ⟨segment :: front, source, back, rfl, ?_, hstop⟩
      rw [hstart, List.flatMap_cons, byteLength_append, Nat.add_assoc]
    cases segment with
    | plain source => exact hlater h
    | reference source id =>
      obtain rfl | h := List.mem_cons.1 h
      · exact ⟨[], source, segs, rfl, rfl, rfl⟩
      · exact hlater h

/-- References stand one after the other. -/
theorem pairwise_referenceSpansAfter (hs : ∀ source id, .reference source id ∈ segs → source ≠ []) (start : Nat) :
    (referenceSpansAfter start segs).Pairwise fun p q => p.1.start < q.1.start ∧ p.1.stop ≤ q.1.start := by
  induction segs generalizing start with
  | nil => exact .nil
  | cons segment segs ih =>
    have ih := ih fun source id hm => hs source id (List.mem_cons_of_mem _ hm)
    cases segment with
    | plain source => exact ih _
    | reference source id =>
      refine .cons (fun q hq => ?_) (ih _)
      obtain ⟨front, -, -, -, hstart, -⟩ := exists_of_mem_referenceSpansAfter hq
      have hlen := byteLength_pos (hs source id List.mem_cons_self)
      simp only
      omega

/-- A reference of a text, with what stands before and after it. -/
theorem exists_of_mem_referenceSpans (h : p ∈ referenceSpans cs) :
    ∃ before source after, cs = before ++ source ++ after ∧ IsReference source p.2 ∧
      p.1.start = byteLength before ∧ p.1.stop = byteLength before + byteLength source := by
  obtain ⟨front, source, back, hsegs, hstart, hstop⟩ := exists_of_mem_referenceSpansAfter h
  rw [Nat.zero_add] at hstart
  refine ⟨front.flatMap Segment.source, source, back.flatMap Segment.source, ?_, ?_, hstart, hstart ▸ hstop⟩
  · rw [← flatMap_source_segments cs, hsegs]
    simp [Segment.source]
  · have hm : .reference source p.2 ∈ segments cs := by simp [hsegs]
    exact isReference_of_mem_segments hm

end Segments

/-! ## Texts with lexemes -/

/-- The place of a token for a reference, and the id. -/
def Token.reference? (t : Token) : Option (Span × String) :=
  match t.kind with
  | .fieldRef id => some (⟨t.position, t.stop⟩, id)
  | _ => none

theorem Token.reference?_eq_some_iff {t : Token} {p : Span × String} :
    t.reference? = some p ↔ t.kind = .fieldRef p.2 ∧ p.1 = ⟨t.position, t.stop⟩ := by
  obtain ⟨span, id⟩ := p
  unfold Token.reference?
  split
  · next id' hk =>
    rw [hk, Option.some.injEq, Prod.mk.injEq, TokenKind.fieldRef.injEq]
    exact ⟨fun h => ⟨h.2, h.1.symm⟩, fun h => ⟨h.2.symm, h.1⟩⟩
  · next hk =>
    constructor
    · intro h
      cases h
    · rintro ⟨hid, -⟩
      exact absurd hid (hk id)

theorem referenceSpansAfter_lexemes (ls : List Lexeme) (rest : List Char) (start : Nat) :
    referenceSpansAfter start (ls.flatMap Lexeme.segments ++ [.plain rest]) =
      (Token.place start ls).filterMap Token.reference? := by
  induction ls generalizing start with
  | nil => rfl
  | cons l ls ih =>
    rw [List.flatMap_cons, List.append_assoc, Token.place, List.filterMap_cons, ← ih, l.byteLength_text]
    unfold Lexeme.segments Token.reference?
    cases l.kind with
    | fieldRef id => simp [referenceSpansAfter, Token.stop, byteLength_ofList, Nat.add_assoc]
    | _ => simp [referenceSpansAfter, Nat.add_assoc]

theorem Lexed.referenceSpans_eq {cs rest : List Char} {ls : List Lexeme} (h : Lexed cs ls rest) :
    referenceSpans cs = (Token.place 0 ls).filterMap Token.reference? := by
  rw [referenceSpans, h.segments_eq, referenceSpansAfter_lexemes]

/-- Different tokens of a text have no place in common. -/
theorem Token.stop_le_or_of_mem_place {ls : List Lexeme} {start : Nat} {t u : Token} (hs : ∀ l ∈ ls, l.source ≠ [])
    (ht : t ∈ place start ls) (hu : u ∈ place start ls) (hne : u ≠ t) : t.stop ≤ u.position ∨ u.stop ≤ t.position := by
  obtain ⟨us, vs, h⟩ := List.append_of_mem ht
  have hapart := pairwise_place hs start
  rw [h] at hapart hu
  obtain ⟨-, hafter, hbefore⟩ := List.pairwise_append.1 hapart
  rcases List.mem_append.1 hu with hu | hu
  · exact .inr (hbefore u hu t List.mem_cons_self).2
  · obtain rfl | hu := List.mem_cons.1 hu
    · exact absurd rfl hne
    · exact .inl ((List.pairwise_cons.1 hafter).1 u hu).2

/-! ## Texts without lexemes -/

section Search

/-- `LeftmostFrom IsMatch start found`: a search from `start` on finds the matches `found`. Each of them is the leftmost
one that does not begin before the end of the one before it, and after the last one there is none. -/
inductive LeftmostFrom {α : Type} (IsMatch : Span → α → Prop) : Nat → List (Span × α) → Prop
  | finished {start : Nat} : (∀ span a, IsMatch span a → span.start < start) → LeftmostFrom IsMatch start []
  | found {start : Nat} {span : Span} {a : α} {rest : List (Span × α)} : IsMatch span a → start ≤ span.start →
      (∀ span' a', IsMatch span' a' → start ≤ span'.start → span.start ≤ span'.start) →
      LeftmostFrom IsMatch span.stop rest → LeftmostFrom IsMatch start ((span, a) :: rest)

/-- Where matches do not overlap, a search finds them all. -/
theorem leftmostFrom_of_pairwise {α : Type} {IsMatch : Span → α → Prop} {found : List (Span × α)} {start : Nat}
    (hlen : ∀ span a, IsMatch span a → span.start < span.stop)
    (hapart : found.Pairwise fun p q => p.1.stop ≤ q.1.start)
    (hmem : ∀ span a, (span, a) ∈ found ↔ IsMatch span a ∧ start ≤ span.start) : LeftmostFrom IsMatch start found := by
  induction found generalizing start with
  | nil =>
    refine .finished fun span a hm => ?_
    by_contra hle
    exact List.not_mem_nil ((hmem span a).2 ⟨hm, by omega⟩)
  | cons p rest ih =>
    obtain ⟨span, a⟩ := p
    obtain ⟨hlater, hrest⟩ := List.pairwise_cons.1 hapart
    obtain ⟨hm, hle⟩ := (hmem span a).1 List.mem_cons_self
    have hlt := hlen span a hm
    refine .found hm hle (fun span' a' hm' hle' => ?_) (ih hrest fun span' a' => ⟨fun hin => ?_, fun ⟨hm', hle'⟩ => ?_⟩)
    · obtain he | hin := List.mem_cons.1 ((hmem span' a').2 ⟨hm', hle'⟩)
      · cases he
        exact Nat.le_refl _
      · have hstop : span.stop ≤ span'.start := hlater _ hin
        omega
    · exact ⟨((hmem span' a').1 (List.mem_cons_of_mem _ hin)).1, hlater _ hin⟩
    · obtain he | hin := List.mem_cons.1 ((hmem span' a').2 ⟨hm', by omega⟩)
      · cases he
        omega
      · exact hin

/-- A pair of braces with other characters between them, in a text that starts after a number of bytes. -/
def BracedAt (start : Nat) (cs : List Char) (span : Span) (inner : List Char) : Prop :=
  inner ≠ [] ∧ IsBraceless inner ∧ ∃ before after, cs = before ++ braced inner ++ after ∧
    span = ⟨start + byteLength before, start + byteLength before + byteLength (braced inner)⟩

variable {start : Nat} {cs inner : List Char} {span : Span} {c : Char}

theorem BracedAt.start_lt_stop (h : BracedAt start cs span inner) : span.start < span.stop := by
  obtain ⟨-, -, before, after, -, rfl⟩ := h
  have hne : braced inner ≠ [] := List.cons_ne_nil _ _
  have hlen := byteLength_pos hne
  simp only
  omega

theorem BracedAt.le_start (h : BracedAt start cs span inner) : start ≤ span.start := by
  obtain ⟨-, -, before, after, -, rfl⟩ := h
  exact Nat.le_add_right _ _

theorem not_bracedAt_nil : ¬ BracedAt start [] span inner := by
  rintro ⟨-, -, before, after, h, -⟩
  simp [braced] at h

theorem bracedAt_cons : BracedAt start (c :: cs) span inner ↔
    (c = '\x7b' ∧ bracedText? cs = some inner ∧ span = ⟨start, start + byteLength (braced inner)⟩) ∨
      BracedAt (start + c.utf8Size) cs span inner := by
  constructor
  · rintro ⟨hne, hi, before, after, hcs, hspan⟩
    cases before with
    | nil =>
      simp only [braced, List.nil_append, List.cons_append, List.append_assoc, List.cons.injEq] at hcs
      obtain ⟨rfl, rfl⟩ := hcs
      exact .inl ⟨rfl, bracedText?_eq_some_iff.2 ⟨hne, isBraceless_iff.1 hi, after, rfl⟩, hspan⟩
    | cons b before =>
      simp only [List.cons_append, List.cons.injEq] at hcs
      obtain ⟨rfl, hcs⟩ := hcs
      rw [byteLength, ← Nat.add_assoc] at hspan
      exact .inr ⟨hne, hi, before, after, hcs, hspan⟩
  · rintro (⟨rfl, hb, hspan⟩ | ⟨hne, hi, before, after, rfl, hspan⟩)
    · obtain ⟨hne, hi, rest, rfl⟩ := bracedText?_eq_some_iff.1 hb
      exact ⟨hne, isBraceless_iff.2 hi, [], rest, by simp [braced], hspan⟩
    · refine ⟨hne, hi, c :: before, after, rfl, ?_⟩
      rw [hspan, byteLength, ← Nat.add_assoc]

/-- No pair begins where there is no opening brace. -/
theorem bracedAt_append {w : List Char} (hw : ∀ c ∈ w, c ≠ '\x7b') :
    BracedAt start (w ++ cs) span inner ↔ BracedAt (start + byteLength w) cs span inner := by
  induction w generalizing start with
  | nil => rfl
  | cons c w ih =>
    obtain ⟨hc, hw⟩ := List.forall_mem_cons.1 hw
    rw [List.cons_append, bracedAt_cons, ih hw, byteLength, Nat.add_assoc]
    exact or_iff_right fun h => hc h.1

/-- After a pair of braces the others are looked for behind it. -/
theorem bracedAt_pair {rest inner' : List Char} (hb : bracedText? (inner ++ '\x7d' :: rest) = some inner) :
    BracedAt start ('\x7b' :: inner ++ '\x7d' :: rest) span inner' ↔
      (span = ⟨start, start + byteLength (braced inner)⟩ ∧ inner' = inner) ∨
        BracedAt (start + byteLength (braced inner)) rest span inner' := by
  have hi : IsBraceless inner := isBraceless_iff.2 (bracedText?_eq_some_iff.1 hb).2.1
  have hw : ∀ c ∈ inner ++ ['\x7d'], c ≠ '\x7b' := by
    intro c hm
    obtain hm | hm := List.mem_append.1 hm
    · exact (hi c hm).1
    · rw [List.mem_singleton.1 hm]
      decide
  have hlater : BracedAt (start + '\x7b'.utf8Size) (inner ++ '\x7d' :: rest) span inner' ↔
      BracedAt (start + byteLength (braced inner)) rest span inner' := by
    rw [List.append_cons, bracedAt_append hw, Nat.add_assoc]
    rfl
  rw [List.cons_append, bracedAt_cons, hlater, hb]
  refine or_congr_left ⟨?_, ?_⟩
  · rintro ⟨-, he, hspan⟩
    cases he
    exact ⟨hspan, rfl⟩
  · rintro ⟨hspan, rfl⟩
    exact ⟨rfl, rfl, hspan⟩

/-- The references among pairs of braces: those with more than whitespace in them. -/
def referencesAmong (pairs : List (Span × List Char)) : List (Span × String) :=
  (pairs.filter fun p => !p.2.all Text.isWhitespace).map fun p => (p.1, String.ofList (Text.trimChars p.2))

theorem referenceSpansAfter_ofBraced (inner : List Char) {segs : List Segment} {pairs : List (Span × List Char)}
    (h : referenceSpansAfter (start + byteLength (braced inner)) segs = referencesAmong pairs) :
    referenceSpansAfter start (Segment.ofBraced inner :: segs) =
      referencesAmong ((⟨start, start + byteLength (braced inner)⟩, inner) :: pairs) := by
  by_cases hblank : IsBlank inner
  · have hall : inner.all Text.isWhitespace = true := List.all_eq_true.2 hblank
    rw [ofBraced_of_isBlank hblank, referenceSpansAfter, h, referencesAmong, referencesAmong,
      List.filter_cons_of_neg (by simp [hall])]
  · have hall : inner.all Text.isWhitespace = false := Bool.eq_false_iff.2 fun ha => hblank (List.all_eq_true.1 ha)
    rw [ofBraced_of_not_isBlank hblank, referenceSpansAfter, h, referencesAmong, referencesAmong,
      List.filter_cons_of_pos (by simp [hall]), List.map_cons]

/-- The pairs of braces of a text, of which those around whitespace are no references. -/
theorem CutAtBraces.exists_pairs {segs : List Segment} (h : CutAtBraces cs segs) (start : Nat) :
    ∃ pairs : List (Span × List Char), (pairs.Pairwise fun p q => p.1.stop ≤ q.1.start) ∧
      (∀ span inner, (span, inner) ∈ pairs ↔ BracedAt start cs span inner) ∧
      referenceSpansAfter start segs = referencesAmong pairs := by
  induction h generalizing start with
  | nil => exact ⟨[], .nil, fun span inner => iff_of_false List.not_mem_nil not_bracedAt_nil, rfl⟩
  | @pair inner rest segs hb _ ih =>
    obtain ⟨pairs, hapart, hmem, hspans⟩ := ih (start + byteLength (braced inner))
    refine ⟨(⟨start, start + byteLength (braced inner)⟩, inner) :: pairs, ?_, fun span inner' => ?_,
      referenceSpansAfter_ofBraced inner hspans⟩
    · exact .cons (fun q hq => ((hmem q.1 q.2).1 hq).le_start) hapart
    · rw [List.mem_cons, Prod.mk.injEq, hmem, bracedAt_pair hb]
  | @single c rest segs hc _ ih =>
    obtain ⟨pairs, hapart, hmem, hspans⟩ := ih (start + c.utf8Size)
    refine ⟨pairs, hapart, fun span inner => ?_, hspans⟩
    rw [hmem, bracedAt_cons]
    refine (or_iff_right fun h => ?_).symm
    rw [hc h.1] at h
    cases h.2.1

/-- A text without lexemes is searched for pairs of braces. -/
theorem exists_leftmostFrom {e : LexFault} (h : (scan cs).fault = some e) :
    ∃ pairs, LeftmostFrom (BracedAt 0 cs) 0 pairs ∧ referenceSpans cs = referencesAmong pairs := by
  obtain ⟨pairs, hapart, hmem, hspans⟩ := (cutAtBraces_bracedSegments cs).exists_pairs 0
  refine ⟨pairs, leftmostFrom_of_pairwise (fun _ _ hb => hb.start_lt_stop) hapart fun span inner => ?_, ?_⟩
  · rw [hmem]
    exact (and_iff_left (Nat.zero_le _)).symm
  · rw [referenceSpans, segments_of_fault h, hspans]

end Search

/-! ## Formulas -/

/-- `PlacesReferences formula spans`: the references of a formula stand at `spans`. -/
structure PlacesReferences (formula : String) (spans : List (Span × String)) : Prop where
  /-- A reference stands between two positions of the text, which lie between characters. -/
  source : ∀ p ∈ spans, ∃ a b : formula.Pos, a.offset.byteIdx = p.1.start ∧ b.offset.byteIdx = p.1.stop ∧
    IsReference (String.extract a b).toList p.2
  inside : ∀ p ∈ spans, p.1.start < p.1.stop ∧ p.1.stop ≤ formula.utf8ByteSize
  /-- A reference starts after the start, and not before the stop, of those in front of it. -/
  apart : spans.Pairwise fun p q => p.1.start < q.1.start ∧ p.1.stop ≤ q.1.start
  /-- If the formula has tokens, references are tokens, and no quoted text has a place in common with one. -/
  tokens : ∀ ts, tokenize formula = .ok ts → spans = ts.filterMap Token.reference? ∧
    ∀ t ∈ ts, ∀ value, t.kind = .text value → ∀ p ∈ spans, p.1.stop ≤ t.position ∨ t.stop ≤ p.1.start
  /-- If it has none, references are the pairs of braces that a search from left to right finds. -/
  search : ∀ e, tokenize formula = .error e →
    ∃ pairs, LeftmostFrom (BracedAt 0 formula.toList) 0 pairs ∧ spans = referencesAmong pairs

theorem placesReferences_referenceSpans (formula : String) :
    PlacesReferences formula (referenceSpans formula.toList) where
  source p hp := by
    obtain ⟨before, source, after, hcs, href, hstart, hstop⟩ := exists_of_mem_referenceSpans hp
    obtain ⟨a, b, ha, hb, hextract⟩ := exists_extract hcs
    refine ⟨a, b, ha.trans hstart.symm, hb.trans hstop.symm, ?_⟩
    rwa [hextract, String.toList_ofList]
  inside p hp := by
    obtain ⟨before, source, after, hcs, href, hstart, hstop⟩ := exists_of_mem_referenceSpans hp
    have hlen := byteLength_pos href.ne_nil
    rw [← byteLength_toList, hcs, byteLength_append, byteLength_append]
    omega
  apart := pairwise_referenceSpansAfter (fun _ _ hm => (isReference_of_mem_segments hm).ne_nil) 0
  tokens ts hts := by
    obtain ⟨ls, rest, hl, rfl⟩ := tokenize_eq_ok_iff_lexed.1 hts
    have hsource (l : Lexeme) (hm : l ∈ ls) : l.source ≠ [] :=
      ((lexed_iff_fronts.1 hl).1.isWhole l hm).source_ne_nil
    refine ⟨?_, fun t ht value hk p hp => ?_⟩
    · rw [hl.referenceSpans_eq, List.filterMap_append]
      exact (List.append_nil _).symm
    · rw [hl.referenceSpans_eq] at hp
      obtain ⟨u, hu, hp⟩ := List.mem_filterMap.1 hp
      obtain ⟨hku, hspan⟩ := Token.reference?_eq_some_iff.1 hp
      have ht : t ∈ Token.place 0 ls := by
        obtain ht | ht := List.mem_append.1 ht
        · exact ht
        · rw [List.mem_singleton.1 ht] at hk
          cases hk
      have hne : t ≠ u := by
        rintro rfl
        rw [hk] at hku
        cases hku
      rw [hspan]
      exact Token.stop_le_or_of_mem_place hsource hu ht hne
  search e he := exists_leftmostFrom (tokenize_eq_error_iff.1 he).1

end ComputedFields
