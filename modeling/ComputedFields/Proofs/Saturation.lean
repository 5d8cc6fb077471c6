import ComputedFields.Proofs.Inlining
import Mathlib.Order.Lattice.Nat

/-!
# How deep inlining goes

Two things stop the inlining of formulas: the bound on the depth, and fields that have been visited on the way. Without
the bound it goes as deep as fields can be inlined one inside the other.

- `CutAtBraces`: how a text without lexemes is cut into pairs of braces and single characters;
- `flatMap_source_segments`: the segments of a text make up the text, whether it has lexemes or not;
- `Nested`: fields that can be inlined into a text, each one into the formula of the one before it;
- `le_depth_inlineText_iff`: inlining reaches a depth exactly if that many fields are nested and the bound allows it;
- `Nested.length_le`: no field is nested twice, so there are no more of them than formula fields that are not visited;
- `text_inlineText_eq`: a bound that no nested fields go beyond gives the same text as every greater one;
- `saturates_inlineText`: so there is one depth at which inlining comes to its end, whatever the bound.
-/

namespace ComputedFields

/-! ## Segments -/

theorem Lexeme.flatMap_source_segments (l : Lexeme) : l.segments.flatMap Segment.source = l.gap ++ l.source := by
  unfold Lexeme.segments
  split <;> simp [Segment.source]

theorem Lexed.flatMap_source {cs rest : List Char} {ls : List Lexeme} (h : Lexed cs ls rest) :
    (ls.flatMap Lexeme.segments).flatMap Segment.source ++ rest = cs := by
  induction h with
  | blank _ => rfl
  | lexeme _ _ _ _ ih =>
    rw [List.flatMap_cons, List.flatMap_append, Lexeme.flatMap_source_segments, List.append_assoc, ih]

/-- What stands in braces is not empty and has no brace in it. -/
theorem bracedText?_eq_some_iff {cs inner : List Char} : bracedText? cs = some inner ↔
    inner ≠ [] ∧ (∀ c ∈ inner, (c != '\x7b' && c != '\x7d') = true) ∧ ∃ rest, cs = inner ++ '\x7d' :: rest := by
  unfold bracedText?
  dsimp only
  constructor
  · intro h
    split at h
    · cases h
    · next hne =>
      split at h
      · next hd =>
        cases h
        obtain ⟨rest, hr⟩ := List.head?_eq_some_iff.1 hd
        refine ⟨by simpa using hne, List.all_eq_true.1 List.all_takeWhile, rest, ?_⟩
        rw [← hr]
        exact (List.prefix_iff_eq_append.1 (List.takeWhile_prefix _)).symm
      · cases h
  · rintro ⟨hne, hi, rest, rfl⟩
    have htake : (inner ++ '\x7d' :: rest).takeWhile (fun c => c != '\x7b' && c != '\x7d') = inner := by
      rw [List.takeWhile_append_of_pos hi]
      simp
    rw [htake, List.drop_left]
    simp [hne]

theorem source_ofBraced (inner : List Char) : (Segment.ofBraced inner).source = '\x7b' :: inner ++ ['\x7d'] := by
  unfold Segment.ofBraced
  dsimp only
  split <;> rfl

/-- `CutAtBraces cs segs`: the text `cs` consists of the pairs of braces and the single characters `segs`. A brace that
stands alone opens no pair. -/
inductive CutAtBraces : List Char → List Segment → Prop
  | nil : CutAtBraces [] []
  | pair {inner rest : List Char} {segs : List Segment} : bracedText? (inner ++ '\x7d' :: rest) = some inner →
      CutAtBraces rest segs → CutAtBraces ('\x7b' :: inner ++ '\x7d' :: rest) (Segment.ofBraced inner :: segs)
  | single {c : Char} {rest : List Char} {segs : List Segment} : (c = '\x7b' → bracedText? rest = none) →
      CutAtBraces rest segs → CutAtBraces (c :: rest) (.plain [c] :: segs)

theorem cutAtBraces_bracedSegments (cs : List Char) : CutAtBraces cs (bracedSegments cs) := by
  fun_induction bracedSegments cs with
  | case1 => exact .nil
  | case2 cs inner hb ih =>
    obtain ⟨-, -, rest, rfl⟩ := bracedText?_eq_some_iff.1 hb
    have hdrop : (inner ++ '\x7d' :: rest).drop (inner.length + 1) = rest := by
      rw [List.drop_append, List.drop_of_length_le (Nat.le_succ _)]
      simp
    rw [hdrop] at ih ⊢
    exact .pair hb ih
  | case3 cs hb ih => exact .single (fun _ => hb) ih
  | case4 c cs hc ih => exact .single (fun h => absurd h hc) ih

theorem CutAtBraces.flatMap_source {cs : List Char} {segs : List Segment} (h : CutAtBraces cs segs) :
    segs.flatMap Segment.source = cs := by
  induction h with
  | nil => rfl
  | pair _ _ ih => simp [source_ofBraced, ih]
  | single _ _ ih => simp [Segment.source, ih]

/-- The segments of a text make up the text. -/
theorem flatMap_source_segments (cs : List Char) : (segments cs).flatMap Segment.source = cs := by
  unfold segments
  dsimp only
  split
  · next hf =>
    have hl : Lexed cs (scan cs).lexemes (scan cs).rest := by
      rw [← scan_eq_iff_lexed, ← hf]
    rw [List.flatMap_append]
    simpa [Segment.source] using hl.flatMap_source
  · exact (cutAtBraces_bracedSegments cs).flatMap_source

/-! ## Nested fields -/

/-- `Nested s visited cs ids`: the fields `ids` can be inlined, the first one into the text `cs` and each of the others
into the formula of the one before it. -/
inductive Nested (s : Schema) : List String → List Char → List String → Prop
  | nil {visited : List String} {cs : List Char} : Nested s visited cs []
  | cons {visited ids : List String} {cs source inner : List Char} {id : String} :
      .reference source id ∈ segments cs → inlinable? s visited id = some inner → Nested s (id :: visited) inner ids →
      Nested s visited cs (id :: ids)

variable {s : Schema} {visited ids : List String} {cs : List Char} {n m k : Nat}

theorem Nested.take (h : Nested s visited cs ids) (k : Nat) : Nested s visited cs (ids.take k) := by
  induction h generalizing k with
  | nil =>
    rw [List.take_nil]
    exact .nil
  | cons hm hi _ ih =>
    cases k with
    | zero => exact .nil
    | succ k => exact .cons hm hi (ih k)

/-- The formula fields that have not been visited. -/
def Schema.unvisited (s : Schema) (visited : List String) : List Field :=
  s.fields.filter fun f => f.type = .formula ∧ f.id ∉ visited

theorem inlinable?_eq_some_iff {id : String} {inner : List Char} : inlinable? s visited id = some inner ↔
    id ∉ visited ∧ ∃ f ∈ s.fields, f.id = id ∧ ∃ t, f.formulaText? = some t ∧ formulaBody t.toList = inner := by
  unfold inlinable?
  split
  · next hv => simp [hv]
  · next hv =>
    simp only [Option.map_eq_some_iff, Option.bind_eq_some_iff, Schema.field?_eq_some_iff, hv, not_false_eq_true,
      true_and]
    constructor
    · rintro ⟨t, ⟨f, ⟨hf, hid⟩, ht⟩, hb⟩
      exact ⟨f, hf, hid, t, ht, hb⟩
    · rintro ⟨f, hf, hid, t, ht, hb⟩
      exact ⟨t, ⟨f, ⟨hf, hid⟩, ht⟩, hb⟩

/-- A field that is inlined is visited, so fewer are left. -/
theorem length_unvisited_lt {id : String} {inner : List Char} (h : inlinable? s visited id = some inner) :
    (s.unvisited (id :: visited)).length < (s.unvisited visited).length := by
  obtain ⟨hv, f, hf, hid, t, ht, -⟩ := inlinable?_eq_some_iff.1 h
  have he : s.unvisited (id :: visited) = (s.unvisited visited).filter (·.id ≠ id) := by
    rw [Schema.unvisited, Schema.unvisited, List.filter_filter]
    refine List.filter_congr fun g _ => ?_
    simp only [List.mem_cons, not_or, ← Bool.decide_and, decide_eq_decide]
    tauto
  rw [he, List.length_filter_lt_length_iff_exists]
  refine ⟨f, List.mem_filter.2 ⟨hf, ?_⟩, by simp [hid]⟩
  simp [Field.type_of_formulaText? ht, hid, hv]

/-- There are no more nested fields than formula fields that are not visited. -/
theorem Nested.length_le (h : Nested s visited cs ids) : ids.length ≤ (s.unvisited visited).length := by
  induction h with
  | nil => exact Nat.zero_le _
  | cons _ hi _ ih =>
    have hlt := length_unvisited_lt hi
    rw [List.length_cons]
    omega

/-! ## Depths -/

theorem le_foldl_max_iff {l : List Nat} {a : Nat} : k ≤ l.foldl max a ↔ k ≤ a ∨ ∃ d ∈ l, k ≤ d := by
  induction l generalizing a with
  | nil => simp
  | cons b l ih =>
    rw [List.foldl_cons, ih, le_max_iff, or_assoc]
    simp

/-- One more round of inlining goes one deeper than the next one does inside some reference. -/
theorem lt_depth_inlineText_succ_iff : k < (inlineText s (n + 1) visited cs).depth ↔
    ∃ source id inner, .reference source id ∈ segments cs ∧ inlinable? s visited id = some inner ∧
      k ≤ (inlineText s n (id :: visited) inner).depth := by
  rw [inlineText, Inlined.join, ← Nat.succ_le_iff, le_foldl_max_iff]
  simp only [List.map_map, List.mem_map, Function.comp_apply, Nat.le_zero, Nat.succ_ne_zero, false_or]
  constructor
  · rintro ⟨d, ⟨segment, hs, rfl⟩, hk⟩
    cases segment with
    | plain source => simp [Inlined.keep] at hk
    | reference source id =>
      dsimp only at hk
      cases hi : inlinable? s visited id with
      | none => simp [hi, Inlined.keep] at hk
      | some inner =>
        simp only [hi, Inlined.wrap, Nat.succ_le_succ_iff] at hk
        exact ⟨source, id, inner, hs, hi, hk⟩
  · rintro ⟨source, id, inner, hs, hi, hk⟩
    refine ⟨_, ⟨_, hs, rfl⟩, ?_⟩
    simp only [hi, Inlined.wrap, Nat.succ_le_succ_iff]
    exact hk

/-- Inlining reaches a depth exactly if that many fields are nested and the bound allows it. -/
theorem le_depth_inlineText_iff : k ≤ (inlineText s n visited cs).depth ↔
    k ≤ n ∧ ∃ ids, Nested s visited cs ids ∧ ids.length = k := by
  induction n generalizing k visited cs with
  | zero =>
    constructor
    · intro h
      obtain rfl : k = 0 := Nat.le_zero.1 h
      exact ⟨Nat.le_refl 0, [], .nil, rfl⟩
    · exact fun h => h.1
  | succ n ih =>
    cases k with
    | zero => exact ⟨fun _ => ⟨Nat.zero_le _, [], .nil, rfl⟩, fun _ => Nat.zero_le _⟩
    | succ k =>
      rw [Nat.succ_le_iff, lt_depth_inlineText_succ_iff]
      constructor
      · rintro ⟨source, id, inner, hs, hi, hk⟩
        obtain ⟨hn, ids, hids, rfl⟩ := ih.1 hk
        exact ⟨by omega, id :: ids, .cons hs hi hids, rfl⟩
      · rintro ⟨hn, ids, hids, hk⟩
        cases hids with
        | nil => cases hk
        | cons hs hi hids => exact ⟨_, _, _, hs, hi, ih.2 ⟨by omega, _, hids, by simpa using hk⟩⟩

/-! ## Texts -/

/-- Where the replacements of all references are the same, so are the texts. -/
theorem flatMap_splice_congr {τ τ' : String → Option (List Char)}
    (h : ∀ source id, .reference source id ∈ segments cs → τ id = τ' id) :
    (segments cs).flatMap (Segment.splice τ) = (segments cs).flatMap (Segment.splice τ') := by
  refine List.flatMap_congr fun segment hm => ?_
  cases segment with
  | plain source => rfl
  | reference source id => rw [Segment.splice, Segment.splice, h source id hm]

theorem flatMap_splice_none (cs : List Char) : (segments cs).flatMap (Segment.splice fun _ => none) = cs := by
  have he : (Segment.splice fun _ => none) = Segment.source := by
    funext segment
    cases segment <;> rfl
  rw [he, flatMap_source_segments]

/-- A bound that no nested fields go beyond gives the same text as every greater one. -/
theorem text_inlineText_eq (h : ∀ ids, Nested s visited cs ids → ids.length ≤ m) (hn : m ≤ n) :
    (inlineText s n visited cs).text = (inlineText s m visited cs).text := by
  induction m generalizing n visited cs with
  | zero =>
    cases n with
    | zero => rfl
    | succ n =>
      -- no reference can be inlined, since it would be a nested field
      have hnone (source : List Char) (id : String) (hs : .reference source id ∈ segments cs) :
          inlinable? s visited id = none := by
        cases hi : inlinable? s visited id with
        | none => rfl
        | some inner => exact absurd (h [id] (.cons hs hi .nil)) (by simp)
      calc (inlineText s (n + 1) visited cs).text
        _ = (segments cs).flatMap (Segment.splice fun _ => none) := by
          rw [inlineText_succ]
          exact flatMap_splice_congr fun source id hs => by rw [hnone source id hs, Option.map_none]
        _ = cs := flatMap_splice_none cs
  | succ m ih =>
    obtain ⟨n, rfl⟩ : ∃ n', n = n' + 1 := ⟨n - 1, by omega⟩
    rw [inlineText_succ, inlineText_succ]
    refine flatMap_splice_congr fun source id hs => ?_
    cases hi : inlinable? s visited id with
    | none => rfl
    | some inner =>
      have hle : ∀ ids, Nested s (id :: visited) inner ids → ids.length ≤ m := fun ids hids =>
        Nat.succ_le_succ_iff.1 (h (id :: ids) (.cons hs hi hids))
      rw [Option.map_some, Option.map_some, ih hle (Nat.succ_le_succ_iff.1 hn)]

/-! ## Saturation -/

/-- The numbers of fields that can be nested in a text. -/
def nestings (s : Schema) (visited : List String) (cs : List Char) : Set Nat :=
  {k | ∃ ids, Nested s visited cs ids ∧ ids.length = k}

theorem exists_isGreatest_nestings (s : Schema) (visited : List String) (cs : List Char) :
    ∃ d, IsGreatest (nestings s visited cs) d := by
  have hne : (nestings s visited cs).Nonempty := ⟨0, [], .nil, rfl⟩
  have hbound : BddAbove (nestings s visited cs) := by
    refine ⟨(s.unvisited visited).length, ?_⟩
    rintro k ⟨ids, hids, rfl⟩
    exact hids.length_le
  exact ⟨_, Nat.sSup_mem hne hbound, fun k hk => le_csSup hbound hk⟩

/-- Fields can be nested in every number up to the greatest. -/
theorem mem_nestings_iff {d : Nat} (h : IsGreatest (nestings s visited cs) d) : k ∈ nestings s visited cs ↔ k ≤ d := by
  constructor
  · exact fun hk => h.2 hk
  · intro hk
    obtain ⟨ids, hids, rfl⟩ := h.1
    exact ⟨ids.take k, hids.take k, by rw [List.length_take]; omega⟩

theorem depth_inlineText_eq {d : Nat} (h : IsGreatest (nestings s visited cs) d) (n : Nat) :
    (inlineText s n visited cs).depth = min n d := by
  refine eq_of_forall_le_iff fun k => ?_
  rw [le_min_iff, ← mem_nestings_iff h]
  exact le_depth_inlineText_iff

/-- Inlining goes no deeper than it may, and no deeper than there are formula fields that are not visited. For every
text there is one depth at which it comes to its end, the greatest number of fields that can be nested: up to it every
bound is reached, and from it on the text stays the same. -/
theorem saturates_inlineText (s : Schema) (visited : List String) (cs : List Char) :
    (∀ n, (inlineText s n visited cs).depth ≤ n ∧
      (inlineText s n visited cs).depth ≤ (s.unvisited visited).length) ∧
    ∃ d, IsGreatest (nestings s visited cs) d ∧ ∀ n, (inlineText s n visited cs).depth = min n d ∧
      (d ≤ n → (inlineText s n visited cs).text = (inlineText s d visited cs).text) := by
  constructor
  · intro n
    obtain ⟨hn, ids, hids, hlen⟩ := le_depth_inlineText_iff.1 (Nat.le_refl (inlineText s n visited cs).depth)
    exact ⟨hn, hlen ▸ hids.length_le⟩
  · obtain ⟨d, hd⟩ := exists_isGreatest_nestings s visited cs
    refine ⟨d, hd, fun n => ⟨depth_inlineText_eq hd n, fun hn => ?_⟩⟩
    exact text_inlineText_eq (fun ids hids => hd.2 ⟨ids, hids, rfl⟩) hn

end ComputedFields
