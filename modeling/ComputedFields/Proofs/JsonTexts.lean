import ComputedFields.Json.Text
import ComputedFields.Target.Quoting
import Mathlib.Tactic.SplitIfs

/-!
# JSON texts of values

- `Json.write`, `Json.text`: a value as a text without blanks;
- `Json.quoted_flatMap_escapeChar`: a string between quotes is read back, whatever its characters;
- `Json.ReadsAs`, `Json.Closes`: what one step of reading gives, and what is left of the text;
- `Json.Plain.readsBack`: the text of a value without numbers is read as that value.
-/

namespace ComputedFields.Json

/-! ## Strings -/

theorem hexDigit?_hexDigit : ∀ n < 16, hexDigit? (hexDigit n) = some n := by decide

theorem quoted_backslash {c c' : Char} (h : unescape? c = some c') (cs : List Char) :
    quoted ('\\' :: c :: cs) = (quoted cs).push c' 2 := by
  have hu : c ≠ 'u' := by
    rintro rfl
    cases h
  rw [quoted]
  · rw [h]
  · exact hu

theorem quoted_control {c : Char} (hc : c.toNat < 0x20) (cs : List Char) :
    quoted ('\\' :: 'u' :: '0' :: '0' :: hexDigit (c.toNat / 16) :: hexDigit (c.toNat % 16) :: cs) =
      (quoted cs).push c 6 := by
  have hdigits : fourHexDigits ('0' :: '0' :: hexDigit (c.toNat / 16) :: hexDigit (c.toNat % 16) :: cs) =
      .ok c.toNat := by
    have hzero : hexDigit? '0' = some 0 := rfl
    simp only [fourHexDigits, hzero, hexDigit?_hexDigit _ (by omega : c.toNat / 16 < 16),
      hexDigit?_hexDigit _ (by omega : c.toNat % 16 < 16)]
    congr 1
    omega
  have hleading : isLeadingSurrogate c.toNat = false := by
    simp only [isLeadingSurrogate, Bool.and_eq_false_iff, decide_eq_false_iff_not]
    omega
  have htrailing : isTrailingSurrogate c.toNat = false := by
    simp only [isTrailingSurrogate, Bool.and_eq_false_iff, decide_eq_false_iff_not]
    omega
  rw [quoted, hdigits]
  simp [hleading, htrailing]

theorem quoted_other {c : Char} (hquote : c ≠ '"') (hslash : c ≠ '\\') (hc : ¬c.toNat < 0x20) (cs : List Char) :
    quoted (c :: cs) = (quoted cs).push c 1 := by
  rw [quoted]
  · rw [if_neg hc]
  all_goals simp [hquote, hslash]

/-- One step of reading a string: a character as it is escaped. -/
theorem quoted_escapeChar (c : Char) (cs : List Char) :
    quoted (escapeChar c ++ cs) = (quoted cs).push c (escapeChar c).length := by
  unfold escapeChar
  split_ifs with h1 h2 h3 h4 h5 h6 h7 h8
  · exact quoted_backslash (by rw [h1]; rfl) cs
  · exact quoted_backslash (by rw [h2]; rfl) cs
  · exact quoted_backslash (by rw [h3]; rfl) cs
  · exact quoted_backslash (by rw [h4]; rfl) cs
  · exact quoted_backslash (by rw [h5]; rfl) cs
  · exact quoted_backslash (by rw [h6]; rfl) cs
  · exact quoted_backslash (by rw [h7]; rfl) cs
  · exact quoted_control h8 cs
  · exact quoted_other h1 h2 h8 cs

/-- Reading a whole string. -/
theorem quoted_flatMap_escapeChar (s r : List Char) :
    quoted (s.flatMap escapeChar ++ '"' :: r) = ⟨.ok s, .ok ((s.flatMap escapeChar).length + 1)⟩ := by
  induction s with
  | nil =>
    rw [List.flatMap_nil, List.nil_append, quoted]
    rfl
  | cons c s ih =>
    rw [List.flatMap_cons, List.append_assoc, quoted_escapeChar, ih, List.length_append, Nat.add_assoc]
    rfl

/-! ## Texts -/

/-- A string between quotes. -/
def writeString (s : String) : List Char := '"' :: (s.toList.flatMap escapeChar ++ ['"'])

mutual

/-- A value as a text without blanks. -/
def write : Json → List Char
  | .null => "null".toList
  | .bool true => "true".toList
  | .bool false => "false".toList
  | .number numeral => numeral.toList
  | .string s => writeString s
  | .array items => '[' :: writeItems items
  | .object members => '\x7b' :: writeMembers members

/-- Items and the closing bracket. -/
def writeItems : List Json → List Char
  | [] => [']']
  | j :: js => write j ++ writeMoreItems js

/-- Items after an item, and the closing bracket. -/
def writeMoreItems : List Json → List Char
  | [] => [']']
  | j :: js => ',' :: (write j ++ writeMoreItems js)

/-- Members and the closing brace. -/
def writeMembers : List (String × Json) → List Char
  | [] => ['\x7d']
  | (k, j) :: ms => writeString k ++ ':' :: (write j ++ writeMoreMembers ms)

/-- Members after a member, and the closing brace. -/
def writeMoreMembers : List (String × Json) → List Char
  | [] => ['\x7d']
  | (k, j) :: ms => ',' :: (writeString k ++ ':' :: (write j ++ writeMoreMembers ms))

end

/-! ## One step of reading -/

/-- A draft at the beginning of a text, and what is left after it. -/
def ReadsAs (cs : List Char) (d : Draft) (r : List Char) : Prop := (read cs).1 = d ∧ (read cs).2.1 = r

/-- The items or members up to the closing bracket or brace, and what is left after it. -/
def Closes {α : Type} {cs : List Char} (res : List α × Option Break × Rest cs) (xs : List α) (r : List Char) : Prop :=
  res.1 = xs ∧ res.2.1 = none ∧ res.2.2.1 = r

section

variable {cs r r' : List Char} {d : Draft} {ds : List Draft} {ms : List (Except Fault String × Draft)}

theorem skipBlanks_cons {c : Char} (h : isBlank c = false) (cs : List Char) : skipBlanks (c :: cs) = c :: cs := by
  rw [skipBlanks, List.dropWhile_cons, h]
  rfl

theorem readsAs_array (h : Closes (readItems cs) ds r) : ReadsAs ('[' :: cs) (.array ds none) r := by
  obtain ⟨rfl, hending, rfl⟩ := h
  rw [ReadsAs, read]
  split
  · next hcs => cases hcs
  · next hcs =>
    cases hcs
    exact ⟨congrArg (Draft.array _) hending, rfl⟩

theorem readsAs_object (h : Closes (readMembers cs) ms r) : ReadsAs ('\x7b' :: cs) (.object ms none) r := by
  obtain ⟨rfl, hending, rfl⟩ := h
  rw [ReadsAs, read]
  split
  · next hcs => cases hcs
  · next hcs =>
    cases hcs
    exact ⟨congrArg (Draft.object _) hending, rfl⟩

theorem drop_escaped (s r : List Char) :
    (s.flatMap escapeChar ++ '"' :: r).drop ((s.flatMap escapeChar).length + 1) = r := by
  rw [← List.drop_drop, List.drop_left]
  rfl

theorem readsAs_string (s : String) (r : List Char) : ReadsAs (writeString s ++ r) (.string (.ok s)) r := by
  have hread : readString (s.toList.flatMap escapeChar ++ '"' :: r) =
      (.string (.ok s), (s.toList.flatMap escapeChar).length + 1) := by
    rw [readString, quoted_flatMap_escapeChar]
    show (Draft.string (.ok (String.ofList s.toList)), _) = _
    rw [String.ofList_toList]
  rw [writeString, List.cons_append, List.append_assoc, List.singleton_append, ReadsAs, read]
  split
  · next hcs => cases hcs
  · next hcs =>
    cases hcs
    refine ⟨congrArg Prod.fst hread, ?_⟩
    show List.drop (readString _).2 _ = r
    rw [hread, drop_escaped]

theorem readsAs_scalar {c : Char} (hblank : isBlank c = false) (hc : c ≠ '[' ∧ c ≠ '\x7b' ∧ c ≠ '"') {n : Nat}
    (h : readScalar (c :: cs) = (d, n)) : ReadsAs (c :: cs) d ((c :: cs).drop n) := by
  obtain ⟨hbracket, hbrace, hquote⟩ := hc
  rw [ReadsAs, read]
  split
  · next hcs =>
    rw [skipBlanks_cons hblank] at hcs
    cases hcs
  · next hcs =>
    rw [skipBlanks_cons hblank] at hcs
    cases hcs
    rw [if_neg hbracket, if_neg hbrace, if_neg hquote]
    refine ⟨congrArg Prod.fst h, ?_⟩
    show List.drop (readScalar _).2 _ = _
    rw [h]

theorem closes_items_nil (r : List Char) : Closes (readItems (']' :: r)) [] r := by
  rw [Closes, readItems]
  split
  · next hcs => cases hcs
  · next hcs =>
    cases hcs
    exact ⟨rfl, rfl, rfl⟩

theorem closes_moreItems_nil (r : List Char) : Closes (readMoreItems (']' :: r)) [] r := by
  rw [Closes, readMoreItems]
  split
  · next hcs => cases hcs
  · next hcs =>
    cases hcs
    exact ⟨rfl, rfl, rfl⟩

/-- A character that an item may begin with. -/
def StartsItem (c : Char) : Prop := isBlank c = false ∧ c ≠ ']'

theorem closes_items_cons {c : Char} (hc : StartsItem c) (h : ReadsAs (c :: cs) d r)
    (h' : Closes (readMoreItems r) ds r') : Closes (readItems (c :: cs)) (d :: ds) r' := by
  obtain ⟨rfl, rfl⟩ := h
  obtain ⟨rfl, hending, rfl⟩ := h'
  rw [Closes, readItems]
  split
  · next hcs =>
    rw [skipBlanks_cons hc.1] at hcs
    cases hcs
  · next hcs =>
    rw [skipBlanks_cons hc.1] at hcs
    cases hcs
    rw [if_neg hc.2]
    exact ⟨rfl, hending, rfl⟩

theorem closes_moreItems_cons {c : Char} (hc : StartsItem c) (h : ReadsAs (c :: cs) d r)
    (h' : Closes (readMoreItems r) ds r') : Closes (readMoreItems (',' :: c :: cs)) (d :: ds) r' := by
  obtain ⟨rfl, rfl⟩ := h
  obtain ⟨rfl, hending, rfl⟩ := h'
  rw [Closes, readMoreItems]
  split
  · next hcs => cases hcs
  · next hcs =>
    cases hcs
    rw [if_neg (by decide), if_pos rfl]
    split
    · next hcs =>
      rw [skipBlanks_cons hc.1] at hcs
      cases hcs
    · next hcs =>
      rw [skipBlanks_cons hc.1] at hcs
      cases hcs
      exact absurd rfl hc.2
    · exact ⟨rfl, hending, rfl⟩

theorem closes_members_nil (r : List Char) : Closes (readMembers ('\x7d' :: r)) [] r := by
  rw [Closes, readMembers]
  split
  · next hcs => cases hcs
  · next hcs =>
    cases hcs
    exact ⟨rfl, rfl, rfl⟩

theorem closes_moreMembers_nil (r : List Char) : Closes (readMoreMembers ('\x7d' :: r)) [] r := by
  rw [Closes, readMoreMembers]
  split
  · next hcs => cases hcs
  · next hcs =>
    cases hcs
    exact ⟨rfl, rfl, rfl⟩

theorem closes_memberValue (k : Except Fault String) (h : ReadsAs cs d r) (h' : Closes (readMoreMembers r) ms r') :
    Closes (readMemberValue k (':' :: cs)) ((k, d) :: ms) r' := by
  obtain ⟨rfl, rfl⟩ := h
  obtain ⟨rfl, hending, rfl⟩ := h'
  rw [Closes, readMemberValue]
  split
  · next hcs => cases hcs
  · next hcs =>
    cases hcs
    exact ⟨rfl, hending, rfl⟩

theorem closes_member (k : String) (h : Closes (readMemberValue (.ok k) cs) ms r) :
    Closes (readMember (k.toList.flatMap escapeChar ++ '"' :: cs)) ms r := by
  have hquoted := quoted_flatMap_escapeChar k.toList cs
  rw [Closes, readMember]
  split
  · next hlength =>
    rw [hquoted] at hlength
    cases hlength
  · next hlength =>
    rw [hquoted] at hlength
    cases hlength
    show Closes (readMemberValue ((quoted _).content.map String.ofList) (List.drop _ _)) ms r
    rw [hquoted, drop_escaped]
    show Closes (readMemberValue (.ok (String.ofList k.toList)) cs) ms r
    rwa [String.ofList_toList]

theorem closes_members_cons (k : String) (h : Closes (readMemberValue (.ok k) cs) ms r) :
    Closes (readMembers (writeString k ++ cs)) ms r := by
  obtain ⟨rfl, hending, rfl⟩ := closes_member k h
  rw [writeString, List.cons_append, List.append_assoc, List.singleton_append, Closes, readMembers]
  split
  · next hcs => cases hcs
  · next hcs =>
    cases hcs
    exact ⟨rfl, hending, rfl⟩

theorem closes_moreMembers_cons (k : String) (h : Closes (readMemberValue (.ok k) cs) ms r) :
    Closes (readMoreMembers (',' :: (writeString k ++ cs))) ms r := by
  obtain ⟨rfl, hending, rfl⟩ := closes_member k h
  rw [writeString, List.cons_append, List.append_assoc, List.singleton_append, Closes, readMoreMembers]
  split
  · next hcs => cases hcs
  · next hcs =>
    cases hcs
    rw [if_neg (by decide), if_pos rfl]
    split
    · next hcs => cases hcs
    · next hcs =>
      cases hcs
      exact ⟨rfl, hending, rfl⟩

end

/-! ## Whole values -/

/-- A value without numbers. -/
inductive Plain : Json → Prop
  | null : Plain .null
  | bool (b : Bool) : Plain (.bool b)
  | string (s : String) : Plain (.string s)
  | array {items : List Json} : (∀ j ∈ items, Plain j) → Plain (.array items)
  | object {members : List (String × Json)} : (∀ m ∈ members, Plain m.2) → Plain (.object members)

/-- The text of a value is read as that value, whatever follows it. Its first character is needed too, since those who
read a list look at it to know whether the list ends. -/
def ReadsBack (j : Json) : Prop :=
  (∃ c cs, write j = c :: cs ∧ StartsItem c) ∧ ∀ r, ReadsAs (write j ++ r) j.draft r

theorem closes_writeMoreItems {js : List Json} (h : ∀ j ∈ js, ReadsBack j) (r : List Char) :
    Closes (readMoreItems (writeMoreItems js ++ r)) (draftItems js) r := by
  induction js with
  | nil =>
    rw [writeMoreItems]
    exact closes_moreItems_nil r
  | cons j js ih =>
    obtain ⟨⟨⟨c, cs, hwrite, hc⟩, hj⟩, hjs⟩ := List.forall_mem_cons.1 h
    have hread := hj (writeMoreItems js ++ r)
    rw [hwrite] at hread
    rw [writeMoreItems, hwrite, List.cons_append, List.append_assoc, draftItems]
    exact closes_moreItems_cons hc hread (ih hjs)

theorem closes_writeItems {js : List Json} (h : ∀ j ∈ js, ReadsBack j) (r : List Char) :
    Closes (readItems (writeItems js ++ r)) (draftItems js) r := by
  cases js with
  | nil =>
    rw [writeItems]
    exact closes_items_nil r
  | cons j js =>
    obtain ⟨⟨⟨c, cs, hwrite, hc⟩, hj⟩, hjs⟩ := List.forall_mem_cons.1 h
    have hread := hj (writeMoreItems js ++ r)
    rw [hwrite] at hread
    rw [writeItems, hwrite, List.append_assoc, draftItems]
    exact closes_items_cons hc hread (closes_writeMoreItems hjs r)

theorem closes_writeMoreMembers {ms : List (String × Json)} (h : ∀ m ∈ ms, ReadsBack m.2) (r : List Char) :
    Closes (readMoreMembers (writeMoreMembers ms ++ r)) (draftMembers ms) r := by
  induction ms with
  | nil =>
    rw [writeMoreMembers]
    exact closes_moreMembers_nil r
  | cons m ms ih =>
    obtain ⟨k, j⟩ := m
    obtain ⟨hj, hms⟩ := List.forall_mem_cons.1 h
    have hvalue := closes_memberValue (.ok k) (hj.2 (writeMoreMembers ms ++ r)) (ih hms)
    rw [writeMoreMembers, List.cons_append, List.append_assoc, List.cons_append, List.append_assoc, draftMembers]
    exact closes_moreMembers_cons k hvalue

theorem closes_writeMembers {ms : List (String × Json)} (h : ∀ m ∈ ms, ReadsBack m.2) (r : List Char) :
    Closes (readMembers (writeMembers ms ++ r)) (draftMembers ms) r := by
  cases ms with
  | nil =>
    rw [writeMembers]
    exact closes_members_nil r
  | cons m ms =>
    obtain ⟨k, j⟩ := m
    obtain ⟨hj, hms⟩ := List.forall_mem_cons.1 h
    have hvalue := closes_memberValue (.ok k) (hj.2 (writeMoreMembers ms ++ r)) (closes_writeMoreMembers hms r)
    rw [writeMembers, List.append_assoc, List.cons_append, List.append_assoc, draftMembers]
    exact closes_members_cons k hvalue

theorem readsBack_word {j : Json} {c : Char} {cs : List Char} (hwrite : write j = c :: cs) (hc : StartsItem c)
    (hne : c ≠ '[' ∧ c ≠ '\x7b' ∧ c ≠ '"')
    (h : ∀ r, readScalar (c :: (cs ++ r)) = (j.draft, (c :: cs).length)) : ReadsBack j := by
  refine ⟨⟨c, cs, hwrite, hc⟩, fun r => ?_⟩
  have hread := readsAs_scalar hc.1 hne (h r)
  rw [← List.cons_append, List.drop_left] at hread
  rwa [hwrite]

theorem Plain.readsBack {j : Json} (h : Plain j) : ReadsBack j := by
  induction h with
  | null => exact readsBack_word (by rw [write]; rfl) ⟨rfl, by decide⟩ (by decide) fun r => rfl
  | bool b =>
    cases b with
    | true => exact readsBack_word (by rw [write]; rfl) ⟨rfl, by decide⟩ (by decide) fun r => rfl
    | false => exact readsBack_word (by rw [write]; rfl) ⟨rfl, by decide⟩ (by decide) fun r => rfl
  | string s =>
    refine ⟨⟨'"', _, by rw [write]; rfl, rfl, by decide⟩, fun r => ?_⟩
    rw [write, draft]
    exact readsAs_string s r
  | array _ ih =>
    refine ⟨⟨'[', _, by rw [write], rfl, by decide⟩, fun r => ?_⟩
    rw [write, draft]
    exact readsAs_array (closes_writeItems ih r)
  | object _ ih =>
    refine ⟨⟨'\x7b', _, by rw [write], rfl, by decide⟩, fun r => ?_⟩
    rw [write, draft]
    exact readsAs_object (closes_writeMembers ih r)

/-- A value as a text. -/
def text (j : Json) : String := String.ofList j.write

/-- A text of a value: it is read as the value, and only blanks come after it. -/
def IsText (text : String) (j : Json) : Prop := ∃ r, ReadsAs text.toList j.draft r ∧ skipBlanks r = []

theorem Plain.isText {j : Json} (h : Plain j) : IsText j.text j := by
  refine ⟨[], ?_, rfl⟩
  have hread := h.readsBack.2 []
  rwa [List.append_nil, ← String.toList_ofList (l := j.write)] at hread

end ComputedFields.Json
