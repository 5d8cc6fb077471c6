import ComputedFields.Proofs.NameWords
import ComputedFields.Proofs.TokenPositions
import ComputedFields.Schema.Aggregation

/-!
# Separators of joins

A join names its separator in quotes after the first comma of its arguments. The quotes that count are the outermost
ones, so the separator may have quotes, commas, brackets and whitespace of its own.

- `Text.upperChars_of_map_toLower_eq`: the upper case form of a word is the same for all its spellings;
- `JoinText.parse_text`: so the separator of a join is read back;
- `Text.slice?`: the part of a text between two positions, if these are positions of the text;
- `Aggregation.parseSliced?`: the reader that cuts such parts out, of which `Aggregation.parseSliced?_eq` says that it
  never asks for one that is not there.
-/

namespace ComputedFields

/-! ## Letters in either case -/

namespace Text

variable {c d : Char}

theorem toNat_toLower (h : c.isUpper = true) : c.toLower.toNat = c.toNat + 32 := by
  have hc : 65 ≤ c.val ∧ c.val ≤ 90 := decide_eq_true_iff.1 h
  have hval : c.toLower.val = c.val + 32 := congrArg Char.val (dif_pos hc)
  have hle := (isUpper_iff.1 h).2
  change c.val.toNat ≤ 90 at hle
  change c.toLower.val.toNat = c.val.toNat + 32
  rw [hval, UInt32.toNat_add, show (32 : UInt32).toNat = 32 from rfl]
  omega

/-- The spellings of a capital: itself and its small letter. -/
theorem eq_or_toNat_eq_of_toLower_eq (hd : d.isUpper = true) (h : c.toLower = d.toLower) :
    c = d ∨ c.toNat = d.toNat + 32 := by
  have hn := congrArg Char.toNat h
  rw [toNat_toLower hd] at hn
  cases hc : c.isUpper with
  | true =>
    rw [toNat_toLower hc] at hn
    exact .inl (Char.toNat_inj.1 (Nat.add_right_cancel hn))
  | false => exact .inr (by rwa [toLower_eq_self hc] at hn)

theorem isAlpha_of_toLower_eq (hd : d.isUpper = true) (h : c.toLower = d.toLower) : c.isAlpha = true := by
  have hbounds := isUpper_iff.1 hd
  rw [isAlpha_iff]
  obtain rfl | hc := eq_or_toNat_eq_of_toLower_eq hd h <;> omega

theorem upperChar_of_toLower_eq (hd : d.isUpper = true) (h : c.toLower = d.toLower) : upperChar c = [d] := by
  have hbounds := isUpper_iff.1 hd
  obtain rfl | hc := eq_or_toNat_eq_of_toLower_eq hd h
  · rw [upperChar_of_lt (by omega), CaseRun.image?, if_neg (by simp only; omega)]
    rfl
  · rw [upperChar_of_lt (by omega), CaseRun.image?, if_pos (by simp only; omega)]
    have himage : ((c.toNat : Int) + -32).toNat = d.toNat := by omega
    rw [himage, Option.map_some, Char.ofNat_toNat]
    rfl

theorem upperChars_of_map_toLower_eq {cs ds : List Char} (hd : ∀ d ∈ ds, d.isUpper = true)
    (h : cs.map Char.toLower = ds.map Char.toLower) : upperChars cs = ds := by
  induction ds generalizing cs with
  | nil =>
    rw [List.map_eq_nil_iff.1 h]
    rfl
  | cons d ds ih =>
    cases cs with
    | nil => cases h
    | cons c cs =>
      obtain ⟨hc, hcs⟩ := List.cons.inj h
      obtain ⟨hd, hds⟩ := List.forall_mem_cons.1 hd
      rw [upperChars, List.flatMap_cons, upperChar_of_toLower_eq hd hc]
      exact congrArg (d :: ·) (ih hds hcs)

theorem isWhitespace_eq_false_of_isAlpha (h : c.isAlpha = true) : isWhitespace c = false := by
  have hbounds := isAlpha_iff.1 h
  simp only [isWhitespace, Bool.or_eq_false_iff, Bool.and_eq_false_iff, decide_eq_false_iff_not, beq_eq_false_iff_ne]
  omega

end Text

/-! ## Cuts -/

section Cuts

variable {c : Char} {cs ds : List Char}

theorem bne_of_notMem (h : c ∉ cs) : ∀ d ∈ cs, (d != c) = true :=
  fun _ hd => bne_iff_ne.2 fun he => h (he ▸ hd)

theorem takeWhile_ne_append (h : c ∉ cs) : (cs ++ c :: ds).takeWhile (· != c) = cs := by
  rw [List.takeWhile_append_of_pos (bne_of_notMem h)]
  simp

theorem dropWhile_ne_append (h : c ∉ cs) : (cs ++ c :: ds).dropWhile (· != c) = c :: ds := by
  rw [List.dropWhile_append_of_pos (bne_of_notMem h)]
  simp

theorem Aggregation.nameAndArguments_append (h : '(' ∉ cs) : nameAndArguments (cs ++ '(' :: ds) =
    if ds.getLast? = some ')' then (cs, ds.dropLast) else (cs ++ '(' :: ds, []) := by
  simp only [nameAndArguments, dropWhile_ne_append h, takeWhile_ne_append h]

theorem Aggregation.nameAndArguments_of_notMem (h : '(' ∉ cs) : nameAndArguments cs = (cs, []) := by
  rw [nameAndArguments, List.dropWhile_eq_nil_iff.2 (bne_of_notMem h)]

theorem Aggregation.ofName?_join (arguments : List Char) :
    ofName? "ARRAYJOIN" arguments = some (arrayJoin (separator arguments)) := rfl

theorem Aggregation.unquote?_eq_some_iff :
    unquote? cs = some ds ↔ ∃ q, (q = '"' ∨ q = '\'') ∧ cs = q :: (ds ++ [q]) := by
  constructor
  · intro h
    cases cs with
    | nil => cases h
    | cons q cs =>
      rw [unquote?] at h
      split_ifs at h with hq
      obtain ⟨hq, hlast⟩ := hq
      obtain ⟨init, rfl⟩ := List.getLast?_eq_some_iff.1 hlast
      cases h
      exact ⟨q, hq, by rw [List.dropLast_concat]⟩
  · rintro ⟨q, hq, rfl⟩
    rw [unquote?, if_pos ⟨hq, List.getLast?_concat⟩, List.dropLast_concat]

end Cuts

/-! ## Joins -/

/-- The text of a join with a quoted separator. The name may be spelled in any case, and whitespace may stand around the
text, around the name and around the quoted separator. The first argument is any text without a comma. Brackets in it do
no harm, since the arguments reach from the first opening bracket, which is before it, to the closing one at the end. -/
structure JoinText where
  front : List Char
  name : String
  afterName : List Char
  argument : List Char
  beforeQuoted : List Char
  quote : Char
  separator : String
  afterQuoted : List Char
  back : List Char
  name_eq : Text.eqIgnoringAsciiCase name "ARRAYJOIN" = true
  quote_eq : quote = '"' ∨ quote = '\''
  comma_notMem : ',' ∉ argument
  isBlank_front : IsBlank front
  isBlank_afterName : IsBlank afterName
  isBlank_beforeQuoted : IsBlank beforeQuoted
  isBlank_afterQuoted : IsBlank afterQuoted
  isBlank_back : IsBlank back

namespace JoinText

variable (j : JoinText)

def quoted : List Char := j.quote :: (j.separator.toList ++ [j.quote])

def arguments : List Char := j.argument ++ ',' :: (j.beforeQuoted ++ (j.quoted ++ j.afterQuoted))

def call : List Char := (j.name.toList ++ j.afterName) ++ '(' :: (j.arguments ++ [')'])

def text : String := String.ofList (j.front ++ (j.call ++ j.back))

theorem isUpper_of_mem_arrayJoin : ∀ d ∈ "ARRAYJOIN".toList, d.isUpper = true := by
  rw [show "ARRAYJOIN".toList = ['A', 'R', 'R', 'A', 'Y', 'J', 'O', 'I', 'N'] from String.toList_ofList]
  exact List.all_eq_true.1 rfl

theorem map_toLower_name : j.name.toList.map Char.toLower = "ARRAYJOIN".toList.map Char.toLower :=
  eq_of_beq j.name_eq

theorem upperChars_name : String.ofList (Text.upperChars j.name.toList) = "ARRAYJOIN" := by
  rw [Text.upperChars_of_map_toLower_eq isUpper_of_mem_arrayJoin j.map_toLower_name, String.ofList_toList]

theorem isAlpha_of_mem_name {c : Char} (h : c ∈ j.name.toList) : c.isAlpha = true := by
  have hmem : c.toLower ∈ "ARRAYJOIN".toList.map Char.toLower := j.map_toLower_name ▸ List.mem_map_of_mem h
  obtain ⟨d, hd, hlower⟩ := List.mem_map.1 hmem
  exact Text.isAlpha_of_toLower_eq (isUpper_of_mem_arrayJoin d hd) hlower.symm

theorem name_ne_nil : j.name.toList ≠ [] := by
  intro h
  have hmap := j.map_toLower_name
  rw [h, List.map_nil, eq_comm, List.map_eq_nil_iff, String.toList_eq_nil_iff] at hmap
  exact absurd hmap (by decide)

theorem isWhitespace_of_mem_name {c : Char} (h : c ∈ j.name.toList) : Text.isWhitespace c = false :=
  Text.isWhitespace_eq_false_of_isAlpha (j.isAlpha_of_mem_name h)

theorem isWhitespace_quote : Text.isWhitespace j.quote = false := by
  rcases j.quote_eq with h | h <;> rw [h] <;> rfl

theorem trimChars_text : Text.trimChars j.text.toList = j.call := by
  rw [text, String.toList_ofList]
  refine trimChars_append j.isBlank_front j.isBlank_back (by simp [call]) ?_ ?_
  · intro c hc
    rw [call, List.append_assoc, List.head?_append_of_ne_nil _ j.name_ne_nil] at hc
    exact j.isWhitespace_of_mem_name (List.mem_of_mem_head? hc)
  · intro c hc
    have hlast : c = ')' := by simpa [call, List.getLast?_append, List.getLast?_cons] using hc.symm
    rw [hlast]
    rfl

theorem trimChars_name : Text.trimChars (j.name.toList ++ j.afterName) = j.name.toList :=
  trimChars_append (w := []) (List.forall_mem_nil _) j.isBlank_afterName j.name_ne_nil
    (fun _ hc => j.isWhitespace_of_mem_name (List.mem_of_mem_head? hc))
    fun _ hc => j.isWhitespace_of_mem_name (List.mem_of_mem_getLast? hc)

theorem nameAndArguments_call : Aggregation.nameAndArguments j.call = (j.name.toList ++ j.afterName, j.arguments) := by
  have hbracket : '(' ∉ j.name.toList ++ j.afterName := by
    intro h
    obtain h | h := List.mem_append.1 h
    · cases j.isAlpha_of_mem_name h
    · cases j.isBlank_afterName _ h
  rw [call, Aggregation.nameAndArguments_append hbracket, if_pos List.getLast?_concat, List.dropLast_concat]

theorem unquote?_quoted : Aggregation.unquote? j.quoted = some j.separator.toList :=
  Aggregation.unquote?_eq_some_iff.2 ⟨j.quote, j.quote_eq, rfl⟩

theorem separator_arguments : Aggregation.separator j.arguments = j.separator := by
  have htrim : Text.trimChars (j.beforeQuoted ++ (j.quoted ++ j.afterQuoted)) = j.quoted := by
    refine trimChars_append j.isBlank_beforeQuoted j.isBlank_afterQuoted (by simp [quoted]) ?_ ?_
    · simpa [quoted] using j.isWhitespace_quote
    · simpa [quoted, List.getLast?_cons] using j.isWhitespace_quote
  simp only [arguments, Aggregation.separator, dropWhile_ne_append j.comma_notMem, htrim, j.unquote?_quoted,
    String.ofList_toList]

theorem parse_text : Aggregation.parse j.text = .arrayJoin j.separator := by
  simp only [Aggregation.parse, j.trimChars_text, j.nameAndArguments_call, j.trimChars_name, j.upperChars_name,
    Aggregation.ofName?_join, j.separator_arguments, Option.getD_some]

end JoinText

/-! ## Slices -/

/-- The part of a text between two positions, counted in bytes. There is none unless both lie between characters of the
text, in this order. -/
def Text.slice? (s : String) (start stop : Nat) : Option String := do
  let p ← s.pos? ⟨start⟩
  let q ← s.pos? ⟨stop⟩
  let slice ← s.slice? p q
  return slice.copy

/-- The number of bytes before the first place of a character. -/
def Text.position? (c : Char) (s : String) : Option Nat :=
  if c ∈ s.toList then some (Text.byteLength (s.toList.takeWhile (· != c))) else none

theorem pos?_offset {s : String} (p : s.Pos) : s.pos? p.offset = some p := by
  have h : p.offset.isValidForSlice s.toSlice = true := by simp [p.isValid]
  exact congrArg (Option.map String.Pos.ofToSlice) (dif_pos h)

/-- A part of a text is the slice between the positions at its start and at its stop. -/
theorem slice?_eq {s : String} {before source after : List Char} (h : s.toList = before ++ source ++ after) :
    Text.slice? s (Text.byteLength before) (Text.byteLength before + Text.byteLength source) =
      some (String.ofList source) := by
  obtain ⟨q, hq⟩ := exists_splits h
  rw [List.append_assoc] at h
  obtain ⟨p, hp⟩ := exists_splits h
  have hstart : p.offset = ⟨Text.byteLength before⟩ := String.Pos.Raw.ext (byteIdx_of_splits hp)
  have hstop : q.offset = ⟨Text.byteLength before + Text.byteLength source⟩ :=
    String.Pos.Raw.ext (by rw [byteIdx_of_splits hq, Text.byteLength_append])
  rw [String.ofList_append] at hp hq
  obtain ⟨hle, hcopy⟩ := String.copy_slice_eq_iff_splits.2 ⟨_, _, hp, hq⟩
  have hslice : s.slice? p q = some (s.slice p q hle) := dif_pos hle
  rw [Text.slice?, ← hstart, ← hstop, pos?_offset, pos?_offset, ← hcopy]
  simp only [Option.bind_eq_bind, Option.bind_some, hslice]
  rfl

-- no slice starts inside a character or goes backwards
example : Text.slice? "é(" 1 3 = none ∧ Text.slice? "()" 2 1 = none := by decide

/-- What stands before a last character of one byte. -/
theorem slice?_eq_of_last {s : String} {before source : List Char} {c : Char} (hc : c.utf8Size = 1)
    (h : s.toList = before ++ source ++ [c]) :
    Text.slice? s (Text.byteLength before) (s.utf8ByteSize - 1) = some (String.ofList source) := by
  have hsize : s.utf8ByteSize = Text.byteLength before + Text.byteLength source + 1 := by
    rw [← Text.byteLength_toList, h, Text.byteLength_append, Text.byteLength_append, Text.byteLength, hc]
    rfl
  rw [hsize, Nat.add_sub_cancel]
  exact slice?_eq h

namespace Aggregation

/-- The name and the arguments, cut out of a text at positions. -/
def slicedNameAndArguments? (s : String) : Option (String × String) :=
  match Text.position? '(' s with
  | some bracket =>
    if s.toList.getLast? = some ')' then do
      let name ← Text.slice? s 0 bracket
      let arguments ← Text.slice? s (bracket + 1) (s.utf8ByteSize - 1)
      return (name, arguments)
    else some (s, "")
  | none => some (s, "")

/-- Whether a text has at least two bytes and the same quote at both ends. -/
def isQuoted (s : String) : Bool :=
  ['"', '\''].any fun q => 2 ≤ s.utf8ByteSize && s.toList.head? == some q && s.toList.getLast? == some q

/-- The separator in the arguments of a join, cut out of them at positions. -/
def slicedSeparator? (arguments : String) : Option String :=
  match arguments.toList.dropWhile (· != ',') with
  | [] => some defaultSeparator
  | _ :: rest =>
    let last := Text.trim (String.ofList rest)
    if isQuoted last then Text.slice? last 1 (last.utf8ByteSize - 1) else some defaultSeparator

/-- Reads an aggregation by cutting slices out of its text. There is no result if a slice is out of range. -/
def parseSliced? (text : String) : Option Aggregation := do
  let trimmed := Text.trim text
  let (name, arguments) ← slicedNameAndArguments? trimmed
  let upper := Text.toUpper (Text.trim name)
  if upper = "ARRAYJOIN" then
    return arrayJoin (← slicedSeparator? arguments)
  else
    return (ofName? upper []).getD (unknown trimmed)

theorem slicedNameAndArguments?_eq (s : String) : slicedNameAndArguments? s =
    some (String.ofList (nameAndArguments s.toList).1, String.ofList (nameAndArguments s.toList).2) := by
  by_cases hmem : '(' ∈ s.toList
  · obtain ⟨name, inner, hs, hname⟩ := List.eq_append_cons_of_mem hmem
    have hposition : Text.position? '(' s = some (Text.byteLength name) := by
      rw [Text.position?, if_pos hmem, hs, takeWhile_ne_append hname]
    -- An opening bracket at the end closes nothing, so there is room for the arguments before a closing one.
    have hend : s.toList.getLast? = some ')' ↔ inner.getLast? = some ')' := by
      cases inner <;> simp [hs, List.getLast?_append, List.getLast?_cons]
    simp only [slicedNameAndArguments?, hposition, hend]
    rw [hs, nameAndArguments_append hname]
    split_ifs with hlast
    · obtain ⟨arguments, rfl⟩ := List.getLast?_eq_some_iff.1 hlast
      have hfront : Text.slice? s 0 (Text.byteLength name) = some (String.ofList name) := by
        simpa [Text.byteLength] using slice?_eq (show s.toList = [] ++ name ++ '(' :: (arguments ++ [')']) from hs)
      have hback : Text.slice? s (Text.byteLength name + 1) (s.utf8ByteSize - 1) = some (String.ofList arguments) := by
        rw [← slice?_eq_of_last rfl (show s.toList = (name ++ ['(']) ++ arguments ++ [')'] by simp [hs]),
          Text.byteLength_append]
        rfl
      rw [hfront, hback, List.dropLast_concat]
      rfl
    · rw [← hs, String.ofList_toList]
  · rw [slicedNameAndArguments?, Text.position?, if_neg hmem, nameAndArguments_of_notMem hmem, String.ofList_toList]

theorem utf8Size_quote {q : Char} (h : q = '"' ∨ q = '\'') : q.utf8Size = 1 := by
  rcases h with rfl | rfl <;> rfl

theorem isQuoted_iff {s : String} :
    isQuoted s = true ↔ ∃ q inner, (q = '"' ∨ q = '\'') ∧ s.toList = q :: (inner ++ [q]) := by
  simp only [isQuoted, List.any_eq_true, List.mem_cons, List.not_mem_nil, or_false, Bool.and_eq_true, decide_eq_true_eq,
    beq_iff_eq, ← Text.byteLength_toList]
  constructor
  · rintro ⟨q, hq, ⟨hsize, hhead⟩, hlast⟩
    obtain ⟨cs, hs⟩ := List.head?_eq_some_iff.1 hhead
    rw [hs] at hsize hlast ⊢
    cases cs with
    | nil =>
      -- a single quote cannot open and close a text
      simp [Text.byteLength, utf8Size_quote hq] at hsize
    | cons c cs =>
      rw [List.getLast?_cons_cons] at hlast
      obtain ⟨inner, hinner⟩ := List.getLast?_eq_some_iff.1 hlast
      exact ⟨q, inner, hq, by rw [hinner]⟩
  · rintro ⟨q, inner, hq, hs⟩
    refine ⟨q, hq, ?_⟩
    rw [hs, Text.byteLength, Text.byteLength_append, Text.byteLength, utf8Size_quote hq]
    exact ⟨⟨by omega, rfl⟩, by simp [List.getLast?_cons]⟩

theorem slicedSeparator?_eq (arguments : String) :
    slicedSeparator? arguments = some (separator arguments.toList) := by
  rw [slicedSeparator?, separator]
  cases arguments.toList.dropWhile (· != ',') with
  | nil => rfl
  | cons c rest =>
    simp only [Text.trim, String.toList_ofList]
    generalize Text.trimChars rest = cs
    cases hcs : unquote? cs with
    | some inner =>
      obtain ⟨q, hq, rfl⟩ := unquote?_eq_some_iff.1 hcs
      have hquoted : isQuoted (String.ofList (q :: (inner ++ [q]))) = true :=
        isQuoted_iff.2 ⟨q, inner, hq, String.toList_ofList⟩
      have hsize : Text.byteLength [q] = 1 := utf8Size_quote hq
      have hslice := slice?_eq_of_last (utf8Size_quote hq)
        (show (String.ofList (q :: (inner ++ [q]))).toList = [q] ++ inner ++ [q] from String.toList_ofList)
      rw [hsize] at hslice
      rw [if_pos hquoted, hslice]
    | none =>
      have hquoted : ¬ isQuoted (String.ofList cs) = true := by
        intro h
        obtain ⟨q, inner, hq, hs⟩ := isQuoted_iff.1 h
        rw [String.toList_ofList] at hs
        rw [unquote?_eq_some_iff.2 ⟨q, hq, hs⟩] at hcs
        cases hcs
      rw [if_neg hquoted]

/-- No other aggregation looks at its arguments. -/
theorem ofName?_of_ne {name : String} (h : name ≠ "ARRAYJOIN") (arguments : List Char) :
    ofName? name arguments = ofName? name [] := by
  simp only [ofName?, if_neg h]

theorem parseSliced?_eq (text : String) : parseSliced? text = some (parse text) := by
  simp only [parseSliced?, parse, slicedNameAndArguments?_eq, Option.bind_eq_bind, Option.bind_some, Text.trim,
    Text.toUpper, String.toList_ofList, slicedSeparator?_eq]
  split_ifs with h
  · rw [h, ofName?_join, Option.getD_some, Option.pure_def]
  · rw [ofName?_of_ne h (nameAndArguments (Text.trimChars text.toList)).2, Option.pure_def]

end Aggregation

/-- The separator of a join is read back as it was written, whatever characters it has. No text makes the reader cut out
a slice that is not there. -/
theorem parse_joinText : (∀ j : JoinText, Aggregation.parse j.text = .arrayJoin j.separator) ∧
    ∀ text, Aggregation.parseSliced? text = some (Aggregation.parse text) :=
  ⟨JoinText.parse_text, Aggregation.parseSliced?_eq⟩

/-- A join with mixed letters, whitespace wherever it may stand, and all delimiters in its separator. -/
def crowdedJoin : JoinText where
  front := [' ']
  name := "ArrayJOIN"
  afterName := ['\t']
  argument := ['v', ' ']
  beforeQuoted := ['\n']
  quote := '\''
  separator := " '),(\" "
  afterQuoted := [' ']
  back := ['\n']
  name_eq := by decide
  quote_eq := .inr rfl
  comma_notMem := by decide
  isBlank_front := List.forall_mem_singleton.2 rfl
  isBlank_afterName := List.forall_mem_singleton.2 rfl
  isBlank_beforeQuoted := List.forall_mem_singleton.2 rfl
  isBlank_afterQuoted := List.forall_mem_singleton.2 rfl
  isBlank_back := List.forall_mem_singleton.2 rfl

theorem parse_crowdedJoin : Aggregation.parse " ArrayJOIN\t(v ,\n' '),(\" ' )\n" = .arrayJoin " '),(\" " :=
  parse_joinText.1 crowdedJoin

end ComputedFields
