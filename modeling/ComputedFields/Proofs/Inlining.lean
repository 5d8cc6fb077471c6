import ComputedFields.Dependency.Graph
import ComputedFields.Formula.Evaluation
import ComputedFields.Proofs.Fields
import ComputedFields.Proofs.Lexing

/-!
# Inlining

Inlining replaces references in the text of a formula. `Schema.inline` does the same to the formula itself, and the two
agree (`parse_inlineText`). The argument for one round of replacements has two halves:

- the text that comes out is spelled by the tokens of the text that goes in, with some references replaced by tokens in
  brackets (`Spells.splice`). A token ends where it did before since a reference and the bracket in its place both end
  it (`SameFront`);
- tokens in brackets derive an operand wherever a reference does, so the new tokens derive the formula with its
  references replaced (`Derives.expand`).

Both halves are put together for every round by induction on the depth (`Spells.inlineText`).

A replacement that has the value of the field it replaces does not change the value of a formula, so inlining keeps
values and errors for records that hold the values of the inlined formulas (`evaluate_parse_inlineText`).
-/

namespace ComputedFields

/-! ## Formulas -/

namespace Formula

mutual

/-- The formula with the references for which there is a replacement replaced. -/
def substitute (σ : String → Option Formula) : Formula → Formula
  | literal l => literal l
  | field r => (σ r.id).getD (field r)
  | call name arguments => call name (substituteAll σ arguments)
  | binary op left right => binary op (substitute σ left) (substitute σ right)
  | unary op operand => unary op (substitute σ operand)

def substituteAll (σ : String → Option Formula) : List Formula → List Formula
  | [] => []
  | f :: fs => substitute σ f :: substituteAll σ fs

end

theorem substituteAll_eq_map (σ : String → Option Formula) (fs : List Formula) :
    substituteAll σ fs = fs.map (substitute σ) := by
  induction fs with
  | nil => rfl
  | cons f fs ih => rw [substituteAll, ih, List.map_cons]

end Formula

/-- The formula of a formula field, if it has one that can be read. -/
def Schema.readFormula? (s : Schema) (id : String) : Option Formula :=
  match (s.field? id).bind (·.formula?) with
  | some (.ok f) => some f
  | _ => none

theorem Schema.readFormula?_of_parse {s : Schema} {id text : String} {f : Field} {formula : Formula}
    (hf : s.field? id = some f) (ht : f.formulaText? = some text) (hp : parse text = .ok formula) :
    s.readFormula? id = some formula := by
  simp only [readFormula?, hf, Option.bind_some, Field.formula?, ht, Option.map_some, hp]

/-- The formula that replaces a reference, unless its field has been visited. -/
def Schema.inlineFormula? (s : Schema) (visited : List String) (id : String) : Option Formula :=
  if id ∈ visited then none else s.readFormula? id

/-- A formula with references to formula fields replaced by their formulas, up to a depth. -/
def Schema.inline (s : Schema) : Nat → List String → Formula → Formula
  | 0, _, f => f
  | n + 1, visited, f => f.substitute fun id => (s.inlineFormula? visited id).map (s.inline n (id :: visited))

/-! ## Replaced tokens -/

/-- A token with a reference replaced by tokens in brackets. -/
def TokenKind.expand (ρ : String → Option (List TokenKind)) : TokenKind → List TokenKind
  | .fieldRef id =>
    match ρ id with
    | some ks => .leftParen :: ks ++ [.rightParen]
    | none => [.fieldRef id]
  | k => [k]

/-- Replacing references keeps the operators of every level. -/
theorem expand_of_ofToken? {ρ : String → Option (List TokenKind)} {l : Nat} {k : TokenKind} {op : BinaryOp}
    (h : BinaryOp.ofToken? l k = some op) : k.expand ρ = [k] := by
  cases k with
  | fieldRef id =>
    rw [ofToken?_fieldRef] at h
    cases h
  | _ => rfl

theorem flatMap_intercalate {α β : Type} (g : α → List β) (sep : List α) (ls : List (List α)) :
    (List.intercalate sep ls).flatMap g = List.intercalate (sep.flatMap g) (ls.map (List.flatMap g)) := by
  induction ls with
  | nil => simp
  | cons l ls ih =>
    cases ls with
    | nil => simp
    | cons l' ls => simp_all [List.intercalate]

theorem Derives.expand {ρ : String → Option (List TokenKind)} {σ : String → Option Formula}
    (hρ : ∀ id, Option.Rel (Derives loosest) (ρ id) (σ id)) {l : Nat} {ks : List TokenKind} {f : Formula}
    (h : Derives l ks f) : Derives l (ks.flatMap (·.expand ρ)) (f.substitute σ) := by
  induction h with
  | number x => exact .number x
  | text s => exact .text s
  | boolean b => exact .boolean b
  | booleanCall b => exact .booleanCall b
  | field id =>
    have hi := hρ id
    simp only [List.flatMap_cons, List.flatMap_nil, List.append_nil, TokenKind.expand, Formula.substitute]
    generalize ρ id = tokens at hi ⊢
    generalize σ id = formula at hi ⊢
    cases hi with
    | none => exact .field id
    | some hi => exact hi.paren
  | paren _ ih => simpa [TokenKind.expand] using ih.paren
  | not hn _ ih => simpa [TokenKind.expand, Formula.substitute] using ih.not hn
  | @call name parts hn _ ih =>
    have hp := Derives.call (parts.map fun p => (p.1.flatMap (·.expand ρ), p.2.substitute σ)) hn
      (List.forall_mem_map.2 ih)
    simpa [TokenKind.expand, Formula.substitute, Formula.substituteAll_eq_map, flatMap_intercalate,
      Function.comp_def] using hp
  | minus _ ih => exact ih.minus
  | plus _ ih => exact ih.plus
  | tighter _ ih => exact ih.tighter
  | binary _ ho _ ihl ihr =>
    rw [List.flatMap_append, List.flatMap_cons, expand_of_ofToken? ho]
    exact ihl.binary ho ihr

theorem DerivesFormula.expand {ρ : String → Option (List TokenKind)} {σ : String → Option Formula}
    (hρ : ∀ id, Option.Rel (Derives loosest) (ρ id) (σ id)) {ks : List TokenKind} {f : Formula}
    (h : DerivesFormula ks f) : DerivesFormula (ks.flatMap (·.expand ρ)) (f.substitute σ) := by
  obtain h | ⟨ks', rfl, h⟩ := h
  · exact .inl (h.expand hρ)
  · exact .inr ⟨_, rfl, h.expand hρ⟩

/-! ## Replaced text -/

/-- The text of a segment with a reference replaced by text in brackets. -/
def Segment.splice (τ : String → Option (List Char)) : Segment → List Char
  | plain source => source
  | reference source id =>
    match τ id with
    | some inner => '(' :: inner ++ [')']
    | none => source

theorem inlineText_succ (s : Schema) (n : Nat) (visited : List String) (cs : List Char) :
    (inlineText s (n + 1) visited cs).text = (segments cs).flatMap (Segment.splice fun id =>
      (inlinable? s visited id).map fun inner => (inlineText s n (id :: visited) inner).text) := by
  simp only [inlineText, Inlined.join, List.flatMap_map]
  congr 1
  funext segment
  cases segment with
  | plain source => rfl
  | reference source id =>
    simp only [Segment.splice]
    cases inlinable? s visited id <;> rfl

/-- Texts that are the same up to a place where neither goes on with a token. -/
def SameFront (cs ds : List Char) : Prop := ∃ p u v, cs = p ++ u ∧ ds = p ++ v ∧ Ends u ∧ Ends v

theorem SameFront.refl (cs : List Char) : SameFront cs cs := ⟨cs, [], [], by simp, by simp, ends_nil, ends_nil⟩

theorem SameFront.append_left {cs ds : List Char} (h : SameFront cs ds) (w : List Char) :
    SameFront (w ++ cs) (w ++ ds) := by
  obtain ⟨p, u, v, rfl, rfl, hu, hv⟩ := h
  exact ⟨w ++ p, u, v, by simp, by simp, hu, hv⟩

/-- A token is read in the same way in front of either text. -/
theorem SameFront.read {cs ds body : List Char} (h : SameFront cs ds) {c : Char} {k : TokenKind}
    (hr : TokenKind.read c (body ++ cs) = .ok (k, body.length)) :
    TokenKind.read c (body ++ ds) = .ok (k, body.length) := by
  obtain ⟨p, u, v, rfl, rfl, hu, hv⟩ := h
  rw [← List.append_assoc] at hr ⊢
  exact read_append_ends hr (by simp) hu hv

/-- A lexeme is a reference that is replaced, or stays as it is. -/
theorem Lexeme.splice_cases {τ : String → Option (List Char)} {ρ : String → Option (List TokenKind)}
    (hτ : ∀ id, Option.Rel Spells (τ id) (ρ id)) (l : Lexeme) :
    (∃ id inner ks, l.kind = .fieldRef id ∧ Spells inner ks ∧
        l.segments.flatMap (Segment.splice τ) = l.gap ++ ('(' :: inner ++ [')']) ∧
        l.kind.expand ρ = .leftParen :: ks ++ [.rightParen]) ∨
      (l.segments.flatMap (Segment.splice τ) = l.gap ++ l.source ∧ l.kind.expand ρ = [l.kind]) := by
  unfold Lexeme.segments
  cases hk : l.kind with
  | fieldRef id =>
    have hi := hτ id
    simp only [List.flatMap_cons, List.flatMap_nil, List.append_nil, Segment.splice, TokenKind.expand]
    generalize τ id = text at hi ⊢
    generalize ρ id = tokens at hi ⊢
    cases hi with
    | none => exact .inr ⟨rfl, rfl⟩
    | some hi => exact .inl ⟨id, _, _, rfl, hi, rfl, rfl⟩
  | _ => exact .inr ⟨by simp [Segment.splice], rfl⟩

/-- Text in brackets takes the place of references, and all other tokens stay as they are. -/
theorem Lexed.splice {τ : String → Option (List Char)} {ρ : String → Option (List TokenKind)}
    (hτ : ∀ id, Option.Rel Spells (τ id) (ρ id)) {cs rest : List Char} {ls : List Lexeme} (h : Lexed cs ls rest) :
    Spells ((ls.flatMap Lexeme.segments).flatMap (Segment.splice τ) ++ rest)
        ((ls.map (·.kind)).flatMap (·.expand ρ)) ∧
      SameFront cs ((ls.flatMap Lexeme.segments).flatMap (Segment.splice τ) ++ rest) := by
  induction h with
  | @blank cs hb => exact ⟨spells_of_isBlank hb, .refl cs⟩
  | @lexeme gap body after rest c kind ls hg hc hr hl ih =>
    obtain ⟨hs, hf⟩ := ih
    generalize ht : (ls.flatMap Lexeme.segments).flatMap (Segment.splice τ) ++ rest = tail at hs hf
    rw [List.flatMap_cons, List.flatMap_append, List.append_assoc, ht, List.map_cons, List.flatMap_cons]
    obtain ⟨id, inner, ks, hk, hi, hseg, hexp⟩ | ⟨hseg, hexp⟩ := Lexeme.splice_cases hτ ⟨gap, c :: body, kind⟩
    · rw [hseg, hexp, List.append_assoc, List.append_assoc]
      simp only at hk
      rw [hk] at hr
      have hb := eq_of_read_fieldRef hr
      refine ⟨(spells_blank_append hg).2 (by simpa using hi.bracketed hs), ?_⟩
      rw [hb, List.append_assoc]
      exact .append_left ⟨[], _, _, rfl, rfl, ends_cons.2 breaksToken_brace, ends_cons.2 breaksToken_leftParen⟩ gap
    · rw [hseg, hexp, List.append_assoc, List.append_assoc]
      refine ⟨(spells_blank_append hg).2 (.token hc (hf.read hr) hs), ?_⟩
      exact .append_left (.append_left hf _) gap

theorem Lexed.segments_eq {cs rest : List Char} {ls : List Lexeme} (h : Lexed cs ls rest) :
    segments cs = ls.flatMap Lexeme.segments ++ [.plain rest] := by
  simp only [segments, scan_eq_iff_lexed.2 h]

/-- The tokens of a formula after one step of inlining. -/
theorem Spells.splice {τ : String → Option (List Char)} {ρ : String → Option (List TokenKind)}
    (hτ : ∀ id, Option.Rel Spells (τ id) (ρ id)) {cs : List Char} {ks : List TokenKind} (h : Spells cs ks) :
    Spells ((segments cs).flatMap (Segment.splice τ)) (ks.flatMap (·.expand ρ)) := by
  obtain ⟨ls, rest, hl, rfl⟩ := h.exists_lexed
  rw [hl.segments_eq, List.flatMap_append]
  simpa [Segment.splice] using (hl.splice hτ).1

/-! ## Inlining -/

/-- Every formula of the schema can be read. -/
def Schema.Readable (s : Schema) : Prop := ∀ f ∈ s.fields, ∀ e, f.formula? ≠ some (.error e)

/-- The text that replaces a reference spells the formula that replaces it. -/
theorem Schema.Readable.inlinable? {s : Schema} (hs : s.Readable) (visited : List String) (id : String) :
    Option.Rel (fun body g => ∃ ks, Spells body ks ∧ Derives loosest ks g) (inlinable? s visited id)
      (s.inlineFormula? visited id) := by
  unfold ComputedFields.inlinable? Schema.inlineFormula? Schema.readFormula?
  split
  · exact .none
  · cases hf : s.field? id with
    | none => exact .none
    | some f =>
      have hr := hs f (field?_eq_some_iff.1 hf).1
      simp only [Option.bind_some, Field.formula?] at hr ⊢
      cases ht : f.formulaText? with
      | none => exact .none
      | some t =>
        cases hp : parse t with
        | error e => exact absurd (by rw [ht, Option.map_some, hp]) (hr e)
        | ok g =>
          simp only [Option.map_some, hp]
          exact .some (exists_spells_formulaBody hp)

/-- Inlined text spells the inlined formula, whether an equals sign stands in front or not. -/
theorem Spells.inlineText {s : Schema} (hs : s.Readable) (n : Nat) {visited : List String} {cs : List Char}
    {ks : List TokenKind} (h : Spells cs ks) :
    ∃ ks', Spells (inlineText s n visited cs).text ks' ∧ ∀ f,
      (Derives loosest ks f → Derives loosest ks' (s.inline n visited f)) ∧
      (DerivesFormula ks f → DerivesFormula ks' (s.inline n visited f)) := by
  induction n generalizing visited cs ks with
  | zero => exact ⟨ks, h, fun f => ⟨id, id⟩⟩
  | succ n ih =>
    have hid (id : String) : ∃ tokens,
        Option.Rel Spells ((ComputedFields.inlinable? s visited id).map fun inner =>
          (ComputedFields.inlineText s n (id :: visited) inner).text) tokens ∧
        Option.Rel (Derives loosest) tokens ((s.inlineFormula? visited id).map (s.inline n (id :: visited))) := by
      have hi := hs.inlinable? visited id
      generalize ComputedFields.inlinable? s visited id = text at hi ⊢
      generalize s.inlineFormula? visited id = formula at hi ⊢
      cases hi with
      | none => exact ⟨none, .none, .none⟩
      | @some body g hi =>
        obtain ⟨ks, hk, hd⟩ := hi
        obtain ⟨ks', hk', hd'⟩ := @ih (id :: visited) body ks hk
        exact ⟨some ks', .some hk', .some ((hd' g).1 hd)⟩
    choose ρ hτ hρ using hid
    rw [inlineText_succ]
    exact ⟨_, h.splice hτ, fun f => ⟨fun hd => hd.expand hρ, fun hd => hd.expand hρ⟩⟩

theorem exists_spells_inlineText {s : Schema} (hs : s.Readable) (n : Nat) (visited : List String) {text : String}
    {f : Formula} (h : parse text = .ok f) :
    ∃ ks, Spells (inlineText s n visited text.toList).text ks ∧ DerivesFormula ks (s.inline n visited f) := by
  obtain ⟨ks, hk, hd⟩ := parse_eq_ok_iff_spells.1 h
  obtain ⟨ks', hk', hd'⟩ := hk.inlineText hs n
  exact ⟨ks', hk', (hd' f).2 hd⟩

/-- Inlining in the text of a formula is inlining in the formula. -/
theorem parse_inlineText {s : Schema} (hs : s.Readable) (n : Nat) (visited : List String) {text : String} {f : Formula}
    (h : parse text = .ok f) :
    parse (String.ofList (inlineText s n visited text.toList).text) = .ok (s.inline n visited f) := by
  rw [parse_eq_ok_iff_spells, String.toList_ofList]
  exact exists_spells_inlineText hs n visited h

/-- Two formula fields that refer to each other, and a stored one. -/
def circularSchema : Schema where
  declared := [{ id := "letters", name := "Letters", fields := [
    { id := "named", name := "Named", type := .formula,
      options := { formula := some " = \x7bverdict\x7d = \"\x7bname\x7d\"" } },
    { id := "verdict", name := "Verdict", type := .formula, options := { formula := some "(\x7bnamed\x7d)" } },
    { id := "name", name := "Name", type := .singleLineText }] }]
  sound := by decide

theorem parse_verdictEqualsText : parse " = \x7bverdict\x7d = \"\x7bname\x7d\"" =
    .ok (.binary .equal (.field { id := "verdict" }) (.literal (.text "\x7bname\x7d"))) := by
  have htext : Spells ['"', '\x7b', 'n', 'a', 'm', 'e', '\x7d', '"'] [.text "\x7bname\x7d"] :=
    @Spells.token '"' ['\x7b', 'n', 'a', 'm', 'e', '\x7d', '"'] [] _ _ rfl rfl .nil
  have hright := Spells.space (c := ' ') rfl (.char (c := '=') rfl rfl (.space (c := ' ') rfl htext))
  have hleft := Spells.space (c := ' ') rfl (@Spells.reference ['v', 'e', 'r', 'd', 'i', 'c', 't'] _ _ rfl hright)
  have hfield : Derives loosest [.fieldRef "verdict"] (.field { id := "verdict" }) := (Derives.field _).operand
  exact (Spells.space (c := ' ') rfl (.char (c := '=') rfl rfl hleft)).parse
    (.inr ⟨_, rfl, hfield.binary rfl (Derives.text _).operand⟩)

theorem parse_namedInBrackets : parse "(\x7bnamed\x7d)" = .ok (.field { id := "named" }) :=
  ((@Spells.reference ['n', 'a', 'm', 'e', 'd'] _ _ rfl .nil).bracketed .nil).parse
    (.inl (Derives.field _).operand.paren.operand)

theorem readable_circularSchema : circularSchema.Readable := by
  intro f hf e
  simp only [Schema.fields, Schema.tables, circularSchema, Table.owned, List.map_cons, List.map_nil, List.flatMap_cons,
    List.flatMap_nil, List.append_nil, List.mem_cons, List.not_mem_nil, or_false] at hf
  rcases hf with rfl | rfl | rfl
  · simp [Field.formula?, Field.formulaText?, parse_verdictEqualsText]
  · simp [Field.formula?, Field.formulaText?, parse_namedInBrackets]
  · simp [Field.formula?, Field.formulaText?]

theorem readFormula?_circularSchema :
    circularSchema.readFormula? "named" =
      some (.binary .equal (.field { id := "verdict" }) (.literal (.text "\x7bname\x7d"))) ∧
    circularSchema.readFormula? "verdict" = some (.field { id := "named" }) ∧
    circularSchema.readFormula? "name" = none := by
  exact ⟨Schema.readFormula?_of_parse rfl rfl parse_verdictEqualsText,
    Schema.readFormula?_of_parse rfl rfl parse_namedInBrackets, rfl⟩

/-- Whether `named` equals `name`. -/
def namedEqualsName : Formula := .binary .equal (.field { id := "named" }) (.field { id := "name" })

theorem inline_namedEqualsName : circularSchema.inline 5 [] namedEqualsName =
    .binary .equal (.binary .equal (.field { id := "named" }) (.literal (.text "\x7bname\x7d")))
      (.field { id := "name" }) := by
  obtain ⟨hnamed, hverdict, hname⟩ := readFormula?_circularSchema
  simp [Schema.inline, Schema.inlineFormula?, namedEqualsName, Formula.substitute, hnamed, hverdict, hname]

theorem parse_namedEqualsName : parse "\x7bnamed\x7d=\x7bname\x7d" = .ok namedEqualsName :=
  parse_references (l := 3) ['n', 'a', 'm', 'e', 'd'] ['n', 'a', 'm', 'e'] rfl rfl rfl (fun _ => rfl) rfl (by decide)

/-- References to fields that refer to each other are replaced once around, and quoted braces stay. -/
theorem parse_inlineText_circularSchema : circularSchema.Readable ∧
    parse "\x7bnamed\x7d=\x7bname\x7d" = .ok namedEqualsName ∧
    parse (String.ofList (inlineText circularSchema 5 [] "\x7bnamed\x7d=\x7bname\x7d".toList).text) =
      .ok (.binary .equal (.binary .equal (.field { id := "named" }) (.literal (.text "\x7bname\x7d")))
        (.field { id := "name" })) :=
  ⟨readable_circularSchema, parse_namedEqualsName,
    (parse_inlineText readable_circularSchema 5 [] parse_namedEqualsName).trans (congrArg _ inline_namedEqualsName)⟩

/-! ## Values -/

mutual

/-- Replacements with the values of the fields that they replace do not change the value of a formula. -/
theorem evaluate_substitute {record : Record} {σ : String → Option Formula} : (f : Formula) →
    (∀ id ∈ f.references, ∀ g, σ id = some g → evaluate record g = .ok (record id)) →
    evaluate record (f.substitute σ) = evaluate record f
  | .literal l, _ => rfl
  | .field r, h => by
    rw [Formula.substitute]
    cases hg : σ r.id with
    | none => rfl
    | some g => exact h r.id (List.mem_singleton.2 rfl) g hg
  | .call name fs, h => by
    rw [Formula.substitute, evaluate, evaluate, evaluateAll_substitute fs h]
  | .binary op left right, h => by
    rw [Formula.substitute, evaluate, evaluate,
      evaluate_substitute left fun id hm => h id (List.mem_append_left _ hm),
      evaluate_substitute right fun id hm => h id (List.mem_append_right _ hm)]
  | .unary op operand, h => by
    rw [Formula.substitute, evaluate, evaluate, evaluate_substitute operand h]

theorem evaluateAll_substitute {record : Record} {σ : String → Option Formula} : (fs : List Formula) →
    (∀ id ∈ Formula.referencesIn fs, ∀ g, σ id = some g → evaluate record g = .ok (record id)) →
    evaluateAll record (Formula.substituteAll σ fs) = evaluateAll record fs
  | [], _ => rfl
  | f :: fs, h => by
    rw [Formula.substituteAll, evaluateAll, evaluateAll,
      evaluate_substitute f fun id hm => h id (List.mem_append_left _ hm),
      evaluateAll_substitute fs fun id hm => h id (List.mem_append_right _ hm)]

end

/-- The fields whose formulas take the places of references when a formula is inlined. -/
def Schema.inlinedIds (s : Schema) : Nat → List String → Formula → List String
  | 0, _, _ => []
  | n + 1, visited, f => f.references.flatMap fun id =>
    match s.inlineFormula? visited id with
    | none => []
    | some g => id :: s.inlinedIds n (id :: visited) g

/-- A record holds the value of the formula of a field. -/
def Schema.ConsistentAt (s : Schema) (record : Record) (id : String) : Prop :=
  ∀ g, s.readFormula? id = some g → evaluate record g = .ok (record id)

theorem evaluate_inline {s : Schema} {record : Record} (n : Nat) {visited : List String} {f : Formula}
    (h : ∀ id ∈ s.inlinedIds n visited f, s.ConsistentAt record id) :
    evaluate record (s.inline n visited f) = evaluate record f := by
  induction n generalizing visited f with
  | zero => rfl
  | succ n ih =>
    apply evaluate_substitute
    intro id hid g hg
    obtain ⟨g, hi, rfl⟩ := Option.map_eq_some_iff.1 hg
    have hmem (id' : String) (hm : id' ∈ id :: s.inlinedIds n (id :: visited) g) :
        id' ∈ s.inlinedIds (n + 1) visited f :=
      List.mem_flatMap.2 ⟨id, hid, by rw [hi]; exact hm⟩
    have hf : s.readFormula? id = some g := by
      unfold Schema.inlineFormula? at hi
      split at hi
      · cases hi
      · exact hi
    calc evaluate record (s.inline n (id :: visited) g)
      _ = evaluate record g := ih fun id' hm => h id' (hmem id' (List.mem_cons_of_mem _ hm))
      _ = .ok (record id) := h id (hmem id List.mem_cons_self) g hf

/-- Inlining keeps the value of a formula, or the error, for every record that holds the values of the inlined formulas.
-/
theorem evaluate_parse_inlineText {s : Schema} (hs : s.Readable) (n : Nat) (visited : List String) {text : String}
    {f : Formula} (h : parse text = .ok f) {record : Record}
    (hc : ∀ id ∈ s.inlinedIds n visited f, s.ConsistentAt record id) :
    ∃ g, parse (String.ofList (inlineText s n visited text.toList).text) = .ok g ∧
      evaluate record g = evaluate record f := by
  refine ⟨s.inline n visited f, parse_eq_ok_iff_spells.2 ?_, evaluate_inline n hc⟩
  rw [String.toList_ofList]
  exact exists_spells_inlineText hs n visited h

/-- A record of `circularSchema`. -/
def circularRecord : Record := fun id => if id = "name" then .text "Ada" else .boolean false

theorem consistentAt_circularRecord {id : String} (h : id ∈ circularSchema.inlinedIds 5 [] namedEqualsName) :
    circularSchema.ConsistentAt circularRecord id := by
  obtain ⟨hnamed, hverdict, hname⟩ := readFormula?_circularSchema
  have hids : circularSchema.inlinedIds 5 [] namedEqualsName = ["named", "verdict"] := by
    simp [Schema.inlinedIds, Schema.inlineFormula?, namedEqualsName, Formula.references, hnamed, hverdict, hname]
  rw [hids] at h
  intro g hg
  simp only [List.mem_cons, List.not_mem_nil, or_false] at h
  rcases h with rfl | rfl
  · cases hnamed.symm.trans hg
    rfl
  · cases hverdict.symm.trans hg
    rfl

theorem evaluate_parse_inlineText_circularSchema : circularSchema.Readable ∧
    parse "\x7bnamed\x7d=\x7bname\x7d" = .ok namedEqualsName ∧
    (∀ id ∈ circularSchema.inlinedIds 5 [] namedEqualsName, circularSchema.ConsistentAt circularRecord id) ∧
    ∃ g, parse (String.ofList (inlineText circularSchema 5 [] "\x7bnamed\x7d=\x7bname\x7d".toList).text) = .ok g ∧
      evaluate circularRecord g = evaluate circularRecord namedEqualsName :=
  ⟨readable_circularSchema, parse_namedEqualsName, fun _ => consistentAt_circularRecord,
    evaluate_parse_inlineText readable_circularSchema 5 [] parse_namedEqualsName fun _ => consistentAt_circularRecord⟩

end ComputedFields
