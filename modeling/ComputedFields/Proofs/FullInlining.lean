import ComputedFields.Proofs.Computation
import ComputedFields.Proofs.Saturation

/-!
# Inlining all the way

A formula field at some depth of the computation order has no formula fields left in it once inlining may go as deep.
The depth counts the fields along paths of dependencies, which go through lookups as well; inlining follows only those
from formula to formula.

- `Collects`: what is collected from the operands of a formula is collected from its tokens as well
  (`DerivesFormula.collect_eq`);
- `mem_references_iff`: the references of a formula are those in its text;
- `references_substitute`: replaced references give way to the references of what replaces them;
- `Shallow`: the formulas that a formula refers to are less deep than a bound, and all visited fields need them. One
  round of inlining takes one off the bound (`Shallow.step`), and no reference has been visited (`Shallow.notMem`);
- so no more fields are nested than the bound says (`Shallow.length_le`), and after as many rounds no reference to a
  formula is left (`Shallow.readFormula?_eq_none`).
-/

namespace ComputedFields

open Relation DependencyGraph

/-! ## Operands of texts -/

theorem nil_intercalate {α : Type} (ls : List (List α)) : List.intercalate [] ls = ls.flatten := by
  induction ls with
  | nil => rfl
  | cons l ls ih =>
    cases ls with
    | nil => simp
    | cons l' ls => simp_all [List.intercalate]

/-- Whether a token is an operand of its own. -/
def TokenKind.isOperand : TokenKind → Bool
  | .number _ | .text _ | .boolean _ | .fieldRef _ => true
  | _ => false

theorem isOperand_of_ofToken? {l : Nat} {k : TokenKind} {op : BinaryOp} (h : BinaryOp.ofToken? l k = some op) :
    k.isOperand = false := by
  unfold BinaryOp.ofToken? at h
  split at h
  case h_12 => cases h
  all_goals rfl

/-- What is collected from the operands in a formula, and from the tokens that spell them. -/
structure Collects {α : Type} (ofFormula : Formula → List α) (ofToken : TokenKind → List α) : Prop where
  number (x : Float) : ofFormula (.literal (.number x)) = ofToken (.number x)
  text (s : String) : ofFormula (.literal (.text s)) = ofToken (.text s)
  boolean (b : Bool) : ofFormula (.literal (.boolean b)) = ofToken (.boolean b)
  field (id : String) : ofFormula (.field { id }) = ofToken (.fieldRef id)
  call (name : String) (fs : List Formula) : ofFormula (.call name fs) = fs.flatMap ofFormula
  unary (op : UnaryOp) (f : Formula) : ofFormula (.unary op f) = ofFormula f
  binary (op : BinaryOp) (f g : Formula) : ofFormula (.binary op f g) = ofFormula f ++ ofFormula g
  other {k : TokenKind} (h : k.isOperand = false) : ofToken k = []

section Collects

variable {α : Type} {ofFormula : Formula → List α} {ofToken : TokenKind → List α}

theorem Derives.collect_eq (hc : Collects ofFormula ofToken) {l : Nat} {ks : List TokenKind} {f : Formula}
    (h : Derives l ks f) : ofFormula f = ks.flatMap ofToken := by
  have hparen : ofToken .leftParen = [] ∧ ofToken .rightParen = [] := ⟨hc.other rfl, hc.other rfl⟩
  induction h with
  | number x => simpa using hc.number x
  | text s => simpa using hc.text s
  | boolean b => simpa using hc.boolean b
  | booleanCall b => simpa [hparen] using hc.boolean b
  | field id => simpa using hc.field id
  | paren _ ih => simpa [hparen] using ih
  | @not name _ _ _ _ ih =>
    have hname : ofToken (.identifier name) = [] := hc.other rfl
    simpa [hparen, hname, hc.unary] using ih
  | @call name parts _ _ ih =>
    have hname : ofToken (.identifier name) = [] := hc.other rfl
    have hcomma : [TokenKind.comma].flatMap ofToken = [] := by simpa using hc.other rfl
    have hparts : (parts.map (·.2)).flatMap ofFormula =
        ((parts.map (·.1)).map (List.flatMap ofToken)).flatten := by
      rw [List.flatMap_map, List.map_map, ← List.flatMap_def]
      exact List.flatMap_congr ih
    rw [hc.call, hparts]
    simp [hparen, hname, flatMap_intercalate, hcomma, nil_intercalate]
  | minus _ ih => rw [hc.unary, ih, List.flatMap_cons, hc.other rfl, List.nil_append]
  | plus _ ih => rw [ih, List.flatMap_cons, hc.other rfl, List.nil_append]
  | tighter _ ih => exact ih
  | binary _ ho _ ihl ihr =>
    rw [hc.binary, ihl, ihr, List.flatMap_append, List.flatMap_cons, hc.other (isOperand_of_ofToken? ho),
      List.nil_append]

/-- What a formula has of its operands, its tokens have in the same order. -/
theorem DerivesFormula.collect_eq (hc : Collects ofFormula ofToken) {ks : List TokenKind} {f : Formula}
    (h : DerivesFormula ks f) : ofFormula f = ks.flatMap ofToken := by
  obtain h | ⟨ks', rfl, h⟩ := h
  · exact h.collect_eq hc
  · rw [h.collect_eq hc, List.flatMap_cons, hc.other rfl, List.nil_append]

end Collects

/-! ## References of texts -/

/-- The field that a token refers to. -/
def TokenKind.references : TokenKind → List String
  | .fieldRef id => [id]
  | _ => []

theorem TokenKind.mem_references_iff {k : TokenKind} {id : String} : id ∈ k.references ↔ k = .fieldRef id := by
  cases k <;> simp [references, eq_comm]

theorem Formula.referencesIn_eq_flatMap (fs : List Formula) : referencesIn fs = fs.flatMap references := by
  induction fs with
  | nil => rfl
  | cons f fs ih => rw [referencesIn, ih, List.flatMap_cons]

theorem collects_references : Collects Formula.references TokenKind.references where
  number _ := rfl
  text _ := rfl
  boolean _ := rfl
  field _ := rfl
  call _ fs := by rw [Formula.references, Formula.referencesIn_eq_flatMap]
  unary _ _ := by rw [Formula.references]
  binary _ _ _ := by rw [Formula.references]
  other {k} h := by
    cases k with
    | fieldRef id => cases h
    | _ => rfl

theorem Lexeme.mem_segments_iff {l : Lexeme} {id : String} :
    (∃ source, .reference source id ∈ l.segments) ↔ l.kind = .fieldRef id := by
  unfold Lexeme.segments
  cases l.kind <;> simp [eq_comm]

theorem Spells.mem_segments_iff {cs : List Char} {ks : List TokenKind} (h : Spells cs ks) {id : String} :
    (∃ source, .reference source id ∈ segments cs) ↔ .fieldRef id ∈ ks := by
  obtain ⟨ls, rest, hl, rfl⟩ := h.exists_lexed
  simp only [hl.segments_eq, List.mem_append, List.mem_singleton, reduceCtorEq, or_false, List.mem_flatMap,
    List.mem_map, ← Lexeme.mem_segments_iff]
  tauto

/-- The references of a formula are those in its text. -/
theorem mem_references_iff {cs : List Char} {ks : List TokenKind} {f : Formula} (h : Spells cs ks)
    (hd : DerivesFormula ks f) {id : String} : id ∈ f.references ↔ ∃ source, .reference source id ∈ segments cs := by
  rw [hd.collect_eq collects_references, h.mem_segments_iff, List.mem_flatMap]
  simp [TokenKind.mem_references_iff]

/-! ## References of inlined formulas -/

namespace Formula

/-- The references that take the place of a reference. -/
def replacedReferences (σ : String → Option Formula) (id : String) : List String :=
  match σ id with
  | some g => g.references
  | none => [id]

mutual

theorem references_substitute (σ : String → Option Formula) : (f : Formula) →
    (f.substitute σ).references = f.references.flatMap (replacedReferences σ)
  | .literal _ => rfl
  | .field r => by
    rw [substitute, references, List.flatMap_singleton, replacedReferences]
    cases σ r.id <;> rfl
  | .call _ fs => by rw [substitute, references, references, referencesIn_substituteAll σ fs]
  | .binary _ left right => by
    rw [substitute, references, references, references_substitute σ left, references_substitute σ right,
      List.flatMap_append]
  | .unary _ operand => by rw [substitute, references, references, references_substitute σ operand]

theorem referencesIn_substituteAll (σ : String → Option Formula) : (fs : List Formula) →
    referencesIn (substituteAll σ fs) = (referencesIn fs).flatMap (replacedReferences σ)
  | [] => rfl
  | f :: fs => by
    rw [substituteAll, referencesIn, referencesIn, references_substitute σ f, referencesIn_substituteAll σ fs,
      List.flatMap_append]

end

end Formula

/-! ## Formulas of bounded depth -/

namespace Schema

variable {s : Schema} {visited ids : List String} {id : String} {φ ψ : Formula} {n : Nat}

theorem inlineFormula?_eq_some_iff :
    s.inlineFormula? visited id = some ψ ↔ id ∉ visited ∧ s.readFormula? id = some ψ := by
  unfold inlineFormula?
  split <;> simp_all

theorem readFormula?_eq_some_iff :
    s.readFormula? id = some ψ ↔ ∃ f ∈ s.fields, f.id = id ∧ f.formula? = some (.ok ψ) := by
  have hb : (s.field? id).bind (·.formula?) = some (.ok ψ) ↔ ∃ f ∈ s.fields, f.id = id ∧ f.formula? = some (.ok ψ) := by
    simp only [Option.bind_eq_some_iff, field?_eq_some_iff, and_assoc]
  rw [← hb, readFormula?]
  split
  · next f hf => rw [hf, Option.some.injEq, Option.some.injEq, Except.ok.injEq]
  · next hne =>
    refine iff_of_false ?_ (hne ψ)
    simp

/-- A field needs the formulas that it refers to. -/
theorem Refers.needs {x y : String} (h : s.Refers x y) (hy : s.readFormula? y = some ψ) : (ofSchema s).Needs x y := by
  obtain ⟨t, ht, rfl, hψ⟩ := readFormula?_eq_some_iff.1 hy
  have hc : t.isComputed = true := by rw [Field.isComputed, Field.type_eq_formula hψ]; rfl
  have hf := h.feeds ht
  exact needs_iff_feeds.2 ⟨hf.isComputed, (isComputed_ofSchema ht).trans hc, hf⟩

/-- The formulas that `φ` refers to are less deep than `n`, and the visited fields need them. -/
def Shallow (s : Schema) (n : Nat) (visited : List String) (φ : Formula) : Prop :=
  ∀ id ∈ φ.references, ∀ ψ, s.readFormula? id = some ψ →
    (ofSchema s).DepthBelow n id ∧ ∀ v ∈ visited, TransGen (ofSchema s).Needs v id

/-- What a formula refers to is less deep than the formula. -/
theorem Shallow.step (h : s.Shallow n visited φ) (hid : id ∈ φ.references) (hψ : s.readFormula? id = some ψ) :
    ∃ m, n = m + 1 ∧ s.Shallow m (id :: visited) ψ := by
  obtain ⟨hd, hv⟩ := h id hid ψ hψ
  cases n with
  | zero => exact hd.elim
  | succ m =>
    refine ⟨m, rfl, fun y hy χ hχ => ?_⟩
    have hneeds : (ofSchema s).Needs id y := Refers.needs ⟨ψ, hψ, hy⟩ hχ
    exact ⟨hd y hneeds, List.forall_mem_cons.2 ⟨.single hneeds, fun v hm => (hv v hm).tail hneeds⟩⟩

/-- A visited field would need itself. -/
theorem Shallow.notMem (h : s.Shallow n visited φ) (hid : id ∈ φ.references) (hψ : s.readFormula? id = some ψ) :
    id ∉ visited := by
  obtain ⟨hd, hv⟩ := h id hid ψ hψ
  exact fun hm => hd.not_reachesCycle ⟨id, .refl, hv id hm⟩

/-- After as many rounds as the bound says no reference to a formula is left. -/
theorem Shallow.readFormula?_eq_none (h : s.Shallow n visited φ) (hid : id ∈ (s.inline n visited φ).references) :
    s.readFormula? id = none := by
  induction n generalizing visited φ with
  | zero =>
    cases hψ : s.readFormula? id with
    | none => rfl
    | some ψ => exact (h id hid ψ hψ).1.elim
  | succ n ih =>
    rw [inline, Formula.references_substitute, List.mem_flatMap] at hid
    obtain ⟨y, hy, hid⟩ := hid
    rw [Formula.replacedReferences] at hid
    cases hi : s.inlineFormula? visited y with
    | none =>
      rw [hi] at hid
      obtain rfl := List.mem_singleton.1 hid
      cases hψ : s.readFormula? id with
      | none => rfl
      | some ψ => rw [inlineFormula?_eq_some_iff.2 ⟨h.notMem hy hψ, hψ⟩] at hi; cases hi
    | some ψ =>
      rw [hi] at hid
      obtain ⟨m, hm, hstep⟩ := h.step hy (inlineFormula?_eq_some_iff.1 hi).2
      cases hm
      exact ih hstep hid

/-- No more fields are nested than the bound says. -/
theorem Shallow.length_le (hs : s.Readable) (h : s.Shallow n visited φ) {cs : List Char} {ks : List TokenKind}
    (hk : Spells cs ks) (hd : DerivesFormula ks φ) (hn : Nested s visited cs ids) : ids.length ≤ n := by
  induction hn generalizing n φ ks with
  | nil => exact Nat.zero_le _
  | @cons visited ids cs source inner id hm hi _ ih =>
    have hrel := hs.inlinable? visited id
    rw [hi] at hrel
    cases hψ : s.inlineFormula? visited id with
    | none => rw [hψ] at hrel; cases hrel
    | some ψ =>
      rw [hψ] at hrel
      obtain ⟨ks', hk', hd'⟩ := Option.rel_some_some.1 hrel
      obtain ⟨m, rfl, hstep⟩ := h.step ((mem_references_iff hk hd).2 ⟨source, hm⟩) (inlineFormula?_eq_some_iff.1 hψ).2
      exact Nat.succ_le_succ (ih hstep hk' (.inl hd'))

/-- The formula of a field refers to formulas that are less deep than the field. -/
theorem shallow_of_hasDepth {x : String} {d : Nat} (hφ : s.readFormula? x = some φ) (hd : (ofSchema s).HasDepth x d)
    (hn : d ≤ n) : s.Shallow n [x] φ := by
  intro y hy ψ hψ
  have hneeds : (ofSchema s).Needs x y := Refers.needs ⟨φ, hφ, hy⟩ hψ
  have hbelow : (ofSchema s).DepthBelow (n + 1) x := (hd (n + 1)).2 (by omega)
  exact ⟨hbelow y hneeds, List.forall_mem_singleton.2 (.single hneeds)⟩

end Schema

/-! ## Inlined fields -/

theorem mem_referenceSpansAfter {segments : List Segment} {start : Nat} {p : Span × String}
    (h : p ∈ referenceSpansAfter start segments) : ∃ source, .reference source p.2 ∈ segments := by
  induction segments generalizing start with
  | nil => cases h
  | cons segment segments ih =>
    cases segment with
    | plain source =>
      obtain ⟨source', hm⟩ := ih h
      exact ⟨source', List.mem_cons_of_mem _ hm⟩
    | reference source id =>
      rcases List.mem_cons.1 h with rfl | h
      · exact ⟨source, List.mem_cons_self⟩
      · obtain ⟨source', hm⟩ := ih h
        exact ⟨source', List.mem_cons_of_mem _ hm⟩

/-- What is inlined for a field is the text of its own formula, with the field as the only one that has been visited. -/
theorem Schema.inlineField?_id {s : Schema} {f : Field} (hf : f ∈ s.fields) (n : Nat) :
    s.inlineField? n f.id = f.formulaText?.map fun text => inlineText s n [f.id] text.toList := by
  rw [inlineField?, field?_eq_some_iff.2 ⟨hf, rfl⟩, Option.bind_some]

/-- If every formula field has a formula that can be read, a formula field at depth `d` is free of formula fields once
its own formula is inlined to the depth `d` or deeper: its text has no reference to one, and neither has the formula
that the text spells. Inlining does not go deeper than `d`. -/
theorem exists_inlineField?_of_depth? {s : Schema}
    (hs : ∀ g ∈ s.fields, g.type = .formula → ∃ formula, g.formula? = some (.ok formula)) {f : Field}
    (hf : f ∈ s.fields) (ht : f.type = .formula) {d n : Nat} (hd : (ofSchema s).order.depth? f.id = some d)
    (hn : d ≤ n) :
    ∃ text r, f.formulaText? = some text ∧ r = inlineText s n [f.id] text.toList ∧ s.inlineField? n f.id = some r ∧
      r.depth ≤ d ∧
      (∀ p ∈ referenceSpans r.text, ∀ g ∈ s.fields, g.id = p.2 → g.type ≠ .formula) ∧
      ∃ formula, parse (String.ofList r.text) = .ok formula ∧
        ∀ g ∈ s.fields, g.id ∈ formula.references → g.type ≠ .formula := by
  have hread : s.Readable := by
    intro g hg e he
    obtain ⟨formula, hformula⟩ := hs g hg (Field.type_eq_formula he)
    rw [hformula] at he
    cases he
  obtain ⟨φ, hφ⟩ := hs f hf ht
  have hfield : s.readFormula? f.id = some φ := Schema.readFormula?_eq_some_iff.2 ⟨f, hf, rfl, hφ⟩
  obtain ⟨text, htext, hparse⟩ := Option.map_eq_some_iff.1 hφ
  have hcomputed : (ofSchema s).isComputed f.id = true := by
    rw [isComputed_ofSchema hf, Field.isComputed, ht]
    rfl
  have hdepth := (depth?_eq_some_iff hcomputed).1 hd
  obtain ⟨ks, hk, hks⟩ := parse_eq_ok_iff_spells.1 hparse
  obtain ⟨ks', hk', hks'⟩ := exists_spells_inlineText hread n [f.id] hparse
  have hfree (g : Field) (hg : g ∈ s.fields) (hm : g.id ∈ (s.inline n [f.id] φ).references) : g.type ≠ .formula := by
    intro hgt
    obtain ⟨ψ, hψ⟩ := hs g hg hgt
    have hnone := (Schema.shallow_of_hasDepth hfield hdepth hn).readFormula?_eq_none hm
    rw [Schema.readFormula?_eq_some_iff.2 ⟨g, hg, rfl, hψ⟩] at hnone
    cases hnone
  refine ⟨text, inlineText s n [f.id] text.toList, htext, rfl, ?_, ?_, fun p hp g hg he => ?_, _,
    parse_eq_ok_iff_spells.2 ?_, hfree⟩
  · rw [Schema.inlineField?_id hf, htext, Option.map_some]
  · obtain ⟨-, ids, hids, hlen⟩ := le_depth_inlineText_iff.1 (Nat.le_refl (inlineText s n [f.id] text.toList).depth)
    rw [← hlen]
    exact (Schema.shallow_of_hasDepth hfield hdepth (Nat.le_refl d)).length_le hread hk hks hids
  · exact hfree g hg ((mem_references_iff hk' hks').2 (he ▸ mem_referenceSpansAfter hp))
  · rw [String.toList_ofList]
    exact ⟨ks', hk', hks'⟩

/-- A memo with a salutation, which its signature repeats. -/
def memoSchema : Schema where
  declared := [{ id := "memos", name := "Memos", fields := [
    { id := "memo", name := "Memo", type := .formula,
      options := { formula := some "=\x7bsalute\x7d&\x7bsignature\x7d" } },
    { id := "signature", name := "Signature", type := .formula,
      options := { formula := some "\x7bsalute\x7d&\x7bname\x7d" } },
    { id := "salute", name := "Salute", type := .formula, options := { formula := some "=\"\x7bmemo\x7d\"" } },
    { id := "name", name := "Name", type := .singleLineText }] }]
  sound := by decide

theorem parse_saluteThenSignature : parse "=\x7bsalute\x7d&\x7bsignature\x7d" =
    .ok (.binary .concat (.field { id := "salute" }) (.field { id := "signature" })) := by
  have hright := @Spells.reference ['s', 'i', 'g', 'n', 'a', 't', 'u', 'r', 'e'] _ _ rfl .nil
  have hleft := @Spells.reference ['s', 'a', 'l', 'u', 't', 'e'] _ _ rfl (.char (c := '&') rfl rfl hright)
  have hfield : Derives 3 [.fieldRef "salute"] (.field { id := "salute" }) := (Derives.field _).operand
  exact (Spells.char (c := '=') rfl rfl hleft).parse
    (.inr ⟨_, rfl, (hfield.binary rfl (Derives.field _).operand).mono (by decide)⟩)

theorem parse_saluteThenName : parse "\x7bsalute\x7d&\x7bname\x7d" =
    .ok (.binary .concat (.field { id := "salute" }) (.field { id := "name" })) :=
  parse_references (l := 2) ['s', 'a', 'l', 'u', 't', 'e'] ['n', 'a', 'm', 'e'] rfl rfl rfl (fun _ => rfl) rfl
    (by decide)

theorem parse_memoInQuotes : parse "=\"\x7bmemo\x7d\"" = .ok (.literal (.text "\x7bmemo\x7d")) := by
  have htext : Spells ['"', '\x7b', 'm', 'e', 'm', 'o', '\x7d', '"'] [.text "\x7bmemo\x7d"] :=
    @Spells.token '"' ['\x7b', 'm', 'e', 'm', 'o', '\x7d', '"'] [] _ _ rfl rfl .nil
  exact (Spells.char (c := '=') rfl rfl htext).parse (.inr ⟨_, rfl, (Derives.text _).operand⟩)

theorem order_memoSchema :
    (ofSchema memoSchema).order = ⟨[("memo", some 2), ("signature", some 1), ("salute", some 0)], []⟩ := by
  have hids : (ofSchema memoSchema).computedIds = ["memo", "signature", "salute"] := by decide
  have hmemo : (ofSchema memoSchema).computedDependencies "memo" = ["salute", "signature"] :=
    (computedDependencies_of_parse rfl rfl rfl parse_saluteThenSignature).trans (by decide)
  have hsignature : (ofSchema memoSchema).computedDependencies "signature" = ["salute"] :=
    (computedDependencies_of_parse rfl rfl rfl parse_saluteThenName).trans (by decide)
  have hsalute : (ofSchema memoSchema).computedDependencies "salute" = [] :=
    (computedDependencies_of_parse rfl rfl rfl parse_memoInQuotes).trans (by decide)
  simp [order, walk, hids, visitAll, visit, hmemo, hsignature, hsalute, deeper, List.lookup_cons]

theorem exists_formula?_memoSchema {g : Field} (hg : g ∈ memoSchema.fields) (ht : g.type = .formula) :
    ∃ formula, g.formula? = some (.ok formula) := by
  simp only [Schema.fields, Schema.tables, memoSchema, Table.owned, List.map_cons, List.map_nil, List.flatMap_cons,
    List.flatMap_nil, List.append_nil, List.mem_cons, List.not_mem_nil, or_false] at hg
  rcases hg with rfl | rfl | rfl | rfl
  · exact ⟨_, congrArg some parse_saluteThenSignature⟩
  · exact ⟨_, congrArg some parse_saluteThenName⟩
  · exact ⟨_, congrArg some parse_memoInQuotes⟩
  · cases ht

/-- A field that is inlined on two ways, and braces in quotes that name the field itself. -/
theorem exists_inlineField?_of_depth?_memoSchema :
    (∀ g ∈ memoSchema.fields, g.type = .formula → ∃ formula, g.formula? = some (.ok formula)) ∧
    (ofSchema memoSchema).order.depth? "memo" = some 2 ∧
    ∃ r, r = inlineText memoSchema 5 ["memo"] "=\x7bsalute\x7d&\x7bsignature\x7d".toList ∧
      memoSchema.inlineField? 5 "memo" = some r ∧ r.depth ≤ 2 ∧
      (∀ p ∈ referenceSpans r.text, ∀ g ∈ memoSchema.fields, g.id = p.2 → g.type ≠ .formula) ∧
      ∃ formula, parse (String.ofList r.text) = .ok formula ∧
        ∀ g ∈ memoSchema.fields, g.id ∈ formula.references → g.type ≠ .formula := by
  have hd : (ofSchema memoSchema).order.depth? "memo" = some 2 := by
    rw [order_memoSchema]
    rfl
  obtain ⟨f, hf, hid, ht, hformula⟩ : ∃ f ∈ memoSchema.fields, f.id = "memo" ∧ f.type = .formula ∧
      f.formulaText? = some "=\x7bsalute\x7d&\x7bsignature\x7d" :=
    ⟨_, List.mem_cons_self, rfl, rfl, rfl⟩
  have h := @exists_inlineField?_of_depth? memoSchema (fun _ => exists_formula?_memoSchema) f hf ht 2 5
  rw [hid, hformula] at h
  obtain ⟨text, r, htext, hr⟩ := h hd (by decide)
  cases htext
  exact ⟨fun _ => exists_formula?_memoSchema, hd, r, hr⟩

end ComputedFields
