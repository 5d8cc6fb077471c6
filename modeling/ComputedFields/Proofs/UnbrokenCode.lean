import ComputedFields.Proofs.Composition
import ComputedFields.Proofs.NumberText
import ComputedFields.Proofs.OneLine
import ComputedFields.Proofs.Quotes
import ComputedFields.Proofs.Reads
import ComputedFields.Proofs.Templates

/-!
# Code without line breaks

Keys and texts may have line breaks, but they come into code between quotes and with escapes. What SQL quotes is not
escaped, so this is about the other targets.

- `Unbroken`: text without line breaks;
- `Template.isUnbroken_python`, `Template.isUnbroken_javascript`: the templates of calls have none;
- `Target.keeps_unbroken`, `Target.unbroken_express`: code is put together without line breaks;
- `Target.isUnbroken_linkBody`: statements that read through a link have no line breaks.
-/

namespace ComputedFields

/-! ## Text without line breaks -/

/-- Text without line breaks. -/
def Unbroken (s : String) : Prop := '\n' ∉ s.toList ∧ '\r' ∉ s.toList

/-- The characters that do not break a line. -/
def keepsLine (c : Char) : Bool := c != '\n' && c != '\r'

theorem Unbroken.append {a b : String} (ha : Unbroken a) (hb : Unbroken b) : Unbroken (a ++ b) := by
  simp only [Unbroken, String.toList_append, List.mem_append, not_or]
  exact ⟨⟨ha.1, hb.1⟩, ha.2, hb.2⟩

/-- A literal is a list of characters, so that `rfl` is enough to see that it has no line breaks. -/
theorem Unbroken.chars {cs : List Char} (h : cs.all keepsLine = true) : Unbroken (String.ofList cs) := by
  simp only [List.all_eq_true, keepsLine, Bool.and_eq_true, bne_iff_ne] at h
  rw [Unbroken, String.toList_ofList]
  exact ⟨fun hn => (h _ hn).1 rfl, fun hr => (h _ hr).2 rfl⟩

/-- Code between two texts. -/
theorem Unbroken.between {before code after : String} (h : Unbroken code) (hbefore : Unbroken before)
    (hafter : Unbroken after) : Unbroken (before ++ code ++ after) := (hbefore.append h).append hafter

theorem unbroken_doubleQuoted (s : String) : Unbroken (doubleQuoted s) := by
  constructor
  all_goals
    intro h
    exact absurd (le_toNat_of_mem_doubleQuoted h) (by decide)

theorem unbroken_numberText (x : Float) : Unbroken (numberText x) := by
  constructor
  all_goals
    intro h
    exact absurd (isNumberChar_of_mem_numberText h) (by decide)

theorem unbroken_wrapped {f : Fragment} (h : Unbroken f.code) : Unbroken f.wrapped := by
  unfold Fragment.wrapped
  split
  · exact h.between (.chars rfl) (.chars rfl)
  · exact h.between (.chars rfl) (.chars rfl)
  · exact h

theorem unbroken_sqlArgument {f : Fragment} (h : Unbroken f.code) : Unbroken f.sqlArgument := by
  unfold Fragment.sqlArgument
  split
  · exact h
  · exact h.between (.chars rfl) (.chars rfl)

/-! ## Templates -/

/-- The text of a piece has no line breaks. -/
def Piece.IsUnbroken : Piece → Prop
  | text s => Unbroken s
  | _ => True

namespace Template

/-- The texts of a template have no line breaks. -/
def IsUnbroken (ps : Template) : Prop := ∀ p ∈ ps, p.IsUnbroken

section Filling

variable {args : List Fragment} (hargs : ∀ f ∈ args, Unbroken f.code)

include hargs

theorem unbroken_write? {p : Piece} {s : String} (hp : p.IsUnbroken) (h : p.write? args = some s) : Unbroken s := by
  cases p with
  | text s =>
    cases h
    exact hp
  | code i =>
    obtain ⟨f, hf, rfl⟩ := Option.map_eq_some_iff.1 h
    exact hargs f (List.mem_of_getElem? hf)
  | operand i =>
    obtain ⟨f, hf, rfl⟩ := Option.map_eq_some_iff.1 h
    exact unbroken_wrapped (hargs f (List.mem_of_getElem? hf))
  | sqlText i =>
    obtain ⟨f, hf, rfl⟩ := Option.map_eq_some_iff.1 h
    exact unbroken_sqlArgument (hargs f (List.mem_of_getElem? hf))

theorem unbroken_fill? {ps : Template} {s : String} (hps : ps.IsUnbroken) (h : fill? args ps = some s) :
    Unbroken s := by
  induction ps generalizing s with
  | nil =>
    cases h
    exact .chars rfl
  | cons p ps ih =>
    obtain ⟨hp, hps⟩ := List.forall_mem_cons.1 hps
    rw [fill?_cons] at h
    obtain ⟨a, ha, h⟩ := Option.bind_eq_some_iff.1 h
    obtain ⟨b, hb, rfl⟩ := Option.map_eq_some_iff.1 h
    exact (unbroken_write? hargs hp ha).append (ih hps hb)

end Filling

theorem isUnbroken_nil : IsUnbroken [] := List.forall_mem_nil _

theorem isUnbroken_text {s : String} {ps : Template} : IsUnbroken (.text s :: ps) ↔ Unbroken s ∧ ps.IsUnbroken :=
  List.forall_mem_cons

theorem isUnbroken_code {i : Nat} {ps : Template} : IsUnbroken (.code i :: ps) ↔ ps.IsUnbroken :=
  List.forall_mem_cons.trans (and_iff_right trivial)

theorem isUnbroken_operand {i : Nat} {ps : Template} : IsUnbroken (.operand i :: ps) ↔ ps.IsUnbroken :=
  List.forall_mem_cons.trans (and_iff_right trivial)

theorem isUnbroken_within {before : String} {ps after : Template} (hbefore : Unbroken before) (hps : ps.IsUnbroken)
    (hafter : after.IsUnbroken) : (within before ps after).IsUnbroken :=
  isUnbroken_text.2 ⟨hbefore, List.forall_mem_append.2 ⟨hps, hafter⟩⟩

theorem isUnbroken_codes (n : Nat) : (listed (fun i => [.code i]) ", " n).IsUnbroken := by
  intro p hp
  obtain hp | ⟨l, hl, hp⟩ := Text.mem_intercalate hp
  · rw [List.mem_singleton.1 hp]
    exact Unbroken.chars rfl
  · obtain ⟨i, -, rfl⟩ := List.mem_map.1 hl
    rw [List.mem_singleton.1 hp]
    trivial

theorem isUnbroken_around {before after : String} (hbefore : Unbroken before) (hafter : Unbroken after) (n : Nat) :
    (around before after n).IsUnbroken :=
  isUnbroken_within hbefore (isUnbroken_codes n) (isUnbroken_text.2 ⟨hafter, isUnbroken_nil⟩)

theorem isUnbroken_branches {pair last : Nat → Template} {default : Template} (hpair : ∀ i, (pair i).IsUnbroken)
    (hlast : ∀ i, (last i).IsUnbroken) (hdefault : default.IsUnbroken) (i : Nat) :
    (n : Nat) → (branches pair last default i n).IsUnbroken
  | 0 => hdefault
  | 1 => hlast i
  | n + 2 => List.forall_mem_append.2 ⟨hpair i, isUnbroken_branches hpair hlast hdefault (i + 2) n⟩

theorem isUnbroken_pythonBranches (i n : Nat) : (pythonBranches i n).IsUnbroken := by
  refine isUnbroken_branches (fun i => ?_) (fun i => ?_) ?_ i n
  · simp only [isUnbroken_code, isUnbroken_text, isUnbroken_operand, isUnbroken_nil, and_true]
    exact ⟨.chars rfl, .chars rfl⟩
  · exact isUnbroken_code.2 isUnbroken_nil
  · exact isUnbroken_text.2 ⟨.chars rfl, isUnbroken_nil⟩

theorem isUnbroken_javascriptBranches (i n : Nat) : (javascriptBranches i n).IsUnbroken := by
  refine isUnbroken_branches (fun i => ?_) (fun i => ?_) ?_ i n
  · simp only [isUnbroken_text, isUnbroken_operand, isUnbroken_nil, and_true]
    exact ⟨.chars rfl, .chars rfl, .chars rfl⟩
  · exact isUnbroken_operand.2 isUnbroken_nil
  · exact isUnbroken_text.2 ⟨.chars rfl, isUnbroken_nil⟩

theorem isUnbroken_python (n : Nat) (b : Builtin) : (python n b).IsUnbroken := by
  cases b
  -- Some calls are written differently for different numbers of arguments.
  all_goals
    unfold python
    dsimp only
    try split
  case switch =>
    refine isUnbroken_within (.chars rfl) (isUnbroken_pythonBranches 1 (n - 1)) ?_
    simp only [isUnbroken_text, isUnbroken_code, isUnbroken_nil, and_true]
    exact ⟨.chars rfl, .chars rfl⟩
  all_goals first
    | exact isUnbroken_around (.chars rfl) (.chars rfl) n
    | simp only [stepping, isUnbroken_text, isUnbroken_code, isUnbroken_operand, isUnbroken_nil, and_true]
      repeat' with_reducible apply And.intro
      all_goals exact Unbroken.chars rfl

theorem isUnbroken_javascript (n : Nat) (b : Builtin) : (javascript n b).IsUnbroken := by
  cases b
  all_goals
    unfold javascript
    dsimp only
    try split
  case switch =>
    refine isUnbroken_within (.chars rfl) (isUnbroken_javascriptBranches 1 (n - 1)) ?_
    simp only [isUnbroken_text, isUnbroken_code, isUnbroken_nil, and_true]
    exact ⟨.chars rfl, .chars rfl⟩
  case countA | arrayCompact =>
    refine isUnbroken_within (.chars rfl) (isUnbroken_codes n) ?_
    simp only [isUnbroken_text, isUnbroken_nil, and_true]
    exact ⟨.chars rfl, .chars rfl, .chars rfl⟩
  all_goals first
    | exact isUnbroken_around (.chars rfl) (.chars rfl) n
    | simp only [stepping, isUnbroken_text, isUnbroken_code, isUnbroken_operand, isUnbroken_nil, and_true]
      repeat' with_reducible apply And.intro
      all_goals exact Unbroken.chars rfl

end Template

/-! ## Expressions -/

namespace Target

variable {t : Target}

theorem isUnbroken_template (ht : t ≠ sql) (n : Nat) (b : Builtin) : (t.template n b).IsUnbroken := by
  cases t with
  | python => exact Template.isUnbroken_python n b
  | javascript => exact Template.isUnbroken_javascript n b
  | sql => exact absurd rfl ht

theorem unbroken_literal (ht : t ≠ sql) (l : Literal) : Unbroken (t.literal l) := by
  cases l with
  | number x => exact unbroken_numberText x
  | text s =>
    cases t with
    | python => exact unbroken_doubleQuoted s
    | javascript => exact unbroken_doubleQuoted s
    | sql => exact absurd rfl ht
  | boolean b => cases t <;> cases b <;> exact .chars rfl

theorem unbroken_toNumber {f : Fragment} (h : Unbroken f.code) : Unbroken (t.toNumber f) := by
  cases t with
  | python => exact h.between (.chars rfl) (.chars rfl)
  | javascript => exact h.between (.chars rfl) (.chars rfl)
  | sql => exact unbroken_wrapped h

theorem unbroken_binary (ht : t ≠ sql) (op : BinaryOp) {l r : String} (hl : Unbroken l) (hr : Unbroken r) :
    Unbroken (t.binary op l r) := by
  have hsymbol : Unbroken (t.symbol op) := by cases t <;> cases op <;> exact .chars rfl
  unfold binary
  split
  · exact absurd rfl ht
  · exact (((hl.append (.chars rfl)).append hsymbol).append (.chars rfl)).append hr

/-- Code is put together without line breaks. -/
theorem keeps_unbroken (ht : t ≠ sql) : t.Keeps Unbroken where
  literal := unbroken_literal ht
  null := by cases t <;> exact .chars rfl
  wrapped := unbroken_wrapped
  coalescedText h := by cases t <;> exact h.between (.chars rfl) (.chars rfl)
  toText h := by cases t <;> exact h.between (.chars rfl) (.chars rfl)
  toNumber := unbroken_toNumber
  binary := unbroken_binary ht
  unary op _ h := by cases t <;> cases op <;> exact .append (.chars rfl) h
  render hs hargs := Template.unbroken_fill? hargs (isUnbroken_template ht _ _) (fill?_template hs)

end Target

/-- What is taken over to read a field has no line breaks. -/
def FieldAccess.IsUnbroken : FieldAccess → Prop
  | stored _ => True
  | computed getter => Unbroken getter
  | inline code => Unbroken code

namespace Target

variable {t : Target}

theorem unbroken_read (ht : t ≠ sql) {a : FieldAccess} (h : a.IsUnbroken) : Unbroken (t.read a) := by
  cases a with
  | stored key =>
    cases t with
    | python => exact (unbroken_doubleQuoted key).between (.chars rfl) (.chars rfl)
    | javascript => exact (unbroken_doubleQuoted key).between (.chars rfl) (.chars rfl)
    | sql => exact absurd rfl ht
  | computed getter =>
    cases t with
    | python => exact .append h (.chars rfl)
    | javascript => exact .append h (.chars rfl)
    | sql => exact absurd rfl ht
  | inline code => cases t <;> exact h

theorem unbroken_express {ctx : ExpressionContext} (ht : ctx.target ≠ sql) (h : ∀ r, (ctx.access r).IsUnbroken)
    (f : Formula) : Unbroken (ctx.express f).code :=
  ctx.keeps_emit (keeps_unbroken ht) (fun r => unbroken_read ht (h r)) f

end Target

/-! ## Reading through links -/

/-- A getter that is called to read a target field has no line breaks in its name. -/
def TargetRead.IsUnbroken : TargetRead → Prop
  | stored _ => True
  | computed _ getter => Unbroken getter

/-- A statement on one line, which is not empty. -/
def IsStatement (l : String) : Prop := Unbroken l ∧ l ≠ ""

theorem IsStatement.chars {c : Char} {cs : List Char} (h : (c :: cs).all keepsLine = true) :
    IsStatement (String.ofList (c :: cs)) := ⟨.chars h, by simp⟩

theorem IsStatement.append {l s : String} (hl : IsStatement l) (hs : Unbroken s) : IsStatement (l ++ s) :=
  ⟨hl.1.append hs, fun h => hl.2 (String.append_eq_empty_iff.1 h).1⟩

theorem Unbroken.statement {code after : String} {c : Char} {cs : List Char} (h : Unbroken code)
    (hcs : (c :: cs).all keepsLine = true) (hafter : Unbroken after) :
    IsStatement (String.ofList (c :: cs) ++ code ++ after) := ((IsStatement.chars hcs).append h).append hafter

theorem LinkRead.mem_read_of_target {r : LinkRead} {read : TargetRead} (h : r.target = .ok read) : read ∈ r.read := by
  unfold target at h
  split at h
  · next hread =>
    cases h
    exact hread
  · cases h

section Links

variable {read : TargetRead} {r : LinkRead} {nullSafety : Bool} {lines : List String}

theorem forall_mem_pair {P : String → Prop} {a b : String} (ha : P a) (hb : P b) : ∀ l ∈ [a, b], P l :=
  List.forall_mem_cons.2 ⟨ha, List.forall_mem_singleton.2 hb⟩

theorem forall_mem_ite {P : String → Prop} {c : Prop} [Decidable c] {as bs : List String} (ha : ∀ l ∈ as, P l)
    (hb : ∀ l ∈ bs, P l) : ∀ l ∈ (if c then as else bs), P l := by
  split
  · exact ha
  · exact hb

theorem unbroken_pythonTarget (h : read.IsUnbroken) : Unbroken (pythonTarget read) := by
  cases read with
  | stored key => exact (unbroken_doubleQuoted key).between (.chars rfl) (.chars rfl)
  | computed id getter => exact .append h (.chars rfl)

theorem unbroken_javascriptTarget (h : read.IsUnbroken) : Unbroken (javascriptTarget read) := by
  cases read with
  | stored key => exact (unbroken_doubleQuoted key).between (.chars rfl) (.chars rfl)
  | computed id getter => exact .append h (.chars rfl)

theorem unbroken_emptyValue (t : Target) (d : EmptyDefault) : Unbroken (t.emptyValue d) := by
  cases t <;> cases d <;> exact .chars rfl

theorem unbroken_aggregated {aggregate : Aggregation → Except GenerationError String} {kind : LinkReadKind}
    {code : String} (ha : ∀ a code, aggregate a = .ok code → Unbroken code) (h : aggregated aggregate kind = .ok code) :
    Unbroken code := by
  unfold aggregated at h
  split at h
  · exact ha _ _ h
  · cases h
    exact .chars rfl

theorem unbroken_pythonAggregate (a : Aggregation) (code : String) (h : pythonAggregate a = .ok code) :
    Unbroken code := by
  cases a
  case unknown => cases h
  case arrayJoin separator =>
    cases h
    exact (unbroken_doubleQuoted separator).append (.chars rfl)
  all_goals
    cases h
    exact .chars rfl

theorem unbroken_javascriptAggregate (a : Aggregation) (code : String) (h : javascriptAggregate a = .ok code) :
    Unbroken code := by
  cases a
  case unknown => cases h
  case arrayJoin separator =>
    cases h
    exact (unbroken_doubleQuoted separator).between (.chars rfl) (.chars rfl)
  case arrayCompact =>
    cases h
    exact Unbroken.between (.chars rfl) (.chars rfl) (.chars rfl)
  all_goals
    cases h
    exact .chars rfl

theorem isStatement_pythonLinkLines (hr : ∀ read ∈ r.read, read.IsUnbroken)
    (h : pythonLinkLines r nullSafety = .ok lines) : ∀ l ∈ lines, IsStatement l := by
  have hlink := unbroken_doubleQuoted r.linkKey
  have htable := unbroken_doubleQuoted r.tableId
  unfold pythonLinkLines at h
  dsimp only at h
  split at h
  · cases h
    exact List.forall_mem_singleton.2 (hlink.statement rfl (.chars rfl))
  · obtain ⟨target, htarget, h⟩ := bind_eq_ok_iff.1 h
    have hread := unbroken_pythonTarget (hr target (LinkRead.mem_read_of_target htarget))
    -- One record or many are fetched after the same statements.
    generalize he : (_ :: if nullSafety then _ else ([] : List String)) = head at h
    have hhead : ∀ l ∈ head, IsStatement l := by
      subst he
      refine List.forall_mem_cons.2 ⟨hlink.statement rfl (.chars rfl), forall_mem_ite ?_ (List.forall_mem_nil _)⟩
      exact forall_mem_pair (.chars rfl) ((IsStatement.chars rfl).append (unbroken_emptyValue _ _))
    split at h
    · cases h
      refine List.forall_mem_append.2 ⟨hhead, forall_mem_pair ?_ ?_⟩
      · exact htable.statement rfl (.chars rfl)
      · exact hread.statement rfl (.chars rfl)
    · obtain ⟨result, hresult, h⟩ := bind_eq_ok_iff.1 h
      have hresult := unbroken_aggregated unbroken_pythonAggregate hresult
      cases h
      simp only [List.forall_mem_append, List.forall_mem_singleton]
      refine ⟨⟨⟨hhead, htable.statement rfl (.chars rfl)⟩, ?_⟩, (IsStatement.chars rfl).append hresult⟩
      refine forall_mem_ite (List.forall_mem_nil _) (List.forall_mem_singleton.2 ?_)
      exact hread.statement rfl (.chars rfl)

theorem isStatement_javascriptLinkLines (hr : ∀ read ∈ r.read, read.IsUnbroken)
    (h : javascriptLinkLines r nullSafety = .ok lines) : ∀ l ∈ lines, IsStatement l := by
  have hlink := unbroken_doubleQuoted r.linkKey
  have htable := unbroken_doubleQuoted r.tableId
  unfold javascriptLinkLines at h
  dsimp only at h
  split at h
  · cases h
    exact List.forall_mem_singleton.2 (hlink.statement rfl (.chars rfl))
  · obtain ⟨target, htarget, h⟩ := bind_eq_ok_iff.1 h
    have hread := unbroken_javascriptTarget (hr target (LinkRead.mem_read_of_target htarget))
    generalize he : (_ :: if nullSafety then _ else ([] : List String)) = head at h
    have hhead : ∀ l ∈ head, IsStatement l := by
      subst he
      refine List.forall_mem_cons.2 ⟨hlink.statement rfl (.chars rfl), forall_mem_ite ?_ (List.forall_mem_nil _)⟩
      refine List.forall_mem_cons.2 ⟨.chars rfl, forall_mem_pair ?_ (.chars rfl)⟩
      exact (unbroken_emptyValue _ _).statement rfl (.chars rfl)
    split at h
    · cases h
      refine List.forall_mem_append.2 ⟨hhead, forall_mem_pair ?_ ?_⟩
      · exact htable.statement rfl (.chars rfl)
      · exact hread.statement rfl (.chars rfl)
    · obtain ⟨result, hresult, h⟩ := bind_eq_ok_iff.1 h
      have hresult := unbroken_aggregated unbroken_javascriptAggregate hresult
      cases h
      simp only [List.forall_mem_append, List.forall_mem_singleton]
      refine ⟨⟨⟨hhead, htable.statement rfl (.chars rfl)⟩, ?_⟩, hresult.statement rfl (.chars rfl)⟩
      refine forall_mem_ite (List.forall_mem_nil _) (List.forall_mem_singleton.2 ?_)
      exact ((hread.statement rfl (.chars rfl)).append (.chars rfl)).append (.chars rfl)

end Links

/-- The code of a body has no line breaks. -/
def GetterBody.IsUnbroken : GetterBody → Prop
  | expression code => Unbroken code
  | statements lines => ∀ l ∈ lines, IsStatement l
  | stub _ => True

/-- The statements that read through a link are on one line each, whatever the keys, the table and the separator are. -/
theorem Target.isUnbroken_linkBody {t : Target} (ht : t ≠ sql) {r : LinkRead} (hr : ∀ read ∈ r.read, read.IsUnbroken)
    {nullSafety : Bool} {body : GetterBody} (h : t.linkBody r nullSafety = .ok body) :
    ∃ lines, body = .statements lines ∧ ∀ l ∈ lines, IsStatement l := by
  cases t with
  | python =>
    obtain ⟨lines, hl, rfl⟩ := map_eq_ok_iff.1 h
    exact ⟨lines, rfl, isStatement_pythonLinkLines hr hl⟩
  | javascript =>
    obtain ⟨lines, hl, rfl⟩ := map_eq_ok_iff.1 h
    exact ⟨lines, rfl, isStatement_javascriptLinkLines hr hl⟩
  | sql => exact absurd rfl ht

end ComputedFields
