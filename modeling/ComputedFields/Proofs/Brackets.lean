import ComputedFields.Proofs.Composition
import ComputedFields.Proofs.NumberText
import ComputedFields.Proofs.Quotes
import ComputedFields.Proofs.Templates

/-!
# Brackets of expressions

- `Target.step`, `Target.scan`: a reader of code, who knows whether they are between quotes and which closing brackets
  are still to come;
- `Target.WellBracketed`: all quotes and brackets are closed at the end, and brackets in the order in which they were
  opened;
- `Target.Reads`: what code does to the closing brackets to come. `WellBracketed.reads` says that well-bracketed code
  does nothing to them, so code is put together from well-bracketed code as if it were not there;
- `Template.Balances`: what the texts of a template do to them, with well-bracketed code in its places.
  `Target.balances_template` says that the template of a call leaves none to come;
- `wellBracketed_express`: expressions are well bracketed.
-/

namespace ComputedFields

/-! ## Reading code -/

/-- Where a reader of code is. -/
inductive Place where
  | code
  | quoted (quote : Char)
  /-- After a backslash between quotes. -/
  | escaped (quote : Char)
deriving DecidableEq, Repr

/-- A reader of code. -/
structure Reader where
  place : Place
  /-- The closing brackets that are still to come, the next one first. -/
  awaited : List Char
deriving DecidableEq, Repr

/-- The bracket that closes what a bracket opens. -/
def closing? (c : Char) : Option Char :=
  if c = '(' then some ')' else if c = '[' then some ']' else if c = '\x7b' then some '\x7d' else none

def isClosing (c : Char) : Bool := c == ')' || c == ']' || c == '\x7d'

namespace Target

/-- Whether quotes open with a character. -/
def isQuote (t : Target) (c : Char) : Bool := c == '"' || t == sql && c == '\''

/-- Whether a character between quotes takes the meaning from the next one. In SQL none does; a quote that is written
twice there closes the quotes and opens them again. -/
def isEscape (t : Target) (c : Char) : Bool := t != sql && c == '\\'

/-- The reader after a character; none if it closes a bracket that is not the next to be closed. -/
def step (t : Target) : Reader → Char → Option Reader
  | ⟨.code, awaited⟩, c =>
    if t.isQuote c then some ⟨.quoted c, awaited⟩
    else
      match closing? c with
      | some d => some ⟨.code, d :: awaited⟩
      | none =>
        if isClosing c then
          match awaited with
          | [] => none
          | d :: rest => if c = d then some ⟨.code, rest⟩ else none
        else some ⟨.code, awaited⟩
  | ⟨.quoted q, awaited⟩, c =>
    if c = q then some ⟨.code, awaited⟩
    else if t.isEscape c then some ⟨.escaped q, awaited⟩
    else some ⟨.quoted q, awaited⟩
  | ⟨.escaped q, awaited⟩, _ => some ⟨.quoted q, awaited⟩

def scan (t : Target) : Reader → List Char → Option Reader
  | r, [] => some r
  | r, c :: cs => (t.step r c).bind fun r => t.scan r cs

/-- Reading code with some closing brackets to come leaves others to come, and no quotes open. -/
def Reads (t : Target) (awaited : List Char) (code : String) (left : List Char) : Prop :=
  t.scan ⟨.code, awaited⟩ code.toList = some ⟨.code, left⟩

/-- All quotes are closed, and brackets outside them are nested and balanced. -/
def WellBracketed (t : Target) (code : String) : Prop := t.Reads [] code []

instance (t : Target) (code : String) : Decidable (t.WellBracketed code) :=
  inferInstanceAs (Decidable (t.scan ⟨.code, []⟩ code.toList = some ⟨.code, []⟩))

example : python.WellBracketed "f(\"]\\\"\")" ∧ ¬ python.WellBracketed "f([)]" ∧ sql.WellBracketed "f('a'')')" := by
  decide

variable {t : Target}

theorem scan_append (r : Reader) (s s' : List Char) :
    t.scan r (s ++ s') = (t.scan r s).bind fun r => t.scan r s' := by
  induction s generalizing r with
  | nil => rfl
  | cons c s ih =>
    rw [List.cons_append, scan, scan, Option.bind_assoc]
    exact congrArg _ (funext ih)

/-- Brackets that close later do not matter. -/
theorem step_frame {place place' : Place} {σ τ : List Char} {c : Char} (ρ : List Char)
    (h : t.step ⟨place, σ⟩ c = some ⟨place', τ⟩) : t.step ⟨place, σ ++ ρ⟩ c = some ⟨place', τ ++ ρ⟩ := by
  cases place with
  | code =>
    simp only [step] at h ⊢
    split at h
    next hq =>
      cases h
      rw [if_pos hq]
    next hq =>
      rw [if_neg hq]
      cases hc : closing? c with
      | some d =>
        rw [hc] at h
        cases h
        rfl
      | none =>
        rw [hc] at h
        dsimp only at h ⊢
        split at h
        next hd =>
          rw [if_pos hd]
          cases σ with
          | nil => cases h
          | cons d rest =>
            dsimp only [List.cons_append] at h ⊢
            split at h
            next hcd =>
              cases h
              rw [if_pos hcd]
            next => cases h
        next hd =>
          cases h
          rw [if_neg hd]
  | quoted q =>
    simp only [step] at h ⊢
    split at h
    next hq =>
      cases h
      rw [if_pos hq]
    next hq =>
      rw [if_neg hq]
      split at h <;> cases h <;> simp [*]
  | escaped q =>
    cases h
    rfl

theorem scan_frame {r r' : Reader} {s : List Char} (ρ : List Char) (h : t.scan r s = some r') :
    t.scan ⟨r.place, r.awaited ++ ρ⟩ s = some ⟨r'.place, r'.awaited ++ ρ⟩ := by
  induction s generalizing r with
  | nil =>
    cases h
    rfl
  | cons c s ih =>
    rw [scan] at h
    obtain ⟨r'', hc, hs⟩ := Option.bind_eq_some_iff.1 h
    rw [scan, step_frame ρ hc]
    exact ih hs

/-! ## Putting code together -/

theorem Reads.append {s s' : String} {σ τ υ : List Char} (h : t.Reads σ s τ) (h' : t.Reads τ s' υ) :
    t.Reads σ (s ++ s') υ := by
  rw [Reads, String.toList_append, scan_append, h]
  exact h'

/-- A text that is given by its characters, as the texts in definitions are. -/
theorem Reads.chars {cs σ τ : List Char} (h : t.scan ⟨.code, σ⟩ cs = some ⟨.code, τ⟩) :
    t.Reads σ (String.ofList cs) τ := by
  rw [Reads, String.toList_ofList]
  exact h

theorem WellBracketed.reads {s : String} (h : t.WellBracketed s) (σ : List Char) : t.Reads σ s σ :=
  scan_frame σ h

theorem wellBracketed_parentheses {s : String} (h : t.WellBracketed s) : t.WellBracketed ("(" ++ s ++ ")") := by
  cases t <;> exact .append (.append (.chars rfl) (h.reads _)) (.chars rfl)

/-! ## Plain and quoted text -/

/-- A character that means nothing to a reader who is not between quotes. -/
def isBare (t : Target) (c : Char) : Bool := !t.isQuote c && (closing? c).isNone && !isClosing c

theorem step_of_isBare {c : Char} (h : t.isBare c = true) (σ : List Char) :
    t.step ⟨.code, σ⟩ c = some ⟨.code, σ⟩ := by
  simp only [isBare, Bool.and_eq_true, Bool.not_eq_true', Option.isNone_iff_eq_none] at h
  simp [step, h]

theorem scan_of_isBare {cs : List Char} (h : ∀ c ∈ cs, t.isBare c = true) (σ : List Char) :
    t.scan ⟨.code, σ⟩ cs = some ⟨.code, σ⟩ := by
  induction cs with
  | nil => rfl
  | cons c cs ih =>
    obtain ⟨hc, hcs⟩ := List.forall_mem_cons.1 h
    rw [scan, step_of_isBare hc]
    exact ih hcs

theorem isBare_of_isNumberChar {c : Char} (h : Decimal.isNumberChar c = true) : t.isBare c = true := by
  have ne : ∀ d : Char, Decimal.isNumberChar d = false → c ≠ d := by
    rintro d hd rfl
    simp [h] at hd
  simp [isBare, isQuote, closing?, isClosing, ne '"' (by decide), ne '\'' (by decide), ne '(' (by decide),
    ne ')' (by decide), ne '[' (by decide), ne ']' (by decide), ne '\x7b' (by decide), ne '\x7d' (by decide)]

theorem wellBracketed_numberText (x : Float) : t.WellBracketed (numberText x) :=
  scan_of_isBare (fun _ hc => isBare_of_isNumberChar (isNumberChar_of_mem_numberText hc)) []

/-- Text between quotes whose characters are written so that they do not close the quotes. -/
theorem wellBracketed_quotes {q : Char} (hq : t.isQuote q = true) {encode : Char → List Char}
    (he : ∀ c, t.scan ⟨.quoted q, []⟩ (encode c) = some ⟨.quoted q, []⟩) (cs : List Char) :
    t.WellBracketed (String.ofList (q :: cs.flatMap encode ++ [q])) := by
  have inside : t.scan ⟨.quoted q, []⟩ (cs.flatMap encode) = some ⟨.quoted q, []⟩ := by
    induction cs with
    | nil => rfl
    | cons c cs ih =>
      rw [List.flatMap_cons, scan_append, he c]
      exact ih
  refine Reads.chars ?_
  rw [scan_append, scan, show t.step ⟨.code, []⟩ q = some ⟨.quoted q, []⟩ by simp [step, hq], Option.bind_some, inside,
    Option.bind_some, scan, show t.step ⟨.quoted q, []⟩ q = some ⟨.code, []⟩ by simp [step]]
  rfl

/-- Between quotes only the quote and what escapes it mean something. -/
theorem scan_between {q : Char} {cs : List Char} (h : ∀ c ∈ cs, c ≠ q ∧ t.isEscape c = false) :
    t.scan ⟨.quoted q, []⟩ cs = some ⟨.quoted q, []⟩ := by
  induction cs with
  | nil => rfl
  | cons c cs ih =>
    obtain ⟨⟨hq, he⟩, hcs⟩ := List.forall_mem_cons.1 h
    rw [scan, show t.step ⟨.quoted q, []⟩ c = some ⟨.quoted q, []⟩ by simp [step, hq, he]]
    exact ih hcs

theorem scan_escapeChar (ht : t ≠ sql) (c : Char) :
    t.scan ⟨.quoted '"', []⟩ (escapeChar c) = some ⟨.quoted '"', []⟩ := by
  have between {d : Char} (hquote : d ≠ '"') (hslash : d ≠ '\\') : d ≠ '"' ∧ t.isEscape d = false := by
    simp [isEscape, hquote, hslash]
  have hform := escapedForm c
  generalize escapeChar c = written at hform
  cases hform with
  | plain hquote hslash hc => exact scan_between (List.forall_mem_singleton.2 (between hquote hslash))
  | @escaped e ds he hds =>
    have hescaped : t.scan ⟨.quoted '"', []⟩ ('\\' :: e :: ds) = t.scan ⟨.quoted '"', []⟩ ds := by
      simp [scan, step, isEscape, ht]
    rw [hescaped]
    exact scan_between fun d hd => between (hds d hd).1 (hds d hd).2.1

theorem wellBracketed_doubleQuoted (ht : t ≠ sql) (s : String) : t.WellBracketed (doubleQuoted s) :=
  wellBracketed_quotes (by simp [isQuote]) (scan_escapeChar ht) s.toList

theorem scan_twice {q : Char} (hq : sql.isQuote q = true) (c : Char) :
    sql.scan ⟨.quoted q, []⟩ (twice q c) = some ⟨.quoted q, []⟩ := by
  unfold twice
  split_ifs with hc
  · -- The quote closes the quotes, and opens them again.
    simp [scan, step, hc, hq]
  · exact scan_between fun d hd => List.mem_singleton.1 hd ▸ ⟨hc, rfl⟩

theorem wellBracketed_doublingQuotes {q : Char} (hq : sql.isQuote q = true) (s : String) :
    sql.WellBracketed (doublingQuotes q s) :=
  wellBracketed_quotes hq (scan_twice hq) s.toList

theorem wellBracketed_quotedText (s : String) : t.WellBracketed (t.quotedText s) := by
  cases t with
  | python => exact wellBracketed_doubleQuoted (by decide) s
  | javascript => exact wellBracketed_doubleQuoted (by decide) s
  | sql => exact wellBracketed_doublingQuotes (by decide) s

end Target

/-- What is taken over to read a field is well bracketed. -/
def FieldAccess.WellBracketed (t : Target) : FieldAccess → Prop
  | stored _ => True
  | computed getter => t.WellBracketed getter
  | inline code => t.WellBracketed code

namespace Target

variable {t : Target}

/-! ## Calls -/

theorem wellBracketed_wrapped {f : Fragment} (h : t.WellBracketed f.code) : t.WellBracketed f.wrapped := by
  unfold Fragment.wrapped
  split
  · exact wellBracketed_parentheses h
  · exact wellBracketed_parentheses h
  · exact h

theorem wellBracketed_sqlArgument {f : Fragment} (h : t.WellBracketed f.code) : t.WellBracketed f.sqlArgument := by
  unfold Fragment.sqlArgument
  split
  · exact h
  · cases t <;> exact .append (.append (.chars rfl) (h.reads _)) (.chars rfl)

end Target

namespace Template

/-- Reading a template with some closing brackets to come leaves others to come, whatever well-bracketed code stands in
its places. -/
inductive Balances (t : Target) : List Char → Template → List Char → Prop
  | nil {σ : List Char} : Balances t σ [] σ
  | text {s : String} {ps : Template} {σ τ υ : List Char} : t.Reads σ s τ → Balances t τ ps υ →
      Balances t σ (.text s :: ps) υ
  | place {p : Piece} {i : Nat} {ps : Template} {σ τ : List Char} : p.place? = some i → Balances t σ ps τ →
      Balances t σ (p :: ps) τ

section Filling

variable {t : Target} {args : List Fragment} (hargs : ∀ f ∈ args, t.WellBracketed f.code)

include hargs

/-- What stands in a place of a template is well bracketed. -/
theorem wellBracketed_write? {p : Piece} {i : Nat} (hp : p.place? = some i) {s : String} (h : p.write? args = some s) :
    t.WellBracketed s := by
  cases p with
  | text s => cases hp
  | code i =>
    obtain ⟨f, hf, rfl⟩ := Option.map_eq_some_iff.1 h
    exact hargs f (List.mem_of_getElem? hf)
  | operand i =>
    obtain ⟨f, hf, rfl⟩ := Option.map_eq_some_iff.1 h
    exact Target.wellBracketed_wrapped (hargs f (List.mem_of_getElem? hf))
  | sqlText i =>
    obtain ⟨f, hf, rfl⟩ := Option.map_eq_some_iff.1 h
    exact Target.wellBracketed_sqlArgument (hargs f (List.mem_of_getElem? hf))

/-- A template with well-bracketed arguments is read as the template is. -/
theorem reads_fill? {ps : Template} {σ τ : List Char} (hps : Balances t σ ps τ) {s : String}
    (h : fill? args ps = some s) : t.Reads σ s τ := by
  induction hps generalizing s with
  | nil =>
    cases h
    exact .chars rfl
  | text hs _ ih =>
    rw [fill?_cons] at h
    obtain ⟨rest, hrest, rfl⟩ := Option.map_eq_some_iff.1 h
    exact hs.append (ih hrest)
  | place hp _ ih =>
    rw [fill?_cons] at h
    obtain ⟨front, hfront, h⟩ := Option.bind_eq_some_iff.1 h
    obtain ⟨rest, hrest, rfl⟩ := Option.map_eq_some_iff.1 h
    exact ((wellBracketed_write? hargs hp hfront).reads _).append (ih hrest)

end Filling

section Parts

variable {t : Target} {σ τ υ : List Char}

theorem Balances.append {ps qs : Template} (hp : Balances t σ ps τ) (hq : Balances t τ qs υ) :
    Balances t σ (ps ++ qs) υ := by
  induction hp with
  | nil => exact hq
  | text hs _ ih => exact .text hs (ih hq)
  | place hp _ ih => exact .place hp (ih hq)

theorem balances_listed {item : Nat → Template} (hitem : ∀ i, Balances t σ (item i) σ) {separator : String}
    (hs : t.Reads σ separator σ) (n : Nat) : Balances t σ (listed item separator n) σ := by
  unfold listed
  induction List.range n with
  | nil => exact .nil
  | cons i is ih =>
    cases is with
    | nil => simpa using hitem i
    | cons j js =>
      rw [List.map_cons, List.map_cons, List.intercalate_cons_cons]
      exact ((hitem i).append (.text hs .nil)).append ih

theorem balances_within {before : String} (hbefore : t.Reads σ before τ) {ps after : Template}
    (hps : Balances t τ ps τ) (hafter : Balances t τ after υ) : Balances t σ (within before ps after) υ :=
  .text hbefore (hps.append hafter)

theorem balances_codes (n : Nat) : Balances t σ (listed (fun i => [.code i]) ", " n) σ := by
  have hs : t.WellBracketed ", " := by cases t <;> exact .chars rfl
  exact balances_listed (fun _ => .place rfl .nil) (hs.reads σ) n

theorem balances_around {before after : String} (hbefore : t.Reads σ before τ) (hafter : t.Reads τ after υ) (n : Nat) :
    Balances t σ (around before after n) υ := balances_within hbefore (balances_codes n) (.text hafter .nil)

theorem balances_branches {pair last : Nat → Template} {default : Template} (hpair : ∀ i, Balances t σ (pair i) σ)
    (hlast : ∀ i, Balances t σ (last i) σ) (hdefault : Balances t σ default σ) (i : Nat) :
    (n : Nat) → Balances t σ (branches pair last default i n) σ
  | 0 => hdefault
  | 1 => hlast i
  | n + 2 => (hpair i).append (balances_branches hpair hlast hdefault (i + 2) n)

end Parts

theorem balances_pythonBranches (σ : List Char) (i n : Nat) : Balances .python σ (pythonBranches i n) σ := by
  refine balances_branches (fun i => ?_) (fun i => .place rfl .nil) (.text (.chars rfl) .nil) i n
  exact .place rfl (.text (.chars rfl) (.place rfl (.text (.chars rfl) .nil)))

theorem balances_javascriptBranches (σ : List Char) (i n : Nat) :
    Balances .javascript σ (javascriptBranches i n) σ := by
  refine balances_branches (fun i => ?_) (fun i => .place rfl .nil) (.text (.chars rfl) .nil) i n
  exact .text (.chars rfl) (.place rfl (.text (.chars rfl) (.place rfl (.text (.chars rfl) .nil))))

theorem balances_sqlBranches (σ : List Char) (i n : Nat) : Balances .sql σ (sqlBranches i n) σ := by
  refine balances_branches (fun i => ?_) (fun i => .text (.chars rfl) (.place rfl .nil)) .nil i n
  exact .text (.chars rfl) (.place rfl (.text (.chars rfl) (.place rfl .nil)))

/-! ## The templates -/

theorem balances_python (n : Nat) (b : Builtin) : Balances .python [] (python n b) [] := by
  cases b
  -- Some calls are written differently for different numbers of arguments.
  all_goals
    unfold python
    dsimp only
    try split
  case switch =>
    refine balances_within (.chars rfl) (balances_pythonBranches _ 1 (n - 1)) ?_
    exact .text (.chars rfl) (.place rfl (.text (.chars rfl) .nil))
  all_goals first
    | exact balances_around (.chars rfl) (.chars rfl) n
    | repeat first | exact .nil | refine .text (.chars rfl) ?_ | refine .place rfl ?_

theorem balances_javascript (n : Nat) (b : Builtin) : Balances .javascript [] (javascript n b) [] := by
  cases b
  all_goals
    unfold javascript
    dsimp only
    try split
  case switch =>
    refine balances_within (.chars rfl) (balances_javascriptBranches _ 1 (n - 1)) ?_
    exact .text (.chars rfl) (.place rfl (.text (.chars rfl) .nil))
  case countA | arrayCompact =>
    refine balances_within (.chars rfl) (balances_codes n) ?_
    exact .text (.chars rfl) (.text (.chars rfl) (.text (.chars rfl) .nil))
  all_goals first
    | exact balances_around (.chars rfl) (.chars rfl) n
    | repeat first | exact .nil | refine .text (.chars rfl) ?_ | refine .place rfl ?_

theorem balances_sql (n : Nat) (b : Builtin) : Balances .sql [] (sql n b) [] := by
  cases b
  all_goals
    unfold sql
    dsimp only
    try split
  case switch =>
    exact balances_within (.chars rfl) (.place rfl (balances_sqlBranches _ 1 (n - 1))) (.text (.chars rfl) .nil)
  case and | or =>
    exact balances_within (.chars rfl) (balances_listed (fun _ => .place rfl .nil) (.chars rfl) n)
      (.text (.chars rfl) .nil)
  case sum =>
    refine balances_within (.chars rfl) (balances_listed (fun i => ?_) (.chars rfl) n) (.text (.chars rfl) .nil)
    exact .text (.chars rfl) (.place rfl (.text (.chars rfl) .nil))
  all_goals first
    | exact balances_around (.chars rfl) (.chars rfl) n
    | repeat first | exact .nil | refine .text (.chars rfl) ?_ | refine .place rfl ?_

end Template

namespace Target

variable {t : Target}

theorem balances_template (n : Nat) (b : Builtin) : Template.Balances t [] (t.template n b) [] := by
  cases t with
  | python => exact Template.balances_python n b
  | javascript => exact Template.balances_javascript n b
  | sql => exact Template.balances_sql n b

theorem wellBracketed_render {name : String} {args : List Fragment} {b : Builtin}
    (hs : t.supports name args.length = .ok b) (h : ∀ f ∈ args, t.WellBracketed f.code) :
    t.WellBracketed (t.render b args) :=
  Template.reads_fill? h (balances_template args.length b) (fill?_template hs)

/-! ## Literals, fields and operators -/

theorem wellBracketed_literal (l : Literal) : t.WellBracketed (t.literal l) := by
  cases l with
  | number x => exact wellBracketed_numberText x
  | text s => exact wellBracketed_quotedText s
  | boolean b => cases t <;> cases b <;> exact Reads.chars rfl

theorem wellBracketed_null : t.WellBracketed t.null := by cases t <;> exact Reads.chars rfl

theorem wellBracketed_read {a : FieldAccess} (h : a.WellBracketed t) : t.WellBracketed (t.read a) := by
  cases a with
  | stored key =>
    cases t with
    | python => exact .append (.append (.chars rfl) ((wellBracketed_doubleQuoted (by decide) key).reads _)) (.chars rfl)
    | javascript =>
      exact .append (.append (.chars rfl) ((wellBracketed_doubleQuoted (by decide) key).reads _)) (.chars rfl)
    | sql => exact .append (.chars rfl) (wellBracketed_doublingQuotes (by decide) key)
  | computed getter =>
    cases t with
    | python => exact .append h (.chars rfl)
    | javascript => exact .append h (.chars rfl)
    | sql => exact Reads.chars rfl
  | inline code => cases t <;> exact h

theorem wellBracketed_coalescedText {s : String} (h : t.WellBracketed s) : t.WellBracketed (t.coalescedText s) := by
  cases t <;> exact .append (.append (.chars rfl) (h.reads _)) (.chars rfl)

theorem wellBracketed_toText {s : String} (h : t.WellBracketed s) : t.WellBracketed (t.toText s) := by
  cases t <;> exact .append (.append (.chars rfl) (h.reads _)) (.chars rfl)

theorem wellBracketed_toNumber {f : Fragment} (h : t.WellBracketed f.code) : t.WellBracketed (t.toNumber f) := by
  cases t with
  | python => exact .append (.append (.chars rfl) (h.reads _)) (.chars rfl)
  | javascript => exact .append (.append (.chars rfl) (h.reads _)) (.chars rfl)
  | sql => exact wellBracketed_wrapped h

theorem wellBracketed_symbol (op : BinaryOp) : t.WellBracketed (t.symbol op) := by
  cases t <;> cases op <;> exact Reads.chars rfl

theorem wellBracketed_binary (op : BinaryOp) {l r : String} (hl : t.WellBracketed l) (hr : t.WellBracketed r) :
    t.WellBracketed (t.binary op l r) := by
  have infixed : t.WellBracketed (l ++ " " ++ t.symbol op ++ " " ++ r) := by
    have blank : t.WellBracketed " " := by cases t <;> exact Reads.chars rfl
    exact .append (.append (.append (.append hl blank) (wellBracketed_symbol op)) blank) hr
  unfold binary
  split
  · exact .append (.append (.append (.append (.chars rfl) (hl.reads _)) (.chars rfl)) (hr.reads _)) (.chars rfl)
  · exact infixed

theorem wellBracketed_unary (op : UnaryOp) {s : String} (h : t.WellBracketed s) : t.WellBracketed (t.unary op s) := by
  cases t <;> cases op <;> exact .append (.chars rfl) h

/-! ## Expressions -/

theorem keeps_wellBracketed (t : Target) : t.Keeps t.WellBracketed where
  literal := wellBracketed_literal
  null := wellBracketed_null
  wrapped := wellBracketed_wrapped
  coalescedText := wellBracketed_coalescedText
  toText := wellBracketed_toText
  toNumber := wellBracketed_toNumber
  binary := wellBracketed_binary
  unary := wellBracketed_unary
  render := wellBracketed_render

end Target

theorem ExpressionContext.wellBracketed_emit {ctx : ExpressionContext}
    (h : ∀ r, (ctx.access r).WellBracketed ctx.target) (f : Formula) :
    ctx.target.WellBracketed (ctx.emit f).1.code :=
  keeps_emit (Target.keeps_wellBracketed ctx.target) (fun r => Target.wellBracketed_read (h r)) f

open ExpressionContext

/-- The expression of a formula closes all quotes that it opens and has its brackets nested and balanced, if the getters
and the code that are taken over for fields are so. -/
theorem wellBracketed_express (ctx : ExpressionContext) (h : ∀ r, (ctx.access r).WellBracketed ctx.target)
    (f : Formula) : ctx.target.WellBracketed (ctx.express f).code := wellBracketed_emit h f

/-- A formula with quotes, brackets and backslashes in its texts and in the name of a field. -/
def smileyFormula : Formula :=
  .binary .concat (.call "LEFT" [.field ⟨"mood \"now\" (", none, none⟩, .literal (.number 2)])
    (.call "SWITCH" [.field ⟨"rating", none, none⟩, .literal (.text ":-)"), .literal (.text "\\\"]"),
      .call "COUNTA" [.literal (.text "it's :-(")]])

theorem wellBracketed_express_smileyFormula :
    let access : FieldRef → FieldAccess := fun r =>
      if r.id = "rating" then .inline "COALESCE(t.\"stars\", '(')" else .stored r.id
    (∀ r, (access r).WellBracketed .sql) ∧
    Target.sql.WellBracketed (express ⟨.sql, access, true⟩ smileyFormula).code := by
  intro access
  have h : ∀ r, (access r).WellBracketed .sql := fun r => by
    dsimp only [access]
    split
    · exact Target.Reads.chars rfl
    · trivial
  exact ⟨h, wellBracketed_express ⟨.sql, access, true⟩ h smileyFormula⟩

end ComputedFields
