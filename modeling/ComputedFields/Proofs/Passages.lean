import ComputedFields.Proofs.Sequence
import Mathlib.Data.List.Chain

/-!
# Passages of a module

The text of a module is a sequence of comments and code.

- `Passage`: a comment, a block comment, or code;
- `GeneratedModule.passages`: the passages of a module, which make up its text (`GeneratedModule.source_eq`);
- `GeneratedModule.isChain_passages`: every comment begins a line.
-/

namespace ComputedFields

/-- A passage of the text of a module. -/
inductive Passage where
  /-- A comment to the end of its line, after some spaces. -/
  | comment (indent : Nat) (content : String)
  /-- A block comment, by the lines between its first and its last one. -/
  | block (lines : List String)
  /-- A line of code. -/
  | line (content : String)
  /-- Code whose last line may be open. -/
  | fragment (content : String)
deriving DecidableEq, Repr

namespace Passage

def text : Passage → String
  | comment indent content => String.ofList (List.replicate indent ' ') ++ content ++ "\n"
  | block lines => unlines ("/**" :: lines ++ [" */"])
  | line content => content ++ "\n"
  | fragment content => content

def isComment : Passage → Bool
  | comment .. | block _ => true
  | _ => false

def isOpen : Passage → Bool
  | fragment _ => true
  | _ => false

/-- Two passages in a row: a comment begins a line. -/
def Meets (p q : Passage) : Prop := q.isComment = true → p.text.toList.getLast? = some '\n'

end Passage

open Passage

/-! ## Texts of passages -/

theorem unlines_nil : unlines [] = "" := rfl

theorem unlines_cons (l : String) (ls : List String) : unlines (l :: ls) = l ++ "\n" ++ unlines ls := String.join_cons

theorem unlines_append (ls ls' : List String) : unlines (ls ++ ls') = unlines ls ++ unlines ls' := by
  rw [unlines, List.map_append, String.join_append]
  rfl

/-- The text of passages. -/
def textOf (ps : List Passage) : String := String.join (ps.map text)

theorem textOf_nil : textOf [] = "" := rfl

theorem textOf_cons (p : Passage) (ps : List Passage) : textOf (p :: ps) = p.text ++ textOf ps := String.join_cons

theorem textOf_append (ps qs : List Passage) : textOf (ps ++ qs) = textOf ps ++ textOf qs := by
  rw [textOf, List.map_append, String.join_append]
  rfl

theorem textOf_flatMap {α : Type} {f : α → List Passage} {g : α → String} (h : ∀ a, textOf (f a) = g a) (as : List α) :
    textOf (as.flatMap f) = String.join (as.map g) := by
  induction as with
  | nil => rfl
  | cons a as ih => rw [List.flatMap_cons, textOf_append, h, ih, List.map_cons, String.join_cons]

theorem textOf_map_line (ls : List String) : textOf (ls.map line) = unlines ls := by
  rw [textOf, List.map_map]
  rfl

theorem textOf_map_comment (n : Nat) (ls : List String) :
    textOf (ls.map (comment n)) = unlines (ls.map (String.ofList (List.replicate n ' ') ++ ·)) := by
  rw [textOf, unlines, List.map_map, List.map_map]
  rfl

theorem textOf_map_comment_zero (ls : List String) : textOf (ls.map (comment 0)) = unlines ls := by
  rw [textOf_map_comment]
  simp

/-- Every passage ends a line unless it may be open. -/
theorem getLast?_text {p : Passage} (h : p.isOpen = false) : p.text.toList.getLast? = some '\n' := by
  cases p with
  | comment n content => simp [text]
  | block lines =>
    rw [text, unlines_append, String.toList_append, List.getLast?_append]
    rfl
  | line content => simp [text]
  | fragment content => cases h

/-! ## Passages of a module -/

namespace Target

/-- The passages of `Target.preamble`. -/
def preamblePassages : Target → GeneratorOptions → List Table → List Passage
  | python, o, linked =>
    (python.header o).map (comment 0) ++ pythonImports.map line ++ (pythonLinkedTables linked).map (comment 0) ++
      pythonProtocol.map line ++ pythonFunctions.map line
  | javascript, o, linked =>
    (javascript.header o).map (comment 0) ++ [line "", block (javascriptProtocol linked), line ""] ++
      javascriptFunctions.map line
  | sql, o, linked => (sqlPreamble o linked).map (comment 0)

/-- The passages of `Target.beginTable`. -/
def tablePassages (t : Target) (table : Table) (identifier : String) : List Passage :=
  match t with
  | python => [line "", line "", comment 0 (python.tableComment table)]
  | javascript => [line "", comment 0 (javascript.tableComment table)]
  | sql =>
    [line "", comment 0 (sql.tableComment table), line ("CREATE OR REPLACE VIEW " ++ sqlName identifier ++ " AS"),
      line "SELECT", fragment "    t.*"]

/-- The passages of the body of a getter. -/
def bodyPassages (t : Target) (name : String) (body : GetterBody) : List Passage :=
  match t, body with
  | python, .stub reason => [comment 4 (python.stubComment reason), line "    return None"]
  | python, body => [fragment (pythonBody body)]
  | javascript, .stub reason => [comment 2 (javascript.stubComment reason), line "  return null;"]
  | javascript, body => [fragment (javascriptBody body)]
  | sql, .expression code => [fragment ("    " ++ code ++ " AS " ++ sqlName name)]
  | sql, .stub reason => [comment 4 (sql.stubComment reason), fragment ("    NULL AS " ++ sqlName name)]
  | sql, .statements _ =>
    [comment 4 (sql.stubComment "statement bodies have no SQL form"), fragment ("    NULL AS " ++ sqlName name)]

/-- The passages of `Target.getter`. -/
def getterPassages (t : Target) (o : GeneratorOptions) (g : Getter) : List Passage :=
  match t with
  | python =>
    [line "", line ""] ++ (python.getterComments o g).map (comment 0) ++
      [line ("def " ++ g.name ++ "(record: Dict[str, Any], data: DataAccess) -> Any:")] ++
      python.bodyPassages g.name g.body
  | javascript =>
    [line ""] ++ (javascript.getterComments o g).map (comment 0) ++
      [line ("export function " ++ g.name ++ "(record, data) \x7b")] ++
      javascript.bodyPassages g.name g.body ++ [line "\x7d"]
  | sql => [line ","] ++ (sql.getterComments o g).map (comment 4) ++ sql.bodyPassages g.name g.body

end Target

namespace GeneratedModule

variable (m : GeneratedModule)

def sectionPassages (s : GeneratedSection) : List Passage :=
  m.options.target.tablePassages s.table s.identifier ++
    s.getters.flatMap (fun g => m.options.target.getterPassages m.options g.getter) ++
    [fragment (m.options.target.endTable m.options s.table)]

/-- The passages of a module. -/
def passages : List Passage :=
  m.options.target.preamblePassages m.options m.linkedTables ++ m.sections.flatMap m.sectionPassages ++
    [fragment (m.options.target.epilogue (m.getters.map (·.getter.name)))]

end GeneratedModule

/-! ## The text of a module -/

namespace Target

theorem textOf_preamblePassages (t : Target) (o : GeneratorOptions) (linked : List Table) :
    textOf (t.preamblePassages o linked) = t.preamble o linked := by
  cases t with
  | python => simp only [preamblePassages, preamble, pythonPreamble, textOf_append, textOf_map_line,
      textOf_map_comment_zero,
      unlines_append]
  | javascript =>
    simp only [preamblePassages, preamble, javascriptPreamble, textOf_append, textOf_map_line,
      textOf_map_comment_zero, textOf_cons,
      textOf_nil, text, unlines_append, unlines_cons, unlines_nil, List.cons_append, String.append_assoc,
      String.append_empty]
  | sql => exact textOf_map_comment_zero _

theorem textOf_tablePassages (t : Target) (table : Table) (identifier : String) :
    textOf (t.tablePassages table identifier) = t.beginTable table identifier := by
  cases t <;> simp [tablePassages, beginTable, textOf_cons, textOf_nil, text, unlines_cons, unlines_nil,
    String.append_assoc]

theorem textOf_bodyPassages_python (name : String) (body : GetterBody) :
    textOf (python.bodyPassages name body) = pythonBody body := by
  cases body <;> simp [bodyPassages, pythonBody, textOf_cons, textOf_nil, text, unlines_cons, unlines_nil]

theorem textOf_bodyPassages_javascript (name : String) (body : GetterBody) :
    textOf (javascript.bodyPassages name body) = javascriptBody body := by
  cases body <;> simp [bodyPassages, javascriptBody, textOf_cons, textOf_nil, text, unlines_cons, unlines_nil]

theorem textOf_bodyPassages_sql (g : Getter) : textOf (sql.bodyPassages g.name g.body) = sqlColumn g := by
  have hnull : "\n" ++ ("    NULL AS " ++ sqlName g.name) = "\n    NULL AS " ++ sqlName g.name :=
    String.append_assoc.symm
  rw [sqlColumn]
  cases g.body <;> simp [bodyPassages, textOf_cons, textOf_nil, text, hnull, String.append_assoc]

theorem textOf_getterPassages (t : Target) (o : GeneratorOptions) (g : Getter) :
    textOf (t.getterPassages o g) = t.getter o g := by
  cases t with
  | python =>
    simp only [getterPassages, getter, pythonGetter, textOf_append, textOf_bodyPassages_python,
      textOf_map_comment_zero, textOf_cons, textOf_nil, text, unlines_append, unlines_cons, unlines_nil]
  | javascript =>
    simp [getterPassages, getter, javascriptGetter, textOf_append, textOf_bodyPassages_javascript,
      textOf_map_comment_zero, textOf_cons, textOf_nil, text, unlines_append, unlines_cons, unlines_nil,
      String.append_assoc]
  | sql =>
    simp only [getterPassages, getter, sqlGetter, textOf_append, textOf_bodyPassages_sql, textOf_map_comment]
    rfl

end Target

namespace GeneratedModule

variable (m : GeneratedModule)

theorem textOf_sectionPassages (s : GeneratedSection) : textOf (m.sectionPassages s) = m.sectionText s := by
  have hgetters := textOf_flatMap
    (fun g : GeneratedGetter => m.options.target.textOf_getterPassages m.options g.getter) s.getters
  simp only [sectionPassages, sectionText, textOf_append, Target.textOf_tablePassages, hgetters, textOf_cons,
    textOf_nil, text, String.append_empty]

/-- The text of a module is that of its passages. -/
theorem source_eq : m.source = textOf m.passages := by
  simp only [source, passages, textOf_append, Target.textOf_preamblePassages, textOf_flatMap m.textOf_sectionPassages,
    textOf_cons, textOf_nil, text, String.append_empty]

end GeneratedModule

/-! ## Where comments stand -/

theorem isChain_append_of_closed {ps qs : List Passage} (hp : ∀ p ∈ ps, p.isOpen = false) (hq : qs.IsChain Meets) :
    (ps ++ qs).IsChain Meets := by
  induction ps with
  | nil => exact hq
  | cons p ps ih =>
    obtain ⟨hp, hps⟩ := List.forall_mem_cons.1 hp
    exact (ih hps).cons fun _ _ _ => getLast?_text hp

/-- Passages that can follow any other ones: they do not begin with a comment. -/
structure Tidy (ps : List Passage) : Prop where
  isChain : ps.IsChain Meets
  head : ∀ p ∈ ps.head?, p.isComment = false

theorem Tidy.after {ps qs : List Passage} (hq : Tidy qs) (hp : ps.IsChain Meets) : (ps ++ qs).IsChain Meets := by
  refine hp.append hq.isChain ?_
  intro p _ q hm hc
  rw [hq.head q hm] at hc
  cases hc

theorem Tidy.append {ps qs : List Passage} (hp : Tidy ps) (hq : Tidy qs) : Tidy (ps ++ qs) := by
  refine ⟨hq.after hp.isChain, fun p hm => ?_⟩
  cases ps with
  | nil => exact hq.head p hm
  | cons q ps => exact hp.head p hm

theorem tidy_flatMap {α : Type} {f : α → List Passage} (h : ∀ a, Tidy (f a)) (as : List α) : Tidy (as.flatMap f) := by
  induction as with
  | nil => exact ⟨.nil, nofun⟩
  | cons a as ih => exact (h a).append ih

theorem tidy_singleton {p : Passage} (h : p.isComment = false) : Tidy [p] := by
  refine ⟨.singleton p, ?_⟩
  rintro _ ⟨⟩
  exact h

theorem tidy_of_closed (first : String) (ps : List Passage) {qs : List Passage} (hp : ∀ p ∈ ps, p.isOpen = false)
    (hq : qs.IsChain Meets) : Tidy (line first :: (ps ++ qs)) := by
  have hline : (line first).isOpen = false := rfl
  refine ⟨isChain_append_of_closed (List.forall_mem_cons.2 ⟨hline, hp⟩) hq, ?_⟩
  rintro _ ⟨⟩
  rfl

namespace Target

theorem isChain_preamblePassages (t : Target) (o : GeneratorOptions) (linked : List Table) :
    (t.preamblePassages o linked).IsChain Meets := by
  have hclosed : ∀ p ∈ t.preamblePassages o linked, p.isOpen = false := by
    cases t <;> simp +contextual [preamblePassages, or_imp, forall_and, isOpen]
  simpa using isChain_append_of_closed hclosed .nil

theorem tidy_tablePassages (t : Target) (table : Table) (identifier : String) :
    Tidy (t.tablePassages table identifier) := by
  cases t with
  | python => exact tidy_of_closed "" [line "", comment 0 (python.tableComment table)] (by simp [isOpen]) .nil
  | javascript => exact tidy_of_closed "" [comment 0 (javascript.tableComment table)] (by simp [isOpen]) .nil
  | sql =>
    exact tidy_of_closed "" [comment 0 (sql.tableComment table),
      line ("CREATE OR REPLACE VIEW " ++ sqlName identifier ++ " AS"), line "SELECT"] (by simp [isOpen]) (.singleton _)

theorem isChain_bodyPassages (t : Target) (name : String) (body : GetterBody) :
    (t.bodyPassages name body).IsChain Meets := by
  have hpair (n : Nat) (c : String) {p : Passage} (hp : p.isComment = false) : [comment n c, p].IsChain Meets :=
    (tidy_singleton hp).after (.singleton (comment n c))
  cases t <;> cases body <;> first | exact .singleton _ | exact hpair _ _ rfl

theorem tidy_getterPassages (t : Target) (o : GeneratorOptions) (g : Getter) : Tidy (t.getterPassages o g) := by
  have hclosed (n : Nat) (first last : List String) :
      ∀ p ∈ first.map line ++ (t.getterComments o g).map (comment n) ++ last.map line, p.isOpen = false := by
    simp +contextual [or_imp, forall_and, isOpen]
  have hbody := t.isChain_bodyPassages g.name g.body
  cases t with
  | python =>
    exact tidy_of_closed "" _
      (hclosed 0 [""] ["def " ++ g.name ++ "(record: Dict[str, Any], data: DataAccess) -> Any:"]) hbody
  | javascript =>
    exact (tidy_of_closed "" _ (hclosed 0 [] ["export function " ++ g.name ++ "(record, data) \x7b"]) hbody).append
      (tidy_singleton rfl)
  | sql =>
    have h := tidy_of_closed "," _ (hclosed 4 [] []) hbody
    rwa [List.map_nil, List.append_nil] at h

end Target

namespace GeneratedModule

variable (m : GeneratedModule)

theorem tidy_sectionPassages (s : GeneratedSection) : Tidy (m.sectionPassages s) :=
  ((Target.tidy_tablePassages _ _ _).append (tidy_flatMap (fun _ => Target.tidy_getterPassages _ _ _) _)).append
    (tidy_singleton rfl)

/-- Every comment of a module begins a line. -/
theorem isChain_passages : m.passages.IsChain Meets :=
  (tidy_singleton rfl).after
    ((tidy_flatMap m.tidy_sectionPassages _).after (Target.isChain_preamblePassages _ _ _))

end GeneratedModule

end ComputedFields
