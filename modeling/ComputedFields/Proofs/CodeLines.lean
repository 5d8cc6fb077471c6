import ComputedFields.Proofs.Passages
import ComputedFields.Proofs.UnbrokenCode

/-!
# Lines of a getter

A line break in the code of a getter would end a statement, or the getter itself.

- `Text.lines_unlines`, `Text.lines_intercalate`: lines without line breaks are found again in a text;
- `Target.statementLines_eq`: statements, moved right, are each on a line of their own;
- `Target.getter_eq`, `Target.isIndented_bodyLines`: the lines of a getter, which are moved right;
- `staysOnLines`: all of this, for the bodies that getters are given.
-/

namespace ComputedFields

/-! ## Lines of a text -/

namespace Text

theorem linesAfter_append {cs : List Char} (h : '\n' ∉ cs) (line rest : List Char) :
    linesAfter line (cs ++ rest) = linesAfter (cs.reverse ++ line) rest := by
  induction cs generalizing line with
  | nil => rfl
  | cons c cs ih =>
    obtain ⟨hc, hcs⟩ := not_or.1 (mt List.mem_cons.2 h)
    rw [List.cons_append, linesAfter, if_neg (Ne.symm hc), ih hcs, List.reverse_cons, List.append_assoc]
    rfl

theorem endedLine_eq {line : List Char} (h : '\r' ∉ line) : endedLine line = line.reverse := by
  unfold endedLine
  split
  · exact absurd List.mem_cons_self h
  · rfl

/-- A line without line breaks, before a line feed, is the first one of a text. -/
theorem lines_append {l : String} (h : Unbroken l) (rest : String) : lines (l ++ "\n" ++ rest) = l :: lines rest := by
  have htext : (l ++ "\n" ++ rest).toList = l.toList ++ '\n' :: rest.toList := by simp
  have hended : endedLine l.toList.reverse = l.toList := by
    rw [endedLine_eq (fun hr => h.2 (List.mem_reverse.1 hr)), List.reverse_reverse]
  rw [lines, htext, linesAfter_append h.1, List.append_nil, linesAfter, if_pos rfl, hended, List.map_cons,
    String.ofList_toList]
  rfl

theorem lines_eq_singleton {l : String} (h : IsStatement l) : lines l = [l] := by
  have hne : l.toList ≠ [] := fun he => h.2 (String.toList_eq_nil_iff.1 he)
  rw [lines, ← List.append_nil l.toList, linesAfter_append h.1.1, linesAfter, finished]
  simp [hne]

theorem lines_unlines {ls : List String} (h : ∀ l ∈ ls, Unbroken l) : lines (unlines ls) = ls := by
  induction ls with
  | nil => rfl
  | cons l ls ih =>
    obtain ⟨hl, hls⟩ := List.forall_mem_cons.1 h
    rw [unlines_cons, lines_append hl, ih hls]

theorem lines_intercalate {ls : List String} (h : ∀ l ∈ ls, IsStatement l) : lines ("\n".intercalate ls) = ls := by
  induction ls with
  | nil => rfl
  | cons l ls ih =>
    obtain ⟨hl, hls⟩ := List.forall_mem_cons.1 h
    cases ls with
    | nil => simpa using lines_eq_singleton hl
    | cons l' ls => rw [String.intercalate_cons_cons, lines_append hl.1, ih hls]

def spaces (n : Nat) : String := String.ofList (List.replicate n ' ')

end Text

theorem unbroken_spaces (n : Nat) : Unbroken (Text.spaces n) := by
  rw [Unbroken, Text.spaces, String.toList_ofList]
  simp [List.mem_replicate]

/-! ## Lines of a getter -/

/-- A line that is moved right. -/
structure IsIndented (n : Nat) (l : String) : Prop where
  unbroken : Unbroken l
  isPrefix : List.replicate n ' ' <+: l.toList

theorem IsIndented.chars {n : Nat} {cs : List Char} (h : cs.all keepsLine = true)
    (hn : (List.replicate n ' ').isPrefixOf cs = true) : IsIndented n (String.ofList cs) where
  unbroken := .chars h
  isPrefix := by
    rw [String.toList_ofList]
    exact List.isPrefixOf_iff_prefix.1 hn

theorem IsIndented.append {n : Nat} {l s : String} (hl : IsIndented n l) (hs : Unbroken s) : IsIndented n (l ++ s) where
  unbroken := hl.unbroken.append hs
  isPrefix := by
    rw [String.toList_append]
    exact hl.isPrefix.trans (List.prefix_append _ _)

namespace Target

open Text

/-- Statements on one line each are moved right, and are not changed otherwise. -/
theorem statementLines_eq {ls : List String} (h : ∀ l ∈ ls, IsStatement l) (indent : Nat) :
    statementLines indent ls = unlines (ls.map (spaces indent ++ ·)) := by
  rw [statementLines, indented, lines_intercalate h, unlines, List.map_map]
  refine congrArg String.join (List.map_congr_left fun l hl => ?_)
  have hne : l.isEmpty = false := by simpa using (h l hl).2
  rw [indentedLine, hne]
  rfl

/-- The empty lines above a getter. -/
def gap : Target → List String
  | python => ["", ""]
  | javascript => [""]
  | sql => []

/-- The line that a getter begins with. -/
def signature : Target → String → String
  | python, name => "def " ++ name ++ "(record: Dict[str, Any], data: DataAccess) -> Any:"
  | javascript, name => "export function " ++ name ++ "(record, data) \x7b"
  | sql, _ => ""

/-- How far the lines of the body of a getter are moved right, at least. -/
def indent : Target → Nat
  | python => 4
  | javascript => 2
  | sql => 0

/-- The lines of the body of a getter. -/
def bodyLines : Target → GetterBody → List String
  | python, .stub reason => ["    " ++ python.stubComment reason, "    return None"]
  | python, .expression code =>
    ["    try:", "        return " ++ code, "    except Exception:", "        return None"]
  | python, .statements lines =>
    ["    try:"] ++ lines.map (spaces 8 ++ ·) ++ ["    except Exception:", "        return None"]
  | javascript, .stub reason => ["  " ++ javascript.stubComment reason, "  return null;"]
  | javascript, .expression code =>
    ["  try \x7b", "    return " ++ code ++ ";", "  \x7d catch (err) \x7b", "    return null;", "  \x7d"]
  | javascript, .statements lines =>
    ["  try \x7b"] ++ lines.map (spaces 4 ++ ·) ++ ["  \x7d catch (err) \x7b", "    return null;", "  \x7d"]
  | sql, _ => []

/-- The line after the body of a getter, if there is one. -/
def closing : Target → List String
  | python => []
  | javascript => ["\x7d"]
  | sql => []

variable {t : Target}

theorem pythonBody_eq {body : GetterBody} (h : body.IsUnbroken) :
    pythonBody body = unlines (python.bodyLines body) := by
  cases body with
  | stub reason => rfl
  | expression code => rfl
  | statements lines => rw [pythonBody, bodyLines, unlines_append, unlines_append, statementLines_eq h]

theorem javascriptBody_eq {body : GetterBody} (h : body.IsUnbroken) :
    javascriptBody body = unlines (javascript.bodyLines body) := by
  cases body with
  | stub reason => rfl
  | expression code => rfl
  | statements lines => rw [javascriptBody, bodyLines, unlines_append, unlines_append, statementLines_eq h]

theorem getter_eq (ht : t ≠ sql) (o : GeneratorOptions) {g : Getter} (h : g.body.IsUnbroken) :
    t.getter o g = unlines (t.gap ++ t.getterComments o g ++ [t.signature g.name]) ++
      unlines (t.bodyLines g.body ++ t.closing) := by
  cases t with
  | python =>
    rw [getter, pythonGetter, pythonBody_eq h, closing, List.append_nil]
    rfl
  | javascript =>
    rw [getter, javascriptGetter, javascriptBody_eq h, unlines_append (javascript.bodyLines g.body),
      String.append_assoc]
    rfl
  | sql => exact absurd rfl ht

theorem unbroken_stubComment (t : Target) (reason : String) : Unbroken (t.stubComment reason) := by
  have hline := isLine_oneLine python reason
  have hreason : Unbroken (oneLine reason) := ⟨hline '\n' (by decide), hline '\r' (by decide)⟩
  cases t <;> exact .append (.append (.chars rfl) (.chars rfl)) hreason

theorem isIndented_bodyLines {body : GetterBody} (h : body.IsUnbroken) :
    ∀ l ∈ t.bodyLines body, IsIndented t.indent l := by
  cases t with
  | python =>
    cases body with
    | stub reason => exact forall_mem_pair (.append (.chars rfl rfl) (unbroken_stubComment _ _)) (.chars rfl rfl)
    | expression code =>
      simp only [bodyLines, List.forall_mem_cons]
      exact ⟨.chars rfl rfl, .append (.chars rfl rfl) h, .chars rfl rfl, .chars rfl rfl, List.forall_mem_nil _⟩
    | statements lines =>
      simp only [bodyLines, List.forall_mem_append, List.forall_mem_map, List.forall_mem_cons]
      refine ⟨⟨⟨.chars rfl rfl, List.forall_mem_nil _⟩, fun l hl => ?_⟩, .chars rfl rfl, .chars rfl rfl,
        List.forall_mem_nil _⟩
      exact .append (.chars rfl rfl) (h l hl).1
  | javascript =>
    cases body with
    | stub reason => exact forall_mem_pair (.append (.chars rfl rfl) (unbroken_stubComment _ _)) (.chars rfl rfl)
    | expression code =>
      simp only [bodyLines, List.forall_mem_cons]
      exact ⟨.chars rfl rfl, .append (.append (.chars rfl rfl) h) (.chars rfl), .chars rfl rfl, .chars rfl rfl,
        .chars rfl rfl, List.forall_mem_nil _⟩
    | statements lines =>
      simp only [bodyLines, List.forall_mem_append, List.forall_mem_map, List.forall_mem_cons]
      refine ⟨⟨⟨.chars rfl rfl, List.forall_mem_nil _⟩, fun l hl => ?_⟩, .chars rfl rfl, .chars rfl rfl, .chars rfl rfl,
        List.forall_mem_nil _⟩
      exact .append (.chars rfl rfl) (h l hl).1
  | sql => exact List.forall_mem_nil _

theorem unbroken_closing : ∀ l ∈ t.closing, Unbroken l := by
  cases t with
  | javascript => exact List.forall_mem_singleton.2 (.chars rfl)
  | _ => exact List.forall_mem_nil _

end Target

/-- A body whose getter stays on its lines. -/
structure StaysOnLines (t : Target) (body : GetterBody) : Prop where
  /-- There are no line breaks in its code. -/
  isUnbroken : body.IsUnbroken
  /-- A getter with this body is written as its comments, the line that it begins with, and the lines of the body, -/
  getter_eq : ∀ o g, g.body = body → t.getter o g =
    unlines (t.gap ++ t.getterComments o g ++ [t.signature g.name]) ++ unlines (t.bodyLines body ++ t.closing)
  /-- which are found again as the lines of this text, -/
  lines_eq : Text.lines (unlines (t.bodyLines body ++ t.closing)) = t.bodyLines body ++ t.closing
  /-- and are moved right. -/
  isIndented : ∀ l ∈ t.bodyLines body, IsIndented t.indent l
  /-- Statements that are moved right are each on a line of their own, in the same order. -/
  statementLines_eq : ∀ ls, body = .statements ls → ∀ n,
    Target.statementLines n ls = unlines (ls.map (Text.spaces n ++ ·)) ∧
      Text.lines (Target.statementLines n ls) = ls.map (Text.spaces n ++ ·)

theorem staysOnLines_of_isUnbroken {t : Target} (ht : t ≠ .sql) {body : GetterBody} (h : body.IsUnbroken) :
    StaysOnLines t body where
  isUnbroken := h
  getter_eq o g hg := by
    rw [← hg] at h ⊢
    exact Target.getter_eq ht o h
  lines_eq := by
    refine Text.lines_unlines (List.forall_mem_append.2 ⟨fun l hl => ?_, Target.unbroken_closing⟩)
    exact (Target.isIndented_bodyLines h l hl).unbroken
  isIndented := Target.isIndented_bodyLines h
  statementLines_eq ls hls n := by
    subst hls
    refine ⟨Target.statementLines_eq h n, ?_⟩
    rw [Target.statementLines_eq h n]
    exact Text.lines_unlines (List.forall_mem_map.2 fun l hl => (unbroken_spaces n).append (h l hl).1)

/-- Getters stay on their lines. Keys, table identifiers and texts are arbitrary; only getters that are called, and code
that is taken over for a field, must have no line breaks. -/
theorem staysOnLines {t : Target} (ht : t ≠ .sql) :
    (∀ (access : FieldRef → FieldAccess) (nullSafety : Bool) (f : Formula), (∀ r, (access r).IsUnbroken) →
      StaysOnLines t (.expression (ExpressionContext.express ⟨t, access, nullSafety⟩ f).code)) ∧
    (∀ (r : LinkRead) (nullSafety : Bool) (body : GetterBody), (∀ read ∈ r.read, read.IsUnbroken) →
      t.linkBody r nullSafety = .ok body → (∃ lines, body = .statements lines) ∧ StaysOnLines t body) ∧
    ∀ reason, StaysOnLines t (.stub reason) := by
  refine ⟨fun access nullSafety f h => ?_, fun r nullSafety body hr h => ?_, fun reason => ?_⟩
  · exact staysOnLines_of_isUnbroken ht (Target.unbroken_express ht h f)
  · obtain ⟨lines, rfl, hlines⟩ := Target.isUnbroken_linkBody ht hr h
    exact ⟨⟨lines, rfl⟩, staysOnLines_of_isUnbroken ht hlines⟩
  · exact staysOnLines_of_isUnbroken ht trivial

/-- A formula with line breaks in a text and in the name of a field. -/
def addressFormula : Formula :=
  .binary .concat (.field ⟨"street\nand number", none, none⟩)
    (.binary .concat (.literal (.text ",\r\n")) (.field ⟨"town", none, none⟩))

/-- A rollup with line breaks in the key of its link, in its table and in its separator. -/
def addressesRead : LinkRead where
  fieldId := "addresses"
  kind := .rollup (.arrayJoin "\n\n")
  linkKey := "delivered\r\nto"
  tableId := "addresses\r"
  tableKey := "addresses\r"
  isSingle := false
  read := some (.computed "address" "get_address")

theorem staysOnLines_addresses :
    let access : FieldRef → FieldAccess := fun r => if r.id = "town" then .computed "get_town" else .stored r.id
    StaysOnLines .python (.expression (ExpressionContext.express ⟨.python, access, true⟩ addressFormula).code) ∧
    ∃ body, Target.linkBody .javascript addressesRead true = .ok body ∧ StaysOnLines .javascript body := by
  intro access
  have haccess : ∀ r, (access r).IsUnbroken := fun r => by
    dsimp only [access]
    split
    · exact Unbroken.chars rfl
    · trivial
  have hread : ∀ read ∈ addressesRead.read, read.IsUnbroken := by
    rintro read ⟨⟩
    exact Unbroken.chars rfl
  exact ⟨(staysOnLines (by decide)).1 access true addressFormula haccess,
    _, rfl, ((staysOnLines (by decide)).2.1 addressesRead true _ hread rfl).2⟩

end ComputedFields
