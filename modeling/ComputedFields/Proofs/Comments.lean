import ComputedFields.Proofs.OneLine
import ComputedFields.Proofs.Passages

/-!
# Comments of a module

- `Passage.Intact`: a comment that its own text does not end;
- `GeneratedModule.verbatim`: the comments that show a text as it is, which are those of the header and those with ids
  of tables. All other comments are intact (`GeneratedModule.intact_or_verbatim`), and these are if and only if their
  text is one line (`GeneratedModule.intact_verbatim_iff`);
- `intact_generateModule`: what this means for the module of a schema;
- `source_diarySchema`: an id that ends its comment.
-/

namespace ComputedFields

open Passage

/-! ## Comments that are not ended by their text -/

/-- A comment that ends where it is meant to. A block comment goes from `/*` to the first `*/`, so this must not come
before the slash of its last line. -/
def Passage.Intact (t : Target) : Passage → Prop
  | comment _ content => t.commentMark.toList <+: content.toList ∧ t.IsLine content
  | block lines => (∀ l ∈ lines, t.IsLine l) ∧ Unclosed ("*\n" ++ unlines lines ++ " *").toList
  | _ => True

namespace Target

variable {t : Target}

theorem intact_comment_iff {n : Nat} {content : String} :
    (comment n (t.commentMark ++ content)).Intact t ↔ t.IsLine content := by
  have hmark : t.IsLine t.commentMark := by cases t <;> simp [IsLine, lineBreaks, commentMark]
  rw [Intact, isLine_append, String.toList_append]
  exact ⟨fun h => h.2.2, fun h => ⟨List.prefix_append _ _, hmark, h⟩⟩

theorem intact_headerLine_iff {n : Nat} {l : String} : (comment n (t.headerLine l)).Intact t ↔ t.IsLine l := by
  rw [headerLine]
  split
  · next h =>
    rw [String.isEmpty_iff.1 h, ← String.append_empty (s := t.commentMark), intact_comment_iff]
  · have hspace : t.IsLine " " := isLine_of_all_isPlain (by decide) t
    rw [String.append_assoc, intact_comment_iff, isLine_append]
    exact and_iff_right hspace

theorem intact_linkedTableComment_iff {n : Nat} {table : Table} :
    (comment n (t.linkedTableComment table)).Intact t ↔ t.IsLine table.id := by
  have hspaces : t.IsLine "   " := isLine_of_all_isPlain (by decide) t
  have hopen : t.IsLine " (" := isLine_of_all_isPlain (by decide) t
  have hclose : t.IsLine ")" := isLine_of_all_isPlain (by decide) t
  simp only [linkedTableComment, String.append_assoc, intact_comment_iff, isLine_append, isLine_oneLine, hspaces, hopen,
    hclose, and_true, true_and]

theorem intact_tableComment_iff {n : Nat} {table : Table} :
    (comment n (t.tableComment table)).Intact t ↔ t.IsLine table.id := by
  have hlabel : t.IsLine " Table: " := isLine_of_all_isPlain (by decide) t
  have hopen : t.IsLine " (" := isLine_of_all_isPlain (by decide) t
  have hclose : t.IsLine ")" := isLine_of_all_isPlain (by decide) t
  simp only [tableComment, String.append_assoc, intact_comment_iff, isLine_append, isLine_oneLine, hlabel, hopen,
    hclose, and_true, true_and]

theorem intact_stubComment (n : Nat) (reason : String) : (comment n (t.stubComment reason)).Intact t := by
  rw [stubComment, String.append_assoc, intact_comment_iff, isLine_append]
  exact ⟨isLine_of_all_isPlain (by decide) t, isLine_oneLine t reason⟩

theorem intact_getterComments (o : GeneratorOptions) (g : Getter) :
    ∀ c ∈ t.getterComments o g, ∀ n, (comment n c).Intact t := by
  have hspace : t.IsLine " " := isLine_of_all_isPlain (by decide) t
  have hequal : t.IsLine " = " := isLine_of_all_isPlain (by decide) t
  have hdepth : t.IsLine " depth " := isLine_of_all_isPlain (by decide) t
  intro c hc n
  rw [getterComments, List.mem_append] at hc
  obtain hc | hc := hc
  · split at hc
    · rw [List.mem_singleton.1 hc, String.append_assoc, intact_comment_iff, isLine_append]
      exact ⟨hdepth, isLine_toString t _⟩
    · cases hc
  · split at hc
    · rw [List.mem_singleton.1 hc]
      simp only [String.append_assoc, intact_comment_iff, isLine_append]
      exact ⟨hspace, isLine_oneLine t _, hequal, isLine_oneLine t _⟩
    · rw [List.mem_singleton.1 hc, String.append_assoc, intact_comment_iff, isLine_append]
      exact ⟨hspace, isLine_oneLine t _⟩

theorem intact_bodyPassages (name : String) (body : GetterBody) : ∀ p ∈ t.bodyPassages name body, p.Intact t := by
  cases t <;> cases body <;> simp [bodyPassages, intact_stubComment] <;> trivial

theorem intact_getterPassages (o : GeneratorOptions) (g : Getter) : ∀ p ∈ t.getterPassages o g, p.Intact t := by
  have hcomments (n : Nat) : ∀ p ∈ (t.getterComments o g).map (comment n), p.Intact t := by
    rw [List.forall_mem_map]
    exact fun c hc => intact_getterComments o g c hc n
  have hline (l : String) : ∀ p ∈ [line l], p.Intact t := List.forall_mem_singleton.2 trivial
  have hbody := t.intact_bodyPassages g.name g.body
  cases t with
  | python =>
    simp only [getterPassages, List.forall_mem_append]
    exact ⟨⟨⟨List.forall_mem_cons.2 ⟨trivial, hline ""⟩, hcomments 0⟩, hline _⟩, hbody⟩
  | javascript =>
    simp only [getterPassages, List.forall_mem_append]
    exact ⟨⟨⟨⟨hline "", hcomments 0⟩, hline _⟩, hbody⟩, hline _⟩
  | sql =>
    simp only [getterPassages, List.forall_mem_append]
    exact ⟨⟨hline ",", hcomments 4⟩, hbody⟩

theorem intact_tablePassages (table : Table) (identifier : String) :
    ∀ p ∈ t.tablePassages table identifier, p.Intact t ∨ p = comment 0 (t.tableComment table) := by
  cases t <;> simp [tablePassages, Intact]

theorem forall_mem_tableList {P : String → Prop} {none : String} {comment : Table → String} {tables : List Table}
    (hnone : P none) (h : ∀ x ∈ tables, P (comment x)) : ∀ l ∈ tableList none comment tables, P l := by
  unfold tableList
  split
  · exact List.forall_mem_singleton.2 hnone
  · exact List.forall_mem_map.2 h

theorem plain_javascriptProtocol (linked : List Table) :
    ∀ l ∈ javascriptProtocol linked, javascript.IsLine l ∧ Unclosed l.toList := by
  have hplain {l : String} (h : l.toList.all isPlain = true) : javascript.IsLine l ∧ Unclosed l.toList :=
    ⟨isLine_of_all_isPlain h javascript, unclosed_of_all_isPlain h⟩
  have hlines {ls : List String} (h : ls.all (·.toList.all isPlain) = true) :
      ∀ l ∈ ls, javascript.IsLine l ∧ Unclosed l.toList := fun l hl => hplain (List.all_eq_true.1 h l hl)
  obtain ⟨hstart, hstart'⟩ := hplain (l := " *   ") (by cbv)
  obtain ⟨hopen, hopen'⟩ := hplain (l := " (") (by cbv)
  obtain ⟨hclose, hclose'⟩ := hplain (l := ")") (by cbv)
  simp only [javascriptProtocol, List.forall_mem_append]
  refine ⟨⟨hlines (by cbv), forall_mem_tableList (hplain (by cbv)) fun x _ => ⟨?_, ?_⟩⟩, hlines (by cbv)⟩
  · simp only [isLine_append]
    exact ⟨⟨⟨⟨hstart, isLine_commentSafe _ _⟩, hopen⟩, isLine_commentSafe _ _⟩, hclose⟩
  · -- the characters around an id or a name keep its last star and its first slash from meeting others
    simp only [String.toList_append]
    refine (((hstart'.append (unclosed_commentSafe _) (.inl ?_)).append hopen' (.inr ?_)).append
      (unclosed_commentSafe _) (.inl ?_)).append hclose' (.inr ?_)
    · simp
    · simp
    · rw [List.getLast?_append]
      simp
    · simp

/-- Line feeds keep what ends a line apart from what begins the next one. -/
theorem unclosed_unlines {ls : List String} (h : ∀ l ∈ ls, Unclosed l.toList) : Unclosed (unlines ls).toList := by
  have hbreak : Unclosed "\n".toList := by decide
  induction ls with
  | nil => decide
  | cons l ls ih =>
    obtain ⟨hl, hls⟩ := List.forall_mem_cons.1 h
    rw [unlines_cons, String.toList_append, String.toList_append]
    exact (hl.append hbreak (.inr (by simp))).append (ih hls) (.inl (by simp))

theorem intact_block (linked : List Table) : (block (javascriptProtocol linked)).Intact javascript := by
  have hstart : Unclosed "*\n".toList := by decide
  have hend : Unclosed " *".toList := by decide
  have hlines := unclosed_unlines fun l hl => (plain_javascriptProtocol linked l hl).2
  refine ⟨fun l hl => (plain_javascriptProtocol linked l hl).1, ?_⟩
  rw [String.toList_append, String.toList_append]
  exact (hstart.append hlines (.inl (by simp))).append hend (.inr (by simp))

theorem intact_preamblePassages (o : GeneratorOptions) (linked : List Table) :
    ∀ p ∈ t.preamblePassages o linked, p.Intact t ∨ (∃ l ∈ headerLines o, p = comment 0 (t.headerLine l)) ∨
      t ≠ javascript ∧ ∃ x ∈ linked, p = comment 0 (t.linkedTableComment x) := by
  have hheader : ∀ c ∈ t.header o, ∃ l ∈ headerLines o, comment 0 c = comment 0 (t.headerLine l) :=
    List.forall_mem_map.2 fun l hl => ⟨l, hl, rfl⟩
  have hown {content : String} (hmark : t.commentMark.toList <+: content.toList)
      (h : content.toList.all isPlain = true) : (comment 0 content).Intact t := ⟨hmark, isLine_of_all_isPlain h t⟩
  cases t with
  | python =>
    simp only [preamblePassages, List.forall_mem_append, List.forall_mem_map, pythonLinkedTables, List.forall_mem_cons]
    refine ⟨⟨⟨⟨fun c hc => .inr (.inl (hheader c hc)), fun _ _ => .inl trivial⟩, .inl (hown (by decide) (by cbv)), ?_⟩,
      fun _ _ => .inl trivial⟩, fun _ _ => .inl trivial⟩
    exact forall_mem_tableList (.inl (hown (by decide) (by cbv))) fun x hx => .inr (.inr ⟨by decide, x, hx, rfl⟩)
  | javascript =>
    simp only [preamblePassages, List.forall_mem_append, List.forall_mem_map, List.forall_mem_cons]
    refine ⟨⟨fun c hc => .inr (.inl (hheader c hc)), ?_⟩, fun _ _ => .inl trivial⟩
    exact ⟨.inl trivial, .inl (intact_block linked), .inl trivial, List.forall_mem_nil _⟩
  | sql =>
    simp only [preamblePassages, sqlPreamble, List.forall_mem_append, List.forall_mem_map, List.forall_mem_cons]
    refine ⟨⟨fun c hc => .inr (.inl (hheader c hc)), ?_⟩, fun x hx => .inr (.inr ⟨by decide, x, hx, rfl⟩)⟩
    refine ⟨.inl (hown (by decide) (by cbv)), .inl (hown (by decide) (by cbv)), .inl ?_, List.forall_mem_nil _⟩
    split
    · exact hown (by decide) (by cbv)
    · exact hown (by decide) (by cbv)

/-- The comments above a getter, and the one in place of its body. -/
def commentsOf (t : Target) (o : GeneratorOptions) (g : Getter) : List String :=
  t.getterComments o g ++ match g.body with
    | .stub reason => [t.stubComment reason]
    | _ => []

theorem exists_comment_of_mem_commentsOf {o : GeneratorOptions} {g : Getter} {c : String} (h : c ∈ t.commentsOf o g) :
    ∃ n, comment n c ∈ t.getterPassages o g := by
  obtain h | h := List.mem_append.1 h
  · cases t with
    | python => exact ⟨0, by simp [getterPassages, h]⟩
    | javascript => exact ⟨0, by simp [getterPassages, h]⟩
    | sql => exact ⟨4, by simp [getterPassages, h]⟩
  · split at h
    · next reason hb =>
      obtain rfl := List.mem_singleton.1 h
      cases t with
      | python => exact ⟨4, by simp [getterPassages, hb, bodyPassages]⟩
      | javascript => exact ⟨2, by simp [getterPassages, hb, bodyPassages]⟩
      | sql => exact ⟨4, by simp [getterPassages, hb, bodyPassages]⟩
    · cases h

theorem mem_preamblePassages_header (o : GeneratorOptions) (linked : List Table) {l : String} (h : l ∈ headerLines o) :
    comment 0 (t.headerLine l) ∈ t.preamblePassages o linked := by
  have hl : comment 0 (t.headerLine l) ∈ (t.header o).map (comment 0) :=
    List.mem_map_of_mem (List.mem_map_of_mem h)
  cases t with
  | python => simp only [preamblePassages, List.mem_append, hl, true_or]
  | javascript => simp only [preamblePassages, List.mem_append, hl, true_or]
  | sql => simp only [preamblePassages, sqlPreamble, List.map_append, List.mem_append, hl, true_or]

theorem mem_preamblePassages_linked (o : GeneratorOptions) {linked : List Table} {x : Table} (ht : t ≠ javascript)
    (h : x ∈ linked) : comment 0 (t.linkedTableComment x) ∈ t.preamblePassages o linked := by
  have hx : t.linkedTableComment x ∈ linked.map t.linkedTableComment := List.mem_map_of_mem h
  cases t with
  | python =>
    have hlist : python.linkedTableComment x ∈ pythonLinkedTables linked := by
      rw [pythonLinkedTables, tableList, if_neg (by simp [List.ne_nil_of_mem h])]
      exact List.mem_cons_of_mem _ hx
    have hc : comment 0 (python.linkedTableComment x) ∈ (pythonLinkedTables linked).map (comment 0) :=
      List.mem_map_of_mem hlist
    simp only [preamblePassages, List.mem_append, hc, true_or, or_true]
  | javascript => exact absurd rfl ht
  | sql => exact List.mem_map_of_mem (List.mem_append_right _ hx)

theorem mem_preamblePassages_block (o : GeneratorOptions) (linked : List Table) (ht : t = javascript) :
    block (javascriptProtocol linked) ∈ t.preamblePassages o linked := by
  subst ht
  simp [preamblePassages]

theorem mem_tablePassages (table : Table) (identifier : String) :
    comment 0 (t.tableComment table) ∈ t.tablePassages table identifier := by
  cases t <;> simp [tablePassages]

end Target

/-! ## The comments of a module -/

namespace GeneratedModule

/-- The comments that show a text as it is, with this text. In JavaScript the ids of linked tables are in a block
comment, for which they are changed. -/
def verbatim (m : GeneratedModule) : List (String × String) :=
  (headerLines m.options).map (fun l => (l, m.options.target.headerLine l)) ++
    (if m.options.target = .javascript then []
      else m.linkedTables.map fun x => (x.id, m.options.target.linkedTableComment x)) ++
    m.sections.map fun s => (s.table.id, m.options.target.tableComment s.table)

variable {m : GeneratedModule}

theorem mem_passages_of_mem_preamble {p : Passage}
    (h : p ∈ m.options.target.preamblePassages m.options m.linkedTables) : p ∈ m.passages :=
  List.mem_append_left _ (List.mem_append_left _ h)

theorem mem_passages_of_mem_section {p : Passage} {s : GeneratedSection} (hs : s ∈ m.sections)
    (h : p ∈ m.sectionPassages s) : p ∈ m.passages :=
  List.mem_append_left _ (List.mem_append_right _ (List.mem_flatMap.2 ⟨s, hs, h⟩))

theorem exists_comment_of_mem_getters {g : GeneratedGetter} (hg : g ∈ m.getters) {c : String}
    (hc : c ∈ m.options.target.commentsOf m.options g.getter) : ∃ n, comment n c ∈ m.passages := by
  obtain ⟨s, hs, hg⟩ := List.mem_flatMap.1 hg
  obtain ⟨n, hn⟩ := Target.exists_comment_of_mem_commentsOf hc
  refine ⟨n, mem_passages_of_mem_section hs ?_⟩
  exact List.mem_append_left _ (List.mem_append_right _ (List.mem_flatMap.2 ⟨g, hg, hn⟩))

theorem forall_mem_verbatim {P : String × String → Prop} :
    (∀ v ∈ m.verbatim, P v) ↔
      (∀ l ∈ headerLines m.options, P (l, m.options.target.headerLine l)) ∧
      (m.options.target ≠ .javascript →
        ∀ x ∈ m.linkedTables, P (x.id, m.options.target.linkedTableComment x)) ∧
      ∀ s ∈ m.sections, P (s.table.id, m.options.target.tableComment s.table) := by
  rw [verbatim, List.forall_mem_append, List.forall_mem_append, List.forall_mem_map, List.forall_mem_map, and_assoc]
  split
  · next h => simp [h]
  · next h => simp only [List.forall_mem_map, h, ne_eq, not_false_eq_true, forall_const]

/-- Every comment that shows a text as it is, is a comment of the module. It is intact if and only if the text is one
line. -/
theorem intact_verbatim_iff : ∀ v ∈ m.verbatim, comment 0 v.2 ∈ m.passages ∧
    ((comment 0 v.2).Intact m.options.target ↔ m.options.target.IsLine v.1) := by
  refine forall_mem_verbatim.2 ⟨fun l hl => ?_, fun ht x hx => ?_, fun s hs => ?_⟩
  · exact ⟨mem_passages_of_mem_preamble (Target.mem_preamblePassages_header _ _ hl), Target.intact_headerLine_iff⟩
  · exact ⟨mem_passages_of_mem_preamble (Target.mem_preamblePassages_linked _ ht hx),
      Target.intact_linkedTableComment_iff⟩
  · have hc := Target.mem_tablePassages (t := m.options.target) s.table s.identifier
    exact ⟨mem_passages_of_mem_section hs (List.mem_append_left _ (List.mem_append_left _ hc)),
      Target.intact_tableComment_iff⟩

/-- All other comments are intact. -/
theorem intact_or_verbatim :
    ∀ p ∈ m.passages, p.Intact m.options.target ∨ ∃ v ∈ m.verbatim, p = comment 0 v.2 := by
  obtain ⟨hheader, hlinked, hsection⟩ := forall_mem_verbatim.1 fun v (hv : v ∈ m.verbatim) => hv
  have hfragment (content : String) : ∀ p ∈ [fragment content],
      p.Intact m.options.target ∨ ∃ v ∈ m.verbatim, p = comment 0 v.2 := List.forall_mem_singleton.2 (.inl trivial)
  have hpreamble : ∀ p ∈ m.options.target.preamblePassages m.options m.linkedTables,
      p.Intact m.options.target ∨ ∃ v ∈ m.verbatim, p = comment 0 v.2 := by
    intro p hp
    obtain h | ⟨l, hl, rfl⟩ | ⟨ht, x, hx, rfl⟩ := Target.intact_preamblePassages _ _ p hp
    · exact .inl h
    · exact .inr ⟨_, hheader l hl, rfl⟩
    · exact .inr ⟨_, hlinked ht x hx, rfl⟩
  have hsections : ∀ s ∈ m.sections, ∀ p ∈ m.sectionPassages s,
      p.Intact m.options.target ∨ ∃ v ∈ m.verbatim, p = comment 0 v.2 := by
    intro s hs
    refine List.forall_mem_append.2 ⟨List.forall_mem_append.2 ⟨fun p hp => ?_, fun p hp => ?_⟩, hfragment _⟩
    · obtain h | rfl := Target.intact_tablePassages _ _ p hp
      · exact .inl h
      · exact .inr ⟨_, hsection s hs, rfl⟩
    · obtain ⟨g, -, hp⟩ := List.mem_flatMap.1 hp
      exact .inl (Target.intact_getterPassages _ _ p hp)
  exact List.forall_mem_append.2
    ⟨List.forall_mem_append.2 ⟨hpreamble, List.forall_mem_flatMap.2 hsections⟩, hfragment _⟩

theorem intact_of_verbatim (h : ∀ v ∈ m.verbatim, m.options.target.IsLine v.1) :
    ∀ p ∈ m.passages, p.Intact m.options.target := by
  intro p hp
  obtain h' | ⟨v, hv, rfl⟩ := intact_or_verbatim p hp
  · exact h'
  · exact (intact_verbatim_iff v hv).2.2 (h v hv)

theorem exists_source_eq {p : Passage} (h : p ∈ m.passages) : ∃ before after, m.source = before ++ p.text ++ after := by
  obtain ⟨ps, qs, hm⟩ := List.append_of_mem h
  refine ⟨textOf ps, textOf qs, ?_⟩
  rw [source_eq, hm, textOf_append, textOf_cons, String.append_assoc]

end GeneratedModule

variable {s : Schema} {options : GeneratorOptions}

/-- A line feed in the header comment only begins another comment. -/
theorem isLine_headerLines {t : Target} {o : GeneratorOptions} (hname : t.IsLine o.moduleName)
    (hheader : ∀ header ∈ o.headerComment, ∀ c ∈ t.lineBreaks, c ≠ '\n' → c ∉ header.toList) :
    ∀ l ∈ headerLines o, t.IsLine l := by
  refine List.forall_mem_append.2 ⟨?_, List.forall_mem_singleton.2 ?_⟩
  · split
    · next header ho =>
      intro l hl c hc hm
      -- the header comment is cut at its line feeds, so a break in a line is another one
      obtain ⟨hn, hsub⟩ := Text.mem_of_mem_lines hl
      exact hheader header ho c hc (fun h => hn (h ▸ hm)) (hsub hm)
    · exact List.forall_mem_singleton.2 (Target.isLine_of_all_isPlain (by cbv) t)
  · exact Target.isLine_append.2 ⟨Target.isLine_of_all_isPlain (by cbv) t, hname⟩

theorem intact_passages (hid : ∀ table ∈ s.tables, options.target.IsLine table.id)
    (hname : options.target.IsLine options.moduleName)
    (hheader : ∀ header ∈ options.headerComment, ∀ c ∈ options.target.lineBreaks, c ≠ '\n' → c ∉ header.toList) :
    ∀ p ∈ (generateModule s options).passages, p.Intact options.target := by
  refine GeneratedModule.intact_of_verbatim
    (GeneratedModule.forall_mem_verbatim.2 ⟨?_, fun _ x hx => ?_, fun x hx => ?_⟩)
  · exact isLine_headerLines hname hheader
  · exact hid x (mem_tables_of_mem_linkedTables hx)
  · exact hid x.table (table_mem_of_mem_sections hx)

/-! ## The module of a schema -/

/-- The text of a module consists of code and of comments that begin lines, the comments of its getters among them. A
comment can only be ended by its text if it is one of the header or shows the id of a table as it is, and it is if this
text is not one line. So no comment is ended by its text if the ids of tables, the name of the module and the header
comment have no line breaks, apart from line feeds in the last. -/
theorem intact_generateModule (s : Schema) (options : GeneratorOptions) :
    (generateModule s options).source = textOf (generateModule s options).passages ∧
    (generateModule s options).passages.IsChain Meets ∧
    (options.target = .javascript → block (Target.javascriptProtocol (generateModule s options).linkedTables) ∈
      (generateModule s options).passages) ∧
    (∀ g ∈ (generateModule s options).getters, ∀ c ∈ options.target.commentsOf options g.getter,
      ∃ n, comment n c ∈ (generateModule s options).passages) ∧
    (∀ p ∈ (generateModule s options).passages, p.Intact options.target ∨
      ∃ v ∈ (generateModule s options).verbatim, p = comment 0 v.2 ∧ ¬ options.target.IsLine v.1) ∧
    (∀ v ∈ (generateModule s options).verbatim, comment 0 v.2 ∈ (generateModule s options).passages ∧
      ((comment 0 v.2).Intact options.target ↔ options.target.IsLine v.1)) ∧
    ((∀ table ∈ s.tables, options.target.IsLine table.id) → options.target.IsLine options.moduleName →
      (∀ header ∈ options.headerComment, ∀ c ∈ options.target.lineBreaks, c ≠ '\n' → c ∉ header.toList) →
      ∀ p ∈ (generateModule s options).passages, p.Intact options.target) := by
  refine ⟨GeneratedModule.source_eq _, GeneratedModule.isChain_passages _, fun ht => ?_,
    fun g hg c hc => GeneratedModule.exists_comment_of_mem_getters hg hc, fun p hp => ?_,
    GeneratedModule.intact_verbatim_iff, intact_passages⟩
  · exact GeneratedModule.mem_passages_of_mem_preamble (Target.mem_preamblePassages_block _ _ ht)
  · by_cases h : p.Intact options.target
    · exact .inl h
    · obtain h' | ⟨v, hv, rfl⟩ := GeneratedModule.intact_or_verbatim p hp
      · exact .inl h'
      · exact .inr ⟨v, hv, rfl, fun hl => h ((GeneratedModule.intact_verbatim_iff v hv).2.2 hl)⟩

/-- The names of the table and of its field would end comments. -/
def albumSchema : Schema where
  declared := [{ id := "albums", name := "Albums\nthrow 1", fields := [
    { id := "size", name := "Size */\nthrow 2", type := .formula, options := { formula := some "1" } }] }]
  sound := by decide

def albumOptions : GeneratorOptions := { target := .javascript, headerComment := some "Albums\nof photographs" }

/-- No comment of this module is ended by its text, those of its getter and of the header included. -/
theorem intact_generateModule_albumSchema :
    (∃ g ∈ (generateModule albumSchema albumOptions).getters, ∀ c ∈ Target.commentsOf .javascript albumOptions g.getter,
      ∃ n, comment n c ∈ (generateModule albumSchema albumOptions).passages) ∧
    block (Target.javascriptProtocol (generateModule albumSchema albumOptions).linkedTables) ∈
      (generateModule albumSchema albumOptions).passages ∧
    comment 0 "// Module: computed_fields" ∈ (generateModule albumSchema albumOptions).passages ∧
    (∀ p ∈ (generateModule albumSchema albumOptions).passages, p.Intact .javascript) := by
  obtain ⟨-, -, hblock, hgetters, -, hverbatim, hintact⟩ := intact_generateModule albumSchema albumOptions
  have hfields : albumSchema.computedFields ≠ [] := by decide
  obtain ⟨g, hg⟩ := exists_mem_getters albumOptions (by decide) hfields
  have hname : ("Module: computed_fields", "// Module: computed_fields") ∈
      (generateModule albumSchema albumOptions).verbatim := by
    refine List.mem_append_left _ (List.mem_append_left _ (List.mem_map.2 ⟨"Module: computed_fields", ?_, rfl⟩))
    exact List.mem_append_right _ (List.mem_singleton.2 rfl)
  refine ⟨⟨g, hg, hgetters g hg⟩, hblock rfl, (hverbatim _ hname).1, hintact ?_ ?_ ?_⟩
  · exact List.forall_mem_singleton.2 (Target.isLine_of_all_isPlain (by cbv) _)
  · exact Target.isLine_of_all_isPlain (by cbv) _
  · simp [albumOptions, Target.lineBreaks]

/-! ## A comment that is ended by its text -/

def diaryTable : Table where
  id := "diary\nraise SystemExit"
  name := "Diary"
  fields := [{ id := "size", name := "Size", type := .formula, options := { formula := some "1" } }]

/-- The id of the only table goes on in a second line. -/
def diarySchema : Schema where
  declared := [diaryTable]
  sound := by decide

/-- The second line of the id stands in the module as if it were code. -/
theorem source_diarySchema :
    (∃ before after, (generateModule diarySchema {}).source =
      before ++ "# Table: Diary (diary\nraise SystemExit)\n" ++ after) ∧
    comment 0 "# Table: Diary (diary\nraise SystemExit)" ∈ (generateModule diarySchema {}).passages ∧
    ¬ (comment 0 "# Table: Diary (diary\nraise SystemExit)").Intact .python := by
  have hfields : diarySchema.computedFields ≠ [] := by decide
  obtain ⟨x, hx⟩ := exists_mem_sections {} hfields
  have hcomment : Target.tableComment .python x.table = "# Table: Diary (diary\nraise SystemExit)" := by
    rw [List.mem_singleton.1 (table_mem_of_mem_sections hx)]
    cbv
  have hmem : (x.table.id, Target.tableComment .python x.table) ∈ (generateModule diarySchema {}).verbatim :=
    List.mem_append_right _ (List.mem_map_of_mem hx)
  obtain ⟨hp, hi⟩ := GeneratedModule.intact_verbatim_iff _ hmem
  rw [hcomment] at hp hi
  refine ⟨GeneratedModule.exists_source_eq hp, hp, fun h => ?_⟩
  have hline := hi.1 h
  rw [List.mem_singleton.1 (table_mem_of_mem_sections hx)] at hline
  exact hline '\n' (by decide) (by decide)

end ComputedFields
