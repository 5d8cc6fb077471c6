import ComputedFields.Module.Generation
import Mathlib.Data.List.Basic

/-!
# Getters in the text of a module

- `OccursIn`: a text that stands in another;
- `InOrder`: texts that stand in another one after the other, and `InOrder.exists_eq_of_lt`: the earlier ends before the
  later begins;
- `GeneratedModule.inOrder_source`: the getters stand in the text of their module in the order in which they are
  written;
- `Target.occursIn_stubComment`, `Target.occursIn_code`: what stands in the text of a getter.
-/

namespace ComputedFields

/-! ## Texts in a text -/

/-- A text that stands in another. -/
def OccursIn (part text : String) : Prop := part.toList <:+: text.toList

namespace OccursIn

variable {part text : String}

theorem refl (text : String) : OccursIn text text := List.infix_refl _

theorem append (h : OccursIn part text) (after : String) : OccursIn part (text ++ after) := by
  rw [OccursIn, String.toList_append]
  exact h.trans (List.prefix_append _ _).isInfix

theorem prepend (h : OccursIn part text) (before : String) : OccursIn part (before ++ text) := by
  rw [OccursIn, String.toList_append]
  exact h.trans (List.suffix_append _ _).isInfix

theorem trans {whole : String} (h : OccursIn part text) (h' : OccursIn text whole) : OccursIn part whole :=
  List.IsInfix.trans h h'

theorem join {texts : List String} (h : text ∈ texts) : OccursIn text (String.join texts) := by
  obtain ⟨before, after, rfl⟩ := List.append_of_mem h
  rw [OccursIn, String.toList_join, List.flatMap_append, List.flatMap_cons, ← List.append_assoc]
  exact List.infix_append _ _ _

theorem line {lines : List String} (h : text ∈ lines) : OccursIn text (unlines lines) :=
  ((refl text).append "\n").trans (join (List.mem_map_of_mem h))

end OccursIn

/-- Texts that stand in another one after the other. -/
inductive InOrder : List String → String → Prop
  | nil (rest : String) : InOrder [] rest
  | cons (before text : String) {texts : List String} {rest : String} :
      InOrder texts rest → InOrder (text :: texts) (before ++ text ++ rest)

namespace InOrder

variable {texts : List String} {whole : String}

theorem prepend (h : InOrder texts whole) (before : String) : InOrder texts (before ++ whole) := by
  cases h with
  | nil rest => exact .nil _
  | cons before' text h =>
    rw [← String.append_assoc, ← String.append_assoc]
    exact .cons (before ++ before') text h

theorem append (h : InOrder texts whole) (after : String) : InOrder texts (whole ++ after) := by
  induction h with
  | nil rest => exact .nil _
  | cons before text h ih =>
    rw [String.append_assoc]
    exact .cons before text ih

theorem concat {texts' : List String} {whole' : String} (h : InOrder texts whole) (h' : InOrder texts' whole') :
    InOrder (texts ++ texts') (whole ++ whole') := by
  induction h with
  | nil rest => exact h'.prepend rest
  | cons before text h ih =>
    rw [String.append_assoc]
    exact .cons before text ih

theorem join (texts : List String) : InOrder texts (String.join texts) := by
  induction texts with
  | nil => exact .nil _
  | cons text texts ih =>
    rw [String.join_cons, ← String.empty_append (s := text)]
    exact .cons "" text ih

theorem flatMap {α : Type} {parts : α → List String} {text : α → String} {as : List α}
    (h : ∀ a ∈ as, InOrder (parts a) (text a)) : InOrder (as.flatMap parts) (String.join (as.map text)) := by
  induction as with
  | nil => exact .nil _
  | cons a as ih =>
    obtain ⟨ha, has⟩ := List.forall_mem_cons.1 h
    rw [List.flatMap_cons, List.map_cons, String.join_cons]
    exact ha.concat (ih has)

theorem occursIn {text : String} (h : InOrder texts whole) (ht : text ∈ texts) : OccursIn text whole := by
  induction h with
  | nil rest => cases ht
  | cons before text' h ih =>
    rcases List.mem_cons.1 ht with rfl | ht
    · exact ((OccursIn.refl text).prepend before).append _
    · exact (ih ht).prepend _

/-- Of two of the texts, the earlier ends before the later begins. -/
theorem exists_eq_of_lt {i j : Nat} {text text' : String} (h : InOrder texts whole) (hlt : j < i)
    (hj : texts[j]? = some text) (hi : texts[i]? = some text') :
    ∃ before between after, whole = before ++ text ++ between ++ text' ++ after := by
  induction h generalizing i j with
  | nil rest => cases hj
  | @cons before first texts rest h ih =>
    obtain ⟨i, rfl⟩ : ∃ k, i = k + 1 := ⟨i - 1, by omega⟩
    rw [List.getElem?_cons_succ] at hi
    cases j with
    | zero =>
      cases hj
      obtain ⟨between, after, hrest⟩ : ∃ between after, rest = between ++ text' ++ after := by
        obtain ⟨between, after, hrest⟩ := h.occursIn (List.mem_of_getElem? hi)
        refine ⟨String.ofList between, String.ofList after, String.toList_inj.1 ?_⟩
        simpa using hrest.symm
      exact ⟨before, between, after, by rw [hrest]; simp only [String.append_assoc]⟩
    | succ j =>
      rw [List.getElem?_cons_succ] at hj
      obtain ⟨before', between, after, hrest⟩ := ih (by omega) hj hi
      exact ⟨before ++ first ++ before', between, after, by rw [hrest]; simp only [String.append_assoc]⟩

end InOrder

/-! ## The text of a module -/

namespace GeneratedModule

/-- The text of a getter in its module. -/
def getterText (m : GeneratedModule) (g : Getter) : String := m.options.target.getter m.options g

variable (m : GeneratedModule)

theorem inOrder_sectionText (s : GeneratedSection) :
    InOrder (s.getters.map fun g => m.getterText g.getter) (m.sectionText s) :=
  ((InOrder.join _).prepend _).append _

/-- The getters stand in the text in the order in which they are written. -/
theorem inOrder_source : InOrder (m.getters.map fun g => m.getterText g.getter) m.source := by
  rw [getters, List.map_flatMap]
  exact ((InOrder.flatMap fun s _ => m.inOrder_sectionText s).prepend _).append _

end GeneratedModule

/-! ## The text of a getter -/

namespace Target

variable {o : GeneratorOptions} {g : Getter}

/-- A stub says why there is no code. -/
theorem occursIn_stubComment (t : Target) {reason : String} (h : g.body = .stub reason) :
    OccursIn (t.stubComment reason) (t.getter o g) := by
  have hcomment := OccursIn.refl (t.stubComment reason)
  cases t with
  | python =>
    rw [getter, pythonGetter, h, pythonBody]
    exact ((hcomment.prepend _).trans (.line List.mem_cons_self)).prepend _
  | javascript =>
    rw [getter, javascriptGetter, h, javascriptBody]
    exact (((hcomment.prepend _).trans (.line List.mem_cons_self)).prepend _).append _
  | sql =>
    rw [getter, sqlGetter, sqlColumn, h]
    exact (((hcomment.prepend _).append _).append _).prepend _

/-- The expression of a column stands before its name. -/
theorem occursIn_column {code : String} (h : g.body = .expression code) :
    OccursIn (code ++ " AS " ++ sqlName g.name) (sql.getter o g) := by
  have hcolumn : sqlColumn g = "    " ++ (code ++ " AS " ++ sqlName g.name) := by
    rw [sqlColumn, h]
    simp only [String.append_assoc]
  rw [getter, sqlGetter, hcolumn]
  exact ((OccursIn.refl _).prepend _).prepend _

/-- An expression stands in the getter that returns it. -/
theorem occursIn_code (t : Target) {code : String} (h : g.body = .expression code) :
    OccursIn code (t.getter o g) := by
  have hcode := OccursIn.refl code
  cases t with
  | python =>
    rw [getter, pythonGetter, h, pythonBody]
    exact ((hcode.prepend _).trans (.line (List.mem_cons_of_mem _ List.mem_cons_self))).prepend _
  | javascript =>
    rw [getter, javascriptGetter, h, javascriptBody]
    exact ((((hcode.prepend _).append _).trans (.line (List.mem_cons_of_mem _ List.mem_cons_self))).prepend _).append _
  | sql =>
    rw [getter, sqlGetter, sqlColumn, h]
    exact (((hcode.prepend _).append _).append _).prepend _

end Target

end ComputedFields
