import ComputedFields.Formula.Evaluation
import ComputedFields.Target.Support
import Mathlib.Data.List.Basic

/-!
# Tables of functions

The evaluator and the targets each have a table of their own, which says what a name means and how many arguments it
takes. Here every table is read row by row.

- `Target.signature?_eq_some_iff`: a target has the functions with an arity in `Target.arity?` under their names, and no
  others;
- `Builtin.evaluated?_eq_some_iff`: the evaluator has all functions but those of `Builtin.outside`;
- `Builtin.admits_of_sqlArity?`: SQL takes no number of arguments that Python and JavaScript do not take;
- `Builtin.admits_checkedArity`: and the evaluator refuses none that they take.
-/

namespace ComputedFields

/-! ## Tables of targets -/

namespace Builtin

/-- The arguments that a function takes in Python and in JavaScript. -/
def arity : Builtin → Arity
  | ifThenElse => .between 2 3
  | switch => .atLeast 3
  | blank => .exactly 0
  | len | lower | upper | trim | textOnly | value | abs | int | sqrt | exp => .exactly 1
  | left | right | round | roundUp | roundDown | ceiling | floor | log | arrayJoin => .between 1 2
  | mid => .exactly 3
  | find | search => .between 2 3
  | substitute => .between 3 4
  | replace => .exactly 4
  | repeatText | mod | power => .exactly 2
  | and | or | xor | trueValue | falseValue | concatenate | sum | average | max | min | count | countA | countAll
  | arrayUnique | arrayCompact | arrayFlatten | now | today | recordId => .any

/-- The arguments that a function takes in SQL, if SQL has it. -/
def sqlArity? : Builtin → Option Arity
  | xor | textOnly | value | roundUp | average | count | countA | countAll | arrayJoin | arrayUnique | arrayCompact
  | arrayFlatten => none
  | and | or | sum | max | min => some (.atLeast 1)
  | b => some b.arity

/-- SQL takes no number of arguments that the other targets do not take. -/
theorem admits_of_sqlArity? {b : Builtin} {arity : Arity} {n : Nat} (h : b.sqlArity? = some arity)
    (hn : arity.admits n = true) : b.arity.admits n = true := by
  have any : Arity.any.admits n = true := by simp [Arity.any, Arity.admits]
  unfold sqlArity? at h
  split at h
  all_goals cases h
  all_goals first
    | exact any
    | exact hn

end Builtin

section

variable {name : String} {b : Builtin} {arity : Arity}

theorem pythonSignature?_eq_some_iff :
    pythonSignature? name = some ⟨b, arity⟩ ↔ b.name = name ∧ b.arity = arity := by
  constructor
  · intro h
    unfold pythonSignature? at h
    split at h
    all_goals cases h
    all_goals exact ⟨rfl, rfl⟩
  · rintro ⟨rfl, rfl⟩
    cases b <;> rfl

theorem javascriptSignature?_eq_some_iff :
    javascriptSignature? name = some ⟨b, arity⟩ ↔ b.name = name ∧ b.arity = arity := by
  constructor
  · intro h
    unfold javascriptSignature? at h
    split at h
    all_goals cases h
    all_goals exact ⟨rfl, rfl⟩
  · rintro ⟨rfl, rfl⟩
    cases b <;> rfl

theorem sqlSignature?_eq_some_iff :
    sqlSignature? name = some ⟨b, arity⟩ ↔ b.name = name ∧ b.sqlArity? = some arity := by
  constructor
  · intro h
    unfold sqlSignature? at h
    split at h
    all_goals cases h
    all_goals exact ⟨rfl, rfl⟩
  · rintro ⟨rfl, h⟩
    cases b <;> cases h <;> rfl

end

namespace Target

/-- The arguments that a function takes; none if the target does not have it. -/
def arity? : Target → Builtin → Option Arity
  | sql, b => b.sqlArity?
  | _, b => some b.arity

theorem arity?_of_ne_sql {t : Target} (ht : t ≠ sql) (b : Builtin) : t.arity? b = some b.arity := by
  cases t with
  | python => rfl
  | javascript => rfl
  | sql => exact absurd rfl ht

/-- A name means the function that has this name, if the target has it, with the arguments that it takes there. -/
theorem signature?_eq_some_iff {t : Target} {name : String} {b : Builtin} {arity : Arity} :
    t.signature? name = some ⟨b, arity⟩ ↔ b.name = name ∧ t.arity? b = some arity := by
  cases t with
  | python => simpa [signature?, arity?] using pythonSignature?_eq_some_iff
  | javascript => simpa [signature?, arity?] using javascriptSignature?_eq_some_iff
  | sql => exact sqlSignature?_eq_some_iff

end Target

/-! ## The table of the evaluator -/

namespace Builtin

/-- The functions whose values depend on more than the record. -/
def outside : List Builtin := [now, today, recordId]

/-- A name has a value if it is that of a function that depends on the record alone. -/
theorem evaluated?_eq_some_iff {name : String} {b : Builtin} :
    evaluated? name = some b ↔ b.name = name ∧ b ∉ outside := by
  constructor
  · intro h
    unfold evaluated? at h
    split at h
    all_goals cases h
    all_goals exact ⟨rfl, by decide⟩
  · rintro ⟨rfl, h⟩
    cases b with
    | now | today | recordId => exact absurd (by decide) h
    | _ => rfl

/-- The arguments that the evaluator insists on. Most functions take what they find. -/
def checkedArity : Builtin → Arity
  | ifThenElse => .between 2 3
  | switch => .atLeast 3
  | mid => .exactly 3
  | find | search => .between 2 3
  | substitute => .between 3 4
  | replace => .exactly 4
  | _ => .any

/-- The evaluator takes every number of arguments that Python and JavaScript take. -/
theorem admits_checkedArity {b : Builtin} {n : Nat} (h : b.arity.admits n = true) : b.checkedArity.admits n = true := by
  have any : Arity.any.admits n = true := by simp [Arity.any, Arity.admits]
  cases b with
  | ifThenElse | switch | mid | find | search | substitute | replace => exact h
  | _ => exact any

end Builtin

end ComputedFields
