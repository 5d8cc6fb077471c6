import ComputedFields.Proofs.Signatures
import ComputedFields.Target.Expression
import Mathlib.Data.List.Basic

/-!
# Calls that targets refuse

- `Formula.applications`: the calls of a formula, inner ones first, with the numbers of their arguments;
- `ExpressionContext.warnings_express`: the warnings of an expression are the refusals of these calls, one by one, so
  neither how fields are read nor whether blanks are caught matters;
- `Target.refusalOf?_retarget`, `Target.supports_of_sql`: by their tables, Python and JavaScript refuse the same calls,
  and what SQL supports is supported by all targets;
- `express_agree`: so the targets agree on what they can express.
-/

namespace ComputedFields

/-! ## Calls of a formula -/

namespace Formula

mutual

/-- The calls of a formula with the numbers of their arguments, in the order in which code is written for them. -/
def applications : Formula → List (String × Nat)
  | literal _ => []
  | field _ => []
  | call name arguments => applicationsIn arguments ++ [(name, arguments.length)]
  | binary _ left right => applications left ++ applications right
  | unary _ operand => applications operand

def applicationsIn : List Formula → List (String × Nat)
  | [] => []
  | f :: fs => applications f ++ applicationsIn fs

end

mutual

/-- The calls of a formula with their arguments, inner ones first. -/
def callNodes : Formula → List (String × List Formula)
  | literal _ => []
  | field _ => []
  | call name arguments => callNodesIn arguments ++ [(name, arguments)]
  | binary _ left right => callNodes left ++ callNodes right
  | unary _ operand => callNodes operand

def callNodesIn : List Formula → List (String × List Formula)
  | [] => []
  | f :: fs => callNodes f ++ callNodesIn fs

end

mutual

theorem applications_eq : (f : Formula) → f.applications = f.callNodes.map fun c => (c.1, c.2.length)
  | literal _ => rfl
  | field _ => rfl
  | call name arguments => by
    rw [applications, callNodes, List.map_append, ← applicationsIn_eq arguments]
    rfl
  | binary _ left right => by
    rw [applications, callNodes, List.map_append, ← applications_eq left, ← applications_eq right]
  | unary _ operand => by
    rw [applications, callNodes, ← applications_eq operand]

theorem applicationsIn_eq : (fs : List Formula) → applicationsIn fs = (callNodesIn fs).map fun c => (c.1, c.2.length)
  | [] => rfl
  | f :: fs => by
    rw [applicationsIn, callNodesIn, List.map_append, ← applications_eq f, ← applicationsIn_eq fs]

end

end Formula

/-- Why a target cannot express a call, if it cannot. -/
def Target.refusalOf? (t : Target) (call : String × Nat) : Option GenerationError :=
  match t.supports call.1 call.2 with
  | .ok _ => none
  | .error e => some e

namespace ExpressionContext

variable (ctx : ExpressionContext)

theorem warnings_callFragment (name : String) (args : List Fragment) :
    (ctx.callFragment name args).2 = (ctx.target.refusalOf? (name, args.length)).toList := by
  unfold callFragment Target.call Target.refusalOf?
  cases ctx.target.supports name args.length <;> rfl

theorem length_emitAll (fs : List Formula) : (ctx.emitAll fs).1.length = fs.length := by
  induction fs with
  | nil => rfl
  | cons f fs ih =>
    rw [emitAll]
    exact congrArg (· + 1) ih

mutual

/-- What is reported for a formula are the refusals of its calls, one after the other. -/
theorem warnings_emit : (f : Formula) → (ctx.emit f).2 = f.applications.filterMap ctx.target.refusalOf?
  | .literal _ => rfl
  | .field _ => rfl
  | .call name args => by
    have hcall : (ctx.callFragment name (ctx.emitAll args).1).2 =
        [(name, args.length)].filterMap ctx.target.refusalOf? := by
      rw [warnings_callFragment, length_emitAll, List.filterMap_cons]
      cases ctx.target.refusalOf? (name, args.length) <;> rfl
    rw [emit, Formula.applications, List.filterMap_append, ← hcall, ← warnings_emitAll args]
  | .binary _ left right => by
    rw [emit, Formula.applications, List.filterMap_append, ← warnings_emit left, ← warnings_emit right]
  | .unary _ operand => by
    rw [emit, Formula.applications, ← warnings_emit operand]

theorem warnings_emitAll :
    (fs : List Formula) → (ctx.emitAll fs).2 = (Formula.applicationsIn fs).filterMap ctx.target.refusalOf?
  | [] => rfl
  | f :: fs => by
    rw [emitAll, Formula.applicationsIn, List.filterMap_append, ← warnings_emit f, ← warnings_emitAll fs]

end

theorem warnings_express (f : Formula) :
    (ctx.express f).warnings = f.applications.filterMap ctx.target.refusalOf? := ctx.warnings_emit f

theorem isClean_express_iff {f : Formula} :
    (ctx.express f).isClean = true ↔ ∀ c ∈ f.applications, ctx.target.refusalOf? c = none := by
  rw [Expression.isClean, List.isEmpty_iff, warnings_express, List.filterMap_eq_nil_iff]

end ExpressionContext

/-! ## Agreement of targets -/

/-- The error with another target in the place of the one that it names. -/
def GenerationError.retarget (t : Target) : GenerationError → GenerationError
  | unsupportedFunction function _ => unsupportedFunction function t
  | startPosition function _ => startPosition function t
  | oneOccurrence function _ => oneOccurrence function t
  | computedThroughLink fieldId _ => computedThroughLink fieldId t
  | e => e

namespace Target

theorem refusal?_of_ne_sql {t : Target} (ht : t ≠ sql) (b : Builtin) (n : Nat) : t.refusal? b n = none := by
  cases t with
  | python => rfl
  | javascript => rfl
  | sql => exact absurd rfl ht

/-- The targets other than SQL have the same functions, with the same arguments. -/
theorem signature?_eq_of_ne_sql {t t' : Target} (ht : t ≠ sql) (ht' : t' ≠ sql) (name : String) :
    t'.signature? name = t.signature? name := by
  refine Option.ext fun ⟨b, arity⟩ => ?_
  rw [signature?_eq_some_iff, signature?_eq_some_iff, arity?_of_ne_sql ht, arity?_of_ne_sql ht']

/-- So they refuse the same calls for the same reasons. -/
theorem refusalOf?_retarget {t t' : Target} (ht : t ≠ sql) (ht' : t' ≠ sql) (call : String × Nat) :
    t'.refusalOf? call = (t.refusalOf? call).map (·.retarget t') := by
  unfold refusalOf? supports
  rw [signature?_eq_of_ne_sql ht ht']
  cases t.signature? call.1 with
  | none => rfl
  | some s =>
    simp only [refusal?_of_ne_sql ht, refusal?_of_ne_sql ht']
    cases s.arity.admits call.2 <;> rfl

/-- A call means a function that the target has, with a number of arguments that the target can deal with. -/
theorem supports_eq_ok_iff {t : Target} {name : String} {n : Nat} {b : Builtin} :
    t.supports name n = .ok b ↔
      ∃ arity, t.signature? name = some ⟨b, arity⟩ ∧ arity.admits n = true ∧ t.refusal? b n = none := by
  constructor
  · intro h
    unfold supports at h
    split at h
    · simp at h
    · split at h
      · split at h
        · simp at h
        · cases h
          exact ⟨_, by assumption, by assumption, by assumption⟩
      · simp at h
  · rintro ⟨arity, hs, hn, hr⟩
    simp only [supports, hs, hn, hr, if_true]

/-- What SQL supports is supported by all targets. -/
theorem supports_of_sql {name : String} {n : Nat} {b : Builtin} (h : sql.supports name n = .ok b) (t : Target) :
    t.supports name n = .ok b := by
  obtain ⟨arity, hs, hn, -⟩ := supports_eq_ok_iff.1 h
  obtain ⟨hname, ha⟩ := signature?_eq_some_iff.1 hs
  have hn' : b.arity.admits n = true := Builtin.admits_of_sqlArity? ha hn
  by_cases ht : t = sql
  · exact ht ▸ h
  · have hs' : t.signature? name = some ⟨b, b.arity⟩ := signature?_eq_some_iff.2 ⟨hname, arity?_of_ne_sql ht b⟩
    exact supports_eq_ok_iff.2 ⟨b.arity, hs', hn', refusal?_of_ne_sql ht b n⟩

theorem refusalOf?_of_sql {call : String × Nat} (h : sql.refusalOf? call = none) (t : Target) :
    t.refusalOf? call = none := by
  unfold refusalOf? at h ⊢
  cases hs : sql.supports call.1 call.2 with
  | error e => simp [hs] at h
  | ok b => simp [supports_of_sql hs t]

end Target

namespace ExpressionContext

theorem warnings_express_retarget {ctx ctx' : ExpressionContext} (h : ctx.target ≠ .sql) (h' : ctx'.target ≠ .sql)
    (f : Formula) : (ctx'.express f).warnings = (ctx.express f).warnings.map (·.retarget ctx'.target) := by
  rw [warnings_express, warnings_express, List.map_filterMap]
  exact congrArg (f.applications.filterMap ·) (funext (Target.refusalOf?_retarget h h'))

theorem isClean_express_of_sql {ctx ctx' : ExpressionContext} (h : ctx.target = .sql) {f : Formula}
    (hf : (ctx.express f).isClean = true) : (ctx'.express f).isClean = true := by
  rw [isClean_express_iff, h] at hf
  rw [isClean_express_iff]
  exact fun c hc => Target.refusalOf?_of_sql (hf c hc) ctx'.target

end ExpressionContext

open ExpressionContext

/-- Python and JavaScript report the same calls of a formula, up to the target that is named, and a formula that SQL can
express can be expressed in all targets. It does not matter how fields are read in any of them. -/
theorem express_agree (f : Formula) (inPython inJavascript inSql : FieldRef → FieldAccess) (n n' n'' : Bool) :
    let python := express ⟨.python, inPython, n⟩ f
    let javascript := express ⟨.javascript, inJavascript, n'⟩ f
    let sql := express ⟨.sql, inSql, n''⟩ f
    javascript.warnings = python.warnings.map (·.retarget .javascript) ∧
    python.warnings = javascript.warnings.map (·.retarget .python) ∧
    (python.isClean = true ↔ javascript.isClean = true) ∧
    (sql.isClean = true → python.isClean = true ∧ javascript.isClean = true) := by
  intro python javascript sql
  have hj : javascript.warnings = python.warnings.map (·.retarget .javascript) :=
    warnings_express_retarget (by simp) (by simp) f
  have hp : python.warnings = javascript.warnings.map (·.retarget .python) :=
    warnings_express_retarget (by simp) (by simp) f
  refine ⟨hj, hp, ?_, fun hs => ⟨isClean_express_of_sql rfl hs, isClean_express_of_sql rfl hs⟩⟩
  rw [Expression.isClean, Expression.isClean, hj, List.isEmpty_map]

/-- A greeting to those whose name is found in the letter, and no greeting to others. -/
def greetingFormula : Formula :=
  .call "IF" [.call "SEARCH" [.field ⟨"name", none, none⟩, .field ⟨"letter", none, none⟩],
    .call "CONCATENATE" [.literal (.text "Dear "), .field ⟨"name", none, none⟩], .call "BLANK" []]

theorem express_agree_greetingFormula :
    (express ⟨.sql, fun r => .stored r.id, true⟩ greetingFormula).isClean = true ∧
    (express ⟨.python, fun r => .computed r.id, true⟩ greetingFormula).isClean = true ∧
    (express ⟨.javascript, fun r => .computed r.id, false⟩ greetingFormula).isClean = true := by
  have hs : (express ⟨.sql, fun r => .stored r.id, true⟩ greetingFormula).isClean = true := by decide
  exact ⟨hs, (express_agree greetingFormula _ _ _ true false true).2.2.2 hs⟩

end ComputedFields
