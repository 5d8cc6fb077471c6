import ComputedFields.Proofs.Support
import ComputedFields.Proofs.TextCalls

/-!
# Why evaluation fails

An error of evaluation is about a value that was met, or about a call of the formula. Where evaluation breaks off, a
call of the formula asks for too long a text.

- `FailsOnly`: all failures of an outcome have a property, which goes through everything that builds outcomes;
- `Overflows`: the calls that break off, and why;
- `Builtin.failsOnly_apply`: the failures of a call are those of its arguments, those about values, those that name the
  function, and its overflows;
- `failsOnly_evaluate`: so an error that names a function names a call of the formula, and the evaluator has reason to
  refuse it, and what breaks off is a call of the formula that overflows;
- `evaluate_of_isClean`: the evaluator has no reason to refuse a formula that Python and JavaScript can express, but it
  may break off.
-/

namespace ComputedFields

open Decimal

/-! ## Outcomes -/

/-- All failures of an outcome have a property. -/
def FailsOnly {α : Type} (P : Failure → Prop) (x : Except Failure α) : Prop := ∀ e, x = .error e → P e

namespace FailsOnly

variable {α β : Type} {P Q : Failure → Prop}

theorem ok (v : α) : FailsOnly P (.ok v) := by
  intro e h
  cases h

theorem error {e : Failure} (h : P e) : FailsOnly P (.error e : Except Failure α) := by
  intro e' he
  cases he
  exact h

/-- What comes after a step knows what the step gave. -/
theorem bind_of_ok {x : Except Failure α} {f : α → Except Failure β} (hx : FailsOnly P x)
    (hf : ∀ v, x = .ok v → FailsOnly P (f v)) : FailsOnly P (x >>= f) := by
  cases x with
  | ok v => exact hf v rfl
  | error e => exact error (hx e rfl)

theorem bind {x : Except Failure α} {f : α → Except Failure β} (hx : FailsOnly P x)
    (hf : ∀ v, FailsOnly P (f v)) : FailsOnly P (x >>= f) := hx.bind_of_ok fun v _ => hf v

theorem map {x : Except Failure α} (hx : FailsOnly P x) (f : α → β) : FailsOnly P (f <$> x) := by
  cases x with
  | ok v => exact ok (f v)
  | error e => exact error (hx e rfl)

theorem mono {x : Except Failure α} (hx : FailsOnly P x) (h : ∀ e, P e → Q e) : FailsOnly Q x :=
  fun e he => h e (hx e he)

end FailsOnly

/-! ## Values -/

/-- The failures that are about values: one that is no number where a number is needed, and a divisor that is zero. -/
def Failure.IsAboutValues : Failure → Prop
  | reported (.notANumber v) => v.asNumber? = none
  | reported .divisionByZero => True
  | reported (.wrongArity _ _ _) => False
  | reported (.unsupported _) => False
  | panic _ => False

theorem Value.failsOnly_toNumber (v : Value) : FailsOnly Failure.IsAboutValues v.toNumber := by
  unfold toNumber
  split
  · exact .ok _
  · next h => exact .error h

theorem failsOnly_arithmetic (f : Float → Float → Float) (l r : Value) :
    FailsOnly Failure.IsAboutValues (arithmetic f l r) :=
  l.failsOnly_toNumber.bind fun _ => r.failsOnly_toNumber.bind fun _ => .ok _

theorem BinaryOp.failsOnly_apply (op : BinaryOp) (l r : Value) :
    FailsOnly Failure.IsAboutValues (op.apply l r) := by
  cases op with
  | add | subtract | multiply => exact failsOnly_arithmetic _ l r
  | divide =>
    refine r.failsOnly_toNumber.bind fun y => ?_
    split
    · exact .error trivial
    · exact l.failsOnly_toNumber.bind fun _ => .ok _
  | _ => exact .ok _

theorem UnaryOp.failsOnly_apply (op : UnaryOp) (v : Value) : FailsOnly Failure.IsAboutValues (op.apply v) := by
  cases op with
  | negate => exact v.failsOnly_toNumber.bind fun _ => .ok _
  | not => exact .ok _

/-! ## Calls -/

/-- The calls that break off: the end of a hole is no word, or a text is repeated until it is too long. -/
inductive Overflows (args : List Pending) : String → Panic → Prop
  | hole {cs : List Char} {start count : Float} (admits : (Arity.exactly 4).admits args.length = true)
      (text_eq : textAt args 0 = .ok cs) (start_eq : numberAt args 1 = .ok start)
      (count_eq : numberAt args 2 = .ok count) (h : UInt64.size ≤ holeStart cs (toCount 1 start) + toCount 0 count) :
      Overflows args "REPLACE" .placeOverflow
  | repetition {cs : List Char} {count : Float} (text_eq : textAt args 0 = .ok cs)
      (count_eq : numberAt args 1 = .ok count) (h : maxBytes < Text.byteLength cs * toCount 0 count) :
      Overflows args "REPT" .capacityOverflow

theorem repeated_of_lt {n : Nat} {cs : List Char} (h : maxBytes < Text.byteLength cs * n) :
    repeated n cs = .error (.panic .capacityOverflow) :=
  if_neg (Nat.not_le.2 h)

/-- They do break off. -/
theorem Overflows.applyNamed_eq {args : List Pending} {name : String} {p : Panic} (h : Overflows args name p) :
    applyNamed name args = .error (.panic p) := by
  cases h with
  | hole admits text_eq start_eq count_eq h =>
    change Builtin.replace.apply "REPLACE" args = _
    rw [Builtin.apply, checkCount_of_admits admits, text_eq, start_eq, count_eq]
    simp only [bind, Except.bind, holeEnd_of_le h]
  | repetition text_eq count_eq h =>
    change Builtin.repeatText.apply "REPT" args = _
    rw [Builtin.apply, text_eq, count_eq]
    simp only [bind, Except.bind, repeated_of_lt h]

/-- A property that the failures about values have, and the failures of all arguments. -/
structure Covers (P : Failure → Prop) (args : List Pending) : Prop where
  values : ∀ e : Failure, e.IsAboutValues → P e
  arguments : ∀ a ∈ args, FailsOnly P a.get

namespace Covers

variable {P : Failure → Prop} {args : List Pending}

theorem tail {a : Pending} (h : Covers P (a :: args)) : Covers P args :=
  ⟨h.values, fun b hb => h.arguments b (List.mem_cons_of_mem a hb)⟩

theorem drop (h : Covers P args) (n : Nat) : Covers P (args.drop n) :=
  ⟨h.values, fun a ha => h.arguments a (List.mem_of_mem_drop ha)⟩

theorem argument (h : Covers P args) (i : Nat) : FailsOnly P (argument args i) := by
  unfold ComputedFields.argument
  split
  · next ha => exact h.arguments _ (List.mem_of_getElem? ha)
  · exact .ok _

theorem text (h : Covers P args) (i : Nat) : FailsOnly P (textAt args i) := (h.argument i).bind fun _ => .ok _

theorem number (h : Covers P args) (i : Nat) : FailsOnly P (numberAt args i) :=
  (h.argument i).bind fun v => v.failsOnly_toNumber.mono h.values

theorem numberOr (h : Covers P args) (default : Float) (i : Nat) : FailsOnly P (numberAtOr default args i) := by
  unfold numberAtOr
  split
  · exact h.number i
  · exact .ok _

theorem all (h : Covers P args) : FailsOnly P (allValues args) := by
  induction args with
  | nil => exact .ok _
  | cons a args ih =>
    exact (h.arguments a List.mem_cons_self).bind fun _ => (ih h.tail).bind fun _ => .ok _

theorem switchOn (h : Covers P args) (subject : Value) : FailsOnly P (switchOn subject args) := by
  fun_induction ComputedFields.switchOn subject args with
  | case1 candidate result rest ih =>
    refine (h.arguments candidate List.mem_cons_self).bind fun v => ?_
    split
    · exact h.arguments result (by simp)
    · exact ih h.tail.tail
  | case2 default => exact h.arguments default List.mem_cons_self
  | case3 => exact .ok _

end Covers

/-- The failures of a call are those of its arguments, those about values, those that name the function, and its
overflows. -/
theorem Builtin.failsOnly_apply {P : Failure → Prop} {args : List Pending} (h : Covers P args) (b : Builtin)
    (hcount : b.checkedArity.admits args.length = false →
      P (.reported (.wrongArity b.name b.checkedArity args.length)))
    (houtside : b ∉ outside) (hpanic : ∀ p, Overflows args b.name p → P (.panic p)) :
    FailsOnly P (b.apply b.name args) := by
  have count : FailsOnly P (checkCount b.name b.checkedArity args) := by
    unfold checkCount
    split
    · exact .ok _
    · next hn => exact .error (hcount (by simpa using hn))
  cases b with
  | ifThenElse =>
    refine count.bind fun _ => (h.argument 0).bind fun v => ?_
    split
    · exact h.argument 1
    · exact h.argument 2
  | switch => exact count.bind fun _ => (h.argument 0).bind fun v => (h.drop 1).switchOn v
  | blank | trueValue | falseValue => exact .ok _
  | and | or | xor | concatenate | sum | max | min | count | countA | countAll | arrayUnique | arrayCompact
  | arrayFlatten => exact h.all.bind fun _ => .ok _
  | average =>
    refine h.all.bind fun vs => ?_
    split <;> exact .ok _
  | len | lower | upper | trim => exact (h.text 0).bind fun _ => .ok _
  | textOnly =>
    refine (h.argument 0).bind fun v => ?_
    split <;> exact .ok _
  | value =>
    refine (h.text 0).bind fun cs => ?_
    split <;> exact .ok _
  | left | right => exact (h.numberOr 1 1).bind fun _ => (h.text 0).bind fun _ => .ok _
  | mid =>
    exact count.bind fun _ => (h.number 1).bind fun _ => (h.number 2).bind fun _ => (h.text 0).bind fun _ => .ok _
  | find =>
    exact count.bind fun _ => (h.numberOr 1 2).bind fun _ => (h.text 0).bind fun _ => (h.text 1).bind fun _ => .ok _
  | search =>
    refine count.bind fun _ => (h.numberOr 1 2).bind fun start => (h.text 0).bind fun needle =>
      (h.text 1).bind fun cs => ?_
    split <;> exact .ok _
  | substitute =>
    refine count.bind fun _ => ?_
    dsimp only
    split
    · refine ((h.number 3).map some).bind fun nth => (h.text 0).bind fun cs => (h.text 1).bind fun old =>
        (h.text 2).bind fun new => ?_
      split <;> exact .ok _
    · exact (h.text 0).bind fun _ => (h.text 1).bind fun _ => (h.text 2).bind fun _ => .ok _
  | replace =>
    refine count.bind_of_ok fun _ hn => (h.text 0).bind_of_ok fun cs htext =>
      (h.number 1).bind_of_ok fun start hstart => (h.number 2).bind_of_ok fun k hk =>
        FailsOnly.bind ?_ fun _ => (h.text 3).bind fun _ => .ok _
    unfold holeEnd
    split
    · exact .ok _
    · next hle =>
      exact .error (hpanic _ (.hole (admits_of_checkCount hn) htext hstart hk (Nat.not_lt.1 hle)))
  | repeatText =>
    refine (h.text 0).bind_of_ok fun cs htext => (h.number 1).bind_of_ok fun k hk => FailsOnly.bind ?_ fun _ => .ok _
    unfold repeated
    split
    · exact .ok _
    · next hle =>
      exact .error (hpanic _ (.repetition htext hk (Nat.not_le.1 hle)))
  | abs | int | sqrt | exp => exact (h.number 0).bind fun _ => .ok _
  | round | roundUp | roundDown | power => exact (h.number 0).bind fun _ => (h.number 1).bind fun _ => .ok _
  | ceiling | floor =>
    refine (h.numberOr 1 1).bind fun significance => ?_
    split
    · exact .ok _
    · exact (h.number 0).bind fun _ => .ok _
  | mod =>
    refine (h.number 1).bind fun divisor => ?_
    split
    · exact .error (h.values (.reported .divisionByZero) trivial)
    · exact (h.number 0).bind fun _ => .ok _
  | log => exact (h.numberOr 10 1).bind fun _ => (h.number 0).bind fun _ => .ok _
  | arrayJoin =>
    refine (h.argument 0).bind fun v => ?_
    dsimp only
    split
    · exact ((h.text 1).map _).bind fun _ => .ok _
    · exact .ok _
  | now | today | recordId => exact absurd (by simp [outside]) houtside

/-! ## Formulas -/

/-- What a failure says about values or about calls is so: a function that is said to take another number of arguments
takes that number and was called with the one that is said, one that is said to be unsupported is called and has no
value, and where evaluation breaks off there is a call that does. -/
def Failure.Explained (record : Record) (nodes : List (String × List Formula)) : Failure → Prop
  | reported (.notANumber v) => v.asNumber? = none
  | reported .divisionByZero => True
  | reported (.wrongArity name arity count) => ∃ args b, (name, args) ∈ nodes ∧ args.length = count ∧
    Builtin.evaluated? name = some b ∧ arity = b.checkedArity ∧ arity.admits count = false
  | reported (.unsupported name) => ∃ args, (name, args) ∈ nodes ∧ Builtin.evaluated? name = none
  | panic p => ∃ c ∈ nodes, Overflows (evaluateAll record c.2) c.1 p

namespace Failure

variable {record : Record} {nodes nodes' : List (String × List Formula)} {e : Failure}

theorem Explained.of_values (h : e.IsAboutValues) : e.Explained record nodes := by
  match e, h with
  | reported (.notANumber v), h => exact h
  | reported .divisionByZero, _ => trivial

theorem Explained.mono (hn : nodes ⊆ nodes') (h : e.Explained record nodes) : e.Explained record nodes' := by
  match e, h with
  | reported (.notANumber v), h => exact h
  | reported .divisionByZero, _ => trivial
  | reported (.wrongArity name arity count), ⟨args, b, hc, h⟩ => exact ⟨args, b, hn hc, h⟩
  | reported (.unsupported name), ⟨args, hc, h⟩ => exact ⟨args, hn hc, h⟩
  | panic p, ⟨c, hc, h⟩ => exact ⟨c, hn hc, h⟩

end Failure

theorem length_evaluateAll (record : Record) (fs : List Formula) : (evaluateAll record fs).length = fs.length := by
  induction fs with
  | nil => rfl
  | cons f fs ih => simp [evaluateAll, ih]

/-- The failures of a call are explained if those of its arguments are. -/
theorem failsOnly_applyNamed {record : Record} {nodes : List (String × List Formula)} {name : String}
    {args : List Formula} (hargs : ∀ a ∈ evaluateAll record args, FailsOnly (Failure.Explained record nodes) a.get) :
    FailsOnly (Failure.Explained record (nodes ++ [(name, args)])) (applyNamed name (evaluateAll record args)) := by
  have hcall : (name, args) ∈ nodes ++ [(name, args)] := by simp
  have hlength := length_evaluateAll record args
  unfold applyNamed
  split
  · next b hb =>
    have hcovers : Covers (Failure.Explained record (nodes ++ [(name, args)])) (evaluateAll record args) :=
      ⟨fun e he => .of_values he, fun a ha => (hargs a ha).mono fun e he => he.mono (List.subset_append_left _ _)⟩
    obtain ⟨rfl, houtside⟩ := Builtin.evaluated?_eq_some_iff.1 hb
    refine b.failsOnly_apply hcovers (fun hn => ?_) houtside fun p hp => ⟨_, hcall, hp⟩
    exact ⟨args, b, hcall, hlength.symm, hb, rfl, hn⟩
  · next hb => exact .error ⟨args, hcall, hb⟩

mutual

/-- What a failure of a formula says is so. -/
theorem failsOnly_evaluate (record : Record) :
    (f : Formula) → FailsOnly (Failure.Explained record f.callNodes) (evaluate record f)
  | .literal _ => .ok _
  | .field _ => .ok _
  | .call name args => by
    rw [evaluate, Formula.callNodes]
    exact failsOnly_applyNamed (failsOnly_evaluateAll record args)
  | .binary op left right => by
    have hl := (failsOnly_evaluate record left).mono fun e he => he.mono (List.subset_append_left _ right.callNodes)
    have hr := (failsOnly_evaluate record right).mono fun e he => he.mono (List.subset_append_right left.callNodes _)
    rw [evaluate]
    exact hl.bind fun l => hr.bind fun r => (op.failsOnly_apply l r).mono fun e he => .of_values he
  | .unary op operand => by
    rw [evaluate]
    exact (failsOnly_evaluate record operand).bind fun v => (op.failsOnly_apply v).mono fun e he => .of_values he

theorem failsOnly_evaluateAll (record : Record) : (fs : List Formula) →
    ∀ a ∈ evaluateAll record fs, FailsOnly (Failure.Explained record (Formula.callNodesIn fs)) a.get
  | [] => nofun
  | f :: fs => by
    intro a ha
    rw [evaluateAll] at ha
    rcases List.mem_cons.1 ha with rfl | ha
    · exact (failsOnly_evaluate record f).mono fun e he => he.mono (List.subset_append_left _ _)
    · exact (failsOnly_evaluateAll record fs a ha).mono fun e he => he.mono (List.subset_append_right _ _)

end

/-! ## Formulas that can be expressed -/

namespace Formula

mutual

/-- The functions that a formula calls are those of its calls. -/
theorem mem_calls_iff {name : String} : (f : Formula) → name ∈ f.calls ↔ name ∈ f.callNodes.map (·.1)
  | .literal _ => Iff.rfl
  | .field _ => Iff.rfl
  | .call _ args => by simp [calls, callNodes, mem_callsIn_iff args, or_comm]
  | .binary _ left right => by simp [calls, callNodes, mem_calls_iff left, mem_calls_iff right]
  | .unary _ operand => mem_calls_iff operand

theorem mem_callsIn_iff {name : String} : (fs : List Formula) →
    (name ∈ callsIn fs ↔ name ∈ (callNodesIn fs).map (·.1))
  | [] => Iff.rfl
  | f :: fs => by simp [callsIn, callNodesIn, mem_calls_iff f, mem_callsIn_iff fs]

end

theorem mem_calls_of_mem_callNodes {f : Formula} {c : String × List Formula} (h : c ∈ f.callNodes) : c.1 ∈ f.calls :=
  (mem_calls_iff f).2 (List.mem_map_of_mem h)

end Formula

namespace ExpressionContext

variable {ctx ctx' : ExpressionContext} {f : Formula}

theorem isClean_express_retarget (h : ctx.target ≠ .sql) (h' : ctx'.target ≠ .sql) :
    (ctx'.express f).isClean = (ctx.express f).isClean := by
  rw [Expression.isClean, Expression.isClean, warnings_express_retarget h h', List.isEmpty_map]

/-- The calls of an expressed formula are of known functions, with as many arguments as they take. -/
theorem exists_builtin_of_isClean (ht : ctx.target ≠ .sql) (h : (ctx.express f).isClean = true)
    {c : String × List Formula} (hc : c ∈ f.callNodes) :
    ∃ b : Builtin, b.name = c.1 ∧ b.arity.admits c.2.length = true := by
  rw [isClean_express_iff, Formula.applications_eq, List.forall_mem_map] at h
  have hr := h c hc
  unfold Target.refusalOf? at hr
  split at hr
  · next b hs =>
    obtain ⟨arity, hsignature, hn, -⟩ := Target.supports_eq_ok_iff.1 hs
    obtain ⟨hname, ha⟩ := Target.signature?_eq_some_iff.1 hsignature
    rw [Target.arity?_of_ne_sql ht] at ha
    cases ha
    exact ⟨b, hname, hn⟩
  · cases hr

/-- So the evaluator has them, unless they depend on more than the record, and takes these arguments. -/
theorem exists_evaluated?_of_isClean (ht : ctx.target ≠ .sql) (h : (ctx.express f).isClean = true)
    (hf : ∀ b ∈ Builtin.outside, b.name ∉ f.calls) {c : String × List Formula} (hc : c ∈ f.callNodes) :
    ∃ b, Builtin.evaluated? c.1 = some b ∧ b.checkedArity.admits c.2.length = true := by
  obtain ⟨b, hname, hn⟩ := exists_builtin_of_isClean ht h hc
  have houtside : b ∉ Builtin.outside := fun hb => hf b hb (hname ▸ Formula.mem_calls_of_mem_callNodes hc)
  exact ⟨b, Builtin.evaluated?_eq_some_iff.2 ⟨hname, houtside⟩, Builtin.admits_checkedArity hn⟩

/-- The failures of an expressed formula that depends on the record alone are about values, or a call breaks off. -/
theorem failsOnly_of_isClean (ht : ctx.target ≠ .sql) (h : (ctx.express f).isClean = true)
    (hf : ∀ b ∈ Builtin.outside, b.name ∉ f.calls) (record : Record) :
    FailsOnly (fun e => e.IsAboutValues ∨
      ∃ p, e = .panic p ∧ ∃ c ∈ f.callNodes, Overflows (evaluateAll record c.2) c.1 p) (evaluate record f) := by
  intro e he
  have hx := failsOnly_evaluate record f e he
  match e, hx with
  | .reported (.notANumber v), hx => exact .inl hx
  | .reported .divisionByZero, _ => exact .inl trivial
  | .reported (.wrongArity name arity count), ⟨args, b, hc, hlength, hb, harity, hn⟩ =>
    obtain ⟨b', hb', hn'⟩ := exists_evaluated?_of_isClean ht h hf hc
    obtain rfl : b = b' := Option.some.inj (hb.symm.trans hb')
    rw [harity, ← hlength, hn'] at hn
    cases hn
  | .reported (.unsupported name), ⟨args, hc, hb⟩ =>
    obtain ⟨b, hb', -⟩ := exists_evaluated?_of_isClean ht h hf hc
    rw [hb] at hb'
    cases hb'
  | .panic p, hx => exact .inr ⟨p, rfl, hx⟩

end ExpressionContext

open ExpressionContext

/-- The evaluator runs every formula that Python can express, or JavaScript, which is the same, if it does not ask for
the time or for the record itself: whatever the record is, there is a value, or a value is no number where one is
needed, or a divisor is zero, or evaluation breaks off at a call whose text would be too long. It never finds a wrong
number of arguments or a function that it does not have, and it never breaks off where no hole is filled and no text
repeated. -/
theorem evaluate_of_isClean (f : Formula) (inPython inJavascript : FieldRef → FieldAccess) (n n' : Bool) :
    ((express ⟨.python, inPython, n⟩ f).isClean = true ↔
      (express ⟨.javascript, inJavascript, n'⟩ f).isClean = true) ∧
    ((express ⟨.python, inPython, n⟩ f).isClean = true → "NOW" ∉ f.calls → "TODAY" ∉ f.calls →
      "RECORD_ID" ∉ f.calls → ∀ record,
        ((∃ v, evaluate record f = .ok v) ∨
          (∃ v, evaluate record f = .error (.reported (.notANumber v)) ∧ v.asNumber? = none) ∨
          evaluate record f = .error (.reported .divisionByZero) ∨
          ∃ p, evaluate record f = .error (.panic p) ∧
            ∃ c ∈ f.callNodes, Overflows (evaluateAll record c.2) c.1 p ∧
              evaluate record (.call c.1 c.2) = .error (.panic p)) ∧
        (∀ name arity count, evaluate record f ≠ .error (.reported (.wrongArity name arity count))) ∧
        (∀ name, evaluate record f ≠ .error (.reported (.unsupported name))) ∧
        ("REPLACE" ∉ f.calls → "REPT" ∉ f.calls → ∀ p, evaluate record f ≠ .error (.panic p))) := by
  have hsame : (express ⟨.python, inPython, n⟩ f).isClean =
      (express ⟨.javascript, inJavascript, n'⟩ f).isClean := isClean_express_retarget (by simp) (by simp)
  constructor
  · rw [hsame]
  · intro hclean hnow htoday hrecord record
    have hf : ∀ b ∈ Builtin.outside, b.name ∉ f.calls := by
      simp [Builtin.outside, Builtin.name, hnow, htoday, hrecord]
    have hfails := failsOnly_of_isClean (by simp) hclean hf record
    refine ⟨?_, fun name arity count he => ?_, fun name he => ?_, fun hreplace hrepeat p he => ?_⟩
    · cases he : evaluate record f with
      | ok v => exact .inl ⟨v, rfl⟩
      | error e =>
        obtain hv | ⟨p, rfl, c, hc, hp⟩ := hfails e he
        · match e, hv with
          | .reported (.notANumber v), hv => exact .inr (.inl ⟨v, rfl, hv⟩)
          | .reported .divisionByZero, _ => exact .inr (.inr (.inl rfl))
        · refine .inr (.inr (.inr ⟨p, rfl, c, hc, hp, ?_⟩))
          rw [evaluate]
          exact hp.applyNamed_eq
    · obtain hv | ⟨p, hp, -⟩ := hfails _ he
      · exact hv
      · cases hp
    · obtain hv | ⟨p, hp, -⟩ := hfails _ he
      · exact hv
      · cases hp
    · obtain hv | ⟨p, -, c, hc, hp⟩ := hfails _ he
      · exact hv
      · obtain ⟨name, args⟩ := c
        have hcall : name ∈ f.calls := Formula.mem_calls_of_mem_callNodes hc
        cases hp with
        | hole => exact hreplace hcall
        | repetition => exact hrepeat hcall

/-- How many slices are left over, for those who want to know. -/
def leftoverFormula : Formula :=
  .call "IF" [.field ⟨"asked", none, none⟩,
    .call "MOD" [.field ⟨"slices", none, none⟩, .field ⟨"guests", none, none⟩], .call "BLANK" []]

/-- Those who do not ask are told nothing, no guests are none to divide by, and `many` is no number. -/
theorem evaluate_of_isClean_leftoverFormula :
    (express ⟨.javascript, fun r => .computed r.id, false⟩ leftoverFormula).isClean = true ∧
    evaluate (fun _ => .boolean false) leftoverFormula = .ok .blank ∧
    evaluate (fun id => if id = "asked" then .boolean true else .blank) leftoverFormula =
      .error (.reported .divisionByZero) ∧
    evaluate (fun _ => .text "many") leftoverFormula = .error (.reported (.notANumber (.text "many"))) ∧
    ∀ record name, evaluate record leftoverFormula ≠ .error (.reported (.unsupported name)) := by
  have hclean : (express ⟨.javascript, fun r => .computed r.id, false⟩ leftoverFormula).isClean = true := by decide
  obtain ⟨hsame, hrun⟩ :=
    evaluate_of_isClean leftoverFormula (fun r => .stored r.id) (fun r => .computed r.id) true false
  exact ⟨hclean, rfl, rfl, rfl,
    fun record => (hrun (hsame.2 hclean) (by decide) (by decide) (by decide) record).2.2.1⟩

/-- A hole from the second character on, with more characters than the largest word. -/
def overfullFormula : Formula :=
  .call "REPLACE" [.literal (.text "abc"), .literal (.number 2), .literal (.number 1e20), .literal (.text "-")]

/-- A text so often that no memory holds it. -/
def endlessFormula : Formula := .call "REPT" [.literal (.text "ab"), .literal (.number 1e20)]

/-- Both can be expressed, and neither has a value or an error. -/
theorem evaluate_overfullFormula :
    (express ⟨.python, fun r => .stored r.id, true⟩ overfullFormula).isClean = true ∧
    (express ⟨.python, fun r => .stored r.id, true⟩ endlessFormula).isClean = true ∧
    overfullFormula.calls = ["REPLACE"] ∧ endlessFormula.calls = ["REPT"] ∧
    evaluate (fun _ => .blank) overfullFormula = .error (.panic .placeOverflow) ∧
    evaluate (fun _ => .blank) endlessFormula = .error (.panic .capacityOverflow) := by
  refine ⟨by decide, by decide, rfl, rfl, ?_, ?_⟩
  · have hstart : holeStart ['a', 'b', 'c'] (toCount 1 2) = 1 := by decide
    have hcount : toCount 0 1e20 = 2 ^ 64 - 1 := by decide
    rw [overfullFormula, evaluate]
    refine (@Overflows.hole _ ['a', 'b', 'c'] 2 1e20 rfl ?_ rfl rfl ?_).applyNamed_eq
    · exact congrArg Except.ok String.toList_ofList
    · rw [hstart, hcount]
      decide
  · have hcount : toCount 0 1e20 = 2 ^ 64 - 1 := by decide
    rw [endlessFormula, evaluate]
    refine (@Overflows.repetition _ ['a', 'b'] 1e20 ?_ rfl ?_).applyNamed_eq
    · exact congrArg Except.ok String.toList_ofList
    · rw [hcount]
      decide

end ComputedFields
