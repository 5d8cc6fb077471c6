import ComputedFields.Target.Expression

/-!
# Properties of composed code

Code is put together from the code of literals, fields and calls in a few ways. A property that each of these ways keeps
is one of every expression.

- `Target.Keeps`: a property of code that is kept when code is put together;
- `ExpressionContext.keeps_emit`: it holds for a formula, if it holds for the fields in it.
-/

namespace ComputedFields

/-- A property of code that is kept when code is put together for a target. -/
structure Target.Keeps (t : Target) (P : String → Prop) : Prop where
  literal (l : Literal) : P (t.literal l)
  null : P t.null
  wrapped {f : Fragment} : P f.code → P f.wrapped
  coalescedText {s : String} : P s → P (t.coalescedText s)
  toText {s : String} : P s → P (t.toText s)
  toNumber {f : Fragment} : P f.code → P (t.toNumber f)
  binary (op : BinaryOp) {l r : String} : P l → P r → P (t.binary op l r)
  unary (op : UnaryOp) {s : String} : P s → P (t.unary op s)
  /-- A call that the target can express. -/
  render {name : String} {args : List Fragment} {b : Builtin} :
    t.supports name args.length = .ok b → (∀ f ∈ args, P f.code) → P (t.render b args)

namespace ExpressionContext

variable {ctx : ExpressionContext} {P : String → Prop}

section Fragments

variable (hP : ctx.target.Keeps P)

include hP

theorem keeps_concatOperand (formula : Formula) {f : Fragment} (h : P f.code) : P (ctx.concatOperand formula f) := by
  unfold concatOperand
  split
  · exact h
  · exact h
  · exact hP.literal _
  · split
    · exact hP.coalescedText h
    · exact hP.toText h
  · split
    · exact hP.coalescedText h
    · exact hP.toText h
  · exact hP.toText h

theorem keeps_numberOperand {f : Fragment} (h : P f.code) : P (ctx.numberOperand f) := by
  unfold numberOperand
  split
  · exact hP.wrapped h
  · exact hP.wrapped h
  · split
    · exact hP.toNumber h
    · exact hP.wrapped h

theorem keeps_binaryFragment (op : BinaryOp) (left right : Formula) {l r : Fragment} (hl : P l.code) (hr : P r.code) :
    P (ctx.binaryFragment op left right l r).code := by
  unfold binaryFragment
  split
  · exact hP.binary op (keeps_concatOperand hP left hl) (keeps_concatOperand hP right hr)
  · split
    · exact hP.binary op (keeps_numberOperand hP hl) (keeps_numberOperand hP hr)
    · exact hP.binary op (hP.wrapped hl) (hP.wrapped hr)

theorem keeps_unaryFragment (op : UnaryOp) {f : Fragment} (h : P f.code) : P (ctx.unaryFragment op f).code := by
  cases op with
  | negate => exact hP.unary .negate (keeps_numberOperand hP h)
  | not => exact hP.unary .not (hP.wrapped h)

theorem keeps_callFragment (name : String) {args : List Fragment} (h : ∀ f ∈ args, P f.code) :
    P (ctx.callFragment name args).1.code := by
  unfold callFragment Target.call
  cases hs : ctx.target.supports name args.length with
  | ok b => exact hP.render hs h
  | error e => exact hP.null

end Fragments

mutual

/-- What is kept holds for the code of a formula, if it holds for the code that fields are read with. -/
theorem keeps_emit (hP : ctx.target.Keeps P) (h : ∀ r, P (ctx.target.read (ctx.access r))) :
    (f : Formula) → P (ctx.emit f).1.code
  | .literal l => hP.literal l
  | .field r => h r
  | .call name args => keeps_callFragment hP name (keeps_emitAll hP h args)
  | .binary op left right => keeps_binaryFragment hP op left right (keeps_emit hP h left) (keeps_emit hP h right)
  | .unary op operand => keeps_unaryFragment hP op (keeps_emit hP h operand)

theorem keeps_emitAll (hP : ctx.target.Keeps P) (h : ∀ r, P (ctx.target.read (ctx.access r))) :
    (fs : List Formula) → ∀ f ∈ (ctx.emitAll fs).1, P f.code
  | [] => nofun
  | f :: fs => List.forall_mem_cons.2 ⟨keeps_emit hP h f, keeps_emitAll hP h fs⟩

end

end ExpressionContext

end ComputedFields
