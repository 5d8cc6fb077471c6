import ComputedFields.Target.Call

/-!
# Expressions

`ExpressionContext.express` writes a formula as an expression of a target. A call that the target cannot express is
replaced by a null and reported.
-/

namespace ComputedFields

/-- What an expression depends on besides the formula. -/
structure ExpressionContext where
  target : Target
  /-- How the fields that a formula refers to are read. -/
  access : FieldRef → FieldAccess
  /-- Whether blank operands are caught. -/
  nullSafety : Bool

/-- An expression, and the calls that could not be expressed. -/
structure Expression where
  code : String
  warnings : List GenerationError
deriving DecidableEq, Repr

def Expression.isClean (e : Expression) : Bool := e.warnings.isEmpty

namespace ExpressionContext

variable (ctx : ExpressionContext)

/-- An operand of a concatenation, with the formula it was made of. Literals are converted now, all else when the code
runs. -/
def concatOperand (formula : Formula) (f : Fragment) : String :=
  match f.kind, formula with
  | .text, _ => f.code
  | .concat, _ => f.code
  | _, .literal l => ctx.target.literal (.text l.asText)
  | _, .field _ => if ctx.nullSafety then ctx.target.coalescedText f.code else ctx.target.toText f.code
  | _, .call _ _ => if ctx.nullSafety then ctx.target.coalescedText f.code else ctx.target.toText f.code
  | _, _ => ctx.target.toText f.code

/-- An operand of an arithmetic operator. Literals and results of operators are numbers already. -/
def numberOperand (f : Fragment) : String :=
  match f.kind with
  | .literal => f.wrapped
  | .operator => f.wrapped
  | _ => if ctx.nullSafety then ctx.target.toNumber f else f.wrapped

def literalKind : Literal → FragmentKind
  | .text _ => .text
  | _ => .literal

def binaryFragment (op : BinaryOp) (left right : Formula) (l r : Fragment) : Fragment :=
  if op = .concat then ⟨ctx.target.binary op (ctx.concatOperand left l) (ctx.concatOperand right r), .concat⟩
  else if op.isArithmetic then ⟨ctx.target.binary op (ctx.numberOperand l) (ctx.numberOperand r), .operator⟩
  else ⟨ctx.target.binary op l.wrapped r.wrapped, .operator⟩

def unaryFragment (op : UnaryOp) (f : Fragment) : Fragment :=
  match op with
  | .negate => ⟨ctx.target.unary .negate (ctx.numberOperand f), .operator⟩
  | .not => ⟨ctx.target.unary .not f.wrapped, .operator⟩

/-- A call; a null if the target cannot express it. -/
def callFragment (name : String) (args : List Fragment) : Fragment × List GenerationError :=
  match ctx.target.call name args with
  | .ok code => (⟨code, .call⟩, [])
  | .error e => (⟨ctx.target.null, .literal⟩, [e])

mutual

/-- The fragment of a formula, and the calls in it that could not be expressed, inner ones first. -/
def emit (ctx : ExpressionContext) : Formula → Fragment × List GenerationError
  | .literal l => (⟨ctx.target.literal l, literalKind l⟩, [])
  | .field r => (⟨ctx.target.read (ctx.access r), .field⟩, [])
  | .call name args =>
    let (fs, inner) := emitAll ctx args
    let (f, outer) := ctx.callFragment name fs
    (f, inner ++ outer)
  | .binary op left right =>
    let (l, leftWarnings) := emit ctx left
    let (r, rightWarnings) := emit ctx right
    (ctx.binaryFragment op left right l r, leftWarnings ++ rightWarnings)
  | .unary op operand =>
    let (f, warnings) := emit ctx operand
    (ctx.unaryFragment op f, warnings)

def emitAll (ctx : ExpressionContext) : List Formula → List Fragment × List GenerationError
  | [] => ([], [])
  | a :: as =>
    let (f, w) := emit ctx a
    let (fs, ws) := emitAll ctx as
    (f :: fs, w ++ ws)

end

/-- A formula as an expression. -/
def express (formula : Formula) : Expression :=
  let (f, warnings) := ctx.emit formula
  ⟨f.code, warnings⟩

end ExpressionContext

end ComputedFields
