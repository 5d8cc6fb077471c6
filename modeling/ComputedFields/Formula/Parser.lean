import ComputedFields.Formula.Error

/-!
# From tokens to formulas

Recursive descent with one function per level of the grammar. Every function returns the tokens it leaves, which are
fewer than the tokens it was given, so the length of the token list bounds the recursion.

- `BinaryOp.ofToken?`: the operators of the four binary levels, from the tightest to the loosest;
- `parseLevel`: a formula whose operators outside brackets bind at least as tightly as a level;
- `parse`: a whole formula.

The levels associate to the left. An equals sign at the front, a plus sign before an operand and brackets leave no
trace, and `NOT(x)` is an operator although it is spelled like a call.
-/

namespace ComputedFields

/-- The binary operator that a token spells at a level: 1 multiplication, 2 addition, 3 concatenation, 4 comparison. -/
def BinaryOp.ofToken? : Nat → TokenKind → Option BinaryOp
  | 1, .star => some .multiply
  | 1, .slash => some .divide
  | 2, .plus => some .add
  | 2, .minus => some .subtract
  | 3, .ampersand => some .concat
  | 4, .equal => some .equal
  | 4, .notEqual => some .notEqual
  | 4, .less => some .less
  | 4, .lessEqual => some .lessEqual
  | 4, .greater => some .greater
  | 4, .greaterEqual => some .greaterEqual
  | _, _ => none

/-- The level of the loosest operators. -/
def loosest : Nat := 4

/-- Why tokens are no formula, as seen from inside. -/
inductive ParseFault where
  /-- Something else is needed at the first of the tokens that are left. -/
  | unmet (expected : Expected) (rest : List Token)
  /-- This `NOT` has nothing in its brackets. -/
  | emptyNot (token : Token)

/-- The error of a fault in a text of a given length; when no token is left it stands at the end. -/
def ParseFault.toError (stop : Nat) : ParseFault → ParseError
  | unmet expected (t :: _) => ⟨t.position, expected, .token t.kind⟩
  | unmet expected [] => ⟨stop, expected, .token .finish⟩
  | emptyNot t => ⟨t.position, .notOperand, .noArguments⟩

/-- What was read, and fewer tokens than there were. -/
abbrev Parsed (α : Type) (ts : List Token) := Except ParseFault (α × { rest : List Token // rest.length < ts.length })

/-- What was read, and no more tokens than there were. -/
abbrev Extended (α : Type) (ts : List Token) := Except ParseFault (α × { rest : List Token // rest.length ≤ ts.length })

/-- A boolean may carry an empty pair of brackets. -/
def skipEmptyBrackets : (ts : List Token) → Extended Unit ts
  | [] => .ok ((), ⟨[], Nat.le_refl _⟩)
  | t :: ts =>
    match t.kind with
    | .leftParen =>
      match ts with
      | [] => .error (.unmet .rightParen [])
      | u :: us =>
        match u.kind with
        | .rightParen => .ok ((), ⟨us, by simp only [List.length_cons]; omega⟩)
        | _ => .error (.unmet .rightParen (u :: us))
    | _ => .ok ((), ⟨t :: ts, Nat.le_refl _⟩)

/-- Whether the next token is a closing bracket. -/
def closesAtOnce : List Token → Bool
  | [] => false
  | t :: _ =>
    match t.kind with
    | .rightParen => true
    | _ => false

mutual

/-- A formula with operators up to a level. -/
def parseLevel (level : Nat) (ts : List Token) : Parsed Formula ts :=
  match level with
  | 0 => parseUnary ts
  | l + 1 =>
    match parseLevel l ts with
    | .error e => .error e
    | .ok (left, ⟨rest, h⟩) =>
      match parseOperators l left rest with
      | .error e => .error e
      | .ok (f, ⟨rest', h'⟩) => .ok (f, ⟨rest', Nat.lt_of_le_of_lt h' h⟩)
termination_by (ts.length, level + 2)

/-- The operators of level `l + 1` after a left operand, with their right operands. -/
def parseOperators (l : Nat) (left : Formula) (ts : List Token) : Extended Formula ts :=
  match ts with
  | [] => .ok (left, ⟨[], Nat.le_refl _⟩)
  | t :: us =>
    match BinaryOp.ofToken? (l + 1) t.kind with
    | none => .ok (left, ⟨t :: us, Nat.le_refl _⟩)
    | some op =>
      match parseLevel l us with
      | .error e => .error e
      | .ok (right, ⟨rest, h⟩) =>
        match parseOperators l (.binary op left right) rest with
        | .error e => .error e
        | .ok (f, ⟨rest', h'⟩) => .ok (f, ⟨rest', by simp only [List.length_cons]; omega⟩)
termination_by (ts.length, 0)

/-- An operand with its signs. -/
def parseUnary (ts : List Token) : Parsed Formula ts :=
  match ts with
  | [] => .error (.unmet .expression [])
  | t :: us =>
    match t.kind with
    | .minus =>
      match parseUnary us with
      | .error e => .error e
      | .ok (f, ⟨rest, h⟩) => .ok (.unary .negate f, ⟨rest, by simp only [List.length_cons]; omega⟩)
    | .plus =>
      match parseUnary us with
      | .error e => .error e
      | .ok (f, ⟨rest, h⟩) => .ok (f, ⟨rest, by simp only [List.length_cons]; omega⟩)
    | _ => parsePrimary t us
termination_by (ts.length, 1)

/-- An operand that starts with a token. -/
def parsePrimary (t : Token) (ts : List Token) : Parsed Formula (t :: ts) :=
  match t.kind with
  | .number x => .ok (.literal (.number x), ⟨ts, by simp⟩)
  | .text s => .ok (.literal (.text s), ⟨ts, by simp⟩)
  | .boolean b =>
    match skipEmptyBrackets ts with
    | .error e => .error e
    | .ok ((), ⟨rest, h⟩) => .ok (.literal (.boolean b), ⟨rest, by simp only [List.length_cons]; omega⟩)
  | .fieldRef id => .ok (.field { id }, ⟨ts, by simp⟩)
  | .leftParen =>
    match parseLevel loosest ts with
    | .error e => .error e
    | .ok (_, ⟨[], _⟩) => .error (.unmet .rightParen [])
    | .ok (f, ⟨u :: us, h⟩) =>
      match u.kind with
      | .rightParen => .ok (f, ⟨us, by simp only [List.length_cons] at h ⊢; omega⟩)
      | _ => .error (.unmet .rightParen (u :: us))
  | .identifier name =>
    match ts with
    | [] => .error (.unmet .arguments [])
    | u :: us =>
      match u.kind with
      | .leftParen =>
        if Text.eqIgnoringAsciiCase name "NOT" then
          match parseNot t us with
          | .error e => .error e
          | .ok (f, ⟨rest, h⟩) => .ok (f, ⟨rest, by simp only [List.length_cons]; omega⟩)
        else
          match parseArguments us with
          | .error e => .error e
          | .ok (fs, ⟨rest, h⟩) => .ok (.call (Text.toUpper name) fs, ⟨rest, by simp only [List.length_cons]; omega⟩)
      | _ => .error (.unmet .arguments (u :: us))
  | _ => .error (.unmet .expression (t :: ts))
termination_by ((t :: ts).length, 0)

/-- The operand of a `NOT`, after its opening bracket. -/
def parseNot (token : Token) (ts : List Token) : Parsed Formula ts :=
  if closesAtOnce ts then
    .error (.emptyNot token)
  else
    match parseLevel loosest ts with
    | .error e => .error e
    | .ok (_, ⟨[], _⟩) => .error (.unmet .rightParen [])
    | .ok (f, ⟨v :: vs, h⟩) =>
      match v.kind with
      | .rightParen => .ok (.unary .not f, ⟨vs, by simp only [List.length_cons] at h; omega⟩)
      | .comma => .error (.unmet .notSingleOperand (v :: vs))
      | _ => .error (.unmet .rightParen (v :: vs))
termination_by (ts.length, loosest + 3)

/-- The arguments of a call after its opening bracket, with the closing bracket. -/
def parseArguments (ts : List Token) : Parsed (List Formula) ts :=
  match ts with
  | [] => .error (.unmet .expression [])
  | u :: us => if closesAtOnce (u :: us) then .ok ([], ⟨us, by simp⟩) else parseArgumentList (u :: us)
termination_by (ts.length, loosest + 4)

/-- One or more arguments and the closing bracket. -/
def parseArgumentList (ts : List Token) : Parsed (List Formula) ts :=
  match parseLevel loosest ts with
  | .error e => .error e
  | .ok (_, ⟨[], _⟩) => .error (.unmet .rightParen [])
  | .ok (f, ⟨v :: vs, h⟩) =>
    match v.kind with
    | .rightParen => .ok ([f], ⟨vs, by simp only [List.length_cons] at h; omega⟩)
    | .comma =>
      have fewer : vs.length < ts.length := by simp only [List.length_cons] at h; omega
      match parseArgumentList vs with
      | .error e => .error e
      | .ok (fs, ⟨rest, h'⟩) => .ok (f :: fs, ⟨rest, Nat.lt_trans h' fewer⟩)
    | _ => .error (.unmet .rightParen (v :: vs))
termination_by (ts.length, loosest + 3)

end

/-- The tokens after an equals sign at the front. -/
def skipEquals : List Token → List Token
  | [] => []
  | t :: ts =>
    match t.kind with
    | .equal => ts
    | _ => t :: ts

/-- A formula that takes all tokens. -/
def parseTokens (ts : List Token) : Except ParseFault Formula :=
  match parseLevel loosest (skipEquals ts) with
  | .error e => .error e
  | .ok (f, ⟨[], _⟩) => .ok f
  | .ok (_, ⟨t :: us, _⟩) => .error (.unmet .finish (t :: us))

/-- The formula that a text spells. -/
def parse (formula : String) : Except FormulaError Formula :=
  match lex formula with
  | .error e => .error (.lex e)
  | .ok ts =>
    match parseTokens ts with
    | .error e => .error (.parse (e.toError formula.utf8ByteSize))
    | .ok f => .ok f

end ComputedFields
