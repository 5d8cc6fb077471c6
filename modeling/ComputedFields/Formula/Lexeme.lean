import ComputedFields.Decimal.Numeral
import ComputedFields.Formula.Token
import ComputedFields.Text.Bytes
import ComputedFields.Text.Casing
import ComputedFields.Text.Spacing

/-!
# Lexemes

Formula text is a sequence of lexemes: a gap of whitespace, the source of a token and what the token says.

- `TokenKind.read`: the token at the front of a text, and how many characters after the first belong to it;
- `scan`: the lexemes of a text up to its end or to the first place where no token can be read;
- `tokenize`: the tokens with their positions, closed by the end of the formula.
-/

namespace ComputedFields

/-- Why no token can be read. -/
inductive LexFault where
  | loneExclamation
  | unterminatedText
  | unterminatedReference
  | emptyReference
  | unexpected (c : Char)
deriving DecidableEq, Repr

def LexFault.message : LexFault → String
  | loneExclamation => "expected '=' after '!'"
  | unterminatedText => "unterminated string literal"
  | unterminatedReference => "unterminated field reference"
  | emptyReference => "empty field reference"
  | unexpected c => "unexpected character '" ++ String.singleton c ++ "'"

/-- The character that an escape stands for. -/
def unescape (c : Char) : Char :=
  if c = 'n' then '\n' else if c = 't' then '\t' else if c = 'r' then '\r' else c

/-- The value of a quoted text after its opening quote, and the number of characters up to and with the closing quote.
-/
def readQuoted (quote : Char) : List Char → Option (List Char × Nat)
  | [] => none
  | c :: cs =>
    if c = '\\' then
      match cs with
      | [] => none
      | e :: rest => (readQuoted quote rest).map fun (value, n) => (unescape e :: value, n + 2)
    else if c = quote then some ([], 1)
    else (readQuoted quote cs).map fun (value, n) => (c :: value, n + 1)

/-- The number of digits at the front. -/
def digitRun (cs : List Char) : Nat := (cs.takeWhile Char.isDigit).length

/-- The length of the fraction at the front: a decimal point and any digits after it. -/
def fractionLength : List Char → Nat
  | '.' :: cs => digitRun cs + 1
  | _ => 0

/-- The length of the exponent at the front, which counts only if it has a digit. -/
def exponentLength : List Char → Nat
  | e :: cs =>
    if e = 'e' ∨ e = 'E' then
      let sign := match cs with
        | c :: _ => if c = '+' ∨ c = '-' then 1 else 0
        | [] => 0
      let digits := digitRun (cs.drop sign)
      if digits = 0 then 0 else 1 + sign + digits
    else 0
  | [] => 0

/-- The length of the numeral at the front. -/
def numeralLength (cs : List Char) : Nat :=
  let whole := digitRun cs
  let fraction := fractionLength (cs.drop whole)
  whole + fraction + exponentLength (cs.drop (whole + fraction))

def isNameStart (c : Char) : Bool := Text.isAlphabetic c || c == '_'

def isNamePart (c : Char) : Bool := Text.isAlphanumeric c || c == '_'

namespace TokenKind

/-- The keyword or name that a word is. -/
def ofWord (word : String) : TokenKind :=
  if Text.eqIgnoringAsciiCase word "TRUE" then boolean true
  else if Text.eqIgnoringAsciiCase word "FALSE" then boolean false
  else identifier word

/-- Tokens of one character that no longer token starts with. -/
def ofChar? (c : Char) : Option TokenKind :=
  if c = '+' then some plus
  else if c = '-' then some minus
  else if c = '*' then some star
  else if c = '/' then some slash
  else if c = '&' then some ampersand
  else if c = '=' then some equal
  else if c = '(' then some leftParen
  else if c = ')' then some rightParen
  else if c = ',' then some comma
  else none

def readLess : List Char → TokenKind × Nat
  | '=' :: _ => (lessEqual, 1)
  | '>' :: _ => (notEqual, 1)
  | _ => (less, 0)

def readGreater : List Char → TokenKind × Nat
  | '=' :: _ => (greaterEqual, 1)
  | _ => (greater, 0)

def readExclamation : List Char → Except LexFault (TokenKind × Nat)
  | '=' :: _ => .ok (notEqual, 1)
  | _ => .error .loneExclamation

def readText (quote : Char) (cs : List Char) : Except LexFault (TokenKind × Nat) :=
  match readQuoted quote cs with
  | some (value, n) => .ok (text (String.ofList value), n)
  | none => .error .unterminatedText

/-- A reference after its opening brace. The id is what stands before the closing brace, without whitespace around it.
-/
def readReference (cs : List Char) : Except LexFault (TokenKind × Nat) :=
  let inner := cs.takeWhile fun c => c != '\x7b' && c != '\x7d'
  match cs.drop inner.length with
  | '\x7d' :: _ =>
    let id := Text.trimChars inner
    if id.isEmpty then .error .emptyReference else .ok (fieldRef (String.ofList id), inner.length + 1)
  | _ => .error .unterminatedReference

/-- Whether a numeral starts here. -/
def startsNumeral (c : Char) (cs : List Char) : Bool := c.isDigit || (c == '.' && cs.head?.any Char.isDigit)

def readNumeral (cs : List Char) : TokenKind × Nat :=
  let n := numeralLength cs
  (number ((Decimal.readChars? (cs.take n)).getD 0), n - 1)

def readName (c : Char) (cs : List Char) : TokenKind × Nat :=
  let rest := cs.takeWhile isNamePart
  (ofWord (String.ofList (c :: rest)), rest.length)

/-- The token that starts with `c`, and the number of characters of `cs` that belong to it. -/
def read (c : Char) (cs : List Char) : Except LexFault (TokenKind × Nat) :=
  match ofChar? c with
  | some kind => .ok (kind, 0)
  | none =>
    if c = '<' then .ok (readLess cs)
    else if c = '>' then .ok (readGreater cs)
    else if c = '!' then readExclamation cs
    else if c = '"' ∨ c = '\'' then readText c cs
    else if c = '\x7b' then readReference cs
    else if startsNumeral c cs then .ok (readNumeral (c :: cs))
    else if isNameStart c then .ok (readName c cs)
    else .error (.unexpected c)

end TokenKind

/-- A token with the whitespace before it. -/
structure Lexeme where
  gap : List Char
  source : List Char
  kind : TokenKind

/-- What was read of a text: lexemes, the text after them, and why it is not a lexeme if it is not just whitespace. -/
structure Scan where
  lexemes : List Lexeme
  rest : List Char
  fault : Option LexFault

/-- Reads lexemes as far as possible. -/
def scan (cs : List Char) : Scan :=
  match _h : cs.dropWhile Text.isWhitespace with
  | [] => ⟨[], cs, none⟩
  | c :: after =>
    match TokenKind.read c after with
    | .error e => ⟨[], cs, some e⟩
    | .ok (kind, n) =>
      let s := scan (after.drop n)
      { s with lexemes := ⟨cs.takeWhile Text.isWhitespace, c :: after.take n, kind⟩ :: s.lexemes }
termination_by cs.length
decreasing_by
  have := (List.dropWhile_suffix Text.isWhitespace (l := cs)).length_le
  rw [_h] at this
  simp only [List.length_cons, List.length_drop] at this ⊢
  omega

/-- The characters that a lexeme takes. -/
def Lexeme.text (l : Lexeme) : List Char := l.gap ++ l.source

/-- The tokens of lexemes that start after a number of bytes. -/
def Token.place (start : Nat) : List Lexeme → List Token
  | [] => []
  | l :: ls =>
    ⟨l.kind, String.ofList l.source, start + Text.byteLength l.gap⟩ :: place (start + Text.byteLength l.text) ls

/-- A place where no token can be read. -/
structure LexError where
  position : Nat
  fault : LexFault
deriving DecidableEq, Repr

/-- Where the text after the lexemes leaves its gap: the place of a fault. -/
def Scan.faultPosition (s : Scan) : Nat :=
  Text.byteLength (s.lexemes.flatMap Lexeme.text) + Text.byteLength (s.rest.takeWhile Text.isWhitespace)

/-- The tokens of a formula without its end. -/
def lex (formula : String) : Except LexError (List Token) :=
  let s := scan formula.toList
  match s.fault with
  | some e => .error ⟨s.faultPosition, e⟩
  | none => .ok (Token.place 0 s.lexemes)

/-- The tokens of a formula, closed by its end. -/
def tokenize (formula : String) : Except LexError (List Token) :=
  (lex formula).map fun ts => ts ++ [⟨.finish, "", formula.utf8ByteSize⟩]

end ComputedFields
