import ComputedFields.Decimal.Notation
import ComputedFields.Text.Shown

/-!
# Tokens

The words of formula text: what each kind of token is called in messages, and where a token stands. Positions count
the bytes of the text in UTF-8.
-/

namespace ComputedFields

/-- What a token says. -/
inductive TokenKind where
  | number (value : Float)
  | text (value : String)
  | boolean (value : Bool)
  | fieldRef (id : String)
  | identifier (name : String)
  | plus
  | minus
  | star
  | slash
  | ampersand
  | equal
  | notEqual
  | less
  | lessEqual
  | greater
  | greaterEqual
  | leftParen
  | rightParen
  | comma
  /-- The end of the formula. -/
  | finish

inductive TokenCategory where
  | literal
  | identifier
  | operator
  | paren
  | comma
  | finish
deriving DecidableEq, Repr

namespace TokenKind

def category : TokenKind → TokenCategory
  | number _ | text _ | boolean _ => .literal
  | fieldRef _ | identifier _ => .identifier
  | leftParen | rightParen => .paren
  | comma => .comma
  | finish => .finish
  | _ => .operator

/-- The token as messages call it. -/
def display : TokenKind → String
  | number x => "number " ++ Decimal.write Decimal.plain x
  | text s => "string " ++ Text.shown s
  | boolean b => if b then "TRUE" else "FALSE"
  | fieldRef id => "field reference \x7b" ++ id ++ "\x7d"
  | identifier name => "identifier '" ++ name ++ "'"
  | plus => "'+'"
  | minus => "'-'"
  | star => "'*'"
  | slash => "'/'"
  | ampersand => "'&'"
  | equal => "'='"
  | notEqual => "'!='"
  | less => "'<'"
  | lessEqual => "'<='"
  | greater => "'>'"
  | greaterEqual => "'>='"
  | leftParen => "'('"
  | rightParen => "')'"
  | comma => "','"
  | finish => "end of formula"

end TokenKind

/-- A token, its source text and the number of bytes before it. -/
structure Token where
  kind : TokenKind
  source : String
  position : Nat

/-- The number of bytes up to the end of the token. -/
def Token.stop (t : Token) : Nat := t.position + t.source.utf8ByteSize

end ComputedFields
