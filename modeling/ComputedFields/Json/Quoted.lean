import ComputedFields.Json.Draft
import ComputedFields.Text.Bytes

/-!
# Quoted strings of JSON

`quoted` reads the characters after an opening quote. Escapes for characters beyond the first plane come in pairs of
surrogates; a surrogate without its partner spoils the content of a string but not its outline, so such a string can
be passed over.
-/

namespace ComputedFields.Json

/-- What stands after an opening quote. -/
structure Quoted where
  content : Except Fault (List Char)
  /-- The number of characters up to and with the closing quote. -/
  length : Except Fault Nat

namespace Quoted

def fail (f : Fault) : Quoted := ⟨.error f, .error f⟩

/-- A character more, written with `n` characters. -/
def push (c : Char) (n : Nat) (q : Quoted) : Quoted := ⟨q.content.map (c :: ·), q.length.map (n + ·)⟩

/-- Something written with `n` characters that spoils the content. -/
def spoil (f : Fault) (n : Nat) (q : Quoted) : Quoted := ⟨.error f, q.length.map (n + ·)⟩

/-- The fault met when the content is read, if the string does not end. -/
def readFault (q : Quoted) (f : Fault) : Fault :=
  match q.content with
  | .error g => g
  | .ok _ => f

end Quoted

def hexDigit? (c : Char) : Option Nat :=
  if c.isDigit then some (c.toNat - '0'.toNat)
  else if 'a' ≤ c ∧ c ≤ 'f' then some (c.toNat - 'a'.toNat + 10)
  else if 'A' ≤ c ∧ c ≤ 'F' then some (c.toNat - 'A'.toNat + 10)
  else none

/-- The number that four hexadecimal digits denote. Fewer than four bytes are the fault of a text that ends too early.
-/
def fourHexDigits : List Char → Except Fault Nat
  | a :: b :: c :: d :: _ =>
    match hexDigit? a, hexDigit? b, hexDigit? c, hexDigit? d with
    | some a, some b, some c, some d => .ok (((16 * a + b) * 16 + c) * 16 + d)
    | _, _, _, _ => .error .malformed
  | cs => .error (if Text.byteLength cs < 4 then .truncated else .malformed)

def isLeadingSurrogate (n : Nat) : Bool := 0xD800 ≤ n && n ≤ 0xDBFF

def isTrailingSurrogate (n : Nat) : Bool := 0xDC00 ≤ n && n ≤ 0xDFFF

/-- The trailing surrogate that has to follow a leading one. -/
def trailingSurrogate : List Char → Except Fault Nat
  | [] => .error .truncated
  | ['\\'] => .error .truncated
  | '\\' :: 'u' :: cs => do
    let n ← fourHexDigits cs
    if isTrailingSurrogate n then .ok n else .error .malformed
  | _ => .error .malformed

/-- The character of two surrogates. -/
def surrogatePair (leading trailing : Nat) : Char :=
  Char.ofNat (0x10000 + (leading - 0xD800) * 0x400 + (trailing - 0xDC00))

/-- The character that a letter after a backslash stands for. -/
def unescape? : Char → Option Char
  | '"' => some '"'
  | '\\' => some '\\'
  | '/' => some '/'
  | 'b' => some '\x08'
  | 'f' => some '\x0c'
  | 'n' => some '\n'
  | 'r' => some '\r'
  | 't' => some '\t'
  | _ => none

/-- The string that begins after an opening quote. -/
def quoted (cs : List Char) : Quoted :=
  match cs with
  | [] => .fail .truncated
  | '"' :: _ => ⟨.ok [], .ok 1⟩
  | ['\\'] => .fail .truncated
  | '\\' :: 'u' :: r =>
    match fourHexDigits r with
    | .error f => .fail f
    | .ok n =>
      if isLeadingSurrogate n then
        match trailingSurrogate (r.drop 4) with
        | .ok m => (quoted (r.drop 10)).push (surrogatePair n m) 12
        | .error f => (quoted (r.drop 4)).spoil f 6
      else if isTrailingSurrogate n then (quoted (r.drop 4)).spoil .malformed 6
      else (quoted (r.drop 4)).push (Char.ofNat n) 6
  | '\\' :: c :: r =>
    match unescape? c with
    | some c => (quoted r).push c 2
    | none => .fail .malformed
  | c :: r => if c.toNat < 0x20 then .fail .malformed else (quoted r).push c 1
termination_by cs.length
decreasing_by all_goals simp only [List.length_cons, List.length_drop]; omega

end ComputedFields.Json
