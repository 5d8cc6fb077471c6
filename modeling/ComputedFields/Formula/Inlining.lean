import ComputedFields.Formula.Lexeme
import ComputedFields.Schema.Basic

/-!
# Inlining

The text of a formula with references to formula fields replaced by the formulas of these fields in parentheses.

- `segments`: a text cut into references and what stands between them;
- `inlineText`: references replaced, and references in what replaces them, up to a depth;
- `Schema.inlineField?`: the formula of a field with everything inlined but the field itself.

References are found in the lexemes of a text, so braces inside quotes are none; a text that has no lexemes is
searched for pairs of braces instead.
-/

namespace ComputedFields

/-- A piece of a formula. -/
inductive Segment where
  | plain (source : List Char)
  | reference (source : List Char) (id : String)

def Segment.source : Segment → List Char
  | plain s => s
  | reference s _ => s

def Lexeme.segments (l : Lexeme) : List Segment :=
  match l.kind with
  | .fieldRef id => [.plain l.gap, .reference l.source id]
  | _ => [.plain l.gap, .plain l.source]

/-- What stands before the closing brace, given the text after an opening one; it is not empty and has no brace in it.
-/
def bracedText? (cs : List Char) : Option (List Char) :=
  let inner := cs.takeWhile fun c => c != '\x7b' && c != '\x7d'
  if inner.isEmpty then none
  else if (cs.drop inner.length).head? = some '\x7d' then some inner else none

/-- The segment of a pair of braces. Braces around whitespace are no reference. -/
def Segment.ofBraced (inner : List Char) : Segment :=
  let source := '\x7b' :: inner ++ ['\x7d']
  let id := Text.trimChars inner
  if id.isEmpty then plain source else reference source (String.ofList id)

/-- The pairs of braces of a text, from left to right, and the characters between them. -/
def bracedSegments (cs : List Char) : List Segment :=
  match cs with
  | [] => []
  | c :: cs =>
    if c = '\x7b' then
      match bracedText? cs with
      | some inner => Segment.ofBraced inner :: bracedSegments (cs.drop (inner.length + 1))
      | none => .plain [c] :: bracedSegments cs
    else .plain [c] :: bracedSegments cs
termination_by cs.length
decreasing_by all_goals simp only [List.length_cons, List.length_drop]; omega

/-- A text cut into references and what stands between them. -/
def segments (cs : List Char) : List Segment :=
  let s := scan cs
  match s.fault with
  | none => s.lexemes.flatMap Lexeme.segments ++ [.plain s.rest]
  | some _ => bracedSegments cs

/-- A place in a text, in bytes. -/
structure Span where
  start : Nat
  stop : Nat
deriving DecidableEq, Repr

/-- The places of the references among segments that start after a number of bytes. -/
def referenceSpansAfter (start : Nat) : List Segment → List (Span × String)
  | [] => []
  | .plain s :: rest => referenceSpansAfter (start + Text.byteLength s) rest
  | .reference s id :: rest =>
    (⟨start, start + Text.byteLength s⟩, id) :: referenceSpansAfter (start + Text.byteLength s) rest

/-- The places of the references of a text. -/
def referenceSpans (cs : List Char) : List (Span × String) := referenceSpansAfter 0 (segments cs)

/-- A formula without the equals sign in front and without whitespace around it. -/
def formulaBody (cs : List Char) : List Char :=
  match Text.trimChars cs with
  | '=' :: rest => Text.trimChars rest
  | rest => rest

/-- The formula that replaces a reference, unless its field has been visited. -/
def inlinable? (s : Schema) (visited : List String) (id : String) : Option (List Char) :=
  if id ∈ visited then none else ((s.field? id).bind (·.formulaText?)).map fun t => formulaBody t.toList

/-- A text after inlining, and how deep inlining went. -/
structure Inlined where
  text : List Char
  depth : Nat
deriving DecidableEq, Repr

namespace Inlined

def keep (text : List Char) : Inlined := ⟨text, 0⟩

/-- Something inlined, in the place of a reference. -/
def wrap (inner : Inlined) : Inlined := ⟨'(' :: inner.text ++ [')'], inner.depth + 1⟩

def join (parts : List Inlined) : Inlined := ⟨parts.flatMap (·.text), (parts.map (·.depth)).foldl max 0⟩

end Inlined

/-- A text with references replaced up to a depth. A field is not inlined into its own formula, but it may be inlined
several times side by side. -/
def inlineText (s : Schema) : Nat → List String → List Char → Inlined
  | 0, _, cs => .keep cs
  | n + 1, visited, cs =>
    .join ((segments cs).map fun segment => match segment with
      | .plain source => .keep source
      | .reference source id =>
        match inlinable? s visited id with
        | none => .keep source
        | some inner => (inlineText s n (id :: visited) inner).wrap)

/-- The formula of a formula field with references replaced up to a depth. -/
def Schema.inlineField? (s : Schema) (maxDepth : Nat) (id : String) : Option Inlined :=
  ((s.field? id).bind (·.formulaText?)).map fun t => inlineText s maxDepth [id] t.toList

end ComputedFields
