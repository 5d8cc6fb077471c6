/-!
# Finding and replacing text

- `indexOf?`: where a text first occurs in another;
- `pieces`: a text cut at the occurrences of a separator, from left to right and without overlaps;
- `replaceAll`, `replaceNth`: every occurrence, or one of them, replaced.
-/

namespace ComputedFields.Text

/-- The number of characters before the first occurrence of `needle`. -/
def indexOf? (needle : List Char) : List Char → Option Nat
  | [] => if needle.isEmpty then some 0 else none
  | c :: cs => if needle.isPrefixOf (c :: cs) then some 0 else (indexOf? needle cs).map (· + 1)

/-- The parts of a text around the occurrences of a separator; the text itself if the separator is empty. -/
def pieces (separator text : List Char) : List (List Char) :=
  match separator, text with
  | [], _ => [text]
  | _, [] => [text]
  | s :: ss, c :: cs =>
    match indexOf? (s :: ss) (c :: cs) with
    | none => [c :: cs]
    | some i => (c :: cs).take i :: pieces (s :: ss) ((c :: cs).drop (i + (ss.length + 1)))
termination_by text.length

/-- Pieces put together again, with `replacement` at the separator of the given number and `separator` at the others. -/
def joinReplacing (separator replacement : List Char) : Nat → List (List Char) → List Char
  | _, [] => []
  | _, [p] => p
  | 0, p :: ps => p ++ replacement ++ List.intercalate separator ps
  | n + 1, p :: ps => p ++ separator ++ joinReplacing separator replacement n ps

/-- Every occurrence of `old` replaced; an empty `old` occurs nowhere. -/
def replaceAll (text old new : List Char) : List Char := List.intercalate new (pieces old text)

/-- The occurrence of `old` with number `n`, counted from one, replaced. -/
def replaceNth (text old new : List Char) (n : Nat) : List Char :=
  match n with
  | 0 => text
  | n + 1 => joinReplacing old new n (pieces old text)

end ComputedFields.Text
