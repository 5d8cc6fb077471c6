import ComputedFields.Text.Class
import ComputedFields.Text.Class.CaseMapping

/-!
# Case conversion

- `toUpper`, `toLower`: full case mapping, in which one character may become several and a capital sigma at the end
  of a word becomes a final sigma;
- `eqIgnoringAsciiCase`: equality of words up to the case of ASCII letters.
-/

namespace ComputedFields.Text

/-- The image of a character under a mapping table; characters that are not in it stay. -/
def mapCase (runs : List CaseRun) (expansions : List (Nat × List Nat)) (c : Char) : List Char :=
  match expansions.lookup c.toNat with
  | some image => image.map Char.ofNat
  | none =>
    match runs.findSome? (·.image? c.toNat) with
    | some n => [Char.ofNat n]
    | none => [c]

/-- The upper case form of one character. -/
def upperChar (c : Char) : List Char := mapCase upperRuns upperExpansions c

/-- The lower case form of one character, out of context. -/
def lowerChar (c : Char) : List Char := mapCase lowerRuns lowerExpansions c

def upperChars (cs : List Char) : List Char := cs.flatMap upperChar

/-- Whether the first character that is not case-ignorable is cased. -/
def startsCased (cs : List Char) : Bool :=
  match cs.dropWhile isCaseIgnorable with
  | [] => false
  | c :: _ => isCased c

/-- A sigma ends a word when a cased letter stands before it and none after it. -/
def lowerSigma (before after : List Char) : Char :=
  if startsCased before && !startsCased after then 'ς' else 'σ'

/-- Lower case of the rest of a text, given the characters before it, nearest first. -/
def lowerAfter (before : List Char) : List Char → List Char
  | [] => []
  | c :: cs => (if c = 'Σ' then [lowerSigma before cs] else lowerChar c) ++ lowerAfter (c :: before) cs

def lowerChars (cs : List Char) : List Char := lowerAfter [] cs

/-- Upper case of a text. -/
def toUpper (s : String) : String := String.ofList (upperChars s.toList)

/-- Lower case of a text. -/
def toLower (s : String) : String := String.ofList (lowerChars s.toList)

/-- Equality up to the case of ASCII letters. -/
def eqIgnoringAsciiCase (s t : String) : Bool := s.toList.map Char.toLower == t.toList.map Char.toLower

end ComputedFields.Text
