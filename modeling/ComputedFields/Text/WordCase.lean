import ComputedFields.Text.Casing
import ComputedFields.Text.Spacing

/-!
# Words of a name

A name is cut into words at characters that are neither letters nor digits, between a lower case and an upper case
letter, and before the last of several upper case letters if a lower case letter follows it: `userID`, `HTTPServer`
and `2nd try` have two words each.

- `nameWords`: the words of a name;
- `snakeCase`, `camelCase`: the words put together again.
-/

namespace ComputedFields.Text

/-- What has been seen of the word being read. -/
inductive WordMode where
  | boundary
  | lower
  | upper
deriving DecidableEq, Repr

/-- The mode after a character; digits keep it. -/
def WordMode.after (mode : WordMode) (c : Char) : WordMode :=
  if isLowercase c then lower else if isUppercase c then upper else mode

/-- The words of the rest of a run, given the characters of the word being read, last first. -/
def caseWordsAfter (mode : WordMode) (word : List Char) : List Char → List (List Char)
  | [] => finished word
  | [c] => [(c :: word).reverse]
  | c :: next :: rest =>
    if mode.after c = .lower ∧ isUppercase next then (c :: word).reverse :: caseWordsAfter .boundary [] (next :: rest)
    else if mode = .upper ∧ isUppercase c ∧ isLowercase next then
      word.reverse :: caseWordsAfter .boundary [c] (next :: rest)
    else caseWordsAfter (mode.after c) (c :: word) (next :: rest)

/-- The words of a name. -/
def nameWords (cs : List Char) : List (List Char) := (runs (!isAlphanumeric ·) cs).flatMap (caseWordsAfter .boundary [])

/-- A word in lower case. Every sigma that ends it is final. -/
def lowerWord : List Char → List Char
  | [] => []
  | ['Σ'] => ['ς']
  | c :: cs => lowerChar c ++ lowerWord cs

/-- A word in lower case after its first character. -/
def capitalWord : List Char → List Char
  | [] => []
  | c :: cs => upperChar c ++ lowerWord cs

/-- The words in lower case with underscores between them. -/
def snakeCase (cs : List Char) : List Char := List.intercalate ['_'] ((nameWords cs).map lowerWord)

/-- The words without gaps, all but the first with a capital. -/
def camelCase (cs : List Char) : List Char :=
  match nameWords cs with
  | [] => []
  | w :: ws => lowerWord w ++ ws.flatMap capitalWord

end ComputedFields.Text
