import ComputedFields.Text.Class

/-!
# Gaps, words and lines

- `trim`: a text without the whitespace around it;
- `words`, `oneLine`: the text on a single line, with single spaces between its words;
- `lines`, `indented`: the lines of a text, and the text with every line that is not empty moved to the right.
-/

namespace ComputedFields.Text

def trimStart (cs : List Char) : List Char := cs.dropWhile isWhitespace

def trimEnd (cs : List Char) : List Char := (trimStart cs.reverse).reverse

/-- The characters between the first and the last one that is not whitespace. -/
def trimChars (cs : List Char) : List Char := trimEnd (trimStart cs)

def trim (s : String) : String := String.ofList (trimChars s.toList)

/-- A finished run, read backwards; none at all if it has no characters. -/
def finished (run : List Char) : List (List Char) := if run.isEmpty then [] else [run.reverse]

/-- The runs of the rest of a text, given the characters of the run being read, last first. -/
def runsAfter (isGap : Char → Bool) (run : List Char) : List Char → List (List Char)
  | [] => finished run
  | c :: cs => if isGap c then finished run ++ runsAfter isGap [] cs else runsAfter isGap (c :: run) cs

/-- The maximal runs of characters that are no gaps. -/
def runs (isGap : Char → Bool) (cs : List Char) : List (List Char) := runsAfter isGap [] cs

/-- The maximal runs of characters that are not whitespace. -/
def words (cs : List Char) : List (List Char) := runs isWhitespace cs

/-- The words of a text with one space between them. -/
def oneLine (s : String) : String := " ".intercalate ((words s.toList).map String.ofList)

/-- A line read backwards, without the carriage return that stood before its line feed. -/
def endedLine : List Char → List Char
  | '\r' :: line => line.reverse
  | line => line.reverse

/-- The lines of the rest of a text, given the characters of the line being read, last first. -/
def linesAfter (line : List Char) : List Char → List (List Char)
  | [] => finished line
  | c :: cs => if c = '\n' then endedLine line :: linesAfter [] cs else linesAfter (c :: line) cs

/-- The lines of a text, each ended by a line feed or a carriage return and a line feed; the last one may be open. -/
def lines (s : String) : List String := (linesAfter [] s.toList).map String.ofList

/-- One line, moved right unless it is empty, with its line feed. -/
def indentedLine (indent : Nat) (line : String) : String :=
  (if line.isEmpty then "" else String.ofList (List.replicate indent ' ') ++ line) ++ "\n"

/-- The lines of a text moved right. -/
def indented (indent : Nat) (s : String) : String := String.join ((lines s).map (indentedLine indent))

end ComputedFields.Text
