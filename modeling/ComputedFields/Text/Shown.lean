import ComputedFields.Text.Class

/-!
# Text as messages show it

`shown` puts a text in double quotes and escapes every character that would not be seen as itself.
-/

namespace ComputedFields.Text

/-- A code point in hexadecimal, in braces. -/
def shownCode (c : Char) : List Char := ['\\', 'u', '\x7b'] ++ Nat.toDigits 16 c.toNat ++ ['\x7d']

/-- A character as itself if it has a shape of its own, else as an escape. -/
def shownChar (c : Char) : List Char :=
  if c = '\x00' then ['\\', '0']
  else if c = '\t' then ['\\', 't']
  else if c = '\r' then ['\\', 'r']
  else if c = '\n' then ['\\', 'n']
  else if c = '"' then ['\\', '"']
  else if c = '\\' then ['\\', '\\']
  else if isExtendingMark c || !isPrintable c then shownCode c
  else [c]

/-- A text in double quotes. -/
def shown (s : String) : String := "\"" ++ String.ofList (s.toList.flatMap shownChar) ++ "\""

end ComputedFields.Text
