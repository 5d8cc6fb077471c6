import ComputedFields.Text.Class.Alphabetic
import ComputedFields.Text.Class.CaseIgnorable
import ComputedFields.Text.Class.ExtendingMark
import ComputedFields.Text.Class.LetterCase
import ComputedFields.Text.Class.Numeric
import ComputedFields.Text.Class.Unprintable

/-!
# Character classes

The classes that names, gaps and displayed text are described by. Digits of numbers are ASCII and use
`Char.isDigit`; everything else is a property of the whole character set.
-/

namespace ComputedFields.Text

/-- Characters that may stand between tokens (property `White_Space`). -/
def isWhitespace (c : Char) : Bool :=
  let n := c.toNat
  (0x09 ≤ n && n ≤ 0x0D) || n == 0x20 || n == 0x85 || n == 0xA0 || n == 0x1680 || (0x2000 ≤ n && n ≤ 0x200A) ||
    n == 0x2028 || n == 0x2029 || n == 0x202F || n == 0x205F || n == 0x3000

/-- Characters that may start a name. -/
def isAlphabetic (c : Char) : Bool := alphabeticSet.contains c

def isNumeric (c : Char) : Bool := numericSet.contains c

def isAlphanumeric (c : Char) : Bool := isAlphabetic c || isNumeric c

def isLowercase (c : Char) : Bool := lowercaseSet.contains c

def isUppercase (c : Char) : Bool := uppercaseSet.contains c

/-- Upper, lower or title case. -/
def isCased (c : Char) : Bool := casedSet.contains c

/-- Characters that do not end the word around a cased letter. -/
def isCaseIgnorable (c : Char) : Bool := caseIgnorableSet.contains c

/-- Marks that attach to the character before them. -/
def isExtendingMark (c : Char) : Bool := extendingMarkSet.contains c

/-- Characters with a visible form, and the space. -/
def isPrintable (c : Char) : Bool := !unprintableSet.contains c

end ComputedFields.Text
