/-!
# Sets of characters

A set is stored as the increasing list of code points at which membership changes, so a table of a character
property is one short list of numbers.
-/

namespace ComputedFields.Text

/-- A set of characters, given by the code points at which membership changes. -/
structure CharSet where
  bounds : List Nat

/-- Whether a code point lies after an odd number of the bounds. -/
def inside : List Nat → Nat → Bool
  | [], _ => false
  | b :: bs, n => if n < b then false else !inside bs n

/-- Membership. -/
def CharSet.contains (s : CharSet) (c : Char) : Bool := inside s.bounds c.toNat

end ComputedFields.Text
