/-!
# Builtin functions

The functions that formulas may call, by the names they are called by. Which of them can be evaluated, or written in a
target language, is decided by those who do it.
-/

namespace ComputedFields

inductive Builtin where
  | ifThenElse
  | switch
  | and
  | or
  | xor
  | blank
  | trueValue
  | falseValue
  | concatenate
  | len
  | lower
  | upper
  | trim
  | textOnly
  | left
  | right
  | mid
  | find
  | search
  | substitute
  | replace
  | repeatText
  | value
  | abs
  | round
  | roundUp
  | roundDown
  | ceiling
  | floor
  | int
  | mod
  | power
  | sqrt
  | exp
  | log
  | sum
  | average
  | max
  | min
  | count
  | countA
  | countAll
  | arrayJoin
  | arrayUnique
  | arrayCompact
  | arrayFlatten
  | now
  | today
  | recordId
deriving DecidableEq, Repr

namespace Builtin

/-- The name in upper case. -/
def name : Builtin → String
  | ifThenElse => "IF"
  | switch => "SWITCH"
  | and => "AND"
  | or => "OR"
  | xor => "XOR"
  | blank => "BLANK"
  | trueValue => "TRUE"
  | falseValue => "FALSE"
  | concatenate => "CONCATENATE"
  | len => "LEN"
  | lower => "LOWER"
  | upper => "UPPER"
  | trim => "TRIM"
  | textOnly => "T"
  | left => "LEFT"
  | right => "RIGHT"
  | mid => "MID"
  | find => "FIND"
  | search => "SEARCH"
  | substitute => "SUBSTITUTE"
  | replace => "REPLACE"
  | repeatText => "REPT"
  | value => "VALUE"
  | abs => "ABS"
  | round => "ROUND"
  | roundUp => "ROUNDUP"
  | roundDown => "ROUNDDOWN"
  | ceiling => "CEILING"
  | floor => "FLOOR"
  | int => "INT"
  | mod => "MOD"
  | power => "POWER"
  | sqrt => "SQRT"
  | exp => "EXP"
  | log => "LOG"
  | sum => "SUM"
  | average => "AVERAGE"
  | max => "MAX"
  | min => "MIN"
  | count => "COUNT"
  | countA => "COUNTA"
  | countAll => "COUNTALL"
  | arrayJoin => "ARRAYJOIN"
  | arrayUnique => "ARRAYUNIQUE"
  | arrayCompact => "ARRAYCOMPACT"
  | arrayFlatten => "ARRAYFLATTEN"
  | now => "NOW"
  | today => "TODAY"
  | recordId => "RECORD_ID"

end Builtin

end ComputedFields
