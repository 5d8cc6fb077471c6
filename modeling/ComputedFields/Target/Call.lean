import ComputedFields.Target.Fragment
import ComputedFields.Target.Support

/-!
# Calls in targets

- `Target.call`: the code of a call, given the code of its arguments;
- `pythonCall`, `javascriptCall`, `sqlCall`: the code of a call that the target supports.

The code of a call can stand anywhere without parentheses around it.
-/

namespace ComputedFields

namespace Fragment

/-- The arguments of a call with commas between them. -/
def joined (args : List Fragment) : String := ", ".intercalate (args.map (·.code))

/-- An argument that SQL needs as text. -/
def sqlArgument (f : Fragment) : String :=
  match f.kind with
  | .text => f.code
  | _ => "CAST(" ++ f.code ++ " AS TEXT)"

end Fragment

open Fragment

/-! ## Python -/

/-- The choice among results by comparing with the subject `_v`. -/
def pythonChoices : List Fragment → String
  | candidate :: result :: rest =>
    result.code ++ " if _v == " ++ candidate.wrapped ++ " else " ++ pythonChoices rest
  | [default] => default.code
  | [] => "None"

/-- A quotient brought to a whole number and multiplied again. -/
def stepped (function : String) (x significance : Fragment) : String :=
  "(" ++ function ++ "(" ++ x.wrapped ++ " / " ++ significance.wrapped ++ ") * " ++ significance.wrapped ++ ")"

def pythonCall : Builtin → List Fragment → String
  | .ifThenElse, [c, x] => "(" ++ x.code ++ " if " ++ c.code ++ " else None)"
  | .ifThenElse, [c, x, y] => "(" ++ x.code ++ " if " ++ c.code ++ " else " ++ y.code ++ ")"
  | .switch, subject :: rest => "(lambda _v: " ++ pythonChoices rest ++ ")(" ++ subject.code ++ ")"
  | .and, args => "all([" ++ joined args ++ "])"
  | .or, args => "any([" ++ joined args ++ "])"
  | .xor, args => "(sum(1 for _v in [" ++ joined args ++ "] if _v) % 2 == 1)"
  | .trueValue, _ => "True"
  | .falseValue, _ => "False"
  | .concatenate, args => "\"\".join(_text(_v) for _v in [" ++ joined args ++ "])"
  | .len, [s] => "len(_text(" ++ s.code ++ "))"
  | .lower, [s] => "_text(" ++ s.code ++ ").lower()"
  | .upper, [s] => "_text(" ++ s.code ++ ").upper()"
  | .trim, [s] => "_text(" ++ s.code ++ ").strip()"
  | .textOnly, [s] => "_t(" ++ s.code ++ ")"
  | .left, [s] => "_text(" ++ s.code ++ ")[:max(int(1), 0)]"
  | .left, [s, n] => "_text(" ++ s.code ++ ")[:max(int(" ++ n.code ++ "), 0)]"
  | .right, args => "_right(" ++ joined args ++ ")"
  | .mid, [s, start, n] =>
    "_text(" ++ s.code ++ ")[max(int(" ++ start.code ++ ") - 1, 0):][:max(int(" ++ n.code ++ "), 0)]"
  | .find, [needle, s] => "(_text(" ++ s.code ++ ").find(_text(" ++ needle.code ++ ")) + 1)"
  | .find, [needle, s, start] =>
    "(_text(" ++ s.code ++ ").find(_text(" ++ needle.code ++ "), max(int(" ++ start.code ++ ") - 1, 0)) + 1)"
  | .search, args => "_search(" ++ joined args ++ ")"
  | .substitute, args => "_substitute(" ++ joined args ++ ")"
  | .replace, args => "_replace(" ++ joined args ++ ")"
  | .repeatText, [s, n] => "(_text(" ++ s.code ++ ") * max(int(" ++ n.code ++ "), 0))"
  | .value, [s] => "_value(" ++ s.code ++ ")"
  | .abs, [x] => "abs(" ++ x.code ++ ")"
  | .round, args => "_round(" ++ joined args ++ ")"
  | .roundUp, args => "_round_up(" ++ joined args ++ ")"
  | .roundDown, args => "_round_down(" ++ joined args ++ ")"
  | .ceiling, [x] => "math.ceil(" ++ x.code ++ ")"
  | .ceiling, [x, significance] => stepped "math.ceil" x significance
  | .floor, [x] => "math.floor(" ++ x.code ++ ")"
  | .floor, [x, significance] => stepped "math.floor" x significance
  | .int, [x] => "math.floor(" ++ x.code ++ ")"
  | .mod, [x, divisor] => "(" ++ x.wrapped ++ " % " ++ divisor.wrapped ++ ")"
  | .power, [x, y] => "(" ++ x.wrapped ++ " ** " ++ y.wrapped ++ ")"
  | .sqrt, [x] => "math.sqrt(" ++ x.code ++ ")"
  | .exp, [x] => "math.exp(" ++ x.code ++ ")"
  | .log, [x] => "math.log10(" ++ x.code ++ ")"
  | .log, [x, base] => "math.log(" ++ x.code ++ ", " ++ base.code ++ ")"
  | .sum, args => "sum(_numbers([" ++ joined args ++ "]))"
  | .average, args => "_average(_numbers([" ++ joined args ++ "]))"
  | .max, args => "max(_numbers([" ++ joined args ++ "]), default=None)"
  | .min, args => "min(_numbers([" ++ joined args ++ "]), default=None)"
  | .count, args => "len(_numbers([" ++ joined args ++ "]))"
  | .countA, args => "len([_v for _v in _flatten([" ++ joined args ++ "]) if _v is not None and _v != \"\"])"
  | .countAll, args => "len(_flatten([" ++ joined args ++ "]))"
  | .arrayJoin, [xs] => "\", \".join(_text(_v) for _v in _flatten([" ++ xs.code ++ "]) if _v is not None)"
  | .arrayJoin, [xs, separator] =>
    "_text(" ++ separator.code ++ ").join(_text(_v) for _v in _flatten([" ++ xs.code ++ "]) if _v is not None)"
  | .arrayUnique, args => "list(dict.fromkeys(_flatten([" ++ joined args ++ "])))"
  | .arrayCompact, args => "[_v for _v in _flatten([" ++ joined args ++ "]) if _v is not None and _v != \"\"]"
  | .arrayFlatten, args => "_flatten([" ++ joined args ++ "])"
  | .now, _ => "datetime.datetime.now(datetime.timezone.utc)"
  | .today, _ => "datetime.date.today()"
  | .recordId, _ => "record.get(\"id\")"
  | _, _ => "None"

/-! ## JavaScript -/

def javascriptChoices : List Fragment → String
  | candidate :: result :: rest =>
    "_v === " ++ candidate.wrapped ++ " ? " ++ result.wrapped ++ " : " ++ javascriptChoices rest
  | [default] => default.wrapped
  | [] => "null"

/-- The test for values that are there. -/
def javascriptNotNull : String := "(v) => v !== null && v !== undefined"

def javascriptCall : Builtin → List Fragment → String
  | .ifThenElse, [c, x] => "(" ++ c.wrapped ++ " ? " ++ x.wrapped ++ " : null)"
  | .ifThenElse, [c, x, y] => "(" ++ c.wrapped ++ " ? " ++ x.wrapped ++ " : " ++ y.wrapped ++ ")"
  | .switch, subject :: rest => "((_v) => (" ++ javascriptChoices rest ++ "))(" ++ subject.code ++ ")"
  | .and, args => "[" ++ joined args ++ "].every(Boolean)"
  | .or, args => "[" ++ joined args ++ "].some(Boolean)"
  | .xor, args => "([" ++ joined args ++ "].filter(Boolean).length % 2 === 1)"
  | .trueValue, _ => "true"
  | .falseValue, _ => "false"
  | .concatenate, args => "[" ++ joined args ++ "].map(_text).join(\"\")"
  | .len, [s] => "_text(" ++ s.code ++ ").length"
  | .lower, [s] => "_text(" ++ s.code ++ ").toLowerCase()"
  | .upper, [s] => "_text(" ++ s.code ++ ").toUpperCase()"
  | .trim, [s] => "_text(" ++ s.code ++ ").trim()"
  | .textOnly, [s] => "_t(" ++ s.code ++ ")"
  | .left, [s] => "_text(" ++ s.code ++ ").slice(0, Math.max(1, 0))"
  | .left, [s, n] => "_text(" ++ s.code ++ ").slice(0, Math.max(" ++ n.code ++ ", 0))"
  | .right, args => "_right(" ++ joined args ++ ")"
  | .mid, [s, start, n] =>
    "_text(" ++ s.code ++ ").substring(" ++ start.wrapped ++ " - 1).substring(0, Math.max(" ++ n.code ++ ", 0))"
  | .find, [needle, s] => "(_text(" ++ s.code ++ ").indexOf(_text(" ++ needle.code ++ ")) + 1)"
  | .find, [needle, s, start] =>
    "(_text(" ++ s.code ++ ").indexOf(_text(" ++ needle.code ++ "), Math.max(" ++ start.wrapped ++ " - 1, 0)) + 1)"
  | .search, args => "_search(" ++ joined args ++ ")"
  | .substitute, args => "_substitute(" ++ joined args ++ ")"
  | .replace, args => "_replace(" ++ joined args ++ ")"
  | .repeatText, [s, n] => "_text(" ++ s.code ++ ").repeat(Math.max(" ++ n.code ++ ", 0))"
  | .value, [s] => "_value(" ++ s.code ++ ")"
  | .abs, [x] => "Math.abs(" ++ x.code ++ ")"
  | .round, args => "_round(" ++ joined args ++ ")"
  | .roundUp, args => "_roundUp(" ++ joined args ++ ")"
  | .roundDown, args => "_roundDown(" ++ joined args ++ ")"
  | .ceiling, [x] => "Math.ceil(" ++ x.code ++ ")"
  | .ceiling, [x, significance] => stepped "Math.ceil" x significance
  | .floor, [x] => "Math.floor(" ++ x.code ++ ")"
  | .floor, [x, significance] => stepped "Math.floor" x significance
  | .int, [x] => "Math.floor(" ++ x.code ++ ")"
  | .mod, args => "_mod(" ++ joined args ++ ")"
  | .power, args => "Math.pow(" ++ joined args ++ ")"
  | .sqrt, [x] => "Math.sqrt(" ++ x.code ++ ")"
  | .exp, [x] => "Math.exp(" ++ x.code ++ ")"
  | .log, [x] => "Math.log10(" ++ x.code ++ ")"
  | .log, [x, base] => "(Math.log(" ++ x.code ++ ") / Math.log(" ++ base.code ++ "))"
  | .sum, args => "_numbers([" ++ joined args ++ "]).reduce((a, b) => a + b, 0)"
  | .average, args => "_average(_numbers([" ++ joined args ++ "]))"
  | .max, args => "_max(_numbers([" ++ joined args ++ "]))"
  | .min, args => "_min(_numbers([" ++ joined args ++ "]))"
  | .count, args => "_numbers([" ++ joined args ++ "]).length"
  | .countA, args => "_flatten([" ++ joined args ++ "]).filter(" ++ javascriptNotNull ++ " && v !== \"\").length"
  | .countAll, args => "_flatten([" ++ joined args ++ "]).length"
  | .arrayJoin, [xs] => "_flatten([" ++ xs.code ++ "]).filter(" ++ javascriptNotNull ++ ").map(_text).join(\", \")"
  | .arrayJoin, [xs, separator] =>
    "_flatten([" ++ xs.code ++ "]).filter(" ++ javascriptNotNull ++ ").map(_text).join(_text(" ++ separator.code ++ "))"
  | .arrayUnique, args => "[...new Set(_flatten([" ++ joined args ++ "]))]"
  | .arrayCompact, args => "_flatten([" ++ joined args ++ "]).filter(" ++ javascriptNotNull ++ " && v !== \"\")"
  | .arrayFlatten, args => "_flatten([" ++ joined args ++ "])"
  | .now, _ => "new Date()"
  | .today, _ => "new Date(new Date().toDateString())"
  | .recordId, _ => "record[\"id\"]"
  | _, _ => "null"

/-! ## SQL -/

/-- The branches of a choice by comparison. -/
def sqlBranches : List Fragment → String
  | candidate :: result :: rest => " WHEN " ++ candidate.code ++ " THEN " ++ result.code ++ sqlBranches rest
  | [default] => " ELSE " ++ default.code
  | [] => ""

def sqlCall : Builtin → List Fragment → String
  | .ifThenElse, [c, x] => "CASE WHEN " ++ c.code ++ " THEN " ++ x.code ++ " ELSE NULL END"
  | .ifThenElse, [c, x, y] => "CASE WHEN " ++ c.code ++ " THEN " ++ x.code ++ " ELSE " ++ y.code ++ " END"
  | .switch, subject :: rest => "CASE " ++ subject.code ++ sqlBranches rest ++ " END"
  | .and, args => "(" ++ " AND ".intercalate (args.map (·.wrapped)) ++ ")"
  | .or, args => "(" ++ " OR ".intercalate (args.map (·.wrapped)) ++ ")"
  | .trueValue, _ => "TRUE"
  | .falseValue, _ => "FALSE"
  | .concatenate, args => "CONCAT(" ++ joined args ++ ")"
  | .len, [s] => "LENGTH(" ++ s.sqlArgument ++ ")"
  | .lower, [s] => "LOWER(" ++ s.sqlArgument ++ ")"
  | .upper, [s] => "UPPER(" ++ s.sqlArgument ++ ")"
  | .trim, [s] => "TRIM(" ++ s.sqlArgument ++ ")"
  | .left, [s] => "LEFT(" ++ s.sqlArgument ++ ", 1)"
  | .left, [s, n] => "LEFT(" ++ s.sqlArgument ++ ", " ++ n.code ++ ")"
  | .right, [s] => "RIGHT(" ++ s.sqlArgument ++ ", 1)"
  | .right, [s, n] => "RIGHT(" ++ s.sqlArgument ++ ", " ++ n.code ++ ")"
  | .mid, [s, start, n] => "SUBSTRING(" ++ s.sqlArgument ++ " FROM " ++ start.code ++ " FOR " ++ n.code ++ ")"
  | .find, [needle, s] => "STRPOS(" ++ s.sqlArgument ++ ", " ++ needle.sqlArgument ++ ")"
  | .search, [needle, s] =>
    "NULLIF(STRPOS(LOWER(" ++ s.sqlArgument ++ "), LOWER(" ++ needle.sqlArgument ++ ")), 0)"
  | .substitute, [s, old, new] =>
    "REPLACE(" ++ s.sqlArgument ++ ", " ++ old.sqlArgument ++ ", " ++ new.sqlArgument ++ ")"
  | .replace, [s, start, n, new] =>
    "OVERLAY(" ++ s.sqlArgument ++ " PLACING " ++ new.sqlArgument ++ " FROM " ++ start.code ++ " FOR " ++ n.code ++ ")"
  | .repeatText, [s, n] => "REPEAT(" ++ s.sqlArgument ++ ", " ++ n.code ++ ")"
  | .abs, [x] => "ABS(" ++ x.code ++ ")"
  | .sqrt, [x] => "SQRT(" ++ x.code ++ ")"
  | .exp, [x] => "EXP(" ++ x.code ++ ")"
  | .round, [x] => "ROUND(CAST(" ++ x.code ++ " AS NUMERIC), 0)"
  | .round, [x, places] => "ROUND(CAST(" ++ x.code ++ " AS NUMERIC), " ++ places.code ++ ")"
  | .roundDown, [x] => "TRUNC(CAST(" ++ x.code ++ " AS NUMERIC), 0)"
  | .roundDown, [x, places] => "TRUNC(CAST(" ++ x.code ++ " AS NUMERIC), " ++ places.code ++ ")"
  | .ceiling, [x] => "CEIL(" ++ x.code ++ ")"
  | .ceiling, [x, significance] => stepped "CEIL" x significance
  | .floor, [x] => "FLOOR(" ++ x.code ++ ")"
  | .floor, [x, significance] => stepped "FLOOR" x significance
  | .int, [x] => "FLOOR(" ++ x.code ++ ")"
  | .mod, args => "MOD(" ++ joined args ++ ")"
  | .power, args => "POWER(" ++ joined args ++ ")"
  | .log, [x] => "LOG(" ++ x.code ++ ")"
  | .log, [x, base] => "LOG(" ++ base.code ++ ", " ++ x.code ++ ")"
  | .sum, args => "(" ++ " + ".intercalate (args.map fun x => "COALESCE(" ++ x.code ++ ", 0)") ++ ")"
  | .max, args => "GREATEST(" ++ joined args ++ ")"
  | .min, args => "LEAST(" ++ joined args ++ ")"
  | .now, _ => "NOW()"
  | .today, _ => "CURRENT_DATE"
  | .recordId, _ => "t.\"id\""
  | _, _ => "NULL"

namespace Target

/-- The code of a call that the target supports. -/
def render : Target → Builtin → List Fragment → String
  | python, b, args => pythonCall b args
  | javascript, b, args => javascriptCall b args
  | sql, b, args => sqlCall b args

/-- The code of a call, or why the target cannot express it. -/
def call (t : Target) (name : String) (args : List Fragment) : Except GenerationError String :=
  (t.supports name args.length).map fun b => t.render b args

end Target

end ComputedFields
