import ComputedFields.Target.Call
import ComputedFields.Target.LinkRead

/-!
# Getters that read through links

- `GetterBody`: what a getter does;
- `Target.linkBody`: the body of a getter that reads through a link.
-/

namespace ComputedFields

/-- What a getter does. -/
inductive GetterBody where
  /-- It returns the value of an expression. -/
  | expression (code : String)
  /-- It runs statements, one to a line, of which the last returns. -/
  | statements (lines : List String)
  /-- It returns a null, since it could not be generated. -/
  | stub (reason : String)
deriving DecidableEq, Repr

/-- The value of a field when no record is linked. -/
def Target.emptyValue : Target → EmptyDefault → String
  | sql, .emptyText => "''"
  | sql, .emptyList => "'\x7b\x7d'"
  | _, .zero => "0"
  | _, .emptyText => "\"\""
  | _, .emptyList => "[]"
  | t, .null => t.null

/-- The target field, which only counts can do without. -/
def LinkRead.target (r : LinkRead) : Except GenerationError TargetRead :=
  match r.read with
  | some read => .ok read
  | none => .error (.missingOption r.fieldId .targetField)

/-! ## Python -/

/-- The target field of the linked record `r`. -/
def pythonTarget : TargetRead → String
  | .stored key => "r.get(" ++ doubleQuoted key ++ ")"
  | .computed _ getter => getter ++ "(r, data)"

/-- The aggregation of the list `values`. -/
def pythonAggregate : Aggregation → Except GenerationError String
  | .sum => .ok "sum(_numbers(values))"
  | .count => .ok "len(_numbers(values))"
  | .countA => .ok "len([v for v in values if v != \"\"])"
  | .countAll => .ok "len(linked)"
  | .max => .ok "max(_numbers(values), default=None)"
  | .min => .ok "min(_numbers(values), default=None)"
  | .average => .ok "_average(_numbers(values))"
  | .arrayUnique => .ok "list(dict.fromkeys(_flatten(values)))"
  | .arrayFlatten => .ok "_flatten(values)"
  | .arrayCompact => .ok "[v for v in _flatten(values) if v is not None and v != \"\"]"
  | .arrayJoin separator => .ok (doubleQuoted separator ++ ".join(_text(v) for v in _flatten(values))")
  | .unknown text => .error (.unsupportedAggregation text)

/-- The result of a list of values. -/
def aggregated (aggregate : Aggregation → Except GenerationError String) (kind : LinkReadKind) :
    Except GenerationError String :=
  match kind with
  | .rollup aggregation => aggregate aggregation
  | _ => .ok "_flatten(values)"

/-- Whether the records are counted without a look at the target field. -/
def LinkRead.ignoresTarget (r : LinkRead) : Bool := r.kind == .rollup .countAll

def pythonLinkLines (r : LinkRead) (nullSafety : Bool) : Except GenerationError (List String) := do
  let link := doubleQuoted r.linkKey
  let table := doubleQuoted r.tableId
  if r.kind = .count then return ["return len(record.get(" ++ link ++ ") or [])"]
  let target ← r.target
  let guard := if nullSafety then ["if not ids:", "    return " ++ Target.python.emptyValue r.emptyDefault] else []
  let head := ("ids = record.get(" ++ link ++ ") or []") :: guard
  if r.fetchesOne then
    return head ++
      ["r = data.get_one(" ++ table ++ ", ids[0])", "return " ++ pythonTarget target ++ " if r is not None else None"]
  let values := if r.ignoresTarget then [] else
    ["values = [v for v in (" ++ pythonTarget target ++ " for r in linked) if v is not None]"]
  let result ← aggregated pythonAggregate r.kind
  return head ++ ["linked = data.get_batch(" ++ table ++ ", ids)"] ++ values ++ ["return " ++ result]

/-! ## JavaScript -/

def javascriptTarget : TargetRead → String
  | .stored key => "r[" ++ doubleQuoted key ++ "]"
  | .computed _ getter => getter ++ "(r, data)"

def javascriptAggregate : Aggregation → Except GenerationError String
  | .sum => .ok "_numbers(values).reduce((a, b) => a + b, 0)"
  | .count => .ok "_numbers(values).length"
  | .countA => .ok "values.filter((v) => v !== \"\").length"
  | .countAll => .ok "linked.length"
  | .max => .ok "_max(_numbers(values))"
  | .min => .ok "_min(_numbers(values))"
  | .average => .ok "_average(_numbers(values))"
  | .arrayUnique => .ok "[...new Set(_flatten(values))]"
  | .arrayFlatten => .ok "_flatten(values)"
  | .arrayCompact => .ok ("_flatten(values).filter(" ++ javascriptNotNull ++ " && v !== \"\")")
  | .arrayJoin separator => .ok ("_flatten(values).map(_text).join(" ++ doubleQuoted separator ++ ")")
  | .unknown text => .error (.unsupportedAggregation text)

def javascriptLinkLines (r : LinkRead) (nullSafety : Bool) : Except GenerationError (List String) := do
  let link := doubleQuoted r.linkKey
  let table := doubleQuoted r.tableId
  if r.kind = .count then return ["return (record[" ++ link ++ "] ?? []).length;"]
  let target ← r.target
  let guard := if nullSafety then
    ["if (ids.length === 0) \x7b", "  return " ++ Target.javascript.emptyValue r.emptyDefault ++ ";", "\x7d"] else []
  let head := ("const ids = record[" ++ link ++ "] ?? [];") :: guard
  if r.fetchesOne then
    return head ++
      ["const r = data.getOne(" ++ table ++ ", ids[0]);", "return r ? " ++ javascriptTarget target ++ " : null;"]
  let values := if r.ignoresTarget then [] else
    ["const values = linked.map((r) => " ++ javascriptTarget target ++ ").filter(" ++ javascriptNotNull ++ ");"]
  let result ← aggregated javascriptAggregate r.kind
  return head ++ ["const linked = data.getBatch(" ++ table ++ ", ids);"] ++ values ++ ["return " ++ result ++ ";"]

/-! ## SQL -/

/-- The aggregation of a column. -/
def sqlAggregate (value : String) : Aggregation → Except GenerationError String
  | .sum => .ok ("COALESCE(SUM(" ++ value ++ "), 0)")
  | .count => .ok ("COUNT(" ++ value ++ ")")
  | .countA => .ok ("COUNT(NULLIF(CAST(" ++ value ++ " AS TEXT), ''))")
  | .countAll => .ok "COUNT(*)"
  | .max => .ok ("MAX(" ++ value ++ ")")
  | .min => .ok ("MIN(" ++ value ++ ")")
  | .average => .ok ("COALESCE(AVG(" ++ value ++ "), 0)")
  | .arrayUnique =>
    .ok ("COALESCE(ARRAY_AGG(DISTINCT " ++ value ++ ") FILTER (WHERE " ++ value ++ " IS NOT NULL), '\x7b\x7d')")
  | .arrayFlatten => .ok ("COALESCE(ARRAY_AGG(" ++ value ++ ") FILTER (WHERE " ++ value ++ " IS NOT NULL), '\x7b\x7d')")
  | .arrayCompact =>
    .ok ("COALESCE(ARRAY_AGG(" ++ value ++ ") FILTER (WHERE " ++ value ++ " IS NOT NULL AND CAST(" ++ value ++
      " AS TEXT) <> ''), '\x7b\x7d')")
  | .arrayJoin separator => .ok ("COALESCE(STRING_AGG(CAST(" ++ value ++ " AS TEXT), " ++ sqlText separator ++ "), '')")
  | .unknown text => .error (.unsupportedAggregation text)

/-- Views see the stored columns of other tables only. -/
def sqlTarget : TargetRead → Except GenerationError String
  | .stored key => .ok ("l." ++ sqlName key)
  | .computed fieldId _ => .error (.computedThroughLink fieldId .sql)

def sqlLinkExpression (r : LinkRead) : Except GenerationError String := do
  let link := "t." ++ sqlName r.linkKey
  let source := "FROM " ++ sqlName r.tableKey ++ " AS l"
  match r.kind with
  | .count => return "COALESCE(CARDINALITY(" ++ link ++ "), 0)"
  | .lookup =>
    let value ← sqlTarget (← r.target)
    if r.isSingle then return "(SELECT " ++ value ++ " " ++ source ++ " WHERE l.\"id\" = " ++ link ++ "[1])"
    return "COALESCE((SELECT ARRAY_AGG(" ++ value ++ ") " ++ source ++ " WHERE l.\"id\" = ANY(" ++ link ++ ") AND " ++
      value ++ " IS NOT NULL), '\x7b\x7d')"
  | .rollup aggregation =>
    let value ← sqlTarget (← r.target)
    let result ← sqlAggregate value aggregation
    return "(SELECT " ++ result ++ " " ++ source ++ " WHERE l.\"id\" = ANY(" ++ link ++ "))"

/-- The body of a getter that reads through a link. -/
def Target.linkBody (t : Target) (r : LinkRead) (nullSafety : Bool) : Except GenerationError GetterBody :=
  match t with
  | python => (pythonLinkLines r nullSafety).map .statements
  | javascript => (javascriptLinkLines r nullSafety).map .statements
  | sql => (sqlLinkExpression r).map .expression

end ComputedFields
