import ComputedFields.Proofs.Support
import Mathlib.Data.List.Forall2

/-!
# Templates of calls

A template is a sequence of texts and of places for arguments. Which template a call has depends on the function and on
the number of arguments; filling it fails if there is no argument in one of its places.

- `Template.python`, `Template.javascript`, `Template.sql`: the templates of all functions;
- `Template.isSome_fill?_iff`: filling succeeds exactly if all places are places of arguments;
- `Target.fill?_template`: the code of a supported call is its template with the arguments filled in;
- `mapsCalls`: so no argument is missed, and what is reported for a formula are the errors of its calls.
-/

namespace ComputedFields

/-- A piece of a template: a text, or an argument by its place. -/
inductive Piece where
  | text (s : String)
  | code (place : Nat)
  | operand (place : Nat)
  /-- As text for SQL. -/
  | sqlText (place : Nat)

abbrev Template := List Piece

instance : Coe String Piece := ⟨.text⟩

namespace Piece

/-- What a piece becomes; nothing if there is no argument in its place. -/
def write? (args : List Fragment) : Piece → Option String
  | text s => some s
  | code i => args[i]?.map (·.code)
  | operand i => args[i]?.map (·.wrapped)
  | sqlText i => args[i]?.map (·.sqlArgument)

def place? : Piece → Option Nat
  | text _ => none
  | code i | operand i | sqlText i => some i

end Piece

namespace Template

/-- The pieces of a template after a text. -/
def fillAfter? (args : List Fragment) (start : String) : Template → Option String
  | [] => some start
  | p :: ps =>
    match p.write? args with
    | some s => fillAfter? args (start ++ s) ps
    | none => none

/-- The pieces of a template one after the other. -/
def fill? (args : List Fragment) : Template → Option String
  | [] => some ""
  | p :: ps =>
    match p.write? args with
    | some s => fillAfter? args s ps
    | none => none

/-- The places that a template reads. -/
def places (ps : Template) : List Nat := ps.filterMap Piece.place?

/-! ## The templates -/

/-- A template between texts. -/
def within (before : String) (ps : Template) (after : Template) : Template := .text before :: (ps ++ after)

/-- An item for each of `n` arguments, with a separator between them. -/
def listed (item : Nat → Template) (separator : String) (n : Nat) : Template :=
  List.intercalate [.text separator] ((List.range n).map item)

/-- All of `n` arguments between two texts. -/
def around (before after : String) (n : Nat) : Template :=
  within before (listed (fun i => [.code i]) ", " n) [after]

/-- The pairs among `n` arguments from a place on, and then the one that is left over, if one is. -/
def branches (pair last : Nat → Template) (default : Template) (i : Nat) : Nat → Template
  | 0 => default
  | 1 => last i
  | n + 2 => pair i ++ branches pair last default (i + 2) n

/-- A quotient brought to a whole number and multiplied again. -/
def stepping (function : String) : Template :=
  ["(", function, "(", .operand 0, " / ", .operand 1, ") * ", .operand 1, ")"]

def pythonBranches : Nat → Nat → Template :=
  branches (fun i => [.code (i + 1), " if _v == ", .operand i, " else "]) (fun i => [.code i]) ["None"]

def python (n : Nat) : Builtin → Template
  | .ifThenElse =>
    if n = 2 then ["(", .code 1, " if ", .code 0, " else None)"]
    else ["(", .code 1, " if ", .code 0, " else ", .code 2, ")"]
  | .switch => within "(lambda _v: " (pythonBranches 1 (n - 1)) [")(", .code 0, ")"]
  | .and => around "all([" "])" n
  | .or => around "any([" "])" n
  | .xor => around "(sum(1 for _v in [" "] if _v) % 2 == 1)" n
  | .blank => ["None"]
  | .trueValue => ["True"]
  | .falseValue => ["False"]
  | .concatenate => around "\"\".join(_text(_v) for _v in [" "])" n
  | .len => ["len(_text(", .code 0, "))"]
  | .lower => ["_text(", .code 0, ").lower()"]
  | .upper => ["_text(", .code 0, ").upper()"]
  | .trim => ["_text(", .code 0, ").strip()"]
  | .textOnly => ["_t(", .code 0, ")"]
  | .left =>
    if n = 1 then ["_text(", .code 0, ")[:max(int(1), 0)]"]
    else ["_text(", .code 0, ")[:max(int(", .code 1, "), 0)]"]
  | .right => around "_right(" ")" n
  | .mid => ["_text(", .code 0, ")[max(int(", .code 1, ") - 1, 0):][:max(int(", .code 2, "), 0)]"]
  | .find =>
    if n = 2 then ["(_text(", .code 1, ").find(_text(", .code 0, ")) + 1)"]
    else ["(_text(", .code 1, ").find(_text(", .code 0, "), max(int(", .code 2, ") - 1, 0)) + 1)"]
  | .search => around "_search(" ")" n
  | .substitute => around "_substitute(" ")" n
  | .replace => around "_replace(" ")" n
  | .repeatText => ["(_text(", .code 0, ") * max(int(", .code 1, "), 0))"]
  | .value => ["_value(", .code 0, ")"]
  | .abs => ["abs(", .code 0, ")"]
  | .round => around "_round(" ")" n
  | .roundUp => around "_round_up(" ")" n
  | .roundDown => around "_round_down(" ")" n
  | .ceiling => if n = 1 then ["math.ceil(", .code 0, ")"] else stepping "math.ceil"
  | .floor => if n = 1 then ["math.floor(", .code 0, ")"] else stepping "math.floor"
  | .int => ["math.floor(", .code 0, ")"]
  | .mod => ["(", .operand 0, " % ", .operand 1, ")"]
  | .power => ["(", .operand 0, " ** ", .operand 1, ")"]
  | .sqrt => ["math.sqrt(", .code 0, ")"]
  | .exp => ["math.exp(", .code 0, ")"]
  | .log => if n = 1 then ["math.log10(", .code 0, ")"] else ["math.log(", .code 0, ", ", .code 1, ")"]
  | .sum => around "sum(_numbers([" "]))" n
  | .average => around "_average(_numbers([" "]))" n
  | .max => around "max(_numbers([" "]), default=None)" n
  | .min => around "min(_numbers([" "]), default=None)" n
  | .count => around "len(_numbers([" "]))" n
  | .countA => around "len([_v for _v in _flatten([" "]) if _v is not None and _v != \"\"])" n
  | .countAll => around "len(_flatten([" "]))" n
  | .arrayJoin =>
    if n = 1 then ["\", \".join(_text(_v) for _v in _flatten([", .code 0, "]) if _v is not None)"]
    else ["_text(", .code 1, ").join(_text(_v) for _v in _flatten([", .code 0, "]) if _v is not None)"]
  | .arrayUnique => around "list(dict.fromkeys(_flatten([" "])))" n
  | .arrayCompact => around "[_v for _v in _flatten([" "]) if _v is not None and _v != \"\"]" n
  | .arrayFlatten => around "_flatten([" "])" n
  | .now => ["datetime.datetime.now(datetime.timezone.utc)"]
  | .today => ["datetime.date.today()"]
  | .recordId => ["record.get(\"id\")"]

def javascriptBranches : Nat → Nat → Template :=
  branches (fun i => ["_v === ", .operand i, " ? ", .operand (i + 1), " : "]) (fun i => [.operand i]) ["null"]

def javascript (n : Nat) : Builtin → Template
  | .ifThenElse =>
    if n = 2 then ["(", .operand 0, " ? ", .operand 1, " : null)"]
    else ["(", .operand 0, " ? ", .operand 1, " : ", .operand 2, ")"]
  | .switch => within "((_v) => (" (javascriptBranches 1 (n - 1)) ["))(", .code 0, ")"]
  | .and => around "[" "].every(Boolean)" n
  | .or => around "[" "].some(Boolean)" n
  | .xor => around "([" "].filter(Boolean).length % 2 === 1)" n
  | .blank => ["null"]
  | .trueValue => ["true"]
  | .falseValue => ["false"]
  | .concatenate => around "[" "].map(_text).join(\"\")" n
  | .len => ["_text(", .code 0, ").length"]
  | .lower => ["_text(", .code 0, ").toLowerCase()"]
  | .upper => ["_text(", .code 0, ").toUpperCase()"]
  | .trim => ["_text(", .code 0, ").trim()"]
  | .textOnly => ["_t(", .code 0, ")"]
  | .left =>
    if n = 1 then ["_text(", .code 0, ").slice(0, Math.max(1, 0))"]
    else ["_text(", .code 0, ").slice(0, Math.max(", .code 1, ", 0))"]
  | .right => around "_right(" ")" n
  | .mid => ["_text(", .code 0, ").substring(", .operand 1, " - 1).substring(0, Math.max(", .code 2, ", 0))"]
  | .find =>
    if n = 2 then ["(_text(", .code 1, ").indexOf(_text(", .code 0, ")) + 1)"]
    else ["(_text(", .code 1, ").indexOf(_text(", .code 0, "), Math.max(", .operand 2, " - 1, 0)) + 1)"]
  | .search => around "_search(" ")" n
  | .substitute => around "_substitute(" ")" n
  | .replace => around "_replace(" ")" n
  | .repeatText => ["_text(", .code 0, ").repeat(Math.max(", .code 1, ", 0))"]
  | .value => ["_value(", .code 0, ")"]
  | .abs => ["Math.abs(", .code 0, ")"]
  | .round => around "_round(" ")" n
  | .roundUp => around "_roundUp(" ")" n
  | .roundDown => around "_roundDown(" ")" n
  | .ceiling => if n = 1 then ["Math.ceil(", .code 0, ")"] else stepping "Math.ceil"
  | .floor => if n = 1 then ["Math.floor(", .code 0, ")"] else stepping "Math.floor"
  | .int => ["Math.floor(", .code 0, ")"]
  | .mod => around "_mod(" ")" n
  | .power => around "Math.pow(" ")" n
  | .sqrt => ["Math.sqrt(", .code 0, ")"]
  | .exp => ["Math.exp(", .code 0, ")"]
  | .log =>
    if n = 1 then ["Math.log10(", .code 0, ")"] else ["(Math.log(", .code 0, ") / Math.log(", .code 1, "))"]
  | .sum => around "_numbers([" "]).reduce((a, b) => a + b, 0)" n
  | .average => around "_average(_numbers([" "]))" n
  | .max => around "_max(_numbers([" "]))" n
  | .min => around "_min(_numbers([" "]))" n
  | .count => around "_numbers([" "]).length" n
  | .countA =>
    within "_flatten([" (listed (fun i => [.code i]) ", " n)
      ["]).filter(", javascriptNotNull, " && v !== \"\").length"]
  | .countAll => around "_flatten([" "]).length" n
  | .arrayJoin =>
    if n = 1 then ["_flatten([", .code 0, "]).filter(", javascriptNotNull, ").map(_text).join(\", \")"]
    else ["_flatten([", .code 0, "]).filter(", javascriptNotNull, ").map(_text).join(_text(", .code 1, "))"]
  | .arrayUnique => around "[...new Set(_flatten([" "]))]" n
  | .arrayCompact =>
    within "_flatten([" (listed (fun i => [.code i]) ", " n)
      ["]).filter(", javascriptNotNull, " && v !== \"\")"]
  | .arrayFlatten => around "_flatten([" "])" n
  | .now => ["new Date()"]
  | .today => ["new Date(new Date().toDateString())"]
  | .recordId => ["record[\"id\"]"]

def sqlBranches : Nat → Nat → Template :=
  branches (fun i => [" WHEN ", .code i, " THEN ", .code (i + 1)]) (fun i => [" ELSE ", .code i]) []

/-- The functions that SQL does not have are given the template of a blank. -/
def sql (n : Nat) : Builtin → Template
  | .ifThenElse =>
    if n = 2 then ["CASE WHEN ", .code 0, " THEN ", .code 1, " ELSE NULL END"]
    else ["CASE WHEN ", .code 0, " THEN ", .code 1, " ELSE ", .code 2, " END"]
  | .switch => within "CASE " (.code 0 :: sqlBranches 1 (n - 1)) [" END"]
  | .and => within "(" (listed (fun i => [.operand i]) " AND " n) [")"]
  | .or => within "(" (listed (fun i => [.operand i]) " OR " n) [")"]
  | .trueValue => ["TRUE"]
  | .falseValue => ["FALSE"]
  | .concatenate => around "CONCAT(" ")" n
  | .len => ["LENGTH(", .sqlText 0, ")"]
  | .lower => ["LOWER(", .sqlText 0, ")"]
  | .upper => ["UPPER(", .sqlText 0, ")"]
  | .trim => ["TRIM(", .sqlText 0, ")"]
  | .left => if n = 1 then ["LEFT(", .sqlText 0, ", 1)"] else ["LEFT(", .sqlText 0, ", ", .code 1, ")"]
  | .right => if n = 1 then ["RIGHT(", .sqlText 0, ", 1)"] else ["RIGHT(", .sqlText 0, ", ", .code 1, ")"]
  | .mid => ["SUBSTRING(", .sqlText 0, " FROM ", .code 1, " FOR ", .code 2, ")"]
  | .find => ["STRPOS(", .sqlText 1, ", ", .sqlText 0, ")"]
  | .search => ["NULLIF(STRPOS(LOWER(", .sqlText 1, "), LOWER(", .sqlText 0, ")), 0)"]
  | .substitute => ["REPLACE(", .sqlText 0, ", ", .sqlText 1, ", ", .sqlText 2, ")"]
  | .replace =>
    ["OVERLAY(", .sqlText 0, " PLACING ", .sqlText 3, " FROM ", .code 1, " FOR ", .code 2, ")"]
  | .repeatText => ["REPEAT(", .sqlText 0, ", ", .code 1, ")"]
  | .abs => ["ABS(", .code 0, ")"]
  | .sqrt => ["SQRT(", .code 0, ")"]
  | .exp => ["EXP(", .code 0, ")"]
  | .round =>
    if n = 1 then ["ROUND(CAST(", .code 0, " AS NUMERIC), 0)"]
    else ["ROUND(CAST(", .code 0, " AS NUMERIC), ", .code 1, ")"]
  | .roundDown =>
    if n = 1 then ["TRUNC(CAST(", .code 0, " AS NUMERIC), 0)"]
    else ["TRUNC(CAST(", .code 0, " AS NUMERIC), ", .code 1, ")"]
  | .ceiling => if n = 1 then ["CEIL(", .code 0, ")"] else stepping "CEIL"
  | .floor => if n = 1 then ["FLOOR(", .code 0, ")"] else stepping "FLOOR"
  | .int => ["FLOOR(", .code 0, ")"]
  | .mod => around "MOD(" ")" n
  | .power => around "POWER(" ")" n
  | .log => if n = 1 then ["LOG(", .code 0, ")"] else ["LOG(", .code 1, ", ", .code 0, ")"]
  | .sum => within "(" (listed (fun i => ["COALESCE(", .code i, ", 0)"]) " + " n) [")"]
  | .max => around "GREATEST(" ")" n
  | .min => around "LEAST(" ")" n
  | .now => ["NOW()"]
  | .today => ["CURRENT_DATE"]
  | .recordId => ["t.\"id\""]
  | .blank | .xor | .textOnly | .value | .roundUp | .average | .count | .countA | .countAll | .arrayJoin | .arrayUnique
  | .arrayCompact | .arrayFlatten => ["NULL"]

/-! ## Filling -/

variable {args : List Fragment}

theorem fillAfter?_eq (args : List Fragment) (start : String) (ps : Template) :
    fillAfter? args start ps = (fill? args ps).map (start ++ ·) := by
  induction ps generalizing start with
  | nil => simp [fillAfter?, fill?]
  | cons p ps ih =>
    rw [fillAfter?, fill?]
    cases p.write? args with
    | none => rfl
    | some s => simp only [ih, Option.map_map, Function.comp_def, String.append_assoc]

theorem fill?_cons (args : List Fragment) (p : Piece) (ps : Template) :
    fill? args (p :: ps) = (p.write? args).bind fun s => (fill? args ps).map (s ++ ·) := by
  rw [fill?]
  cases p.write? args with
  | none => rfl
  | some s => exact fillAfter?_eq args s ps

theorem fill?_append (args : List Fragment) (ps qs : Template) :
    fill? args (ps ++ qs) = (fill? args ps).bind fun s => (fill? args qs).map (s ++ ·) := by
  induction ps with
  | nil => simp [fill?]
  | cons p ps ih =>
    rw [List.cons_append, fill?_cons, fill?_cons, ih]
    cases p.write? args with
    | none => rfl
    | some s => cases fill? args ps <;> simp [Function.comp_def, String.append_assoc]

/-- Filling succeeds exactly if all places are places of arguments. -/
theorem isSome_fill?_iff {ps : Template} : (fill? args ps).isSome = true ↔ ∀ i ∈ places ps, i < args.length := by
  induction ps with
  | nil => simp [fill?, places]
  | cons p ps ih =>
    have hp : (p.write? args).isSome = true ↔ ∀ i ∈ p.place?.toList, i < args.length := by
      cases p <;> simp [Piece.write?, Piece.place?]
    have hplaces : places (p :: ps) = p.place?.toList ++ places ps := by
      rw [places, List.filterMap_cons]
      cases p.place? <;> rfl
    rw [hplaces, List.forall_mem_append, ← hp, ← ih, fill?_cons]
    cases p.write? args <;> simp

theorem fill?_single (args : List Fragment) (p : Piece) : fill? args [p] = p.write? args := by
  rw [fill?]
  cases p.write? args <;> rfl

theorem fill?_within {before s : String} {ps : Template} (after : Template) (h : fill? args ps = some s) :
    fill? args (within before ps after) = fillAfter? args (before ++ s) after := by
  rw [within, fill?_cons, fill?_append, h, Piece.write?, fillAfter?_eq]
  simp [Function.comp_def, String.append_assoc]

theorem fill?_intercalate {separator : String} {ts : List Template} {ss : List String}
    (h : List.Forall₂ (fun t s => fill? args t = some s) ts ss) :
    fill? args (List.intercalate [.text separator] ts) = some (separator.intercalate ss) := by
  induction h with
  | nil => rfl
  | @cons t s ts ss ht hs ih =>
    cases hs with
    | nil => simpa using ht
    | cons ht' hs =>
      rw [List.intercalate_cons_cons, fill?_append, fill?_append, ih, ht, String.intercalate_cons_cons]
      simp [fill?, fillAfter?, Piece.write?, String.append_assoc]

/-- An item for each argument. -/
theorem fill?_listed {item : Nat → Template} {write : Fragment → String} (separator : String)
    (h : ∀ i f, args[i]? = some f → fill? args (item i) = some (write f)) :
    fill? args (listed item separator args.length) = some (separator.intercalate (args.map write)) := by
  refine fill?_intercalate (List.forall₂_iff_get.2 ⟨by simp, fun i hi hi' => ?_⟩)
  simp at hi
  simpa using h i (args[i]) (by simp [hi])

theorem fill?_codes (separator : String) : fill? args (listed (fun i => [.code i]) separator args.length) =
    some (separator.intercalate (args.map (·.code))) :=
  fill?_listed separator fun i f h => by rw [fill?_single, Piece.write?, h, Option.map_some]

theorem fill?_operands (separator : String) : fill? args (listed (fun i => [.operand i]) separator args.length) =
    some (separator.intercalate (args.map (·.wrapped))) :=
  fill?_listed separator fun i f h => by rw [fill?_single, Piece.write?, h, Option.map_some]

theorem fill?_around (before after : String) :
    fill? args (around before after args.length) = some (before ++ Fragment.joined args ++ after) :=
  fill?_within _ (fill?_codes ", ")

/-- Choices are written pair by pair. -/
theorem fill?_branches {pair last : Nat → Template} {default : Template} {choose : List Fragment → String}
    (step : Fragment → Fragment → String) (hchoose : ∀ c x rest, choose (c :: x :: rest) = step c x ++ choose rest)
    (hpair : ∀ args i c x, args[i]? = some c → args[i + 1]? = some x → fill? args (pair i) = some (step c x))
    (hlast : ∀ args i x, args[i]? = some x → fill? args (last i) = some (choose [x]))
    (hnil : ∀ args, fill? args default = some (choose [])) : (before after : List Fragment) →
      fill? (before ++ after) (branches pair last default before.length after.length) = some (choose after)
  | _, [] => hnil _
  | _, [x] => hlast _ _ _ (by simp)
  | before, c :: x :: rest => by
    have ih := fill?_branches step hchoose hpair hlast hnil (before ++ [c, x]) rest
    rw [List.append_assoc, List.length_append] at ih
    have hstep := hpair (before ++ c :: x :: rest) before.length c x (by simp) (by simp)
    rw [hchoose, List.length_cons, List.length_cons, branches, fill?_append, hstep]
    simpa using ih

theorem fill?_pythonBranches (x : Fragment) (rest : List Fragment) :
    fill? (x :: rest) (pythonBranches 1 rest.length) = some (pythonChoices rest) := by
  refine fill?_branches (fun c x => x.code ++ " if _v == " ++ c.wrapped ++ " else ") ?_ ?_ ?_ ?_ [x] rest
  · exact fun _ _ _ => rfl
  · exact fun args i c x hc hx => by simp [fill?, fillAfter?, Piece.write?, hc, hx]
  · exact fun args i x hx => by simp [fill?, fillAfter?, Piece.write?, hx, pythonChoices]
  · exact fun _ => rfl

theorem fill?_javascriptBranches (x : Fragment) (rest : List Fragment) :
    fill? (x :: rest) (javascriptBranches 1 rest.length) = some (javascriptChoices rest) := by
  refine fill?_branches (fun c x => "_v === " ++ c.wrapped ++ " ? " ++ x.wrapped ++ " : ") ?_ ?_ ?_ ?_ [x] rest
  · exact fun _ _ _ => rfl
  · exact fun args i c x hc hx => by simp [fill?, fillAfter?, Piece.write?, hc, hx]
  · exact fun args i x hx => by simp [fill?, fillAfter?, Piece.write?, hx, javascriptChoices]
  · exact fun _ => rfl

theorem fill?_sqlBranches (x : Fragment) (rest : List Fragment) :
    fill? (x :: rest) (sqlBranches 1 rest.length) = some (ComputedFields.sqlBranches rest) := by
  refine fill?_branches (fun c x => " WHEN " ++ c.code ++ " THEN " ++ x.code) ?_ ?_ ?_ ?_ [x] rest
  · exact fun _ _ _ => rfl
  · exact fun args i c x hc hx => by simp [fill?, fillAfter?, Piece.write?, hc, hx]
  · exact fun args i x hx => by simp [fill?, fillAfter?, Piece.write?, hx, ComputedFields.sqlBranches]
  · exact fun _ => rfl

/-! ## Numbers of arguments -/

theorem length_of_exactly {n : Nat} (h : (Arity.exactly n).admits args.length = true) : args.length = n := by
  simp only [Arity.admits, Arity.exactly, Option.all_some, Bool.and_eq_true] at h
  exact Nat.le_antisymm (of_decide_eq_true h.2) (of_decide_eq_true h.1)

theorem length_of_between {n : Nat} (h : (Arity.between n (n + 1)).admits args.length = true) :
    args.length = n ∨ args.length = n + 1 := by
  simp only [Arity.admits, Arity.between, Option.all_some, Bool.and_eq_true] at h
  exact Nat.le_and_le_add_one_iff.1 ⟨of_decide_eq_true h.1, of_decide_eq_true h.2⟩

theorem one_or_two (h : (Arity.between 1 2).admits args.length = true) :
    (∃ x, args = [x]) ∨ ∃ x y, args = [x, y] :=
  (length_of_between h).imp List.length_eq_one_iff.1 List.length_eq_two.1

theorem two_or_three (h : (Arity.between 2 3).admits args.length = true) :
    (∃ x y, args = [x, y]) ∨ ∃ x y z, args = [x, y, z] :=
  (length_of_between h).imp List.length_eq_two.1 List.length_eq_three.1

theorem exists_of_atLeast {n : Nat} (h : (Arity.atLeast (n + 1)).admits args.length = true) :
    ∃ x rest, args = x :: rest := by
  cases args with
  | nil => simp [Arity.admits, Arity.atLeast] at h
  | cons x rest => exact ⟨x, rest, rfl⟩

theorem fill?_python {b : Builtin} (h : b.arity.admits args.length = true) :
    fill? args (python args.length b) = some (pythonCall b args) := by
  cases b
  case switch =>
    obtain ⟨x, rest, rfl⟩ := exists_of_atLeast h
    exact fill?_within _ (fill?_pythonBranches x rest)
  case blank =>
    obtain rfl := List.length_eq_zero_iff.1 (length_of_exactly h)
    rfl
  case trueValue | falseValue | now | today | recordId => rfl
  case len | lower | upper | trim | textOnly | value | abs | int | sqrt | exp =>
    obtain ⟨x, rfl⟩ := List.length_eq_one_iff.1 (length_of_exactly h)
    rfl
  case repeatText | mod | power =>
    obtain ⟨x, y, rfl⟩ := List.length_eq_two.1 (length_of_exactly h)
    rfl
  case mid =>
    obtain ⟨x, y, z, rfl⟩ := List.length_eq_three.1 (length_of_exactly h)
    rfl
  case left | ceiling | floor | log | arrayJoin =>
    obtain ⟨x, rfl⟩ | ⟨x, y, rfl⟩ := one_or_two h <;> rfl
  case ifThenElse | find =>
    obtain ⟨x, y, rfl⟩ | ⟨x, y, z, rfl⟩ := two_or_three h <;> rfl
  all_goals exact fill?_around _ _

theorem fill?_javascript {b : Builtin} (h : b.arity.admits args.length = true) :
    fill? args (javascript args.length b) = some (javascriptCall b args) := by
  cases b
  case switch =>
    obtain ⟨x, rest, rfl⟩ := exists_of_atLeast h
    exact fill?_within _ (fill?_javascriptBranches x rest)
  case countA | arrayCompact =>
    exact fill?_within _ (fill?_codes ", ")
  case blank =>
    obtain rfl := List.length_eq_zero_iff.1 (length_of_exactly h)
    rfl
  case trueValue | falseValue | now | today | recordId => rfl
  case len | lower | upper | trim | textOnly | value | abs | int | sqrt | exp =>
    obtain ⟨x, rfl⟩ := List.length_eq_one_iff.1 (length_of_exactly h)
    rfl
  case repeatText =>
    obtain ⟨x, y, rfl⟩ := List.length_eq_two.1 (length_of_exactly h)
    rfl
  case mid =>
    obtain ⟨x, y, z, rfl⟩ := List.length_eq_three.1 (length_of_exactly h)
    rfl
  case left | ceiling | floor | log | arrayJoin =>
    obtain ⟨x, rfl⟩ | ⟨x, y, rfl⟩ := one_or_two h <;> rfl
  case ifThenElse | find =>
    obtain ⟨x, y, rfl⟩ | ⟨x, y, z, rfl⟩ := two_or_three h <;> rfl
  all_goals exact fill?_around _ _

theorem fill?_sql {b : Builtin} {arity : Arity} (ha : b.sqlArity? = some arity) (h : arity.admits args.length = true)
    (hr : Target.refusal? .sql b args.length = none) : fill? args (sql args.length b) = some (sqlCall b args) := by
  cases b
  case xor | textOnly | value | roundUp | average | count | countA | countAll | arrayJoin | arrayUnique | arrayCompact |
      arrayFlatten => cases ha
  case trueValue | falseValue | now | today | recordId => rfl
  all_goals cases ha
  case switch =>
    obtain ⟨x, rest, rfl⟩ := exists_of_atLeast h
    have hbranches : fill? (x :: rest) (.code 0 :: sqlBranches 1 rest.length) =
        some (x.code ++ ComputedFields.sqlBranches rest) := by
      rw [fill?_cons, fill?_sqlBranches]
      rfl
    refine (fill?_within _ hbranches).trans ?_
    rw [← String.append_assoc]
    rfl
  case blank =>
    obtain rfl := List.length_eq_zero_iff.1 (length_of_exactly h)
    rfl
  case len | lower | upper | trim | abs | int | sqrt | exp =>
    obtain ⟨x, rfl⟩ := List.length_eq_one_iff.1 (length_of_exactly h)
    rfl
  case repeatText =>
    obtain ⟨x, y, rfl⟩ := List.length_eq_two.1 (length_of_exactly h)
    rfl
  case mid =>
    obtain ⟨x, y, z, rfl⟩ := List.length_eq_three.1 (length_of_exactly h)
    rfl
  case left | right | round | roundDown | ceiling | floor | log =>
    obtain ⟨x, rfl⟩ | ⟨x, y, rfl⟩ := one_or_two h <;> rfl
  case ifThenElse =>
    obtain ⟨x, y, rfl⟩ | ⟨x, y, z, rfl⟩ := two_or_three h <;> rfl
  case find | search =>
    obtain ⟨x, y, rfl⟩ | ⟨x, y, z, rfl⟩ := two_or_three h
    · rfl
    · cases hr
  case substitute =>
    obtain h | h := length_of_between h
    · obtain ⟨x, y, z, rfl⟩ := List.length_eq_three.1 h
      rfl
    · rw [h] at hr
      cases hr
  case replace =>
    obtain ⟨x, rest, rfl⟩ := List.exists_cons_of_length_eq_add_one (length_of_exactly h)
    obtain ⟨y, z, w, rfl⟩ := List.length_eq_three.1 (Nat.succ.inj (length_of_exactly h))
    rfl
  case and | or =>
    exact fill?_within _ (fill?_operands _)
  case sum =>
    exact fill?_within _ (fill?_listed _ fun i f h => by simp [fill?, fillAfter?, Piece.write?, h])
  all_goals exact fill?_around _ _

end Template

/-! ## Calls of a formula -/

open Template

namespace Target

/-- The template of a function for a number of arguments. -/
def template (n : Nat) : Target → Builtin → Template
  | python => Template.python n
  | javascript => Template.javascript n
  | sql => Template.sql n

/-- The code of a supported call is its template with the arguments filled in. -/
theorem fill?_template {t : Target} {name : String} {args : List Fragment} {b : Builtin}
    (h : t.supports name args.length = .ok b) : fill? args (t.template args.length b) = some (t.render b args) := by
  obtain ⟨arity, hs, hn, hr⟩ := supports_eq_ok_iff.1 h
  have ha := (signature?_eq_some_iff.1 hs).2
  cases t with
  | python =>
    cases ha
    exact fill?_python hn
  | javascript =>
    cases ha
    exact fill?_javascript hn
  | sql => exact fill?_sql ha hn hr

/-- Why a call is not accepted. -/
def callError? (t : Target) (name : String) (args : List Fragment) : Option GenerationError :=
  match t.call name args with
  | .ok _ => none
  | .error e => some e

theorem callError?_eq (t : Target) (name : String) (args : List Fragment) :
    t.callError? name args = t.refusalOf? (name, args.length) := by
  unfold callError? call refusalOf?
  cases t.supports name args.length <;> rfl

theorem callError?_eq_none_iff {t : Target} {name : String} {args : List Fragment} :
    t.callError? name args = none ↔ ∃ code, t.call name args = .ok code := by
  unfold callError?
  cases t.call name args <;> simp

/-- A call is accepted with some arguments exactly if it is with any others of that number. -/
theorem refusalOf?_eq_none_iff {t : Target} {name : String} {n : Nat} : t.refusalOf? (name, n) = none ↔
    ∀ args : List Fragment, args.length = n → ∃ code, t.call name args = .ok code := by
  constructor
  · rintro h args rfl
    rwa [← callError?_eq_none_iff, callError?_eq]
  · intro h
    have hlength : (List.replicate n (⟨"", .literal⟩ : Fragment)).length = n := List.length_replicate
    rw [← hlength, ← callError?_eq, callError?_eq_none_iff]
    exact h _ hlength

end Target

open ExpressionContext

/-- How a target maps calls. -/
structure MapsCalls (t : Target) : Prop where
  /-- The code of a call is a template with arguments in its places, and there is an argument in each of them. -/
  fills : ∀ name args code, t.call name args = .ok code → ∃ b arity,
    t.signature? name = some ⟨b, arity⟩ ∧ arity.admits args.length = true ∧
    (∀ i ∈ places (t.template args.length b), i < args.length) ∧ fill? args (t.template args.length b) = some code
  /-- Of the arguments, only their number decides whether a call is accepted, and why it is not. -/
  agrees : ∀ name args args', args.length = args'.length → t.callError? name args = t.callError? name args'
  /-- What is reported for a formula are the errors of its calls, one for each that is not accepted. -/
  warnings : ∀ access nullSafety f, (express ⟨t, access, nullSafety⟩ f).warnings =
    f.callNodes.filterMap fun c => t.callError? c.1 (emitAll ⟨t, access, nullSafety⟩ c.2).1
  /-- Nothing is reported exactly if each of the calls is accepted, whatever its arguments are. -/
  isClean_iff : ∀ access nullSafety f, (express ⟨t, access, nullSafety⟩ f).isClean = true ↔
    ∀ c ∈ f.callNodes, ∀ args, args.length = c.2.length → ∃ code, t.call c.1 args = .ok code

theorem mapsCalls (t : Target) : MapsCalls t where
  fills name args code h := by
    unfold Target.call at h
    cases hs : t.supports name args.length with
    | error e =>
      rw [hs] at h
      cases h
    | ok b =>
      rw [hs] at h
      cases h
      have hfill := Target.fill?_template hs
      obtain ⟨arity, hsignature, hn, -⟩ := Target.supports_eq_ok_iff.1 hs
      exact ⟨b, arity, hsignature, hn, isSome_fill?_iff.1 (Option.isSome_of_eq_some hfill), hfill⟩
  agrees name args args' h := by rw [Target.callError?_eq, Target.callError?_eq, h]
  warnings access nullSafety f := by
    rw [warnings_express, Formula.applications_eq, List.filterMap_map]
    refine congrArg (f.callNodes.filterMap ·) (funext fun c => ?_)
    rw [Target.callError?_eq, length_emitAll]
    rfl
  isClean_iff access nullSafety f := by
    rw [isClean_express_iff, Formula.applications_eq, List.forall_mem_map]
    exact forall₂_congr fun c _ => Target.refusalOf?_eq_none_iff

end ComputedFields
