import ComputedFields.Json.Numeral
import ComputedFields.Json.Quoted

/-!
# JSON texts

- `read`: the draft at the beginning of a text, and what follows it.

Blanks are space, tab, line feed and carriage return. Everything reads on as long as it can, and what cannot be read
is a break.
-/

namespace ComputedFields.Json

def isBlank (c : Char) : Bool := c == ' ' || c == '\n' || c == '\t' || c == '\r'

def skipBlanks (cs : List Char) : List Char := cs.dropWhile isBlank

theorem length_skipBlanks_le (cs : List Char) : (skipBlanks cs).length ≤ cs.length :=
  (List.dropWhile_suffix isBlank).length_le

/-! ## Words and numbers -/

/-- The fault of a word that should stand here; none if it does. -/
def wordFault? : List Char → List Char → Option Fault
  | [], _ => none
  | _, [] => some .truncated
  | w :: ws, c :: cs => if w = c then wordFault? ws cs else some .malformed

/-- A word that stands for a value, and its length. -/
def readWord (w : String) (value : Draft) (cs : List Char) : Draft × Nat :=
  match wordFault? w.toList cs with
  | none => (value, w.length)
  | some f => (.broken (.inScalar f f), 0)

/-- A number, and its length. One that is out of range can be passed over but not read. -/
def readNumber (cs : List Char) : Draft × Nat :=
  match numeral cs with
  | .error b => (.broken b, 0)
  | .ok n => (.number (if n.isOutOfRange then some .malformed else none), n.text.length)

/-- A string after its opening quote, and its length. -/
def readString (cs : List Char) : Draft × Nat :=
  let q := quoted cs
  match q.length with
  | .ok n => (.string (q.content.map String.ofList), n)
  | .error f => (.broken ⟨q.readFault f, f, q.readFault f⟩, 0)

/-- A value that is no array, object or string, and its length. -/
def readScalar (cs : List Char) : Draft × Nat :=
  match cs with
  | 'n' :: _ => readWord "null" .null cs
  | 't' :: _ => readWord "true" (.bool true) cs
  | 'f' :: _ => readWord "false" (.bool false) cs
  | c :: _ => if c = '-' ∨ c.isDigit then readNumber cs else (.broken (.all .malformed), 0)
  | [] => (.broken (.all .truncated), 0)

/-! ## Values -/

/-- What is left of a text. -/
abbrev Rest (cs : List Char) := { r : List Char // r.length ≤ cs.length }

/-- The break after a comma at the end of a text. -/
def Break.afterComma : Break := ⟨.truncated, .truncated, .malformed⟩

theorem length_drop_le (n : Nat) (cs : List Char) : (cs.drop n).length ≤ cs.length := by
  rw [List.length_drop]
  exact Nat.sub_le _ _

theorem length_lt_of_skipBlanks {cs r : List Char} {c : Char} (h : skipBlanks cs = c :: r) : r.length < cs.length := by
  have := length_skipBlanks_le cs
  rw [h] at this
  exact this

mutual

/-- The value at the beginning of a text. -/
def read (cs : List Char) : Draft × Rest cs :=
  match h : skipBlanks cs with
  | [] => (.broken (.all .truncated), ⟨[], Nat.zero_le _⟩)
  | c :: r =>
    have shorter := length_lt_of_skipBlanks h
    if c = '[' then
      let (items, ending, rest) := readItems r
      (.array items ending, ⟨rest.1, by omega⟩)
    else if c = '\x7b' then
      let (members, ending, rest) := readMembers r
      (.object members ending, ⟨rest.1, by omega⟩)
    else if c = '"' then
      let (d, n) := readString r
      (d, ⟨r.drop n, Nat.le_trans (length_drop_le n r) (Nat.le_of_lt shorter)⟩)
    else
      let (d, n) := readScalar (c :: r)
      (d, ⟨(c :: r).drop n, Nat.le_trans (length_drop_le n (c :: r)) shorter⟩)
termination_by (cs.length, 0)
decreasing_by all_goals exact Prod.Lex.left _ _ shorter

/-- The items after an opening bracket. -/
def readItems (cs : List Char) : List Draft × Option Break × Rest cs :=
  match h : skipBlanks cs with
  | [] => ([], some (.all .truncated), ⟨[], Nat.zero_le _⟩)
  | c :: r =>
    have shorter := length_lt_of_skipBlanks h
    if c = ']' then ([], none, ⟨r, by omega⟩)
    else
      let (d, r₁) := read cs
      let (ds, ending, r₂) := readMoreItems r₁.1
      (d :: ds, ending, ⟨r₂.1, by omega⟩)
termination_by (cs.length, 2)
decreasing_by
  · exact Prod.Lex.right _ (by omega)
  · rcases Nat.lt_or_eq_of_le r₁.2 with less | same
    · exact Prod.Lex.left _ _ less
    · rw [same]; exact Prod.Lex.right _ (by omega)

/-- The items after an item. -/
def readMoreItems (cs : List Char) : List Draft × Option Break × Rest cs :=
  match h : skipBlanks cs with
  | [] => ([], some (.all .truncated), ⟨[], Nat.zero_le _⟩)
  | c :: r =>
    have shorter := length_lt_of_skipBlanks h
    if c = ']' then ([], none, ⟨r, by omega⟩)
    else if c = ',' then
      match skipBlanks r with
      | [] => ([], some .afterComma, ⟨[], Nat.zero_le _⟩)
      | ']' :: _ => ([], some (.all .malformed), ⟨[], Nat.zero_le _⟩)
      | _ =>
        let (d, r₁) := read r
        let (ds, ending, r₂) := readMoreItems r₁.1
        (d :: ds, ending, ⟨r₂.1, by omega⟩)
    else ([], some (.all .malformed), ⟨[], Nat.zero_le _⟩)
termination_by (cs.length, 1)
decreasing_by
  · exact Prod.Lex.left _ _ shorter
  · exact Prod.Lex.left _ _ (by omega)

/-- The members after an opening brace. -/
def readMembers (cs : List Char) : List (Except Fault String × Draft) × Option Break × Rest cs :=
  match h : skipBlanks cs with
  | [] => ([], some (.all .truncated), ⟨[], Nat.zero_le _⟩)
  | c :: r =>
    have shorter := length_lt_of_skipBlanks h
    if c = '\x7d' then ([], none, ⟨r, by omega⟩)
    else if c = '"' then
      let (ms, ending, rest) := readMember r
      (ms, ending, ⟨rest.1, by omega⟩)
    else ([], some (.all .malformed), ⟨[], Nat.zero_le _⟩)
termination_by (cs.length, 4)
decreasing_by exact Prod.Lex.left _ _ shorter

/-- The members from the one whose key has just been opened. -/
def readMember (cs : List Char) : List (Except Fault String × Draft) × Option Break × Rest cs :=
  let q := quoted cs
  match q.length with
  | .error f => ([], some ⟨q.readFault f, f, q.readFault f⟩, ⟨[], Nat.zero_le _⟩)
  | .ok n =>
    let (ms, ending, rest) := readMemberValue (q.content.map String.ofList) (cs.drop n)
    (ms, ending, ⟨rest.1, Nat.le_trans rest.2 (length_drop_le n cs)⟩)
termination_by (cs.length, 3)
decreasing_by
  rcases Nat.lt_or_eq_of_le (length_drop_le n cs) with less | same
  · exact Prod.Lex.left _ _ less
  · rw [same]; exact Prod.Lex.right _ (by omega)

/-- The members from the one whose key has just been closed. -/
def readMemberValue (key : Except Fault String) (cs : List Char) :
    List (Except Fault String × Draft) × Option Break × Rest cs :=
  match h : skipBlanks cs with
  | [] => ([(key, .broken (.all .truncated))], none, ⟨[], Nat.zero_le _⟩)
  | c :: r =>
    have shorter := length_lt_of_skipBlanks h
    if c = ':' then
      let (d, r₁) := read r
      let (ms, ending, r₂) := readMoreMembers r₁.1
      ((key, d) :: ms, ending, ⟨r₂.1, by omega⟩)
    else ([(key, .broken (.all .malformed))], none, ⟨[], Nat.zero_le _⟩)
termination_by (cs.length, 2)
decreasing_by
  · exact Prod.Lex.left _ _ shorter
  · exact Prod.Lex.left _ _ (by omega)

/-- The members after a member. -/
def readMoreMembers (cs : List Char) : List (Except Fault String × Draft) × Option Break × Rest cs :=
  match h : skipBlanks cs with
  | [] => ([], some (.all .truncated), ⟨[], Nat.zero_le _⟩)
  | c :: r =>
    have shorter := length_lt_of_skipBlanks h
    if c = '\x7d' then ([], none, ⟨r, by omega⟩)
    else if c = ',' then
      match h' : skipBlanks r with
      | [] => ([], some .afterComma, ⟨[], Nat.zero_le _⟩)
      | c' :: r' =>
        have shorterStill := length_lt_of_skipBlanks h'
        if c' = '"' then
          let (ms, ending, rest) := readMember r'
          (ms, ending, ⟨rest.1, by omega⟩)
        else ([], some (.all .malformed), ⟨[], Nat.zero_le _⟩)
    else ([], some (.all .malformed), ⟨[], Nat.zero_le _⟩)
termination_by (cs.length, 1)
decreasing_by exact Prod.Lex.left _ _ (by omega)

end

end ComputedFields.Json
