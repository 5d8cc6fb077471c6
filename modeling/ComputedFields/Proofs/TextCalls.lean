import ComputedFields.Formula.Evaluation

/-!
# Calls of text functions

What a text function computes, once its arguments have been asked for.

- `evaluate_call`: a call applies the function of its name to the arguments;
- `SearchArguments`, `SubstituteArguments`, `ReplaceArguments`: arguments that give a function what it asks for;
- `evaluate_call_find`, `evaluate_call_search`, `evaluate_call_substitute`, `evaluate_call_replace`: the value of such
  a call.
-/

namespace ComputedFields

open Decimal

variable {record : Record} {args : List Formula} {pending : List Pending}

theorem evaluate_call {name : String} {b : Builtin} (h : Builtin.evaluated? name = some b) (record : Record)
    (args : List Formula) : evaluate record (.call name args) = b.apply name (evaluateAll record args) := by
  rw [evaluate, applyNamed, h]

theorem checkCount_of_admits {name : String} {arity : Arity} (h : arity.admits pending.length = true) :
    checkCount name arity pending = .ok () :=
  if_pos h

theorem admits_of_checkCount {name : String} {arity : Arity} {u : Unit} (h : checkCount name arity pending = .ok u) :
    arity.admits pending.length = true := by
  unfold checkCount at h
  split at h
  · assumption
  · cases h

/-! ## Searching -/

/-- What to look for, where, and from which place on. A start that is left off is one. -/
structure SearchArguments (pending : List Pending) (needle haystack : List Char) (start : Float) : Prop where
  admits : (Arity.between 2 3).admits pending.length = true
  needle_eq : textAt pending 0 = .ok needle
  haystack_eq : textAt pending 1 = .ok haystack
  start_eq : numberAtOr 1 pending 2 = .ok start

theorem searchArguments_literals (record : Record) (needle haystack : String) (start : Float) :
    SearchArguments (evaluateAll record [.literal (.text needle), .literal (.text haystack),
      .literal (.number start)]) needle.toList haystack.toList start where
  admits := rfl
  needle_eq := rfl
  haystack_eq := rfl
  start_eq := rfl

/-- The place that a search up to case reports; zero if it reports none. -/
def foldedPosition (needle haystack : List Char) (start : Nat) : Nat :=
  findPosition (Text.lowerChars needle) (Text.lowerChars haystack) start

section Search

variable {needle haystack : List Char} {start : Float}

theorem evaluate_call_find (h : SearchArguments (evaluateAll record args) needle haystack start) :
    evaluate record (.call "FIND" args) = .ok (countValue (findPosition needle haystack (toCount 1 start))) := by
  rw [evaluate_call (b := .find) rfl, Builtin.apply, checkCount_of_admits h.admits, h.needle_eq, h.haystack_eq,
    h.start_eq]
  rfl

theorem evaluate_call_search (h : SearchArguments (evaluateAll record args) needle haystack start) :
    evaluate record (.call "SEARCH" args) = .ok (if foldedPosition needle haystack (toCount 1 start) = 0 then .blank
      else countValue (foldedPosition needle haystack (toCount 1 start))) := by
  rw [evaluate_call (b := .search) rfl, Builtin.apply, checkCount_of_admits h.admits, h.needle_eq, h.haystack_eq,
    h.start_eq, foldedPosition]
  simp only [bind, Except.bind]
  cases findPosition (Text.lowerChars needle) (Text.lowerChars haystack) (toCount 1 start) <;> rfl

end Search

/-! ## Replacing -/

/-- What to replace in which text, and which of its occurrences. All of them are meant if the last argument is left
off. -/
structure SubstituteArguments (pending : List Pending) (text old new : List Char) (index : Option Nat) : Prop where
  text_eq : textAt pending 0 = .ok text
  old_eq : textAt pending 1 = .ok old
  new_eq : textAt pending 2 = .ok new
  index_eq : pending.length = 3 ∧ index = none ∨
    pending.length = 4 ∧ ∃ x, numberAt pending 3 = .ok x ∧ index = some (toCount 0 x)

theorem substituteArguments_literals (record : Record) (text old new : String) (x : Float) :
    SubstituteArguments (evaluateAll record [.literal (.text text), .literal (.text old), .literal (.text new),
      .literal (.number x)]) text.toList old.toList new.toList (some (toCount 0 x)) where
  text_eq := rfl
  old_eq := rfl
  new_eq := rfl
  index_eq := .inr ⟨rfl, x, rfl, rfl⟩

/-- A text with all occurrences or one occurrence of `old` replaced. -/
def substituted (text old new : List Char) : Option Nat → List Char
  | none => Text.replaceAll text old new
  | some n => Text.replaceNth text old new n

theorem evaluate_call_substitute {text old new : List Char} {index : Option Nat}
    (h : SubstituteArguments (evaluateAll record args) text old new index) :
    evaluate record (.call "SUBSTITUTE" args) = .ok (.text (String.ofList (substituted text old new index))) := by
  rw [evaluate_call (b := .substitute) rfl, Builtin.apply, h.text_eq, h.old_eq, h.new_eq]
  obtain ⟨hlength, rfl⟩ | ⟨hlength, x, hx, rfl⟩ := h.index_eq
  · rw [checkCount_of_admits (by rw [hlength]; rfl), hlength]
    rfl
  · rw [checkCount_of_admits (by rw [hlength]; rfl), hlength, hx]
    rfl

/-- A text, where its hole begins and how many characters it has, and what to fill it with. -/
structure ReplaceArguments (pending : List Pending) (text : List Char) (start count : Float) (new : List Char) :
    Prop where
  admits : (Arity.exactly 4).admits pending.length = true
  text_eq : textAt pending 0 = .ok text
  start_eq : numberAt pending 1 = .ok start
  count_eq : numberAt pending 2 = .ok count
  new_eq : textAt pending 3 = .ok new

theorem replaceArguments_literals (record : Record) (text : String) (start count : Float) (new : String) :
    ReplaceArguments (evaluateAll record [.literal (.text text), .literal (.number start), .literal (.number count),
      .literal (.text new)]) text.toList start count new.toList where
  admits := rfl
  text_eq := rfl
  start_eq := rfl
  count_eq := rfl
  new_eq := rfl

theorem holeEnd_of_lt {cs : List Char} {first count : Nat} (h : first + count < UInt64.size) :
    holeEnd cs first count = .ok (min (first + count) cs.length) :=
  if_pos h

theorem holeEnd_of_le {cs : List Char} {first count : Nat} (h : UInt64.size ≤ first + count) :
    holeEnd cs first count = .error (.panic .placeOverflow) :=
  if_neg (Nat.not_lt.2 h)

section Replace

variable {text new : List Char} {start count : Float}

theorem evaluate_call_replace (h : ReplaceArguments (evaluateAll record args) text start count new) :
    evaluate record (.call "REPLACE" args) = (do
      let last ← holeEnd text (holeStart text (toCount 1 start)) (toCount 0 count)
      return .text (String.ofList (fillHole text (holeStart text (toCount 1 start)) last new))) := by
  rw [evaluate_call (b := .replace) rfl, Builtin.apply, checkCount_of_admits h.admits, h.text_eq, h.start_eq,
    h.count_eq, h.new_eq]
  rfl

end Replace

end ComputedFields
