/-!
# Numbers of arguments

How many arguments a function takes, and the message for a call that has another number of them.
-/

namespace ComputedFields

/-- At least `least` arguments, and at most `most` if there is a bound. -/
structure Arity where
  least : Nat
  most : Option Nat
deriving DecidableEq, Repr

namespace Arity

def exactly (n : Nat) : Arity := ⟨n, some n⟩

def between (least most : Nat) : Arity := ⟨least, some most⟩

def atLeast (n : Nat) : Arity := ⟨n, none⟩

def any : Arity := ⟨0, none⟩

def admits (a : Arity) (n : Nat) : Bool := a.least ≤ n && a.most.all (n ≤ ·)

/-- The arity in words. -/
def description (a : Arity) : String :=
  match a.most with
  | some most => if most = a.least then toString a.least else toString a.least ++ " to " ++ toString most
  | none => "at least " ++ toString a.least

/-- The message for a call with `found` arguments. -/
def mismatch (a : Arity) (function : String) (found : Nat) : String :=
  function ++ " expects " ++ a.description ++ " arguments, got " ++ toString found

end Arity

end ComputedFields
