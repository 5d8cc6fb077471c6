import ComputedFields.Proofs.TextCalls

/-!
# Switches and conditions

A switch compares its subject with one candidate after the other. Conditions one inside the other do the same.

- `switchCall`, `nestedIf`: a switch, and the conditions that stand for it;
- `evaluate_switchCall`, `evaluate_nestedIf`: both come to a choice among the candidates by the value of the subject;
- `DecidesInOrder`: candidates are compared in their order, and the first one that equals the subject or has no value
  decides. The results of the cases before it, and all that comes after it, play no part;
- `evaluate_switch_eq_nestedIf`: so a switch is a chain of conditions.
-/

namespace ComputedFields

/-- A candidate of a switch, and the result if the subject equals it. -/
structure SwitchCase where
  candidate : Formula
  result : Formula

/-- The arguments of a switch after its subject: candidates and results in turn, and a default if there is one. -/
def caseArguments (cases : List SwitchCase) (default : Option Formula) : List Formula :=
  cases.flatMap (fun c => [c.candidate, c.result]) ++ default.toList

def switchCall (subject : Formula) (cases : List SwitchCase) (default : Option Formula) : Formula :=
  .call "SWITCH" (subject :: caseArguments cases default)

/-- Whether the subject equals the candidate of a case. -/
def equalsCandidate (subject : Formula) (c : SwitchCase) : Formula := .binary .equal subject c.candidate

/-- Conditions one inside the other, each for one case. The innermost one has the default, if there is one. -/
def nestedIf (subject : Formula) (default : Option Formula) : SwitchCase → List SwitchCase → Formula
  | c, [] => .call "IF" ([equalsCandidate subject c, c.result] ++ default.toList)
  | c, next :: rest => .call "IF" [equalsCandidate subject c, c.result, nestedIf subject default next rest]

/-- The value of a formula that may be left off. -/
def evaluateOrBlank (record : Record) : Option Formula → Outcome
  | some f => evaluate record f
  | none => .ok .blank

section

variable {record : Record} {subject : Formula} {default : Option Formula}

/-! ## Values -/

theorem evaluate_if (record : Record) (condition result : Formula) (otherwise : Option Formula) :
    evaluate record (.call "IF" ([condition, result] ++ otherwise.toList)) = (do
      let v ← evaluate record condition
      if v.isTruthy then evaluate record result else evaluateOrBlank record otherwise) := by
  rw [evaluate_call (b := .ifThenElse) rfl]
  cases otherwise <;> rfl

theorem evaluate_equalsCandidate (record : Record) (subject : Formula) (c : SwitchCase) :
    evaluate record (equalsCandidate subject c) = (do
      let v ← evaluate record subject
      let w ← evaluate record c.candidate
      return .boolean (v.compare? w == some .eq)) := by
  rw [equalsCandidate, evaluate]
  rfl

/-- A condition for a case, once the value of the subject is known. -/
theorem evaluate_if_equalsCandidate {v : Value} (h : evaluate record subject = .ok v) (c : SwitchCase)
    (otherwise : Option Formula) :
    evaluate record (.call "IF" ([equalsCandidate subject c, c.result] ++ otherwise.toList)) = (do
      if v.compare? (← evaluate record c.candidate) == some .eq then evaluate record c.result
      else evaluateOrBlank record otherwise) := by
  rw [evaluate_if, evaluate_equalsCandidate, h]
  cases evaluate record c.candidate <;> rfl

theorem evaluate_switchCall (record : Record) (subject : Formula) (default : Option Formula) (c : SwitchCase)
    (others : List SwitchCase) :
    evaluate record (switchCall subject (c :: others) default) = (do
      switchOn (← evaluate record subject) (evaluateAll record (caseArguments (c :: others) default))) := by
  rw [switchCall, evaluate_call (b := .switch) rfl]
  have hcount : checkCount "SWITCH" (.atLeast 3)
      (evaluateAll record (subject :: caseArguments (c :: others) default)) = .ok () := by
    apply checkCount_of_admits
    simp [caseArguments, evaluateAll, Arity.admits, Arity.atLeast]
  rw [Builtin.apply, hcount]
  rfl

theorem evaluate_nestedIf_of_ok {v : Value} (h : evaluate record subject = .ok v) (c : SwitchCase)
    (others : List SwitchCase) :
    evaluate record (nestedIf subject default c others) =
      switchOn v (evaluateAll record (caseArguments (c :: others) default)) := by
  induction others generalizing c with
  | nil =>
    rw [nestedIf, evaluate_if_equalsCandidate h]
    cases default <;> rfl
  | cons next rest ih =>
    have hif := evaluate_if_equalsCandidate h c (some (nestedIf subject default next rest))
    rw [evaluateOrBlank, ih next] at hif
    exact hif

/-- Without a value of the subject the first condition has none. -/
theorem evaluate_nestedIf_of_error {e : Failure} (h : evaluate record subject = .error e) (c : SwitchCase)
    (others : List SwitchCase) : evaluate record (nestedIf subject default c others) = .error e := by
  have hif (otherwise : Option Formula) :
      evaluate record (.call "IF" ([equalsCandidate subject c, c.result] ++ otherwise.toList)) = .error e := by
    rw [evaluate_if, evaluate_equalsCandidate, h]
    rfl
  cases others with
  | nil => exact hif default
  | cons next rest => exact hif (some (nestedIf subject default next rest))

theorem evaluate_nestedIf (record : Record) (subject : Formula) (default : Option Formula) (c : SwitchCase)
    (others : List SwitchCase) :
    evaluate record (nestedIf subject default c others) = (do
      switchOn (← evaluate record subject) (evaluateAll record (caseArguments (c :: others) default))) := by
  cases h : evaluate record subject with
  | ok v => exact evaluate_nestedIf_of_ok h c others
  | error e => exact evaluate_nestedIf_of_error h c others

/-! ## Order -/

/-- A case that decides a switch: its candidate equals the subject, or there is no value to compare. -/
inductive SwitchCase.Decides (record : Record) (subject : Formula) (c : SwitchCase) : Outcome → Prop
  | chosen : evaluate record (equalsCandidate subject c) = .ok (.boolean true) →
      Decides record subject c (evaluate record c.result)
  | failed {e : Failure} : evaluate record (equalsCandidate subject c) = .error e →
      Decides record subject c (.error e)

/-- The first case that does not differ from the subject decides. Of the cases before it only the candidates count, and
nothing after it does. -/
structure DecidesInOrder (record : Record) (subject : Formula) (cases : List SwitchCase) (default : Option Formula)
    (outcome : Outcome) : Prop where
  decided : ∀ before c after o, cases = before ++ c :: after →
    (∀ b ∈ before, evaluate record (equalsCandidate subject b) = .ok (.boolean false)) →
    c.Decides record subject o → outcome = o
  exhausted : (∀ c ∈ cases, evaluate record (equalsCandidate subject c) = .ok (.boolean false)) →
    outcome = evaluateOrBlank record default

theorem decidesInOrder_nil : DecidesInOrder record subject [] default (evaluateOrBlank record default) where
  decided before c after o h := by cases before <;> cases h
  exhausted _ := rfl

/-- One more case in front: it decides, or it is passed over. -/
theorem DecidesInOrder.cons {cases : List SwitchCase} {outcome : Outcome}
    (h : DecidesInOrder record subject cases default outcome) (c : SwitchCase) :
    DecidesInOrder record subject (c :: cases) default (do
      let v ← evaluate record (equalsCandidate subject c)
      if v.isTruthy then evaluate record c.result else outcome) where
  decided before b after o hcases hbefore hb := by
    cases before with
    | nil =>
      cases hcases
      cases hb with
      | chosen hb => rw [hb]; rfl
      | failed hb => rw [hb]; rfl
    | cons d before =>
      cases hcases
      obtain ⟨hc, hbefore⟩ := List.forall_mem_cons.1 hbefore
      rw [hc]
      exact h.decided before b after o rfl hbefore hb
  exhausted hcases := by
    obtain ⟨hc, hcases⟩ := List.forall_mem_cons.1 hcases
    rw [hc]
    exact h.exhausted hcases

theorem decidesInOrder_nestedIf (c : SwitchCase) (others : List SwitchCase) :
    DecidesInOrder record subject (c :: others) default (evaluate record (nestedIf subject default c others)) := by
  induction others generalizing c with
  | nil =>
    rw [nestedIf, evaluate_if]
    exact decidesInOrder_nil.cons c
  | cons next rest ih =>
    have hif := evaluate_if record (equalsCandidate subject c) c.result (some (nestedIf subject default next rest))
    rw [nestedIf]
    exact hif ▸ (ih next).cons c

/-- A switch is a chain of conditions: it has the value of the conditions one inside the other, and their error. Cases
are tried in order, and one that is not reached or not chosen does not matter. -/
theorem evaluate_switch_eq_nestedIf (record : Record) (subject : Formula) (c : SwitchCase) (others : List SwitchCase)
    (default : Option Formula) :
    evaluate record (switchCall subject (c :: others) default) =
        evaluate record (nestedIf subject default c others) ∧
      DecidesInOrder record subject (c :: others) default
        (evaluate record (switchCall subject (c :: others) default)) := by
  have h : evaluate record (switchCall subject (c :: others) default) =
      evaluate record (nestedIf subject default c others) := by
    rw [evaluate_switchCall, evaluate_nestedIf]
  exact ⟨h, h ▸ decidesInOrder_nestedIf c others⟩

end

end ComputedFields
