import ComputedFields.Proofs.ParserSteps

/-!
# How the functions of the parser fail

A function of the parser fails because a function that it calls fails, after what it has read so far, or because of the
token that comes next. For every function one lemma lists these cases (`fails_parseLevel_succ`,
`fails_parseOperators_cons`, `fails_parseUnary_cons`, `fails_parsePrimary`, `fails_parseNot`, `fails_parseArguments`,
`fails_parseArgumentList`). They forget which tokens are expected and keep where the fault stands.
-/

namespace ComputedFields

section Faults

variable {l : Nat} {t : Token} {ts us : List Token} {left : Formula} {e : ParseFault}

theorem fails_skipEmptyBrackets (h : skipEmptyBrackets ts = .error e) :
    ∃ t us, ts = t :: us ∧ t.kind = .leftParen ∧ e = .unmet .rightParen us := by
  cases ts with
  | nil => cases h
  | cons t us =>
    cases hk : t.kind with
    | leftParen =>
      refine ⟨t, us, rfl, hk, ?_⟩
      cases us with
      | nil => simpa [skipEmptyBrackets, hk] using h.symm
      | cons u us =>
        cases hu : u.kind with
        | rightParen => simp [skipEmptyBrackets, hk, hu] at h
        | _ => simpa [skipEmptyBrackets, hk, hu] using h.symm
    | _ => simp [skipEmptyBrackets, hk] at h

/-! ## Levels -/

theorem fails_parseLevel_succ (h : parseLevel (l + 1) ts = .error e) : parseLevel l ts = .error e ∨
    ∃ left mid, Reads (parseLevel l ts) left mid ∧ parseOperators l left mid = .error e := by
  rw [parseLevel] at h
  split at h
  · next he =>
    cases h
    exact .inl he
  · next left mid hb he =>
    split at h
    · next ho =>
      cases h
      exact .inr ⟨left, mid, ⟨hb, he⟩, ho⟩
    · cases h

theorem fails_parseOperators_nil : parseOperators l left [] ≠ .error e := by
  rw [parseOperators]
  simp

theorem fails_parseOperators_cons (h : parseOperators l left (t :: us) = .error e) :
    ∃ op, BinaryOp.ofToken? (l + 1) t.kind = some op ∧ (parseLevel l us = .error e ∨
      ∃ right mid, Reads (parseLevel l us) right mid ∧ parseOperators l (.binary op left right) mid = .error e) := by
  rw [parseOperators] at h
  split at h
  · cases h
  · next op ho =>
    refine ⟨op, ho, ?_⟩
    split at h
    · next hr =>
      cases h
      exact .inl hr
    · next right mid hb hr =>
      split at h
      · next hm =>
        cases h
        exact .inr ⟨right, mid, ⟨hb, hr⟩, hm⟩
      · cases h

/-! ## Operands -/

theorem fails_parseUnary_nil (h : parseUnary [] = .error e) : e = .unmet .expression [] := by
  rw [parseUnary] at h
  cases h
  rfl

theorem fails_parseUnary_cons (h : parseUnary (t :: us) = .error e) :
    (t.kind = .minus ∧ parseUnary us = .error e) ∨ (t.kind = .plus ∧ parseUnary us = .error e) ∨
      parsePrimary t us = .error e := by
  rw [parseUnary] at h
  split at h
  · next hk =>
    split at h
    · next hu =>
      cases h
      exact .inl ⟨hk, hu⟩
    · cases h
  · next hk =>
    split at h
    · next hu =>
      cases h
      exact .inr (.inl ⟨hk, hu⟩)
    · cases h
  · exact .inr (.inr h)

/-- What comes after the opening bracket of a call fails. -/
theorem fails_call {name : String} {u : Token} (hk : t.kind = .identifier name) (hu : u.kind = .leftParen)
    (h : parsePrimary t (u :: us) = .error e) :
    (Text.eqIgnoringAsciiCase name "NOT" = true ∧ parseNot t us = .error e) ∨
      (Text.eqIgnoringAsciiCase name "NOT" = false ∧ parseArguments us = .error e) := by
  rw [parsePrimary] at h
  simp only [hk, hu] at h
  split at h
  · next hn =>
    split at h
    · next hnot =>
      cases h
      exact .inl ⟨hn, hnot⟩
    · cases h
  · next hn =>
    split at h
    · next hargs =>
      cases h
      exact .inr ⟨by simpa using hn, hargs⟩
    · cases h

/-- Why an operand fails, by its first token. -/
theorem fails_parsePrimary (h : parsePrimary t ts = .error e) :
    (∃ b, t.kind = .boolean b ∧ skipEmptyBrackets ts = .error e) ∨
      (t.kind = .leftParen ∧ (parseLevel loosest ts = .error e ∨
        ∃ f rest, Reads (parseLevel loosest ts) f rest ∧ e = .unmet .rightParen rest)) ∨
      (∃ name, t.kind = .identifier name ∧ (e = .unmet .arguments ts ∨ ∃ u us, ts = u :: us ∧ u.kind = .leftParen ∧
        ((Text.eqIgnoringAsciiCase name "NOT" = true ∧ parseNot t us = .error e) ∨
          (Text.eqIgnoringAsciiCase name "NOT" = false ∧ parseArguments us = .error e)))) ∨
      e = .unmet .expression (t :: ts) := by
  cases hk : t.kind with
  | boolean b =>
    rw [parsePrimary] at h
    simp only [hk] at h
    split at h
    · next hs =>
      cases h
      exact .inl ⟨b, rfl, hs⟩
    · cases h
  | leftParen =>
    rw [parsePrimary] at h
    simp only [hk] at h
    refine .inr (.inl ⟨rfl, ?_⟩)
    split at h
    · next hl =>
      cases h
      exact .inl hl
    · next f hb hl =>
      cases h
      exact .inr ⟨f, [], ⟨hb, hl⟩, rfl⟩
    · next f u us hb hl =>
      split at h
      · cases h
      · cases h
        exact .inr ⟨f, u :: us, ⟨hb, hl⟩, rfl⟩
  | identifier name =>
    refine .inr (.inr (.inl ⟨name, rfl, ?_⟩))
    cases ts with
    | nil =>
      rw [parsePrimary] at h
      simp only [hk] at h
      cases h
      exact .inl rfl
    | cons u us =>
      cases hu : u.kind with
      | leftParen => exact .inr ⟨u, us, rfl, hu, fails_call hk hu h⟩
      | _ =>
        rw [parsePrimary] at h
        simp only [hk, hu] at h
        cases h
        exact .inl rfl
  | _ =>
    rw [parsePrimary] at h
    simp only [hk] at h
    cases h <;> exact .inr (.inr (.inr rfl))

/-! ## Arguments -/

theorem fails_parseNot (h : parseNot t ts = .error e) : e = .emptyNot t ∨ parseLevel loosest ts = .error e ∨
    ∃ f rest expected, Reads (parseLevel loosest ts) f rest ∧ e = .unmet expected rest := by
  rw [parseNot] at h
  split at h
  · cases h
    exact .inl rfl
  · split at h
    · next hl =>
      cases h
      exact .inr (.inl hl)
    · next f hb hl =>
      cases h
      exact .inr (.inr ⟨f, [], _, ⟨hb, hl⟩, rfl⟩)
    · next f v vs hb hl =>
      refine .inr (.inr ⟨f, v :: vs, ?_⟩)
      split at h
      · cases h
      · cases h
        exact ⟨_, ⟨hb, hl⟩, rfl⟩
      · cases h
        exact ⟨_, ⟨hb, hl⟩, rfl⟩

theorem fails_parseArgumentList (h : parseArgumentList ts = .error e) : parseLevel loosest ts = .error e ∨
    ∃ f rest, Reads (parseLevel loosest ts) f rest ∧ (e = .unmet .rightParen rest ∨
      ∃ u us, rest = u :: us ∧ u.kind = .comma ∧ parseArgumentList us = .error e) := by
  rw [parseArgumentList] at h
  split at h
  · next hl =>
    cases h
    exact .inl hl
  · next f hb hl =>
    cases h
    exact .inr ⟨f, [], ⟨hb, hl⟩, .inl rfl⟩
  · next f v vs hb hl =>
    refine .inr ⟨f, v :: vs, ⟨hb, hl⟩, ?_⟩
    split at h
    · cases h
    · next hv =>
      split at h
      · next ha =>
        cases h
        exact .inr ⟨v, vs, rfl, hv, ha⟩
      · cases h
    · cases h
      exact .inl rfl

theorem fails_parseArguments (h : parseArguments ts = .error e) :
    e = .unmet .expression ts ∨ parseArgumentList ts = .error e := by
  cases ts with
  | nil =>
    rw [parseArguments] at h
    cases h
    exact .inl rfl
  | cons u us =>
    rw [parseArguments] at h
    split at h
    · cases h
    · exact .inr h

/-! ## Whole formulas -/

theorem fails_parseTokens (h : parseTokens ts = .error e) : parseLevel loosest (skipEquals ts) = .error e ∨
    ∃ f rest, Reads (parseLevel loosest (skipEquals ts)) f rest ∧ e = .unmet .finish rest := by
  unfold parseTokens at h
  split at h
  · next hl =>
    cases h
    exact .inl hl
  · cases h
  · next f u us hb hl =>
    cases h
    exact .inr ⟨f, u :: us, ⟨hb, hl⟩, rfl⟩

end Faults

end ComputedFields
