import ComputedFields.Formula.Parser

/-!
# What the functions of the parser read

`Reads r a rest`: a parser with the result `r` has read `a` and left the tokens `rest`. For every function of the
parser one lemma says what its reads are made of (`reads_parseLevel_succ`, `reads_parseOperators_cons`,
`reads_parseUnary_cons`, `reads_parsePrimary`, `reads_parseNot`, `reads_parseArguments`, `reads_parseArgumentList`).
They hold in both directions, so the parser is opened nowhere else.
-/

namespace ComputedFields

/-- A parser has read `a` and left `rest`. -/
def Reads {α : Type} {P : List Token → Prop} (r : Except ParseFault (α × { rest : List Token // P rest })) (a : α)
    (rest : List Token) : Prop :=
  ∃ h, r = .ok (a, ⟨rest, h⟩)

section Steps

variable {α : Type} {P : List Token → Prop} {l : Nat} {t : Token} {ts us rest : List Token} {f left : Formula}
  {fs : List Formula}

@[simp] theorem reads_ok {a b : α} {h : P ts} :
    Reads (.ok (a, ⟨ts, h⟩) : Except ParseFault (α × { rest : List Token // P rest })) b rest ↔ b = a ∧ rest = ts := by
  constructor
  · rintro ⟨_, e⟩
    cases e
    exact ⟨rfl, rfl⟩
  · rintro ⟨rfl, rfl⟩
    exact ⟨h, rfl⟩

@[simp] theorem reads_error {e : ParseFault} {a : α} :
    ¬ Reads (.error e : Except ParseFault (α × { rest : List Token // P rest })) a rest := by
  rintro ⟨_, h⟩
  cases h

/-- What is left is bounded as the type of the result says. -/
theorem Reads.bound {r : Except ParseFault (α × { rest : List Token // P rest })} {a : α} (h : Reads r a rest) :
    P rest := h.1

/-! ## Brackets -/

theorem reads_skipEmptyBrackets_open (h : t.kind = .leftParen) : Reads (skipEmptyBrackets (t :: ts)) () rest ↔
    ∃ u, ts = u :: rest ∧ u.kind = .rightParen := by
  cases ts with
  | nil => simp [skipEmptyBrackets, h]
  | cons u us =>
    constructor
    · intro hr
      cases hu : u.kind with
      | rightParen =>
        simp only [skipEmptyBrackets, h, hu, reads_ok, true_and] at hr
        exact ⟨u, by rw [hr], hu⟩
      | _ => simp [skipEmptyBrackets, h, hu] at hr
    · rintro ⟨_, e, hu⟩
      cases e
      simp [skipEmptyBrackets, h, hu]

theorem reads_skipEmptyBrackets_other (h : ∀ t ∈ ts.head?, t.kind ≠ .leftParen) :
    Reads (skipEmptyBrackets ts) () rest ↔ rest = ts := by
  cases ts with
  | nil => simp [skipEmptyBrackets]
  | cons t ts =>
    cases hk : t.kind with
    | leftParen => exact absurd hk (h t rfl)
    | _ => simp [skipEmptyBrackets, hk]

/-! ## Levels -/

theorem reads_parseLevel_zero : Reads (parseLevel 0 ts) f rest ↔ Reads (parseUnary ts) f rest := by
  rw [parseLevel]

/-- A level reads an operand of the tighter level, then its own operators. -/
theorem reads_parseLevel_succ : Reads (parseLevel (l + 1) ts) f rest ↔
    ∃ left mid, Reads (parseLevel l ts) left mid ∧ Reads (parseOperators l left mid) f rest := by
  rw [parseLevel]
  constructor
  · rintro ⟨h, e⟩
    split at e
    · cases e
    · next left mid h₁ e₁ =>
      split at e
      · cases e
      · next g rest' h₂ e₂ =>
        cases e
        exact ⟨left, mid, ⟨h₁, e₁⟩, ⟨h₂, e₂⟩⟩
  · rintro ⟨left, mid, ⟨h₁, e₁⟩, ⟨h₂, e₂⟩⟩
    refine ⟨Nat.lt_of_le_of_lt h₂ h₁, ?_⟩
    simp only [e₁, e₂]

theorem reads_parseOperators_nil : Reads (parseOperators l left []) f rest ↔ f = left ∧ rest = [] := by
  rw [parseOperators]
  exact reads_ok

/-- An operator of the level takes a right operand and goes on; any other token ends the level. -/
theorem reads_parseOperators_cons : Reads (parseOperators l left (t :: us)) f rest ↔
    match BinaryOp.ofToken? (l + 1) t.kind with
    | none => f = left ∧ rest = t :: us
    | some op => ∃ right mid, Reads (parseLevel l us) right mid ∧
        Reads (parseOperators l (.binary op left right) mid) f rest := by
  rw [parseOperators]
  cases BinaryOp.ofToken? (l + 1) t.kind with
  | none => exact reads_ok
  | some op =>
    dsimp only
    constructor
    · rintro ⟨h, e⟩
      split at e
      · cases e
      · next right mid h₁ e₁ =>
        split at e
        · cases e
        · next g rest' h₂ e₂ =>
          cases e
          exact ⟨right, mid, ⟨h₁, e₁⟩, ⟨h₂, e₂⟩⟩
    · rintro ⟨right, mid, ⟨h₁, e₁⟩, ⟨h₂, e₂⟩⟩
      simp only [e₁, e₂, reads_ok, and_self]

/-! ## Operands -/

theorem reads_parseUnary_nil : ¬ Reads (parseUnary []) f rest := by
  rw [parseUnary]
  exact reads_error

/-- A minus sign negates and a plus sign leaves no trace. -/
theorem reads_parseUnary_cons : Reads (parseUnary (t :: us)) f rest ↔
    match t.kind with
    | .minus => ∃ g, f = .unary .negate g ∧ Reads (parseUnary us) g rest
    | .plus => Reads (parseUnary us) f rest
    | _ => Reads (parsePrimary t us) f rest := by
  rw [parseUnary]
  cases t.kind with
  | minus =>
    dsimp only
    constructor
    · rintro ⟨h, e⟩
      split at e
      · cases e
      · next g rest' h₁ e₁ =>
        cases e
        exact ⟨g, rfl, ⟨h₁, e₁⟩⟩
    · rintro ⟨g, rfl, ⟨h₁, e₁⟩⟩
      simp only [e₁, reads_ok, and_self]
  | plus =>
    dsimp only
    constructor
    · rintro ⟨h, e⟩
      split at e
      · cases e
      · next g rest' h₁ e₁ =>
        cases e
        exact ⟨h₁, e₁⟩
    · rintro ⟨h₁, e₁⟩
      simp only [e₁, reads_ok, and_self]
  | _ => exact Iff.rfl

/-- A name and an opening bracket: a `NOT` reads its operand, any other call its arguments. -/
theorem reads_call {name : String} {u : Token} (hk : t.kind = .identifier name) (hu : u.kind = .leftParen) :
    Reads (parsePrimary t (u :: us)) f rest ↔
      if Text.eqIgnoringAsciiCase name "NOT" then Reads (parseNot t us) f rest
      else ∃ fs, f = .call (Text.toUpper name) fs ∧ Reads (parseArguments us) fs rest := by
  rw [parsePrimary]
  simp only [hk, hu]
  split
  · constructor
    · rintro ⟨h, e⟩
      split at e
      · cases e
      · next g rest' h₁ e₁ =>
        cases e
        exact ⟨h₁, e₁⟩
    · rintro ⟨h₁, e₁⟩
      simp only [e₁, reads_ok, and_self]
  · constructor
    · rintro ⟨h, e⟩
      split at e
      · cases e
      · next gs rest' h₁ e₁ =>
        cases e
        exact ⟨gs, rfl, ⟨h₁, e₁⟩⟩
    · rintro ⟨gs, rfl, ⟨h₁, e₁⟩⟩
      simp only [e₁, reads_ok, and_self]

/-- What an operand reads, by its first token. -/
theorem reads_parsePrimary : Reads (parsePrimary t ts) f rest ↔
    match t.kind with
    | .number x => f = .literal (.number x) ∧ rest = ts
    | .text s => f = .literal (.text s) ∧ rest = ts
    | .boolean b => f = .literal (.boolean b) ∧ Reads (skipEmptyBrackets ts) () rest
    | .fieldRef id => f = .field { id } ∧ rest = ts
    | .leftParen => ∃ u, u.kind = .rightParen ∧ Reads (parseLevel loosest ts) f (u :: rest)
    | .identifier name => ∃ u us, ts = u :: us ∧ u.kind = .leftParen ∧
        if Text.eqIgnoringAsciiCase name "NOT" then Reads (parseNot t us) f rest
        else ∃ fs, f = .call (Text.toUpper name) fs ∧ Reads (parseArguments us) fs rest
    | _ => False := by
  cases hk : t.kind with
  | number x | text x | fieldRef x =>
    rw [parsePrimary]
    simp only [hk, reads_ok]
  | boolean b =>
    rw [parsePrimary]
    simp only [hk]
    constructor
    · rintro ⟨h, e⟩
      split at e
      · cases e
      · next rest' h₁ e₁ =>
        cases e
        exact ⟨rfl, ⟨h₁, e₁⟩⟩
    · rintro ⟨rfl, ⟨h₁, e₁⟩⟩
      simp only [e₁, reads_ok, and_self]
  | leftParen =>
    rw [parsePrimary]
    simp only [hk]
    constructor
    · rintro ⟨h, e⟩
      split at e
      · cases e
      · cases e
      · next g u us h₁ e₁ =>
        split at e
        · next hu =>
          cases e
          exact ⟨u, hu, ⟨h₁, e₁⟩⟩
        · cases e
    · rintro ⟨u, hu, ⟨h₁, e₁⟩⟩
      simp only [e₁, hu, reads_ok, and_self]
  | identifier name =>
    cases ts with
    | nil =>
      rw [parsePrimary]
      simp [hk]
    | cons u us =>
      cases hu : u.kind with
      | leftParen =>
        refine (reads_call hk hu).trans ⟨fun h => ⟨u, us, rfl, hu, h⟩, ?_⟩
        rintro ⟨_, _, ⟨rfl, rfl⟩, _, h⟩
        exact h
      | _ =>
        rw [parsePrimary]
        simp [hk, hu]
  | _ =>
    rw [parsePrimary]
    simp [hk]

/-! ## Arguments -/

theorem closesAtOnce_cons : closesAtOnce (t :: ts) = true ↔ t.kind = .rightParen := by
  cases hk : t.kind <;> simp [closesAtOnce, hk]

/-- The operand of a `NOT` stands alone in its brackets. -/
theorem reads_parseNot : Reads (parseNot t ts) f rest ↔ closesAtOnce ts = false ∧
    ∃ u g, u.kind = .rightParen ∧ f = .unary .not g ∧ Reads (parseLevel loosest ts) g (u :: rest) := by
  rw [parseNot]
  split
  · next hc => simp [hc]
  · next hc =>
    simp only [Bool.not_eq_true] at hc
    constructor
    · rintro ⟨h, e⟩
      split at e
      · cases e
      · cases e
      · next g u us h₁ e₁ =>
        split at e
        · next hu =>
          cases e
          exact ⟨hc, u, g, hu, rfl, ⟨h₁, e₁⟩⟩
        · cases e
        · cases e
    · rintro ⟨_, u, g, hu, rfl, ⟨h₁, e₁⟩⟩
      simp only [e₁, hu, reads_ok, and_self]

/-- An argument is followed by the closing bracket or by a comma and more arguments. -/
theorem reads_parseArgumentList : Reads (parseArgumentList ts) fs rest ↔
    ∃ g u us, Reads (parseLevel loosest ts) g (u :: us) ∧
      (u.kind = .rightParen ∧ fs = [g] ∧ rest = us ∨
        u.kind = .comma ∧ ∃ gs, fs = g :: gs ∧ Reads (parseArgumentList us) gs rest) := by
  rw [parseArgumentList]
  constructor
  · rintro ⟨h, e⟩
    split at e
    · cases e
    · cases e
    · next g u us h₁ e₁ =>
      refine ⟨g, u, us, ⟨h₁, e₁⟩, ?_⟩
      split at e
      · next hu =>
        cases e
        exact .inl ⟨hu, rfl, rfl⟩
      · next hu =>
        split at e
        · cases e
        · next gs rest' h₂ e₂ =>
          cases e
          exact .inr ⟨hu, gs, rfl, ⟨h₂, e₂⟩⟩
      · cases e
  · rintro ⟨g, u, us, ⟨h₁, e₁⟩, ⟨hu, rfl, rfl⟩ | ⟨hu, gs, rfl, ⟨h₂, e₂⟩⟩⟩
    · simp only [e₁, hu, reads_ok, and_self]
    · simp only [e₁, hu, e₂, reads_ok, and_self]

/-- Arguments may be none at all. -/
theorem reads_parseArguments : Reads (parseArguments ts) fs rest ↔
    (∃ u, ts = u :: rest ∧ u.kind = .rightParen ∧ fs = []) ∨
      closesAtOnce ts = false ∧ Reads (parseArgumentList ts) fs rest := by
  cases ts with
  | nil =>
    rw [parseArguments]
    refine iff_of_false reads_error ?_
    rintro (⟨_, e, _⟩ | ⟨_, h⟩)
    · cases e
    · obtain ⟨_, _, _, hr, _⟩ := reads_parseArgumentList.1 h
      exact Nat.not_lt_zero _ hr.bound
  | cons u us =>
    rw [parseArguments]
    by_cases hc : closesAtOnce (u :: us) = true
    · rw [if_pos hc, reads_ok]
      constructor
      · rintro ⟨rfl, rfl⟩
        exact .inl ⟨u, rfl, closesAtOnce_cons.1 hc, rfl⟩
      · rintro (⟨_, e, _, rfl⟩ | ⟨hn, _⟩)
        · cases e
          exact ⟨rfl, rfl⟩
        · rw [hc] at hn
          cases hn
    · rw [if_neg hc]
      constructor
      · intro h
        exact .inr ⟨by simpa using hc, h⟩
      · rintro (⟨_, e, hu, _⟩ | ⟨_, h⟩)
        · cases e
          exact absurd (closesAtOnce_cons.2 hu) hc
        · exact h

end Steps

end ComputedFields
