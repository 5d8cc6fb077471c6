import ComputedFields.Proofs.ParserSteps

/-!
# The grammar of formulas

`Derives` is the grammar with its levels of precedence, as a relation between what tokens say and formulas; binary
operators associate to the left since the left operand of an operator is of the same level.

- what the parser reads is derived (`derives_of_parseLevel`), by recursion along the calls of the parser;
- what is derived is read off the front of the tokens (`Derives.readsFront`), provided that the tokens after it do not
  go on with it (`Stops`). The operators of a level are read in a loop, so the statement for a level speaks of the rest
  of the loop (`ReadsFront`);
- hence a text spells a formula exactly if its lexemes derive it (`parse_eq_ok_iff`).
-/

namespace ComputedFields

/-- `Derives l ks f`: the tokens `ks` spell `f`, and its operators outside brackets are of the levels up to `l`. Level 0
holds the operands and their signs. -/
inductive Derives : Nat → List TokenKind → Formula → Prop
  | number (x : Float) : Derives 0 [.number x] (.literal (.number x))
  | text (s : String) : Derives 0 [.text s] (.literal (.text s))
  | boolean (b : Bool) : Derives 0 [.boolean b] (.literal (.boolean b))
  | booleanCall (b : Bool) : Derives 0 [.boolean b, .leftParen, .rightParen] (.literal (.boolean b))
  | field (id : String) : Derives 0 [.fieldRef id] (.field { id })
  | paren {ks : List TokenKind} {f : Formula} : Derives loosest ks f → Derives 0 (.leftParen :: ks ++ [.rightParen]) f
  | not {name : String} {ks : List TokenKind} {f : Formula} : Text.eqIgnoringAsciiCase name "NOT" = true →
      Derives loosest ks f → Derives 0 (.identifier name :: .leftParen :: ks ++ [.rightParen]) (.unary .not f)
  | call {name : String} (parts : List (List TokenKind × Formula)) : Text.eqIgnoringAsciiCase name "NOT" = false →
      (∀ p ∈ parts, Derives loosest p.1 p.2) →
      Derives 0 (.identifier name :: .leftParen :: List.intercalate [.comma] (parts.map (·.1)) ++ [.rightParen])
        (.call (Text.toUpper name) (parts.map (·.2)))
  | minus {ks : List TokenKind} {f : Formula} : Derives 0 ks f → Derives 0 (.minus :: ks) (.unary .negate f)
  | plus {ks : List TokenKind} {f : Formula} : Derives 0 ks f → Derives 0 (.plus :: ks) f
  | tighter {l : Nat} {ks : List TokenKind} {f : Formula} : Derives l ks f → Derives (l + 1) ks f
  | binary {l : Nat} {ks ks' : List TokenKind} {k : TokenKind} {op : BinaryOp} {left right : Formula} :
      Derives (l + 1) ks left → BinaryOp.ofToken? (l + 1) k = some op → Derives l ks' right →
      Derives (l + 1) (ks ++ k :: ks') (.binary op left right)

theorem Derives.mono {l m : Nat} {ks : List TokenKind} {f : Formula} (h : Derives l ks f) (hm : l ≤ m) :
    Derives m ks f := by
  induction hm with
  | refl => exact h
  | step _ ih => exact ih.tighter

/-- An operand is a formula of every level. -/
theorem Derives.operand {l : Nat} {ks : List TokenKind} {f : Formula} (h : Derives 0 ks f) : Derives l ks f :=
  h.mono (Nat.zero_le l)

/-! ## What is read is derived -/

/-- What tokens say. -/
def kinds (ts : List Token) : List TokenKind := ts.map (·.kind)

@[simp] theorem kinds_nil : kinds [] = [] := rfl

@[simp] theorem kinds_cons (t : Token) (ts : List Token) : kinds (t :: ts) = t.kind :: kinds ts := rfl

@[simp] theorem kinds_append (ts us : List Token) : kinds (ts ++ us) = kinds ts ++ kinds us := List.map_append

theorem derives_of_skipEmptyBrackets {t : Token} {b : Bool} {ts rest : List Token} (hk : t.kind = .boolean b)
    (h : Reads (skipEmptyBrackets ts) () rest) :
    ∃ us, t :: ts = us ++ rest ∧ Derives 0 (kinds us) (.literal (.boolean b)) := by
  cases ts with
  | nil =>
    rw [(reads_skipEmptyBrackets_other (by simp)).1 h]
    exact ⟨[t], rfl, by simpa [hk] using .boolean b⟩
  | cons u us =>
    by_cases hu : u.kind = .leftParen
    · obtain ⟨v, rfl, hv⟩ := (reads_skipEmptyBrackets_open hu).1 h
      exact ⟨[t, u, v], rfl, by simpa [hk, hu, hv] using .booleanCall b⟩
    · rw [(reads_skipEmptyBrackets_other (by simpa using hu)).1 h]
      exact ⟨[t], rfl, by simpa [hk] using .boolean b⟩

mutual

theorem derives_of_parseLevel {l : Nat} {ts rest : List Token} {f : Formula} (h : Reads (parseLevel l ts) f rest) :
    ∃ us, ts = us ++ rest ∧ Derives l (kinds us) f := by
  cases l with
  | zero => exact derives_of_parseUnary (reads_parseLevel_zero.1 h)
  | succ l =>
    obtain ⟨left, mid, hl, ho⟩ := reads_parseLevel_succ.1 h
    have hb := hl.bound
    obtain ⟨us, hu, hd⟩ := derives_of_parseLevel hl
    obtain ⟨vs, hv, hd'⟩ := derives_of_parseOperators ho hd.tighter
    exact ⟨us ++ vs, by rw [hu, hv, List.append_assoc], by simpa using hd'⟩
termination_by (ts.length, l + 2)
decreasing_by
  · exact Prod.Lex.right _ (by omega)
  · exact Prod.Lex.right _ (by omega)
  · exact Prod.Lex.left _ _ hb

/-- The operators of a level extend what spells their left operand. -/
theorem derives_of_parseOperators {l : Nat} {ts rest : List Token} {left f : Formula} {ks : List TokenKind}
    (h : Reads (parseOperators l left ts) f rest) (hl : Derives (l + 1) ks left) :
    ∃ us, ts = us ++ rest ∧ Derives (l + 1) (ks ++ kinds us) f := by
  match ts, h with
  | [], h =>
    obtain ⟨rfl, rfl⟩ := reads_parseOperators_nil.1 h
    exact ⟨[], rfl, by simpa using hl⟩
  | t :: us, h =>
    have hc := reads_parseOperators_cons.1 h
    cases ho : BinaryOp.ofToken? (l + 1) t.kind with
    | none =>
      simp only [ho] at hc
      obtain ⟨rfl, rfl⟩ := hc
      exact ⟨[], rfl, by simpa using hl⟩
    | some op =>
      simp only [ho] at hc
      obtain ⟨right, mid, hr, hm⟩ := hc
      have hb := hr.bound
      obtain ⟨vs, hv, hd⟩ := derives_of_parseLevel hr
      obtain ⟨ws, hw, hd'⟩ := derives_of_parseOperators hm (hl.binary ho hd)
      exact ⟨t :: vs ++ ws, by simp [hv, hw], by simpa using hd'⟩
termination_by (ts.length, 0)
decreasing_by
  · exact Prod.Lex.left _ _ (Nat.lt_succ_self _)
  · exact Prod.Lex.left _ _ (Nat.lt_succ_of_lt hb)

theorem derives_of_parseUnary {ts rest : List Token} {f : Formula} (h : Reads (parseUnary ts) f rest) :
    ∃ us, ts = us ++ rest ∧ Derives 0 (kinds us) f := by
  match ts, h with
  | [], h => exact absurd h reads_parseUnary_nil
  | t :: us, h =>
    have hc := reads_parseUnary_cons.1 h
    cases hk : t.kind with
    | minus =>
      simp only [hk] at hc
      obtain ⟨g, rfl, hr⟩ := hc
      obtain ⟨vs, hv, hd⟩ := derives_of_parseUnary hr
      exact ⟨t :: vs, by simp [hv], by simpa [hk] using hd.minus⟩
    | plus =>
      simp only [hk] at hc
      obtain ⟨vs, hv, hd⟩ := derives_of_parseUnary hc
      exact ⟨t :: vs, by simp [hv], by simpa [hk] using hd.plus⟩
    | _ =>
      simp only [hk] at hc
      exact derives_of_parsePrimary hc
termination_by (ts.length, 1)
decreasing_by
  -- signs are followed by fewer tokens, and operands by a primary
  all_goals first | exact Prod.Lex.left _ _ (Nat.lt_succ_self _) | exact Prod.Lex.right _ Nat.zero_lt_one

theorem derives_of_parsePrimary {t : Token} {ts rest : List Token} {f : Formula}
    (h : Reads (parsePrimary t ts) f rest) : ∃ us, t :: ts = us ++ rest ∧ Derives 0 (kinds us) f := by
  have hc := reads_parsePrimary.1 h
  cases hk : t.kind with
  | number x =>
    simp only [hk] at hc
    obtain ⟨rfl, rfl⟩ := hc
    exact ⟨[t], rfl, by simpa [hk] using .number x⟩
  | text s =>
    simp only [hk] at hc
    obtain ⟨rfl, rfl⟩ := hc
    exact ⟨[t], rfl, by simpa [hk] using .text s⟩
  | fieldRef id =>
    simp only [hk] at hc
    obtain ⟨rfl, rfl⟩ := hc
    exact ⟨[t], rfl, by simpa [hk] using .field id⟩
  | boolean b =>
    simp only [hk] at hc
    obtain ⟨rfl, hs⟩ := hc
    exact derives_of_skipEmptyBrackets hk hs
  | leftParen =>
    simp only [hk] at hc
    obtain ⟨u, hu, hr⟩ := hc
    obtain ⟨vs, hv, hd⟩ := derives_of_parseLevel hr
    exact ⟨t :: vs ++ [u], by simp [hv], by simpa [hk, hu] using hd.paren⟩
  | identifier name =>
    simp only [hk] at hc
    obtain ⟨u, us, hus, hu, hr⟩ := hc
    have hlt : us.length < (t :: ts).length := by
      rw [hus, List.length_cons, List.length_cons]
      omega
    by_cases hn : Text.eqIgnoringAsciiCase name "NOT" = true
    · rw [if_pos hn] at hr
      obtain ⟨_, v, g, hv, rfl, hg⟩ := reads_parseNot.1 hr
      obtain ⟨vs, hvs, hd⟩ := derives_of_parseLevel hg
      exact ⟨t :: u :: vs ++ [v], by simp [hus, hvs], by simpa [hk, hu, hv] using hd.not hn⟩
    · rw [if_neg hn] at hr
      obtain ⟨fs, rfl, hr⟩ := hr
      obtain ⟨vs, v, parts, hv, hvs, hs, hp, rfl⟩ := derives_of_parseArguments hr
      refine ⟨t :: u :: vs ++ [v], by simp [hus, hvs], ?_⟩
      simpa [hk, hu, hv, hs] using Derives.call parts (by simpa using hn) hp
  | _ => simp only [hk] at hc
termination_by ((t :: ts).length, 0)
decreasing_by
  · exact Prod.Lex.left _ _ hlt
  · exact Prod.Lex.left _ _ hlt
  · exact Prod.Lex.left _ _ (Nat.lt_succ_self _)

theorem derives_of_parseArguments {ts rest : List Token} {fs : List Formula} (h : Reads (parseArguments ts) fs rest) :
    ∃ us u, ∃ parts : List (List TokenKind × Formula), u.kind = .rightParen ∧ ts = us ++ u :: rest ∧
      kinds us = List.intercalate [.comma] (parts.map (·.1)) ∧ (∀ p ∈ parts, Derives loosest p.1 p.2) ∧
      fs = parts.map (·.2) := by
  obtain ⟨u, hu, hk, rfl⟩ | ⟨_, hr⟩ := reads_parseArguments.1 h
  · exact ⟨[], u, [], hk, hu, rfl, by simp, rfl⟩
  · obtain ⟨vs, v, parts, hv, he, hs, hp, hf, _⟩ := derives_of_parseArgumentList hr
    exact ⟨vs, v, parts, hv, he, hs, hp, hf⟩
termination_by (ts.length, loosest + 4)
decreasing_by exact Prod.Lex.right _ (by omega)

theorem derives_of_parseArgumentList {ts rest : List Token} {fs : List Formula}
    (h : Reads (parseArgumentList ts) fs rest) :
    ∃ us u, ∃ parts : List (List TokenKind × Formula), u.kind = .rightParen ∧ ts = us ++ u :: rest ∧
      kinds us = List.intercalate [.comma] (parts.map (·.1)) ∧ (∀ p ∈ parts, Derives loosest p.1 p.2) ∧
      fs = parts.map (·.2) ∧ parts ≠ [] := by
  obtain ⟨g, u, us, hr, ⟨hu, rfl, rfl⟩ | ⟨hu, gs, rfl, ha⟩⟩ := reads_parseArgumentList.1 h
  · obtain ⟨vs, hv, hd⟩ := derives_of_parseLevel hr
    exact ⟨vs, u, [(kinds vs, g)], hu, hv, by simp, by simpa using hd, rfl, by simp⟩
  · have hb := hr.bound
    obtain ⟨vs, hv, hd⟩ := derives_of_parseLevel hr
    obtain ⟨ws, w, parts, hw, he, hs, hp, rfl, hn⟩ := derives_of_parseArgumentList ha
    refine ⟨vs ++ u :: ws, w, (kinds vs, g) :: parts, hw, by simp [hv, he], ?_, List.forall_mem_cons.2 ⟨hd, hp⟩, rfl,
      by simp⟩
    obtain ⟨p, ps, rfl⟩ := List.exists_cons_of_ne_nil hn
    simp [hs, hu, List.intercalate]
termination_by (ts.length, loosest + 3)
decreasing_by
  · exact Prod.Lex.right _ (by omega)
  · exact Prod.Lex.right _ (by omega)
  · exact Prod.Lex.left _ _ (Nat.lt_of_succ_lt hb)

end

/-! ## What is derived is read -/

/-- Tokens that do not go on with a formula of the levels up to `l`: no bracket and no operator of these levels comes
first. -/
def Stops (l : Nat) (ts : List Token) : Prop :=
  ∀ t ∈ ts.head?, t.kind ≠ .leftParen ∧ ∀ m ≤ l, BinaryOp.ofToken? m t.kind = none

theorem stops_nil (l : Nat) : Stops l [] := fun _ h => by cases h

theorem stops_cons {l : Nat} {t : Token} {ts : List Token} :
    Stops l (t :: ts) ↔ t.kind ≠ .leftParen ∧ ∀ m ≤ l, BinaryOp.ofToken? m t.kind = none := by
  simp [Stops]

theorem Stops.mono {l m : Nat} {ts : List Token} (h : Stops l ts) (hm : m ≤ l) : Stops m ts :=
  fun t ht => ⟨(h t ht).1, fun n hn => (h t ht).2 n (Nat.le_trans hn hm)⟩

theorem ofToken?_leftParen : ∀ m, BinaryOp.ofToken? m .leftParen = none
  | 0 | 1 | 2 | 3 | 4 | _ + 5 => rfl

theorem ofToken?_rightParen : ∀ m, BinaryOp.ofToken? m .rightParen = none
  | 0 | 1 | 2 | 3 | 4 | _ + 5 => rfl

theorem ofToken?_comma : ∀ m, BinaryOp.ofToken? m .comma = none
  | 0 | 1 | 2 | 3 | 4 | _ + 5 => rfl

theorem ofToken?_fieldRef {id : String} : ∀ m, BinaryOp.ofToken? m (.fieldRef id) = none
  | 0 | 1 | 2 | 3 | 4 | _ + 5 => rfl

theorem stops_of_rightParen {l : Nat} {t : Token} {ts : List Token} (h : t.kind = .rightParen) : Stops l (t :: ts) := by
  rw [stops_cons, h]
  exact ⟨nofun, fun m _ => ofToken?_rightParen m⟩

theorem stops_of_comma {l : Nat} {t : Token} {ts : List Token} (h : t.kind = .comma) : Stops l (t :: ts) := by
  rw [stops_cons, h]
  exact ⟨nofun, fun m _ => ofToken?_comma m⟩

/-- An operator belongs to one level. -/
theorem ofToken?_eq_none_of_lt {m n : Nat} {k : TokenKind} {op : BinaryOp} (h : BinaryOp.ofToken? n k = some op)
    (hm : m < n) : BinaryOp.ofToken? m k = none := by
  revert h
  fun_cases BinaryOp.ofToken? n k with
  | case12 => exact nofun
  | _ =>
    intro _
    revert m
    decide

theorem stops_of_operator {l : Nat} {t : Token} {ts : List Token} {op : BinaryOp}
    (h : BinaryOp.ofToken? (l + 1) t.kind = some op) : Stops l (t :: ts) := by
  refine stops_cons.2 ⟨fun hk => ?_, fun m hm => ofToken?_eq_none_of_lt h (by omega)⟩
  rw [hk, ofToken?_leftParen] at h
  cases h

/-- The parser reads `f` off the tokens `ts` in front of `rest` and goes on with the operators of its level. -/
def ReadsFront (l : Nat) (f : Formula) (ts rest : List Token) : Prop :=
  match l with
  | 0 => Reads (parseUnary (ts ++ rest)) f rest
  | l + 1 => ∀ g rest', Reads (parseOperators l f rest) g rest' → Reads (parseLevel (l + 1) (ts ++ rest)) g rest'

/-- Without an operator to go on with, what the parser reads is the formula. -/
theorem ReadsFront.parseLevel {l : Nat} {f : Formula} {ts rest : List Token} (h : ReadsFront l f ts rest)
    (hs : Stops l rest) : Reads (parseLevel l (ts ++ rest)) f rest := by
  cases l with
  | zero => exact reads_parseLevel_zero.2 h
  | succ l =>
    apply h
    cases rest with
    | nil => exact reads_parseOperators_nil.2 ⟨rfl, rfl⟩
    | cons t rest =>
      have hn := (stops_cons.1 hs).2 (l + 1) (Nat.le_refl _)
      apply reads_parseOperators_cons.2
      simp [hn]

theorem kinds_eq_cons {ts : List Token} {k : TokenKind} {ks : List TokenKind} (h : kinds ts = k :: ks) :
    ∃ t us, ts = t :: us ∧ t.kind = k ∧ kinds us = ks := by
  obtain ⟨t, us, rfl, hk, hs⟩ := List.map_eq_cons_iff.1 h
  exact ⟨t, us, rfl, hk, hs⟩

theorem kinds_eq_append {ts : List Token} {ks ks' : List TokenKind} (h : kinds ts = ks ++ ks') :
    ∃ us vs, ts = us ++ vs ∧ kinds us = ks ∧ kinds vs = ks' := by
  obtain ⟨us, vs, rfl, hu, hv⟩ := List.map_eq_append_iff.1 h
  exact ⟨us, vs, rfl, hu, hv⟩

theorem kinds_eq_singleton {ts : List Token} {k : TokenKind} (h : kinds ts = [k]) : ∃ t, ts = [t] ∧ t.kind = k := by
  obtain ⟨t, us, rfl, hk, hs⟩ := kinds_eq_cons h
  obtain rfl : us = [] := List.map_eq_nil_iff.1 hs
  exact ⟨t, rfl, hk⟩

theorem kinds_eq_concat {ts : List Token} {ks : List TokenKind} {k : TokenKind} (h : kinds ts = ks ++ [k]) :
    ∃ us u, ts = us ++ [u] ∧ kinds us = ks ∧ u.kind = k := by
  obtain ⟨us, vs, rfl, hus, hvs⟩ := kinds_eq_append h
  obtain ⟨u, rfl, hu⟩ := kinds_eq_singleton hvs
  exact ⟨us, u, rfl, hus, hu⟩

/-- Tokens that a formula may start with. -/
def TokenKind.startsFormula : TokenKind → Bool
  | .number _ | .text _ | .boolean _ | .fieldRef _ | .identifier _ | .plus | .minus | .leftParen => true
  | _ => false

theorem Derives.starts {l : Nat} {ks : List TokenKind} {f : Formula} (h : Derives l ks f) :
    ∃ k ks', ks = k :: ks' ∧ k.startsFormula = true := by
  induction h with
  | tighter _ ih => exact ih
  | binary _ _ _ ih _ =>
    obtain ⟨k, ks', rfl, hk⟩ := ih
    exact ⟨k, _, rfl, hk⟩
  | _ => exact ⟨_, _, rfl, rfl⟩

/-- A bracket with a formula in it does not close at once. -/
theorem not_closesAtOnce {ts rest : List Token} {k : TokenKind} {ks : List TokenKind} (h : kinds ts = k :: ks)
    (hk : k.startsFormula = true) : closesAtOnce (ts ++ rest) = false := by
  obtain ⟨t, us, rfl, rfl, _⟩ := kinds_eq_cons h
  cases hc : closesAtOnce (t :: us ++ rest) with
  | false => rfl
  | true =>
    rw [closesAtOnce_cons.1 hc] at hk
    cases hk

/-- Arguments that are each read are read one after the other. -/
theorem reads_parseArgumentList_of_parts {p : List TokenKind × Formula} {ps : List (List TokenKind × Formula)}
    {ts rest : List Token} {u : Token} (hu : u.kind = .rightParen)
    (hr : ∀ q ∈ p :: ps, ∀ us vs, kinds us = q.1 → Stops loosest vs → Reads (parseLevel loosest (us ++ vs)) q.2 vs)
    (ht : kinds ts = List.intercalate [.comma] ((p :: ps).map (·.1))) :
    Reads (parseArgumentList (ts ++ u :: rest)) ((p :: ps).map (·.2)) rest := by
  induction ps generalizing p ts with
  | nil =>
    have h := hr p (by simp) ts (u :: rest) (by simpa using ht) (stops_of_rightParen hu)
    exact reads_parseArgumentList.2 ⟨p.2, u, rest, h, .inl ⟨hu, rfl, rfl⟩⟩
  | cons q qs ih =>
    have ht' : kinds ts = p.1 ++ .comma :: List.intercalate [.comma] ((q :: qs).map (·.1)) := by
      simpa [List.intercalate] using ht
    obtain ⟨us, vs, rfl, hus, hvs⟩ := kinds_eq_append ht'
    obtain ⟨c, ws, rfl, hc, hws⟩ := kinds_eq_cons hvs
    have h := hr p (by simp) us (c :: ws ++ u :: rest) hus (stops_of_comma hc)
    have h' := ih (fun r hm => hr r (List.mem_cons_of_mem _ hm)) hws
    rw [List.append_assoc]
    exact reads_parseArgumentList.2 ⟨p.2, c, ws ++ u :: rest, h, .inr ⟨hc, _, rfl, h'⟩⟩

/-- Arguments are read up to the bracket that closes them, also if there are none. -/
theorem reads_parseArguments_of_parts {parts : List (List TokenKind × Formula)} {ts rest : List Token} {u : Token}
    (hu : u.kind = .rightParen) (hd : ∀ p ∈ parts, Derives loosest p.1 p.2)
    (hr : ∀ p ∈ parts, ∀ us vs, kinds us = p.1 → Stops loosest vs → Reads (parseLevel loosest (us ++ vs)) p.2 vs)
    (ht : kinds ts = List.intercalate [.comma] (parts.map (·.1))) :
    Reads (parseArguments (ts ++ u :: rest)) (parts.map (·.2)) rest := by
  refine reads_parseArguments.2 ?_
  cases parts with
  | nil =>
    obtain rfl : ts = [] := List.map_eq_nil_iff.1 ht
    exact .inl ⟨u, rfl, hu, rfl⟩
  | cons p ps =>
    obtain ⟨k, ks, hp, hk⟩ := (hd p List.mem_cons_self).starts
    obtain ⟨ks', hks'⟩ : ∃ ks', kinds ts = k :: ks' := by
      cases ps <;> exact ⟨_, by rw [ht, List.map_cons, hp]; rfl⟩
    exact .inr ⟨not_closesAtOnce hks' hk, reads_parseArgumentList_of_parts hu hr ht⟩

theorem Derives.readsFront {l : Nat} {ks : List TokenKind} {f : Formula} (h : Derives l ks f) :
    ∀ {ts rest : List Token}, kinds ts = ks → Stops (l - 1) rest → ReadsFront l f ts rest := by
  induction h with
  | number x =>
    intro ts rest ht _
    obtain ⟨t, rfl, hk⟩ := kinds_eq_singleton ht
    exact reads_parseUnary_cons.2 (by simp [hk, reads_parsePrimary])
  | text s =>
    intro ts rest ht _
    obtain ⟨t, rfl, hk⟩ := kinds_eq_singleton ht
    exact reads_parseUnary_cons.2 (by simp [hk, reads_parsePrimary])
  | boolean b =>
    intro ts rest ht hs
    obtain ⟨t, rfl, hk⟩ := kinds_eq_singleton ht
    have hb : Reads (skipEmptyBrackets rest) () rest :=
      (reads_skipEmptyBrackets_other fun u hu => (hs u hu).1).2 rfl
    exact reads_parseUnary_cons.2 (by simp [hk, reads_parsePrimary, hb])
  | booleanCall b =>
    intro ts rest ht _
    obtain ⟨t, us, rfl, hk, hus⟩ := kinds_eq_cons ht
    obtain ⟨u, vs, rfl, hu, hvs⟩ := kinds_eq_cons hus
    obtain ⟨v, rfl, hv⟩ := kinds_eq_singleton hvs
    have hb : Reads (skipEmptyBrackets (u :: v :: rest)) () rest := (reads_skipEmptyBrackets_open hu).2 ⟨v, rfl, hv⟩
    exact reads_parseUnary_cons.2 (by simp [hk, reads_parsePrimary, hb])
  | field id =>
    intro ts rest ht _
    obtain ⟨t, rfl, hk⟩ := kinds_eq_singleton ht
    exact reads_parseUnary_cons.2 (by simp [hk, reads_parsePrimary])
  | @paren ks f _ ih =>
    intro ts rest ht _
    obtain ⟨t, us, rfl, hk, hus⟩ := kinds_eq_cons ht
    obtain ⟨vs, u, rfl, hvs, hu⟩ := kinds_eq_concat hus
    have hr : Reads (parseLevel loosest (vs ++ u :: rest)) f (u :: rest) :=
      (ih hvs (stops_of_rightParen hu)).parseLevel (stops_of_rightParen hu)
    show Reads (parseUnary (t :: (vs ++ [u] ++ rest))) f rest
    rw [List.append_assoc]
    exact reads_parseUnary_cons.2 (by simpa [hk, reads_parsePrimary] using ⟨u, hu, hr⟩)
  | @not name ks f hn hd ih =>
    intro ts rest ht _
    obtain ⟨t, us, rfl, hk, hus⟩ := kinds_eq_cons ht
    obtain ⟨u, vs, rfl, hu, hvs⟩ := kinds_eq_cons hus
    obtain ⟨ws, v, rfl, hws, hv⟩ := kinds_eq_concat hvs
    have hr : Reads (parseLevel loosest (ws ++ v :: rest)) f (v :: rest) :=
      (ih hws (stops_of_rightParen hv)).parseLevel (stops_of_rightParen hv)
    obtain ⟨k, ks', rfl, hks⟩ := hd.starts
    have hc : closesAtOnce (ws ++ v :: rest) = false := not_closesAtOnce hws hks
    refine reads_parseUnary_cons.2 ?_
    simp only [hk, reads_parsePrimary]
    refine ⟨u, ws ++ v :: rest, by simp, hu, ?_⟩
    rw [if_pos hn]
    exact reads_parseNot.2 ⟨hc, v, f, hv, rfl, hr⟩
  | @call name parts hn hd ih =>
    intro ts rest ht _
    obtain ⟨t, us, rfl, hk, hus⟩ := kinds_eq_cons ht
    obtain ⟨u, vs, rfl, hu, hvs⟩ := kinds_eq_cons hus
    obtain ⟨ws, v, rfl, hws, hv⟩ := kinds_eq_concat hvs
    refine reads_parseUnary_cons.2 ?_
    simp only [hk, reads_parsePrimary]
    refine ⟨u, ws ++ v :: rest, by simp, hu, ?_⟩
    rw [if_neg (by simp [hn])]
    refine ⟨_, rfl, reads_parseArguments_of_parts hv hd (fun p hp us vs h hs => ?_) hws⟩
    exact (ih p hp h (hs.mono (by decide))).parseLevel hs
  | minus _ ih =>
    intro ts rest ht hs
    obtain ⟨t, us, rfl, hk, hus⟩ := kinds_eq_cons ht
    exact reads_parseUnary_cons.2 (by simpa [hk, ReadsFront] using ih hus hs)
  | plus _ ih =>
    intro ts rest ht hs
    obtain ⟨t, us, rfl, hk, hus⟩ := kinds_eq_cons ht
    exact reads_parseUnary_cons.2 (by simpa [hk, ReadsFront] using ih hus hs)
  | @tighter l ks f _ ih =>
    intro ts rest ht hs g rest' ho
    have hr := (ih ht (hs.mono (Nat.sub_le _ _))).parseLevel hs
    exact reads_parseLevel_succ.2 ⟨f, rest, hr, ho⟩
  | @binary l ks ks' k op left right _ ho _ ihl ihr =>
    intro ts rest ht hs g rest' hg
    obtain ⟨us, vs, rfl, hus, hvs⟩ := kinds_eq_append ht
    obtain ⟨t, ws, rfl, rfl, hws⟩ := kinds_eq_cons hvs
    have hr := (ihr hws (hs.mono (Nat.sub_le _ _))).parseLevel hs
    rw [List.append_assoc]
    refine ihl hus (stops_of_operator ho) g rest' (reads_parseOperators_cons.2 ?_)
    simp only [ho]
    exact ⟨right, rest, hr, hg⟩

/-! ## Whole formulas -/

/-- The tokens of a whole formula, which an equals sign may stand in front of. -/
def DerivesFormula (ks : List TokenKind) (f : Formula) : Prop :=
  Derives loosest ks f ∨ ∃ ks', ks = .equal :: ks' ∧ Derives loosest ks' f

theorem parseTokens_eq_ok_iff_reads {ts : List Token} {f : Formula} :
    parseTokens ts = .ok f ↔ Reads (parseLevel loosest (skipEquals ts)) f [] := by
  unfold parseTokens
  constructor
  · intro h
    split at h
    · cases h
    · next g hb e =>
      cases h
      exact ⟨hb, e⟩
    · cases h
  · rintro ⟨_, e⟩
    rw [e]

theorem reads_parseLevel_iff_derives {l : Nat} {ts : List Token} {f : Formula} :
    Reads (parseLevel l ts) f [] ↔ Derives l (kinds ts) f := by
  constructor
  · intro h
    obtain ⟨us, rfl, hd⟩ := derives_of_parseLevel h
    simpa using hd
  · intro h
    have hr : Reads (parseLevel l (ts ++ [])) f [] := (h.readsFront rfl (stops_nil _)).parseLevel (stops_nil _)
    rwa [List.append_nil] at hr

theorem parseTokens_eq_ok_iff {ts : List Token} {f : Formula} :
    parseTokens ts = .ok f ↔ DerivesFormula (kinds ts) f := by
  rw [parseTokens_eq_ok_iff_reads, reads_parseLevel_iff_derives]
  cases ts with
  | nil => simp [skipEquals, DerivesFormula]
  | cons t us =>
    by_cases hk : t.kind = .equal
    · simp only [skipEquals, hk, DerivesFormula, kinds_cons]
      constructor
      · intro h
        exact .inr ⟨_, rfl, h⟩
      · rintro (h | ⟨ks, e, h⟩)
        · obtain ⟨_, _, e, hs⟩ := h.starts
          cases e
          cases hs
        · cases e
          exact h
    · have he : skipEquals (t :: us) = t :: us := by
        dsimp only [skipEquals]
        split
        · contradiction
        · rfl
      rw [he]
      constructor
      · exact .inl
      · rintro (h | ⟨ks, e, _⟩)
        · exact h
        · rw [kinds_cons] at e
          exact absurd (List.cons.inj e).1 hk

theorem kinds_place (start : Nat) (ls : List Lexeme) : kinds (Token.place start ls) = ls.map (·.kind) := by
  induction ls generalizing start with
  | nil => rfl
  | cons l ls ih => simp [Token.place, ih]

/-- What the lexemes of a text say. -/
def Scan.kinds (s : Scan) : List TokenKind := s.lexemes.map (·.kind)

/-- A text spells a formula if it consists of lexemes that the grammar derives it from. -/
theorem parse_eq_ok_iff {text : String} {f : Formula} :
    parse text = .ok f ↔ (scan text.toList).fault = none ∧ DerivesFormula (scan text.toList).kinds f := by
  unfold parse lex
  dsimp only
  cases (scan text.toList).fault with
  | some e => simp
  | none =>
    simp only [true_and, Scan.kinds, ← kinds_place 0, ← parseTokens_eq_ok_iff]
    cases parseTokens (Token.place 0 (scan text.toList).lexemes) <;> simp

end ComputedFields
