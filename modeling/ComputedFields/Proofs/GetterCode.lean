import ComputedFields.Proofs.GetterTexts
import ComputedFields.Proofs.Identifiers
import ComputedFields.Proofs.Sequence
import ComputedFields.Proofs.UnbrokenCode

/-!
# The code of getters

Getters of functions have a formula for a body, or statements that read through a link.

- `Target.occursIn_linkBody`: the statements call the getter of the target;
- `ModuleContext.access_cases`: a formula reads a field out of the record or calls its getter;
- `ModuleContext.body_cases`: what the body of a getter is made of;
- `ModuleContext.isUnbroken_draft`: there are no line breaks in it.
-/

namespace ComputedFields

/-! ## Reading through links -/

section Links

variable {r : LinkRead} {read : TargetRead} {nullSafety : Bool} {lines : List String}

theorem occursIn_pythonLinkLines (hk : r.kind ≠ .count) (hi : r.ignoresTarget = false) (hr : r.read = some read)
    (h : pythonLinkLines r nullSafety = .ok lines) : ∃ l ∈ lines, OccursIn (pythonTarget read) l := by
  have htarget : r.target = .ok read := by rw [LinkRead.target, hr]
  have hread := OccursIn.refl (pythonTarget read)
  unfold pythonLinkLines at h
  dsimp only at h
  rw [if_neg hk, htarget] at h
  obtain ⟨_, ⟨⟩, h⟩ := bind_eq_ok_iff.1 h
  split at h
  · cases h
    exact ⟨_, by simp, (hread.prepend "return ").append " if r is not None else None"⟩
  · obtain ⟨_, -, h⟩ := bind_eq_ok_iff.1 h
    rw [hi] at h
    cases h
    exact ⟨_, by simp, (hread.prepend "values = [v for v in (").append " for r in linked) if v is not None]"⟩

theorem occursIn_javascriptLinkLines (hk : r.kind ≠ .count) (hi : r.ignoresTarget = false) (hr : r.read = some read)
    (h : javascriptLinkLines r nullSafety = .ok lines) : ∃ l ∈ lines, OccursIn (javascriptTarget read) l := by
  have htarget : r.target = .ok read := by rw [LinkRead.target, hr]
  have hread := OccursIn.refl (javascriptTarget read)
  unfold javascriptLinkLines at h
  dsimp only at h
  rw [if_neg hk, htarget] at h
  obtain ⟨_, ⟨⟩, h⟩ := bind_eq_ok_iff.1 h
  split at h
  · cases h
    exact ⟨_, by simp, (hread.prepend "return r ? ").append " : null;"⟩
  · obtain ⟨_, -, h⟩ := bind_eq_ok_iff.1 h
    rw [hi] at h
    cases h
    exact ⟨_, by simp,
      (((hread.prepend "const values = linked.map((r) => ").append ").filter(").append javascriptNotNull).append ");"⟩

/-- The getter of the target is called for a linked record, unless the records are counted without a look at it. -/
theorem Target.occursIn_linkBody {t : Target} (ht : t ≠ sql) {id name : String} (hk : r.kind ≠ .count)
    (hi : r.ignoresTarget = false) (hr : r.read = some (.computed id name))
    (h : t.linkBody r nullSafety = .ok (.statements lines)) : ∃ l ∈ lines, OccursIn (name ++ "(r, data)") l := by
  cases t with
  | python =>
    obtain ⟨_, hlines, ⟨⟩⟩ := map_eq_ok_iff.1 h
    simpa only [pythonTarget] using occursIn_pythonLinkLines hk hi hr hlines
  | javascript =>
    obtain ⟨_, hlines, ⟨⟩⟩ := map_eq_ok_iff.1 h
    simpa only [javascriptTarget] using occursIn_javascriptLinkLines hk hi hr hlines
  | sql => exact absurd rfl ht

end Links

theorem Target.exists_statements_of_linkBody {t : Target} (ht : t ≠ sql) {r : LinkRead} {nullSafety : Bool}
    {body : GetterBody} (h : t.linkBody r nullSafety = .ok body) : ∃ lines, body = .statements lines := by
  cases t with
  | sql => exact absurd rfl ht
  | _ =>
    obtain ⟨lines, -, rfl⟩ := map_eq_ok_iff.1 h
    exact ⟨lines, rfl⟩

theorem LinkRead.kind_ne_count {s : Schema} {keys : RecordKeys} {getterOf : String → Option String} {f : Field}
    {r : LinkRead} (h : ofField s keys getterOf f = .ok r) {read : TargetRead} (hr : r.read = some read) :
    r.kind ≠ .count := by
  obtain ⟨target, -, ht, hread⟩ := read_ofField h
  cases target with
  | none =>
    rw [show r.read = none from hread] at hr
    cases hr
  | some g => exact (targetOf_eq_ok_some ht).1

/-! ## Drafts -/

theorem Target.read_computed {t : Target} (ht : t ≠ sql) (getter : String) :
    t.read (.computed getter) = getter ++ "(record, data)" := by
  cases t with
  | sql => exact absurd rfl ht
  | _ => rfl

theorem IsIdentifier.unbroken {name : String} (h : IsIdentifier name) : Unbroken name :=
  ⟨fun hn => absurd (h.chars _ hn) (by decide), fun hr => absurd (h.chars _ hr) (by decide)⟩

namespace ModuleContext

variable {ctx : ModuleContext}

/-- Functions read a field out of the record, or they call its getter. -/
theorem access_cases (hi : ctx.target.inlinesComputed = false) (r : FieldRef) :
    (∃ key, ctx.access [] r = .stored key) ∨
      ∃ getter, ctx.access [] r = .computed getter ∧ ctx.names.getter? r.id = some getter := by
  unfold access
  rw [hi]
  cases ht : ctx.schema.field? r.id with
  | none => exact .inl ⟨_, rfl⟩
  | some t =>
    obtain ⟨-, hid⟩ := Schema.field?_eq_some_iff.1 ht
    rw [← hid]
    cases hc : t.isComputed with
    | false => exact .inl ⟨ctx.options.recordKeys.key t, by simp [hc]⟩
    | true =>
      cases hg : ctx.names.getter? t.id with
      | none => exact .inl ⟨ctx.options.recordKeys.key t, by simp [hc, hg]⟩
      | some getter => exact .inr ⟨getter, by simp [hc, hg], rfl⟩

/-- What the body of a getter is made of. -/
theorem body_cases (ht : ctx.target ≠ .sql) (f : Field) :
    (∃ reason, (ctx.draft [] f).body = .stub reason) ∨
      (∃ formula, f.computedKind? = some .formula ∧ f.formula? = some (.ok formula) ∧
        (ctx.draft [] f).body = .expression (ExpressionContext.express
          ⟨ctx.target, ctx.access [], ctx.options.nullSafety⟩ (formula.resolve ctx.schema)).code) ∨
      f.computedKind? ≠ some .formula ∧
        ∃ r lines, LinkRead.ofField ctx.schema ctx.options.recordKeys ctx.names.getter? f = .ok r ∧
          ctx.target.linkBody r ctx.options.nullSafety = .ok (.statements lines) ∧
          (ctx.draft [] f).body = .statements lines := by
  obtain hs | ⟨-, ⟨formula, hk, hf, hd⟩ | ⟨hk, hd⟩⟩ := body_draft ctx [] f
  · exact .inl hs
  · rw [hd, formulaDraft]
    split
    · exact .inr (.inl ⟨formula, hk, hf, rfl⟩)
    · exact .inl ⟨_, rfl⟩
  · rw [hd]
    obtain hs | ⟨r, hr, hl⟩ := body_linkDraft ctx f
    · exact .inl hs
    · obtain ⟨lines, hlines⟩ := Target.exists_statements_of_linkBody ht hl
      exact .inr (.inr ⟨hk, r, lines, hr, hlines ▸ hl, hlines⟩)

section Unbroken

variable {s : Schema} {options : GeneratorOptions}

theorem isUnbroken_access (h : options.target ≠ .sql) (r : FieldRef) :
    ((ofSchema s options).access [] r).IsUnbroken := by
  have hi : (ofSchema s options).target.inlinesComputed = false := Target.inlinesComputed_eq_false h
  obtain ⟨key, hkey⟩ | ⟨getter, hgetter, hname⟩ := access_cases hi r
  · rw [hkey]
    trivial
  · rw [hgetter]
    exact (ModuleNames.isIdentifier_getter? hname).unbroken

/-- Getters have no line breaks in their code, since they call others by identifiers. -/
theorem isUnbroken_draft (h : options.target ≠ .sql) (f : Field) :
    ((ofSchema s options).draft [] f).body.IsUnbroken := by
  have ht : (ofSchema s options).target ≠ .sql := h
  obtain ⟨reason, hb⟩ | ⟨formula, -, -, hb⟩ | ⟨-, r, lines, hr, hl, hb⟩ := body_cases ht f
  · rw [hb]
    trivial
  · rw [hb]
    exact Target.unbroken_express ht (isUnbroken_access h) _
  · have hread : ∀ read ∈ r.read, read.IsUnbroken := by
      intro read hread
      cases read with
      | stored key => trivial
      | computed id getter =>
        obtain ⟨-, -, hgetter⟩ := (LinkRead.read_eq_computed_iff hr).1 hread
        exact (ModuleNames.isIdentifier_getter? hgetter).unbroken
    obtain ⟨_, ⟨⟩, hlines⟩ := Target.isUnbroken_linkBody ht hread hl
    rw [hb]
    exact hlines

end Unbroken

end ModuleContext

end ComputedFields
