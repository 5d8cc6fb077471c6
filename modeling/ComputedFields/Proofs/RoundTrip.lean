import ComputedFields.Proofs.JsonTexts
import ComputedFields.Proofs.Places
import ComputedFields.Proofs.Reads
import ComputedFields.Schema.Decoding
import ComputedFields.Schema.Encoding

/-!
# Schemas written and read again

- `Json.SlotValue`, `Json.membersOf`, `Json.fill`: the slots of a record with what is written for them, the members that
  are written, and the record that is read from them;
- `Json.decodeRecord_membersOf`: where no slot answers to the name of another, an object with these members is read as
  that record;
- `FieldOptions.decode_toJson`, `Field.decode_toJson`, `Table.decode_toJson`: options, fields and tables are read back,
  but for the tables noted in the fields;
- `Schema.ofJson_toJson`: so schemas are read back, from values and from texts, and the tables are noted again.
-/

namespace ComputedFields

namespace Json

/-! ## Records -/

variable {σ α β : Type}

/-- A slot of a record and what is written for it, if it is not left out. -/
structure SlotValue (σ : Type) where
  slot : Slot σ
  value : Option Json

/-- The members that are written. -/
def membersOf (ps : List (SlotValue σ)) : List (String × Json) :=
  ps.flatMap fun p => p.value.toList.map (p.slot.name, ·)

/-- A record after what is written has been read into it. -/
def fill (s : σ) : List (SlotValue σ) → Except Fault σ
  | [] => .ok s
  | p :: ps =>
    match p.value with
    | none => fill s ps
    | some j => do fill (← p.slot.read s j.draft) ps

/-- No slot answers to the name of one that comes later. -/
def Distinct (slots : List (Slot σ)) : Prop := slots.Pairwise fun a b => a.answersTo b.name = false

instance (slots : List (Slot σ)) : Decidable (Distinct slots) :=
  inferInstanceAs (Decidable (slots.Pairwise fun a b => a.answersTo b.name = false))

theorem find?_answersTo {slots : List (Slot σ)} (h : Distinct slots) {slot : Slot σ} (hm : slot ∈ slots) :
    slots.find? (·.answersTo slot.name) = some slot := by
  induction slots with
  | nil => cases hm
  | cons a slots ih =>
    obtain ⟨ha, h⟩ := List.pairwise_cons.1 h
    rcases List.mem_cons.1 hm with rfl | hm
    · simp [Slot.answersTo]
    · rw [List.find?_cons_of_neg (by simp [ha slot hm])]
      exact ih h hm

theorem name_ne_of_answersTo {a b : Slot σ} (h : a.answersTo b.name = false) : b.name ≠ a.name := by
  rw [Slot.answersTo, Bool.or_eq_false_iff] at h
  simpa using h.1

theorem readMembersInto_cons {slots : List (Slot σ)} {slot : Slot σ} {filled : List String} {s s' : σ} {d : Draft}
    (hslot : slots.find? (·.answersTo slot.name) = some slot) (hnew : slot.name ∉ filled)
    (hread : slot.read s d = .ok s') (ms : List (Except Fault String × Draft)) :
    readMembersInto slots filled s ((.ok slot.name, d) :: ms) = readMembersInto slots (slot.name :: filled) s' ms := by
  simp [readMembersInto, hslot, hnew, hread, bind, Except.bind]

/-- Members are read into a record one after the other. -/
theorem readMembersInto_membersOf {slots : List (Slot σ)} (hs : Distinct slots) {ps : List (SlotValue σ)}
    (hps : ∀ p ∈ ps, p.slot ∈ slots) (hd : Distinct (ps.map (·.slot))) {filled : List String}
    (hf : ∀ p ∈ ps, p.slot.name ∉ filled) {s s' : σ} (h : fill s ps = .ok s') :
    ∃ filled', readMembersInto slots filled s (draftMembers (membersOf ps)) = .ok (s', filled') ∧ filled ⊆ filled' ∧
      ∀ p ∈ ps, p.value.isSome = true → p.slot.name ∈ filled' := by
  induction ps generalizing filled s with
  | nil =>
    cases h
    exact ⟨filled, rfl, fun _ => id, nofun⟩
  | cons p ps ih =>
    obtain ⟨hp, hd⟩ := List.pairwise_cons.1 hd
    obtain ⟨hslot, hps⟩ := List.forall_mem_cons.1 hps
    obtain ⟨hnew, hf⟩ := List.forall_mem_cons.1 hf
    rw [fill] at h
    cases hv : p.value with
    | none =>
      rw [hv] at h
      obtain ⟨filled', hr, hsub, hfill⟩ := ih hps hd hf h
      refine ⟨filled', ?_, hsub, List.forall_mem_cons.2 ⟨by simp [hv], hfill⟩⟩
      simpa [membersOf, hv] using hr
    | some j =>
      rw [hv] at h
      obtain ⟨s₁, hread, h⟩ := bind_eq_ok_iff.1 h
      -- a slot is filled once only: the ones to come have other names
      have hnot : ∀ q ∈ ps, q.slot.name ∉ p.slot.name :: filled := fun q hq => by
        have hne := name_ne_of_answersTo (hp q.slot (List.mem_map_of_mem hq))
        simp [hne, hf q hq]
      obtain ⟨filled', hr, hsub, hfill⟩ := ih hps hd hnot h
      have hmembers : membersOf (p :: ps) = (p.slot.name, j) :: membersOf ps := by simp [membersOf, hv]
      refine ⟨filled', ?_, fun n hn => hsub (List.mem_cons_of_mem _ hn),
        List.forall_mem_cons.2 ⟨fun _ => hsub List.mem_cons_self, hfill⟩⟩
      rw [hmembers, draftMembers, readMembersInto_cons (find?_answersTo hs hslot) hnew hread, hr]

/-- An object with what is written for the slots of a record is read as that record. -/
theorem decodeRecord_membersOf (origin : Origin) {slots : List (Slot σ)} (hs : Distinct slots) {ps : List (SlotValue σ)}
    (hps : ps.map (·.slot) = slots) (hrequired : ∀ p ∈ ps, p.slot.isRequired = true → p.value.isSome = true)
    {s s' : σ} (h : fill s ps = .ok s') :
    decodeRecord origin slots s (draft (.object (membersOf ps))) = .ok s' := by
  subst hps
  obtain ⟨filled, hread, -, hfilled⟩ :=
    readMembersInto_membersOf hs (fun p hp => List.mem_map_of_mem hp) hs (fun _ _ => List.not_mem_nil) h
  have hall : (ps.map (·.slot)).all (fun slot => !slot.isRequired || slot.name ∈ filled) = true := by
    refine List.all_eq_true.2 (List.forall_mem_map.2 fun p hp => ?_)
    by_cases hr : p.slot.isRequired = true
    · simp [hfilled p hp (hrequired p hp hr)]
    · simp [hr]
  rw [draft, decodeRecord, hread]
  simp [checkEnding, bind, Except.bind, hall]

/-! ## Parts -/

section

variable {slot : Slot σ} {s : σ}

/-- A part that is there is read back. -/
theorem fill_some {decode : Decoder α} {set : σ → α → σ} (hslot : ∀ s d, slot.read s d = (decode d).map (set s))
    {j : Json} {v : α} (hdecode : decode j.draft = .ok v) (ps : List (SlotValue σ)) :
    fill s (⟨slot, some j⟩ :: ps) = fill (set s v) ps := by
  show (do fill (← slot.read s j.draft) ps) = fill (set s v) ps
  rw [hslot, hdecode]
  rfl

/-- An optional part is read back, whether it is there or not. -/
theorem fill_optional {decode : Decoder α} {set : σ → Option α → σ} {encode : α → Json}
    (hslot : ∀ s d, slot.read s d = (decodeOptional decode d).map (set s))
    (hdecode : ∀ v, decodeOptional decode (encode v).draft = .ok (some v)) (hs : set s none = s) (v : Option α)
    (ps : List (SlotValue σ)) : fill s (⟨slot, v.map encode⟩ :: ps) = fill (set s v) ps := by
  cases v with
  | none =>
    rw [hs]
    rfl
  | some v => exact fill_some hslot (hdecode v) ps

theorem fill_text {set : σ → String → σ} (hslot : ∀ s d, slot.read s d = (decodeText d).map (set s)) (v : String)
    (ps : List (SlotValue σ)) : fill s (⟨slot, some (.string v)⟩ :: ps) = fill (set s v) ps :=
  fill_some hslot rfl ps

theorem fill_optionalText {set : σ → Option String → σ}
    (hslot : ∀ s d, slot.read s d = (decodeOptional decodeText d).map (set s)) (hs : set s none = s) (v : Option String)
    (ps : List (SlotValue σ)) : fill s (⟨slot, v.map .string⟩ :: ps) = fill (set s v) ps :=
  fill_optional hslot (fun _ => rfl) hs v ps

end

theorem mapM_draftItems {decode : Decoder β} {encode : α → Json} (read : α → β) {vs : List α}
    (h : ∀ v ∈ vs, decode (encode v).draft = .ok (read v)) :
    (draftItems (vs.map encode)).mapM decode = .ok (vs.map read) := by
  induction vs with
  | nil => rfl
  | cons v vs ih =>
    obtain ⟨hv, hvs⟩ := List.forall_mem_cons.1 h
    rw [List.map_cons, draftItems, List.mapM_cons, hv, ih hvs]
    rfl

/-- The items of an array need to be read back only as far as they are there. -/
theorem decodeList_array {decode : Decoder β} {encode : α → Json} (read : α → β) {vs : List α}
    (h : ∀ v ∈ vs, decode (encode v).draft = .ok (read v)) :
    decodeList decode (draft (.array (vs.map encode))) = .ok (vs.map read) := by
  rw [draft, decodeList, mapM_draftItems read h]
  rfl

end Json

open Json

theorem optionalMember_eq {α : Type} (name : String) (encode : α → Json) (v : Option α) :
    optionalMember name encode v = (v.map encode).toList.map (name, ·) := by
  cases v <;> rfl

theorem plain_optionalMember {α : Type} {name : String} {encode : α → Json} (h : ∀ v, Plain (encode v)) {v : Option α} :
    ∀ m ∈ optionalMember name encode v, Plain m.2 := by
  intro m hm
  cases v with
  | none => cases hm
  | some v =>
    obtain rfl := List.mem_singleton.1 hm
    exact h v

/-! ## Options -/

theorem distinct_fieldOptionSlots : Distinct fieldOptionSlots := by decide

namespace FieldOptions

/-- What is written for the slots of options. -/
def parts (o : FieldOptions) : List (SlotValue FieldOptions) :=
  List.zipWith SlotValue.mk fieldOptionSlots
    [o.formula.map .string, o.referencedFieldIds.map fun ids => .array (ids.map .string), o.linkedTableId.map .string,
      o.inverseLinkFieldId.map .string, o.prefersSingleRecordLink.map .bool, o.recordLinkFieldId.map .string,
      o.fieldIdInLinkedTable.map .string, o.aggregation.map .string]

theorem toJson_eq (o : FieldOptions) : o.toJson = .object (membersOf o.parts) := by
  simp only [toJson, optionalMember_eq]
  simp [membersOf, parts, fieldOptionSlots, Slot.optional, Slot.preset]

theorem fill_parts (o : FieldOptions) : fill {} o.parts = .ok o := by
  have hids (ids : List String) :
      decodeOptional (decodeList decodeText) (draft (.array (ids.map .string))) = .ok (some ids) := by
    show (decodeList decodeText (draft (.array (ids.map .string)))).map some = .ok (some ids)
    rw [decodeList_array id fun _ _ => rfl, List.map_id]
    rfl
  show fill _ [_, _, _, _, _, _, _, _] = _
  rw [fill_optionalText (fun _ _ => rfl) rfl, fill_optional (fun _ _ => rfl) hids rfl,
    fill_optionalText (fun _ _ => rfl) rfl, fill_optionalText (fun _ _ => rfl) rfl,
    fill_optional (fun _ _ => rfl) (fun _ => rfl) rfl, fill_optionalText (fun _ _ => rfl) rfl,
    fill_optionalText (fun _ _ => rfl) rfl, fill_optionalText (fun _ _ => rfl) rfl]
  rfl

theorem decode_toJson (origin : Origin) (o : FieldOptions) : decodeFieldOptions origin o.toJson.draft = .ok o := by
  rw [toJson_eq]
  refine decodeRecord_membersOf origin distinct_fieldOptionSlots rfl ?_ o.fill_parts
  simp [parts, fieldOptionSlots, Slot.optional, Slot.preset]

theorem plain_toJson (o : FieldOptions) : Plain o.toJson := by
  have hids (ids : List String) : Plain (.array (ids.map .string)) :=
    .array (List.forall_mem_map.2 fun id _ => .string id)
  rw [toJson]
  refine .object ?_
  simp only [List.forall_mem_append, and_assoc]
  exact ⟨plain_optionalMember .string, plain_optionalMember hids, plain_optionalMember .string,
    plain_optionalMember .string, plain_optionalMember .bool, plain_optionalMember .string,
    plain_optionalMember .string, plain_optionalMember .string⟩

end FieldOptions

/-! ## Fields -/

theorem distinct_fieldSlots (origin : Origin) : Distinct (fieldSlots origin) := by
  cases origin <;> decide

theorem FieldType.ofName_name (t : FieldType) : FieldType.ofName t.name = t := by
  cases t <;> decide

namespace Field

/-- The field as it is read, before it knows its table. -/
def unowned (f : Field) : Field := { f with tableId := "" }

/-- What is written for the slots of a field. -/
def parts (origin : Origin) (f : Field) : List (SlotValue Field) :=
  List.zipWith SlotValue.mk (fieldSlots origin)
    [some (.string f.id), some (.string f.name), some (.string f.type.name), some f.options.toJson,
      f.description.map .string]

theorem toJson_eq (origin : Origin) (f : Field) : f.toJson = .object (membersOf (f.parts origin)) := by
  simp only [toJson, optionalMember_eq]
  simp [membersOf, parts, fieldSlots, Slot.required, Slot.optional, Slot.preset]

theorem fill_parts (origin : Origin) (f : Field) :
    fill { id := "", name := "", type := .other } (f.parts origin) = .ok f.unowned := by
  have htype : decodeFieldType origin (draft (.string f.type.name)) = .ok f.type :=
    congrArg Except.ok f.type.ofName_name
  show fill _ [_, _, _, _, _] = _
  rw [fill_text (fun _ _ => rfl), fill_text (fun _ _ => rfl), fill_some (fun _ _ => rfl) htype,
    fill_some (fun _ _ => rfl) (f.options.decode_toJson origin), fill_optionalText (fun _ _ => rfl) rfl]
  rfl

theorem decode_toJson (origin : Origin) (f : Field) : decodeField origin f.toJson.draft = .ok f.unowned := by
  rw [toJson_eq origin]
  refine decodeRecord_membersOf origin (distinct_fieldSlots origin) rfl ?_ (f.fill_parts origin)
  simp [parts, fieldSlots, Slot.required, Slot.optional, Slot.preset]

theorem plain_toJson (f : Field) : Plain f.toJson := by
  rw [toJson]
  refine .object (List.forall_mem_append.2 ⟨?_, plain_optionalMember .string⟩)
  simp only [List.forall_mem_singleton, List.forall_mem_cons]
  exact ⟨.string f.id, .string f.name, .string f.type.name, f.options.plain_toJson⟩

end Field

/-! ## Tables -/

theorem distinct_tableSlots (origin : Origin) : Distinct (tableSlots origin) := by
  cases origin <;> decide

namespace Table

/-- The table as it is read, with fields that do not know it. -/
def unowned (t : Table) : Table := { t with fields := t.fields.map Field.unowned }

theorem owned_unowned (t : Table) : t.unowned.owned = t.owned := by
  simp [owned, unowned, Field.unowned]

theorem unowned_owned (t : Table) : t.owned.unowned = t.unowned := by
  simp [owned, unowned, Field.unowned]

/-- What is written for the slots of a table. -/
def parts (origin : Origin) (t : Table) : List (SlotValue Table) :=
  List.zipWith SlotValue.mk (tableSlots origin)
    [some (.string t.id), some (.string t.name), t.primaryFieldId.map .string,
      some (.array (t.fields.map Field.toJson))]

theorem toJson_eq (origin : Origin) (t : Table) : t.toJson = .object (membersOf (t.parts origin)) := by
  simp only [toJson, optionalMember_eq]
  simp [membersOf, parts, tableSlots, Slot.required, Slot.optional, Slot.preset]

theorem fill_parts (origin : Origin) (t : Table) :
    fill { id := "", name := "" } (t.parts origin) = .ok t.unowned := by
  have hfields := decodeList_array Field.unowned fun f (_ : f ∈ t.fields) => f.decode_toJson origin
  show fill _ [_, _, _, _] = _
  rw [fill_text (fun _ _ => rfl), fill_text (fun _ _ => rfl), fill_optionalText (fun _ _ => rfl) rfl,
    fill_some (fun _ _ => rfl) hfields]
  rfl

theorem decode_toJson (origin : Origin) (t : Table) : decodeTable origin t.toJson.draft = .ok t.unowned := by
  rw [toJson_eq origin]
  refine decodeRecord_membersOf origin (distinct_tableSlots origin) rfl ?_ (t.fill_parts origin)
  simp [parts, tableSlots, Slot.required, Slot.optional, Slot.preset]

theorem plain_toJson (t : Table) : Plain t.toJson := by
  have hfields : Plain (.array (t.fields.map Field.toJson)) :=
    .array (List.forall_mem_map.2 fun f _ => f.plain_toJson)
  rw [toJson]
  refine .object ?_
  simp only [List.forall_mem_append, List.forall_mem_singleton, List.forall_mem_cons]
  exact ⟨⟨⟨.string t.id, .string t.name⟩, plain_optionalMember .string⟩, hfields⟩

end Table

/-! ## Schemas -/

namespace Schema

/-- The schema as it is read: as it was declared, but for the tables that were noted in its fields. -/
def unowned (s : Schema) : Schema where
  declared := s.declared.map Table.unowned
  sound := (fault?_map Field.unowned (fun _ => rfl) (fun _ => rfl) s.declared).trans s.sound

theorem tables_unowned (s : Schema) : s.unowned.tables = s.tables := by
  rw [tables, tables, unowned, List.map_map]
  exact List.map_congr_left fun t _ => t.owned_unowned

theorem decodeSchemaTables_toJson (origin : Origin) (s : Schema) :
    decodeSchemaTables origin s.toJson.draft = .ok s.unowned.declared := by
  have htables : decodeTables origin s.tablesToJson.draft = .ok (s.tables.map Table.unowned) :=
    decodeList_array Table.unowned fun t _ => t.decode_toJson origin
  have hdeclared : s.tables.map Table.unowned = s.unowned.declared := by
    rw [tables, unowned, List.map_map]
    exact List.map_congr_left fun t _ => t.unowned_owned
  let slot : Slot (List Table) := .required "tables" (decodeTables origin) fun _ v => v
  have hfill : fill [] [⟨slot, some s.tablesToJson⟩] = .ok s.unowned.declared := by
    rw [fill_some (fun _ _ => rfl) htables, hdeclared]
    rfl
  exact decodeRecord_membersOf origin (List.pairwise_singleton _ slot) rfl (by simp) hfill

theorem ofDraft_toJson (origin : Origin) (s : Schema) : ofDraft origin s.toJson.draft = .ok s.unowned := by
  rw [ofDraft, decodeSchemaTables_toJson]
  simp only [ofTables_declared]

theorem ofText_of_isText {s : Schema} {text : String} (h : IsText text s.toJson) : ofText text = .ok s.unowned := by
  obtain ⟨r, ⟨hread, rfl⟩, hblank⟩ := h
  simp only [ofText, hread, ofDraft_toJson, hblank]
  rfl

theorem plain_toJson (s : Schema) : Plain s.toJson := by
  have htables : Plain s.tablesToJson := .array (List.forall_mem_map.2 fun t _ => t.plain_toJson)
  exact .object (List.forall_mem_singleton.2 htables)

/-- A schema that is written and read again is the same schema, and it is written in the same way. -/
theorem ofJson_toJson {tables : List Table} {s : Schema} (h : ofTables tables = .ok s) :
    ∃ s', ofJson s.toJson = .ok s' ∧ ofText s.toJson.text = .ok s' ∧
      (∀ text, IsText text s.toJson → ofText text = .ok s') ∧
      s'.tables = tables.map Table.owned ∧ s'.tables = s.tables ∧
      (∀ t ∈ s'.tables, ∀ f ∈ t.fields, f.tableId = t.id) ∧
      (∀ id, s'.table? id = s.table? id) ∧ (∀ id, s'.place? id = s.place? id) ∧ s'.toJson = s.toJson := by
  have htables := s.tables_unowned
  -- what is read differs from `s` in the tables noted in the declared fields, and these are noted anew
  refine ⟨s.unowned, ofDraft_toJson .value s, ofText_of_isText s.plain_toJson.isText, fun text => ofText_of_isText, ?_,
    htables, fun t ht f hf => tableId_of_mem_fields ht hf, ?_, ?_, ?_⟩
  · rw [htables, Schema.tables, declared_of_ofTables h]
  · intro id
    rw [table?, table?, htables]
  · intro id
    rw [place?, place?, placements, placements, htables]
  · rw [toJson, toJson, tablesToJson, tablesToJson, htables]

/-- A table of books, with a field of an unknown type that was noted for another table. -/
def shelfTables : List Table :=
  [{ id := "books", name := "Books \"A\"", primaryFieldId := some "title",
     fields := [
      { id := "title", name := "Title", type := .other, tableId := "films", description := some "two\nlines" },
      { id := "shelf", name := "Shelf", type := .multipleRecordLinks,
        options := { linkedTableId := some "shelves", prefersSingleRecordLink := some true } },
      { id := "label", name := "Label", type := .formula, options := { referencedFieldIds := some [] } }] }]

def shelfSchema : Schema := ⟨shelfTables, by decide⟩

def shelfJson : Json :=
  .object [("tables", .array [.object [
    ("id", .string "books"), ("name", .string "Books \"A\""), ("primaryFieldId", .string "title"),
    ("fields", .array [
      .object [("id", .string "title"), ("name", .string "Title"), ("type", .string "other"), ("options", .object []),
        ("description", .string "two\nlines")],
      .object [("id", .string "shelf"), ("name", .string "Shelf"), ("type", .string "multipleRecordLinks"),
        ("options", .object [("linkedTableId", .string "shelves"), ("prefersSingleRecordLink", .bool true)])],
      .object [("id", .string "label"), ("name", .string "Label"), ("type", .string "formula"),
        ("options", .object [("referencedFieldIds", .array [])])]])]])]

theorem ofJson_toJson_shelfTables :
    ofTables shelfTables = .ok shelfSchema ∧ shelfSchema.toJson = shelfJson ∧
      ∃ s', ofJson shelfJson = .ok s' ∧ ofText shelfJson.text = .ok s' ∧ s'.tables = shelfTables.map Table.owned ∧
        s'.toJson = shelfJson := by
  have hs : ofTables shelfTables = .ok shelfSchema := ofTables_declared shelfSchema
  have hjson : shelfSchema.toJson = shelfJson := rfl
  obtain ⟨s', hvalue, htext, -, htables, -, -, -, -, hagain⟩ := ofJson_toJson hs
  rw [hjson] at hvalue htext hagain
  exact ⟨hs, hjson, s', hvalue, htext, htables, hagain⟩

end Schema

end ComputedFields
