import OpenApi.Proofs.Codec.Parts

/-!
# The recursion of the decoder

What a payload is decoded to, as rules without a bound on the recursion. A payload is taken apart
down to its leaves, but a default is decoded anew and may need other defaults, so that there may be
no derivation at all.
-/

namespace OpenApi

/-- The record with the value, if there is one. -/
def Record.put (r : Record) (name : String) : Option Value → Record
  | some v => r.set name v
  | none => r

namespace Codec

mutual

/-- What a payload is decoded to, `defaults` being what the defaults of fields are decoded to. -/
inductive DecodesBy (c : Codec) (defaults : Json → DataType → Except CodecError Value → Prop) :
    Json → DataType → Except CodecError Value → Prop where
  | null (ty : DataType) : DecodesBy c defaults .null ty (.ok .null)
  | primitive (wire : Json) (kind : Primitive) :
      DecodesBy c defaults wire (.primitive kind) (.ok (.ofJson wire))
  | any (wire : Json) : DecodesBy c defaults wire .any (.ok (.ofJson wire))
  | dateTime (s : String) :
      DecodesBy c defaults (.string s) .dateTime ((readDateTime s).map .dateTime)
  | notText {wire : Json} (other : ∀ s, wire ≠ .string s) :
      DecodesBy c defaults wire .dateTime (.ok (.ofJson wire))
  | array {items : List Json} {element : DataType} {o : Except CodecError (List Value)}
      (each : ItemsBy c defaults element items o) :
      DecodesBy c defaults (.array items) (.array element) (o.map .array)
  | notArray {wire : Json} (element : DataType) (other : ∀ items, wire ≠ .array items) :
      DecodesBy c defaults wire (.array element) (.ok (.ofJson wire))
  | record {entries : List (String × Json)} {id : RecordId} {record : RecordType}
      {o : Except CodecError Record} (found : c.registry.record? id = some record)
      (each : FieldsBy c defaults entries record.fields ⟨id, record.name, []⟩ o) :
      DecodesBy c defaults (.object entries) (.record id) (o.map Record.toValue)
  | notObject {wire : Json} {id : RecordId} {record : RecordType}
      (found : c.registry.record? id = some record) (present : wire ≠ .null)
      (other : ∀ entries, wire ≠ .object entries) :
      DecodesBy c defaults wire (.record id) (.error (.expectedObject record.name))
  | foreign {wire : Json} {id : RecordId} (unknown : c.registry.record? id = none)
      (present : wire ≠ .null) : DecodesBy c defaults wire (.record id) (.error (.foreignRecord id))
  | member {wire : Json} {field tag : String} {mapping : OrderedMap String DataType} {ty : DataType}
      {o : Except CodecError Value} (tagged : c.payloadTag field wire = .ok tag)
      (listed : OrderedMap.get? mapping tag = some ty) (decodes : DecodesBy c defaults wire ty o) :
      DecodesBy c defaults wire (.union field mapping) o
  | untagged {wire : Json} {field : String} {e : CodecError} (mapping : OrderedMap String DataType)
      (present : wire ≠ .null) (untagged : c.payloadTag field wire = .error e) :
      DecodesBy c defaults wire (.union field mapping) (.error e)
  | unlisted {wire : Json} {field tag : String} {mapping : OrderedMap String DataType}
      (tagged : c.payloadTag field wire = .ok tag)
      (unlisted : OrderedMap.get? mapping tag = none) :
      DecodesBy c defaults wire (.union field mapping) (.error (.unknownTag tag))

/-- What the items of an array are decoded to, up to the first fault. -/
inductive ItemsBy (c : Codec) (defaults : Json → DataType → Except CodecError Value → Prop) :
    DataType → List Json → Except CodecError (List Value) → Prop where
  | nil (element : DataType) : ItemsBy c defaults element [] (.ok [])
  | cons {element : DataType} {wire : Json} {rest : List Json} {v : Value}
      {o : Except CodecError (List Value)} (first : DecodesBy c defaults wire element (.ok v))
      (others : ItemsBy c defaults element rest o) :
      ItemsBy c defaults element (wire :: rest) (o.map (v :: ·))
  | fault {element : DataType} {wire : Json} {e : CodecError} (rest : List Json)
      (first : DecodesBy c defaults wire element (.error e)) :
      ItemsBy c defaults element (wire :: rest) (.error e)

/-- What the fields of a record are decoded to, up to the first fault. -/
inductive FieldsBy (c : Codec) (defaults : Json → DataType → Except CodecError Value → Prop) :
    List (String × Json) → List Field → Record → Except CodecError Record → Prop where
  | nil (entries : List (String × Json)) (r : Record) : FieldsBy c defaults entries [] r (.ok r)
  | cons {entries : List (String × Json)} {f : Field} {rest : List Field} {r : Record}
      {v? : Option Value} {o : Except CodecError Record}
      (first : FieldBy c defaults entries f (.ok v?))
      (others : FieldsBy c defaults entries rest (r.put f.localName v?) o) :
      FieldsBy c defaults entries (f :: rest) r o
  | fault {entries : List (String × Json)} {f : Field} {e : CodecError} (rest : List Field)
      (r : Record) (first : FieldBy c defaults entries f (.error e)) :
      FieldsBy c defaults entries (f :: rest) r (.error e)

/-- What one field is decoded to from the entries of an object: nothing, if it has neither an entry
nor a default. -/
inductive FieldBy (c : Codec) (defaults : Json → DataType → Except CodecError Value → Prop) :
    List (String × Json) → Field → Except CodecError (Option Value) → Prop where
  | entry {entries : List (String × Json)} {f : Field} {wire : Json} {o : Except CodecError Value}
      (stands : OrderedMap.get? entries (c.fieldKey f) = some wire)
      (decodes : DecodesBy c defaults wire f.type o) : FieldBy c defaults entries f (o.map some)
  | fallback {entries : List (String × Json)} {f : Field} {wire : Json}
      {o : Except CodecError Value} (lacks : OrderedMap.get? entries (c.fieldKey f) = none)
      (default : f.default = some (.wire wire)) (decodes : defaults wire f.type o) :
      FieldBy c defaults entries f (o.map some)
  | held {entries : List (String × Json)} {f : Field} {v : Value}
      (lacks : OrderedMap.get? entries (c.fieldKey f) = none)
      (default : f.default = some (.held v)) : FieldBy c defaults entries f (.ok (some v))
  | absent {entries : List (String × Json)} {f : Field}
      (lacks : OrderedMap.get? entries (c.fieldKey f) = none) (default : f.default = none) :
      FieldBy c defaults entries f (.ok none)

end

/-- The recursion comes to an end with this outcome, defaults being decoded in their turn. -/
inductive Decodes (c : Codec) : Json → DataType → Except CodecError Value → Prop where
  | intro {wire : Json} {ty : DataType} {o : Except CodecError Value}
      (derived : DecodesBy c (Decodes c) wire ty o) : Decodes c wire ty o

variable {c : Codec} {fallback : Json → DataType → Decoded Value}
  {defaults : Json → DataType → Except CodecError Value → Prop}

/-! ## The decoder keeps to the rules -/

theorem selectMember_of_unlisted {tag : String} {mapping : List (String × DataType)} (wire : Json)
    (h : OrderedMap.get? mapping tag = none) :
    c.selectMember wire tag mapping = .error (.unknownTag tag) := by
  induction mapping with
  | nil => rfl
  | cons p rest ih =>
    obtain ⟨t, ty⟩ := p
    rw [OrderedMap.get?_cons] at h
    by_cases ht : t = tag
    · rw [if_pos ht] at h
      cases h
    · rw [if_neg ht] at h
      rw [selectMember, if_neg ht]
      exact ih h

mutual

theorem decodesBy_of_select {wire : Json} (present : wire ≠ .null) : (ty : DataType) →
    (decoded : DataType → Except CodecError Value) →
    (∀ ty', (∀ field mapping, ty' ≠ .union field mapping) →
      DecodesBy c defaults wire ty' (decoded ty')) →
    DecodesBy c defaults wire ty ((c.select wire ty).bind decoded)
  | .union field mapping, decoded, h => by
    rw [select]
    cases htag : c.payloadTag field wire with
    | error e => exact .untagged mapping present htag
    | ok tag =>
      change DecodesBy c defaults wire _ ((c.selectMember wire tag mapping).bind decoded)
      cases hlisted : OrderedMap.get? mapping tag with
      | none =>
        rw [selectMember_of_unlisted wire hlisted]
        exact .unlisted htag hlisted
      | some ty =>
        rw [selectMember_of_get? wire hlisted]
        -- The member is a smaller type, perhaps a union itself.
        exact .member htag hlisted
          (decodesBy_of_selects present mapping _ (OrderedMap.mem_of_get? hlisted) decoded h)
  | .primitive _, _, h | .dateTime, _, h | .array _, _, h | .record _, _, h | .any, _, h =>
    h _ (by simp)

theorem decodesBy_of_selects {wire : Json} (present : wire ≠ .null) :
    (mapping : List (String × DataType)) → ∀ p ∈ mapping,
    ∀ decoded : DataType → Except CodecError Value,
      (∀ ty', (∀ field mapping, ty' ≠ .union field mapping) →
        DecodesBy c defaults wire ty' (decoded ty')) →
      DecodesBy c defaults wire p.2 ((c.select wire p.2).bind decoded)
  | [], _, hp => nomatch hp
  | (_, ty) :: rest, p, hp => by
    rcases List.mem_cons.1 hp with rfl | hp
    · exact decodesBy_of_select present ty
    · exact decodesBy_of_selects present rest p hp

end

/-- The parts of a payload are there if it has any, and they are decoded by the rules. -/
structure PartsBy (c : Codec) (defaults : Json → DataType → Except CodecError Value → Prop)
    (fallback : Json → DataType → Decoded Value) (wire : Json) (parts : Parts) : Prop where
  items : ∀ part, parts.items? = some part → ∃ items, wire = .array items ∧
    ∀ element, ItemsBy c defaults element items (part element).outcome
  noItems : parts.items? = none → ∀ items, wire ≠ .array items
  fields : ∀ part, parts.fields? = some part → ∃ entries, wire = .object entries ∧
    ∀ fs r, FieldsBy c defaults entries fs r (decodeFields c fallback part fs r).outcome
  noFields : parts.fields? = none → ∀ entries, wire ≠ .object entries

theorem outcome_decodeRecordParts {id : RecordId} {record : RecordType}
    (found : c.registry.record? id = some record)
    (parts : OrderedMap String (DataType → Decoded Value)) :
    (decodeRecordParts c fallback parts id).outcome =
      (decodeFields c fallback parts record.fields ⟨id, record.name, []⟩).outcome := by
  rw [decodeRecordParts, record_of_found found]
  exact Logged.outcome_bind_of_ok rfl _

theorem decodesBy_of_partsBy {wire : Json} (present : wire ≠ .null) {parts : Parts}
    (h : PartsBy c defaults fallback wire parts) (ty : DataType) :
    DecodesBy c defaults wire ty (decodeParts c fallback wire parts ty).outcome := by
  unfold decodeParts
  rw [Logged.outcome_bind, Logged.outcome_ofExcept]
  refine decodesBy_of_select present ty _ ?_
  intro ty' hunion
  cases ty' with
  | primitive kind => exact .primitive wire kind
  | any => exact .any wire
  | union field mapping => exact absurd rfl (hunion field mapping)
  | dateTime =>
    cases wire with
    | string s =>
      simp only [Logged.outcome_bind_pure]
      exact .dateTime s
    | _ => exact .notText (by simp)
  | array element =>
    cases hitems : parts.items? with
    | none => exact .notArray element (h.noItems hitems)
    | some part =>
      obtain ⟨items, rfl, hpart⟩ := h.items part hitems
      simp only [Logged.outcome_bind_pure]
      exact .array (hpart element)
  | record id =>
    cases hfields : parts.fields? with
    | none =>
      cases hfound : c.registry.record? id with
      | none =>
        simp only [Codec.record, hfound]
        exact .foreign hfound present
      | some record =>
        simp only [record_of_found hfound]
        exact .notObject hfound present (h.noFields hfields)
    | some part =>
      obtain ⟨entries, rfl, hpart⟩ := h.fields part hfields
      simp only [Logged.outcome_bind_pure]
      cases hfound : c.registry.record? id with
      | none =>
        simp only [decodeRecordParts, Codec.record, hfound]
        exact .foreign hfound present
      | some record =>
        rw [outcome_decodeRecordParts hfound]
        exact .record hfound (hpart record.fields _)

theorem fieldsBy_decodeFields {entries : List (String × Json)}
    (defaulted : ∀ wire ty, defaults wire ty (fallback wire ty).outcome)
    (each : ∀ p ∈ entries, ∀ ty,
      DecodesBy c defaults p.2 ty (decodeWith c fallback p.2 ty).outcome)
    (fs : List Field) (r : Record) :
    FieldsBy c defaults entries fs r
      (decodeFields c fallback (fieldParts c fallback entries) fs r).outcome := by
  induction fs generalizing r with
  | nil => exact .nil entries r
  | cons f rest ih =>
    have hparts : OrderedMap.get? (fieldParts c fallback entries) (c.fieldKey f) =
        (OrderedMap.get? entries (c.fieldKey f)).map (decodeWith c fallback) :=
      get?_fieldParts entries (c.fieldKey f)
    -- An entry and a default go into the record alike.
    have hput : ∀ {x : Decoded Value}, FieldBy c defaults entries f (x.outcome.map some) →
        FieldsBy c defaults entries (f :: rest) r (x >>= fun v => decodeFields c fallback
          (fieldParts c fallback entries) rest (r.set f.localName v)).outcome := by
      intro x hx
      rw [Logged.outcome_bind]
      cases ho : x.outcome with
      | error e =>
        rw [ho] at hx
        exact .fault rest r hx
      | ok v =>
        rw [ho] at hx
        exact .cons hx (ih (r.set f.localName v))
    rw [decodeFields]
    cases hentry : OrderedMap.get? entries (c.fieldKey f) with
    | some wire =>
      rw [hentry, Option.map_some] at hparts
      simp only [hparts]
      exact hput (.entry hentry (each _ (OrderedMap.mem_of_get? hentry) f.type))
    | none =>
      rw [hentry, Option.map_none] at hparts
      cases hdefault : f.default with
      | none =>
        simp only [hparts]
        exact .cons (.absent hentry hdefault) (ih r)
      | some default =>
        cases default with
        | wire wire =>
          simp only [hparts]
          exact hput (.fallback hentry hdefault (defaulted wire f.type))
        | held v =>
          simp only [hparts]
          exact .cons (.held hentry hdefault) (ih (r.set f.localName v))

mutual

/-- The decoder derives its outcome by the rules, given what it falls back on. -/
theorem decodesBy_decodeWith (defaulted : ∀ wire ty, defaults wire ty (fallback wire ty).outcome) :
    (wire : Json) → (ty : DataType) →
      DecodesBy c defaults wire ty (decodeWith c fallback wire ty).outcome
  | .null, ty => .null ty
  | .array items, ty => by
    refine decodesBy_of_partsBy (by simp) ⟨?_, by simp, by simp, by simp⟩ ty
    intro part hpart
    cases hpart
    exact ⟨items, rfl, itemsBy_decodeItems defaulted items⟩
  | .object entries, ty => by
    refine decodesBy_of_partsBy (by simp) ⟨by simp, by simp, ?_, by simp⟩ ty
    intro part hpart
    cases hpart
    exact ⟨entries, rfl, fieldsBy_decodeFields defaulted (decodesBy_entries defaulted entries)⟩
  | .bool _, ty | .number _, ty | .string _, ty =>
    decodesBy_of_partsBy (by simp) ⟨by simp, by simp, by simp, by simp⟩ ty

theorem itemsBy_decodeItems (defaulted : ∀ wire ty, defaults wire ty (fallback wire ty).outcome) :
    (items : List Json) → (element : DataType) →
      ItemsBy c defaults element items (decodeItems c fallback items element).outcome
  | [], element => .nil element
  | wire :: rest, element => by
    have hwire := decodesBy_decodeWith defaulted wire element
    rw [decodeItems, Logged.outcome_bind]
    cases ho : (decodeWith c fallback wire element).outcome with
    | error e =>
      rw [ho] at hwire
      exact .fault rest hwire
    | ok v =>
      rw [ho] at hwire
      simp only [Except.bind, Logged.outcome_bind_pure]
      exact .cons hwire (itemsBy_decodeItems defaulted rest element)

theorem decodesBy_entries (defaulted : ∀ wire ty, defaults wire ty (fallback wire ty).outcome) :
    (entries : List (String × Json)) → ∀ p ∈ entries, ∀ ty,
      DecodesBy c defaults p.2 ty (decodeWith c fallback p.2 ty).outcome
  | [], _, hp => nomatch hp
  | (_, wire) :: rest, p, hp => by
    rcases List.mem_cons.1 hp with rfl | hp
    · exact decodesBy_decodeWith defaulted wire
    · exact decodesBy_entries defaulted rest p hp

end

/-! ## The rules say what the decoder does -/

/-- A field of one of the registry's records. -/
def IsField (c : Codec) (f : Field) : Prop :=
  ∃ record ∈ c.registry.records, f ∈ record.fields

/-- The record type that an id names has the field. -/
def Declares (c : Codec) (id : RecordId) (f : Field) : Prop :=
  ∃ record, c.registry.record? id = some record ∧ f ∈ record.fields

/-- A payload and a type that decoding may fall back on: the default of a field. -/
def IsDefault (c : Codec) (wire : Json) (ty : DataType) : Prop :=
  ∃ f, IsField c f ∧ f.default = some (.wire wire) ∧ f.type = ty

/-- What the first says of a default, the second says too. -/
def OnDefaults (c : Codec) (P Q : Json → DataType → Except CodecError Value → Prop) : Prop :=
  ∀ wire ty, IsDefault c wire ty → ∀ o, P wire ty o → Q wire ty o

theorem isField_of_found {id : RecordId} {record : RecordType}
    (found : c.registry.record? id = some record) : ∀ f ∈ record.fields, IsField c f :=
  fun _ hf => ⟨record, List.mem_of_getElem? found, hf⟩

theorem exists_parts {wire : Json} (present : wire ≠ .null) :
    ∃ parts, ∀ ty, decodeWith c fallback wire ty = decodeParts c fallback wire parts ty := by
  cases wire with
  | null => exact absurd rfl present
  | array items => exact ⟨{ items? := some (decodeItems c fallback items) }, fun _ => rfl⟩
  | object entries => exact ⟨{ fields? := some (fieldParts c fallback entries) }, fun _ => rfl⟩
  | _ => exact ⟨{}, fun _ => rfl⟩

theorem decodeWith_congr {wire : Json} {ty ty' : DataType}
    (h : c.select wire ty = c.select wire ty') :
    decodeWith c fallback wire ty = decodeWith c fallback wire ty' := by
  by_cases present : wire = .null
  · rw [present, decodeWith, decodeWith]
  · obtain ⟨parts, hparts⟩ := @exists_parts c fallback wire present
    rw [hparts, hparts]
    exact decodeParts_congr h

theorem decodeWith_of_select_error {wire : Json} {ty : DataType} {e : CodecError}
    (present : wire ≠ .null) (h : c.select wire ty = .error e) :
    (decodeWith c fallback wire ty).outcome = .error e := by
  obtain ⟨parts, hparts⟩ := @exists_parts c fallback wire present
  rw [hparts]
  unfold decodeParts
  rw [h]
  rfl

theorem decodeWith_notObject {wire : Json} {id : RecordId} (present : wire ≠ .null)
    (other : ∀ entries, wire ≠ .object entries) :
    (decodeWith c fallback wire (.record id)).outcome =
      (c.record id).bind fun record => .error (.expectedObject record.name) := by
  cases wire with
  | null => exact absurd rfl present
  | object entries => exact absurd rfl (other entries)
  | _ =>
    change (Logged.ofExcept (c.record id) >>= _).outcome = _
    rw [Logged.outcome_bind]
    rfl

theorem decodeWith_foreign {wire : Json} {id : RecordId} (present : wire ≠ .null)
    (unknown : c.registry.record? id = none) :
    (decodeWith c fallback wire (.record id)).outcome = .error (.foreignRecord id) := by
  have hrecord : c.record id = .error (.foreignRecord id) := by
    rw [Codec.record, unknown]
  by_cases hobject : ∃ entries, wire = .object entries
  · obtain ⟨entries, rfl⟩ := hobject
    change (decodeRecordParts c fallback _ id >>= fun r => pure r.toValue).outcome = _
    rw [decodeRecordParts, hrecord]
    rfl
  · rw [decodeWith_notObject present (by simpa using hobject), hrecord]
    rfl

theorem ne_null_of_payloadTag {wire : Json} {field tag : String}
    (h : c.payloadTag field wire = .ok tag) : wire ≠ .null := by
  rintro rfl
  cases h

mutual

theorem DecodesBy.outcome {wire : Json} {ty : DataType} {o : Except CodecError Value}
    (h : OnDefaults c defaults fun wire ty o => (fallback wire ty).outcome = o) :
    DecodesBy c defaults wire ty o → (decodeWith c fallback wire ty).outcome = o
  | .null ty => by rw [decodeWith]; rfl
  | .primitive wire kind => decodeWith_primitive wire kind
  | .any wire => decodeWith_any wire
  | .dateTime s => Logged.outcome_bind_pure (Logged.ofExcept (readDateTime s)) Value.dateTime
  | .notText other => decodeWith_notText other
  | @DecodesBy.array _ _ items element _ each => by
    rw [← each.outcome h]
    exact Logged.outcome_bind_pure (decodeItems c fallback items element) Value.array
  | .notArray element other => decodeWith_notArray element other
  | .record found each => by
    rw [decodeWith_record found, each.outcome h (isField_of_found found)]
  | .notObject found present other => by
    rw [decodeWith_notObject present other, record_of_found found]
    rfl
  | .foreign unknown present => decodeWith_foreign present unknown
  | .member tagged listed decodes => by
    rw [decodeWith_congr (select_union tagged listed)]
    exact decodes.outcome h
  | .untagged mapping present untagged => by
    refine decodeWith_of_select_error present ?_
    rw [select, untagged]
    rfl
  | .unlisted tagged unlisted => by
    refine decodeWith_of_select_error (ne_null_of_payloadTag tagged) ?_
    rw [select, tagged]
    exact selectMember_of_unlisted _ unlisted

theorem ItemsBy.outcome {element : DataType} {items : List Json}
    {o : Except CodecError (List Value)}
    (h : OnDefaults c defaults fun wire ty o => (fallback wire ty).outcome = o) :
    ItemsBy c defaults element items o → (decodeItems c fallback items element).outcome = o
  | .nil element => rfl
  | .cons first others => by
    rw [decodeItems, Logged.outcome_bind_of_ok (first.outcome h), Logged.outcome_bind_pure,
      others.outcome h]
  | .fault rest first => by
    rw [decodeItems, Logged.outcome_bind, first.outcome h]
    rfl

theorem FieldsBy.outcome {entries : List (String × Json)} {fs : List Field} {r : Record}
    {o : Except CodecError Record}
    (h : OnDefaults c defaults fun wire ty o => (fallback wire ty).outcome = o)
    (fields : ∀ f ∈ fs, IsField c f) :
    FieldsBy c defaults entries fs r o →
      (decodeFields c fallback (fieldParts c fallback entries) fs r).outcome = o
  | .nil entries r => rfl
  | .cons first others => by
    rw [first.outcome h (fields _ List.mem_cons_self)]
    exact others.outcome h fun f hf => fields f (List.mem_cons_of_mem _ hf)
  | .fault rest r first => first.outcome h (fields _ List.mem_cons_self) rest r

theorem FieldBy.outcome {entries : List (String × Json)} {f : Field}
    {o : Except CodecError (Option Value)}
    (h : OnDefaults c defaults fun wire ty o => (fallback wire ty).outcome = o)
    (field : IsField c f) :
    FieldBy c defaults entries f o → ∀ (rest : List Field) (r : Record),
      (decodeFields c fallback (fieldParts c fallback entries) (f :: rest) r).outcome =
        o.bind fun v? => (decodeFields c fallback (fieldParts c fallback entries) rest
          (r.put f.localName v?)).outcome
  | @FieldBy.entry _ _ _ _ _ o stands decodes, rest, r => by
    rw [decodeFields, get?_fieldParts, stands]
    simp only [Option.map_some, Logged.outcome_bind, decodes.outcome h]
    cases o <;> rfl
  | @FieldBy.fallback _ _ _ _ _ o lacks default decodes, rest, r => by
    rw [decodeFields, get?_fieldParts, lacks, default]
    simp only [Option.map_none, Logged.outcome_bind, h _ _ ⟨_, field, default, rfl⟩ _ decodes]
    cases o <;> rfl
  | .held lacks default, rest, r => by
    rw [decodeFields, get?_fieldParts, lacks, default]
    rfl
  | .absent lacks default, rest, r => by
    rw [decodeFields, get?_fieldParts, lacks, default]
    rfl

end

end Codec

end OpenApi
