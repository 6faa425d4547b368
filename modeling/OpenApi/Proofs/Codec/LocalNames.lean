import OpenApi.Proofs.Codec.Encoding
import OpenApi.Proofs.Registry.Reordered
import OpenApi.Proofs.Registry.WellFormed

/-!
# Encoding with local names

In the local mode the encoder does what it does in the wire mode, with other keys: the fields of
records go by their local names, and so do tags. The tag is where the modes could part, since each
looks for it among keys of its own spelling.
-/

namespace OpenApi

namespace DataType

/-- The record that the type is. -/
def recordId? : DataType → Option RecordId
  | .record id => some id
  | _ => none

theorem eq_record_of_recordId? {ty : DataType} {id : RecordId} (h : ty.recordId? = some id) :
    ty = .record id := by
  cases ty with
  | record id' => rw [Option.some.inj h]
  | _ => cases h

/-- In the members of a union, no field takes the local name of the tag unless it is the tag; and so
for the elements of an array. -/
def TagsApart (r : Registry) : DataType → Prop
  | .array element => element.TagsApart r
  | .union field mapping => ∀ p ∈ mapping, ∀ id ∈ p.2.recordId?, ∀ record ∈ r.record? id,
      ∀ f ∈ record.fields, f.localName = localName field → f.wireName = field
  | _ => True

instance TagsApart.decidable (r : Registry) : (ty : DataType) → Decidable (ty.TagsApart r)
  | .array element => TagsApart.decidable r element
  | .union field mapping =>
    inferInstanceAs (Decidable (∀ p ∈ mapping, ∀ id ∈ p.2.recordId?, ∀ record ∈ r.record? id,
      ∀ f ∈ record.fields, f.localName = localName field → f.wireName = field))
  | .primitive _ | .dateTime | .record _ | .any => isTrue trivial

theorem TagsApart.elementType {r : Registry} {ty : DataType} (apart : ty.TagsApart r) :
    ty.elementType.TagsApart r := by
  cases ty with
  | array element => exact apart
  | _ => trivial

theorem TagsApart.of_tagOf? {r : Registry} {field tag : String}
    {mapping : OrderedMap String DataType} {id : RecordId} {record : RecordType}
    (apart : (DataType.union field mapping).TagsApart r) (listed : tagOf? mapping id = some tag)
    (found : r.record? id = some record) :
    ∀ f ∈ record.fields, f.localName = localName field → f.wireName = field := by
  obtain ⟨⟨t, ty⟩, hp, hid⟩ := List.exists_of_findSome?_eq_some listed
  refine apart (t, ty) hp id ?_ record found
  cases ty with
  | record id' =>
    by_cases e : id' = id
    · simp [recordId?, e]
    · simp [e] at hid
  | _ => cases hid

end DataType

/-- The types of all fields have their tags apart. -/
def Registry.TagsApart (r : Registry) : Prop :=
  ∀ record ∈ r.records, ∀ f ∈ record.fields, f.type.TagsApart r

instance (r : Registry) : Decidable r.TagsApart :=
  inferInstanceAs (Decidable (∀ record ∈ r.records, ∀ f ∈ record.fields, f.type.TagsApart r))

theorem RecordType.byWireName?_of_mem {record : RecordType} (once : record.NamesOnce) {f : Field}
    (mem : f ∈ record.fields) : record.byWireName? f.wireName = some f := by
  cases hfound : record.byWireName? f.wireName with
  | none =>
    have hnone := List.find?_eq_none.1 hfound f mem
    simp at hnone
  | some g =>
    have hname : g.wireName = f.wireName := by simpa using List.find?_some hfound
    rw [List.inj_on_of_nodup_map once.2 (List.mem_of_find?_eq_some hfound) mem hname]

namespace Codec

/-! ## The local form of a payload -/

/-- The local key for a wire key of a record: the name of its field, else that of the tag. -/
def localKey (record : RecordType) (key : String) : String :=
  ((record.byWireName? key).map (·.localName)).getD (localName key)

/-- What stands under a wire key of a record. Each part of the record has its own local form. -/
def localPart (record : RecordType) (parts : OrderedMap String (DataType → Json → Json))
    (key : String) (j : Json) : Json :=
  match record.byWireName? key with
  | some f => ((OrderedMap.get? parts f.localName).map fun part => part f.type j).getD j
  | none => j

def localEntries (record : RecordType) (parts : OrderedMap String (DataType → Json → Json))
    (entries : List (String × Json)) : List (String × Json) :=
  entries.map fun p => (localKey record p.1, localPart record parts p.1 p.2)

mutual

/-- A payload that was written for the value, with local names in place of the wire names. The keys
of untyped objects stay. -/
def localForm (r : Registry) : Value → DataType → Json → Json
  | .array items, ty, .array forms => .array (localItems r items ty.elementType forms)
  | .object fields, _, .object entries => .object (localFields r fields entries)
  | .record id _ fields, _, .object entries =>
    match r.record? id with
    | some record => .object (localEntries record (localParts r fields) entries)
    | none => .object entries
  | _, _, j => j

def localItems (r : Registry) : List Value → DataType → List Json → List Json
  | v :: rest, element, j :: forms => localForm r v element j :: localItems r rest element forms
  | _, _, forms => forms

/-- The fields of an untyped object. -/
def localFields (r : Registry) : List (String × Value) → List (String × Json) →
    List (String × Json)
  | (_, v) :: rest, (key, j) :: entries => (key, localForm r v .any j) :: localFields r rest entries
  | _, entries => entries

def localParts (r : Registry) : List (String × Value) →
    List (String × (DataType → Json → Json))
  | [] => []
  | (key, v) :: rest =>
    if v.isNull then localParts r rest else (key, localForm r v) :: localParts r rest

end

theorem localForm_string (r : Registry) (v : Value) (ty : DataType) (s : String) :
    localForm r v ty (.string s) = .string s := by
  cases v <;> rw [localForm.eq_def]

theorem isNull_localForm (r : Registry) (v : Value) (ty : DataType) (j : Json) :
    (localForm r v ty j).isNull = j.isNull := by
  cases v <;> cases j <;> rw [localForm.eq_def] <;> first | rfl | (dsimp only; split <;> rfl)

/-! ## The parts of a record -/

/-- The fields of a record value that are not null. -/
def presentFields (fields : List (String × Value)) : List (String × Value) :=
  fields.filter (!·.2.isNull)

theorem encodeParts_eq_map (c : Codec) (fields : List (String × Value)) :
    encodeParts c fields = (presentFields fields).map fun p => (p.1, encode c p.2) := by
  induction fields with
  | nil => rfl
  | cons p rest ih =>
    obtain ⟨key, v⟩ := p
    rw [encodeParts, ih]
    by_cases h : v.isNull = true <;> simp [h, presentFields]

theorem localParts_eq_map (r : Registry) (fields : List (String × Value)) :
    localParts r fields = (presentFields fields).map fun p => (p.1, localForm r p.2) := by
  induction fields with
  | nil => rfl
  | cons p rest ih =>
    obtain ⟨key, v⟩ := p
    rw [localParts, ih]
    by_cases h : v.isNull = true <;> simp [h, presentFields]

theorem get?_encodeParts_eq (c : Codec) (fields : List (String × Value)) (name : String) :
    OrderedMap.get? (encodeParts c fields) name =
      (OrderedMap.get? (presentFields fields) name).map (encode c) := by
  rw [encodeParts_eq_map]
  exact OrderedMap.get?_map _ _ _

theorem get?_localParts (r : Registry) (fields : List (String × Value)) (name : String) :
    OrderedMap.get? (localParts r fields) name =
      (OrderedMap.get? (presentFields fields) name).map (localForm r) := by
  rw [localParts_eq_map]
  exact OrderedMap.get?_map _ _ _

theorem mem_of_get?_presentFields {fields : List (String × Value)} {name : String} {v : Value}
    (h : OrderedMap.get? (presentFields fields) name = some v) : (name, v) ∈ fields :=
  (List.mem_filter.1 (OrderedMap.mem_of_get? h)).1

/-! ## The entries of a record -/

section Entries

variable {r : Registry} {record : RecordType} {fields : List (String × Value)}
  {entries : List (String × Json)}

theorem localPart_string (key tag : String) :
    localPart record (localParts r fields) key (.string tag) = .string tag := by
  unfold localPart
  split
  · rename_i f _
    rw [get?_localParts]
    cases OrderedMap.get? (presentFields fields) f.localName with
    | none => rfl
    | some v => exact localForm_string r v f.type tag
  · rfl

theorem isNull_localPart (key : String) (j : Json) :
    (localPart record (localParts r fields) key j).isNull = j.isNull := by
  unfold localPart
  split
  · rename_i f _
    rw [get?_localParts]
    cases OrderedMap.get? (presentFields fields) f.localName with
    | none => rfl
    | some v => exact isNull_localForm r v f.type j
  · rfl

theorem localKey_field (once : record.NamesOnce) {f : Field} (mem : f ∈ record.fields) :
    localKey record f.wireName = f.localName := by
  rw [localKey, RecordType.byWireName?_of_mem once mem]
  rfl

theorem localKey_of_named (named : Registry.Named record) (key : String) :
    localKey record key = localName key := by
  rw [localKey]
  cases hfound : record.byWireName? key with
  | none => rfl
  | some f =>
    have hname : f.wireName = key := by simpa using List.find?_some hfound
    rw [Option.map_some, Option.getD_some, named f (List.mem_of_find?_eq_some hfound), hname]

theorem localPart_field (once : record.NamesOnce) {f : Field} (mem : f ∈ record.fields) (j : Json) :
    localPart record (localParts r fields) f.wireName j =
      ((OrderedMap.get? (presentFields fields) f.localName).map
        fun v => localForm r v f.type j).getD j := by
  rw [localPart, RecordType.byWireName?_of_mem once mem]
  dsimp only
  rw [get?_localParts, Option.map_map]
  rfl

/-- All keys are wire names of the record. -/
def WireKeys (record : RecordType) (entries : List (String × Json)) : Prop :=
  ∀ key ∈ OrderedMap.keys entries, ∃ f ∈ record.fields, f.wireName = key

theorem WireKeys.nil : WireKeys record [] := by
  rintro _ ⟨⟩

theorem WireKeys.insert (h : WireKeys record entries) {f : Field} (mem : f ∈ record.fields)
    (j : Json) : WireKeys record (OrderedMap.insert entries f.wireName j) := by
  intro key hkey
  rcases OrderedMap.mem_keys_insert.1 hkey with hkey | rfl
  · exact h key hkey
  · exact ⟨f, mem, rfl⟩

theorem WireKeys.inj (once : record.NamesOnce) (h : WireKeys record entries) {f : Field}
    (mem : f ∈ record.fields) :
    ∀ key ∈ OrderedMap.keys entries, localKey record key = localKey record f.wireName →
      key = f.wireName := by
  intro key hkey hsame
  obtain ⟨g, hg, rfl⟩ := h key hkey
  rw [localKey_field once hg, localKey_field once mem] at hsame
  rw [List.inj_on_of_nodup_map once.1 hg mem hsame]

theorem insert_localEntries (once : record.NamesOnce) (h : WireKeys record entries) {f : Field}
    (mem : f ∈ record.fields) {j form : Json}
    (hform : localPart record (localParts r fields) f.wireName j = form) :
    OrderedMap.insert (localEntries record (localParts r fields) entries) f.localName form =
      localEntries record (localParts r fields) (OrderedMap.insert entries f.wireName j) := by
  rw [← hform, ← localKey_field once mem]
  exact OrderedMap.insert_map_keys_of_inj _ _ (h.inj once mem) j

theorem encodeFields_local (once : record.NamesOnce)
    (each : ∀ f ∈ record.fields, ∀ v, OrderedMap.get? (presentFields fields) f.localName = some v →
      encode ⟨r, .local⟩ v f.type = (encode ⟨r, .wire⟩ v f.type).map (localForm r v f.type))
    {fs : List Field} (sub : ∀ f ∈ fs, f ∈ record.fields) (h : WireKeys record entries) :
    encodeFields ⟨r, .local⟩ record (encodeParts ⟨r, .local⟩ fields) fs
        (localEntries record (localParts r fields) entries) =
      (encodeFields ⟨r, .wire⟩ record (encodeParts ⟨r, .wire⟩ fields) fs entries).map
        (localEntries record (localParts r fields)) := by
  induction fs generalizing entries with
  | nil => rfl
  | cons f rest ih =>
    obtain ⟨hf, hrest⟩ := List.forall_mem_cons.1 sub
    have hpart : ∀ j, localPart record (localParts r fields) f.wireName j = _ :=
      localPart_field once hf
    rw [encodeFields, encodeFields, get?_encodeParts_eq, get?_encodeParts_eq]
    cases hv : OrderedMap.get? (presentFields fields) f.localName with
    | none =>
      by_cases hoptional : record.isOptional f.localName = true
      · simp only [Option.map_none, if_pos hoptional]
        exact ih hrest h
      · rw [hv] at hpart
        have hinsert := insert_localEntries once h hf (hpart .null)
        simp only [Option.map_none, if_neg hoptional, fieldKey]
        rw [← ih hrest (h.insert hf .null), ← hinsert]
        rfl
    | some v =>
      simp only [Option.map_some, each f hf v hv, fieldKey]
      cases hj : encode ⟨r, .wire⟩ v f.type with
      | error e => rfl
      | ok j =>
        rw [hv] at hpart
        have hinsert := insert_localEntries once h hf (hpart j)
        change encodeFields _ _ _ _ (OrderedMap.insert _ f.localName (localForm r v f.type j)) =
          (encodeFields _ _ _ _ (OrderedMap.insert _ f.wireName j)).map _
        rw [← ih hrest (h.insert hf j), ← hinsert]
        rfl

theorem wireKeys_encodeFields {parts : FieldParts} {fs : List Field} {out : List (String × Json)}
    (sub : ∀ f ∈ fs, f ∈ record.fields) (h : WireKeys record entries)
    (encoded : encodeFields ⟨r, .wire⟩ record parts fs entries = .ok out) :
    WireKeys record out := by
  induction fs generalizing entries with
  | nil =>
    cases encoded
    exact h
  | cons f rest ih =>
    obtain ⟨hf, hrest⟩ := List.forall_mem_cons.1 sub
    rw [encodeFields] at encoded
    split at encoded
    · obtain ⟨j, _, encoded⟩ := Json.Typed.bind_eq_ok_iff.1 encoded
      exact ih hrest (h.insert hf j) encoded
    · split at encoded
      · exact ih hrest h encoded
      · exact ih hrest (h.insert hf .null) encoded

theorem encodeRecordParts_local {id : RecordId} (found : r.record? id = some record)
    (once : record.NamesOnce)
    (each : ∀ f ∈ record.fields, ∀ v, OrderedMap.get? (presentFields fields) f.localName = some v →
      encode ⟨r, .local⟩ v f.type = (encode ⟨r, .wire⟩ v f.type).map (localForm r v f.type)) :
    encodeRecordParts ⟨r, .local⟩ id (encodeParts ⟨r, .local⟩ fields) =
      (encodeRecordParts ⟨r, .wire⟩ id (encodeParts ⟨r, .wire⟩ fields)).map
        (localEntries record (localParts r fields)) := by
  rw [encodeRecordParts, encodeRecordParts, record_of_found found, record_of_found found]
  exact encodeFields_local once each (fun _ hf => hf) .nil

theorem wireKeys_encodeRecordParts {id : RecordId} {parts : FieldParts}
    {out : List (String × Json)} (found : r.record? id = some record)
    (encoded : encodeRecordParts ⟨r, .wire⟩ id parts = .ok out) : WireKeys record out := by
  rw [encodeRecordParts, record_of_found found] at encoded
  exact wireKeys_encodeFields (fun _ hf => hf) .nil encoded

end Entries

/-! ## Tags -/

section Tags

variable {r : Registry} {record : RecordType} {fields : List (String × Value)} {field : String}
  {entries : List (String × Json)}

theorem tag_of_localKey (once : record.NamesOnce) (named : Registry.Named record)
    (apart : ∀ f ∈ record.fields, f.localName = localName field → f.wireName = field)
    (h : WireKeys record entries) :
    ∀ key ∈ OrderedMap.keys entries, localKey record key = localKey record field → key = field := by
  intro key hkey hsame
  obtain ⟨f, hf, rfl⟩ := h key hkey
  rw [localKey_field once hf, localKey_of_named named] at hsame
  exact apart f hf hsame

theorem tag_localEntries (once : record.NamesOnce) (named : Registry.Named record)
    (apart : ∀ f ∈ record.fields, f.localName = localName field → f.wireName = field)
    (h : WireKeys record entries) :
    ((OrderedMap.get? (localEntries record (localParts r fields) entries)
        (localName field)).filter (!·.isNull)).isSome =
      ((OrderedMap.get? entries field).filter (!·.isNull)).isSome := by
  rw [← localKey_of_named named field, localEntries,
    OrderedMap.get?_map_keys_of_inj _ _ (tag_of_localKey once named apart h)]
  cases OrderedMap.get? entries field with
  | none => rfl
  | some j =>
    have hnull : (localPart record (localParts r fields) field j).isNull = j.isNull :=
      isNull_localPart field j
    cases hj : j.isNull <;> simp [hnull, hj, Option.filter]

theorem insert_tag (once : record.NamesOnce) (named : Registry.Named record)
    (apart : ∀ f ∈ record.fields, f.localName = localName field → f.wireName = field)
    (h : WireKeys record entries) (tag : String) :
    OrderedMap.insert (localEntries record (localParts r fields) entries) (localName field)
        (.string tag) =
      localEntries record (localParts r fields)
        (OrderedMap.insert entries field (.string tag)) := by
  have hinsert := OrderedMap.insert_map_keys_of_inj (localKey record)
    (localPart record (localParts r fields)) (tag_of_localKey once named apart h) (.string tag)
  rw [localPart_string, localKey_of_named named] at hinsert
  exact hinsert

theorem encodeMember_local {mapping : OrderedMap String DataType} {id : RecordId}
    (typeName : String) (once : record.NamesOnce) (named : Registry.Named record)
    (apart : (DataType.union field mapping).TagsApart r)
    (found : r.record? id = some record)
    (encoded : encodeRecordParts ⟨r, .local⟩ id (encodeParts ⟨r, .local⟩ fields) =
      (encodeRecordParts ⟨r, .wire⟩ id (encodeParts ⟨r, .wire⟩ fields)).map
        (localEntries record (localParts r fields))) :
    encodeMember ⟨r, .local⟩ field mapping id typeName (encodeParts ⟨r, .local⟩ fields) =
      (encodeMember ⟨r, .wire⟩ field mapping id typeName (encodeParts ⟨r, .wire⟩ fields)).map
        (localEntries record (localParts r fields)) := by
  unfold encodeMember
  cases hlisted : DataType.tagOf? mapping id with
  | none => rfl
  | some tag =>
    have apart := apart.of_tagOf? hlisted found
    dsimp only
    rw [encoded]
    cases hout : encodeRecordParts ⟨r, .wire⟩ id (encodeParts ⟨r, .wire⟩ fields) with
    | error e => rfl
    | ok out =>
      have hkeys := wireKeys_encodeRecordParts found hout
      change (if ((OrderedMap.get? (localEntries record (localParts r fields) out)
          (localName field)).filter (!·.isNull)).isSome then _ else _) =
        Except.map _ (if ((OrderedMap.get? out field).filter (!·.isNull)).isSome then _ else _)
      rw [tag_localEntries once named apart hkeys]
      split
      · rfl
      · exact congrArg Except.ok (insert_tag once named apart hkeys tag)

end Tags

/-! ## Values -/

/-- What the two modes need of a registry. -/
structure Respellable (r : Registry) : Prop where
  once : ∀ record ∈ r.records, record.NamesOnce
  named : ∀ record ∈ r.records, Registry.Named record
  apart : r.TagsApart

variable {r : Registry}

theorem localForm_record {id : RecordId} {record : RecordType} (found : r.record? id = some record)
    (typeName : String) (fields : List (String × Value)) (ty : DataType)
    (entries : List (String × Json)) :
    localForm r (.record id typeName fields) ty (.object entries) =
      .object (localEntries record (localParts r fields) entries) := by
  rw [localForm, found]

theorem encode_local_record (ready : Respellable r) (id : RecordId) (typeName : String)
    {fields : List (String × Value)} {ty : DataType} (apart : ty.TagsApart r)
    (each : ∀ p ∈ fields, ∀ ty, DataType.TagsApart r ty →
      encode ⟨r, .local⟩ p.2 ty = (encode ⟨r, .wire⟩ p.2 ty).map (localForm r p.2 ty)) :
    encode ⟨r, .local⟩ (.record id typeName fields) ty =
      (encode ⟨r, .wire⟩ (.record id typeName fields) ty).map
        (localForm r (.record id typeName fields) ty) := by
  cases found : r.record? id with
  | none =>
    have hforeign : ∀ mode parts, encodeRecordParts ⟨r, mode⟩ id parts =
        .error (.foreignRecord id) := by
      intro mode parts
      rw [encodeRecordParts, Codec.record, found]
      rfl
    by_cases hunion : ∃ field mapping, ty = .union field mapping
    · obtain ⟨field, mapping, rfl⟩ := hunion
      rw [encode_union, encode_union, encodeMember, encodeMember, hforeign, hforeign]
      cases DataType.tagOf? mapping id <;> rfl
    · have hother : ∀ field mapping, ty ≠ .union field mapping :=
        fun field mapping he => hunion ⟨field, mapping, he⟩
      rw [encode_record hother, encode_record hother, hforeign, hforeign]
      rfl
  | some record =>
    have hmem : record ∈ r.records := List.mem_of_getElem? found
    have hparts := encodeRecordParts_local found (ready.once record hmem)
      fun f hf v hv => each _ (mem_of_get?_presentFields hv) f.type (ready.apart record hmem f hf)
    -- What is written is an object, whose entries take their local form.
    have hobject : ∀ out : Encoded (OrderedMap String Json),
        (out.map (localEntries record (localParts r fields))).map Json.object =
          (out.map Json.object).map (localForm r (.record id typeName fields) ty) := by
      intro out
      cases out with
      | error e => rfl
      | ok entries =>
        exact congrArg Except.ok (localForm_record found typeName fields ty entries).symm
    by_cases hunion : ∃ field mapping, ty = .union field mapping
    · obtain ⟨field, mapping, rfl⟩ := hunion
      rw [encode_union, encode_union, ← hobject, encodeMember_local typeName
        (ready.once record hmem) (ready.named record hmem) apart found hparts]
    · have hother : ∀ field mapping, ty ≠ .union field mapping :=
        fun field mapping he => hunion ⟨field, mapping, he⟩
      rw [encode_record hother, encode_record hother, ← hobject, hparts]

mutual

theorem encode_local_of_respellable (ready : Respellable r) : (v : Value) → ∀ ty, ty.TagsApart r →
    encode ⟨r, .local⟩ v ty = (encode ⟨r, .wire⟩ v ty).map (localForm r v ty)
  | .null, _, _ | .bool _, _, _ | .number _, _, _ | .string _, _, _ | .dateTime _, _, _ => by
    simp [encode, Except.map, localForm]
  | .array items, ty, apart => by
    rw [encode_array, encode_array, encode_local_items ready items _ apart.elementType]
    cases encodeItems ⟨r, .wire⟩ items ty.elementType with
    | error e => rfl
    | ok forms => exact congrArg Except.ok (by rw [localForm])
  | .object fields, _, _ => by
    rw [encode, encode, encode_local_fields ready fields]
    cases encodeEntries ⟨r, .wire⟩ fields <;> rfl
  | .record id typeName fields, ty, apart =>
    encode_local_record ready id typeName apart (encode_local_parts ready fields)

theorem encode_local_items (ready : Respellable r) : (items : List Value) → ∀ element,
    element.TagsApart r → encodeItems ⟨r, .local⟩ items element =
      (encodeItems ⟨r, .wire⟩ items element).map (localItems r items element)
  | [], _, _ => rfl
  | v :: rest, element, apart => by
    rw [encodeItems, encodeItems, encode_local_of_respellable ready v element apart,
      encode_local_items ready rest element apart]
    cases encode ⟨r, .wire⟩ v element with
    | error e => rfl
    | ok j => cases encodeItems ⟨r, .wire⟩ rest element <;> rfl

theorem encode_local_fields (ready : Respellable r) : (fields : List (String × Value)) →
    encodeEntries ⟨r, .local⟩ fields =
      (encodeEntries ⟨r, .wire⟩ fields).map (localFields r fields)
  | [] => rfl
  | (key, v) :: rest => by
    rw [encodeEntries, encodeEntries, encode_local_of_respellable ready v .any trivial,
      encode_local_fields ready rest]
    cases encode ⟨r, .wire⟩ v .any with
    | error e => rfl
    | ok j => cases encodeEntries ⟨r, .wire⟩ rest <;> rfl

theorem encode_local_parts (ready : Respellable r) : (fields : List (String × Value)) →
    ∀ p ∈ fields, ∀ ty, DataType.TagsApart r ty →
      encode ⟨r, .local⟩ p.2 ty = (encode ⟨r, .wire⟩ p.2 ty).map (localForm r p.2 ty)
  | [], _, hp => by cases hp
  | (key, v) :: rest, p, hp => by
    rcases List.mem_cons.1 hp with rfl | hp
    · exact encode_local_of_respellable ready v
    · exact encode_local_parts ready rest p hp

end

/-- With a document's registry the local mode fails where the wire mode fails, and else it writes
the local form of what the wire mode writes. -/
theorem encode_local_names {doc : Document} {r : Registry}
    (built : (Registry.build doc).outcome = .ok r) (fieldsApart : r.TagsApart) {ty : DataType}
    (apart : ty.TagsApart r) (v : Value) :
    encode ⟨r, .local⟩ v ty = (encode ⟨r, .wire⟩ v ty).map (localForm r v ty) :=
  have ready : Respellable r :=
    ⟨(Registry.wellFormed_of_build built).namesOnce, Registry.named_of_build built,
      fieldsApart⟩
  encode_local_of_respellable ready v ty apart

section Cats

/-- Cats have owners, and both have names in two words. -/
def ownedCats : Json :=
  Registry.documentOf
    [("Owner", .object [("type", .string "object"), ("properties", .object
      [("firstName", .object [("type", .string "string")])])]),
    ("Cat", .object [("type", .string "object"), ("properties", .object
      [("petOwner", Registry.referTo "Owner"),
        ("anyTags", .object [("type", .string "object")])])])]

def catsType : DataType :=
  .array (.union "petKind" [("cat", .record ⟨1⟩)])

def annsCats : Value :=
  .array [.record ⟨1⟩ "Cat"
    [("pet_owner", .record ⟨0⟩ "Owner" [("first_name", .string "Ann")]),
      ("any_tags", .object [("aKey", .null)])]]

theorem annsCats_encoded :
    (Registry.ofJson? ownedCats).map (fun r =>
      (decide (r.TagsApart ∧ catsType.TagsApart r),
        (encode ⟨r, .wire⟩ annsCats catsType).toOption.map fun j =>
          (j.render, (localForm r annsCats catsType j).render))) =
      some (true, some
        ("[\x7b\"petOwner\":\x7b\"firstName\":\"Ann\"\x7d,\"anyTags\":\x7b\"aKey\":null\x7d," ++
          "\"petKind\":\"cat\"\x7d]",
        "[\x7b\"pet_owner\":\x7b\"first_name\":\"Ann\"\x7d,\"any_tags\":\x7b\"aKey\":null\x7d," ++
          "\"pet_kind\":\"cat\"\x7d]")) := by
  decide +kernel

theorem encode_local_names_annsCats :
    ∃ r wire, Registry.ofJson? ownedCats = some r ∧
      encode ⟨r, .wire⟩ annsCats catsType = .ok wire ∧
      encode ⟨r, .local⟩ annsCats catsType = .ok (localForm r annsCats catsType wire) := by
  obtain ⟨r, hr, h⟩ := Option.map_eq_some_iff.1 annsCats_encoded
  obtain ⟨hapart, hwire⟩ := Prod.mk.inj h
  obtain ⟨wire, hwire, _⟩ := Option.map_eq_some_iff.1 hwire
  rw [Json.Typed.toOption_eq_some_iff] at hwire
  obtain ⟨hfields, htype⟩ := of_decide_eq_true hapart
  obtain ⟨doc, _, hbuilt⟩ := Registry.ofJson?_eq_some hr
  refine ⟨r, wire, hr, hwire, ?_⟩
  rw [encode_local_names hbuilt hfields htype, hwire]
  rfl

end Cats

end Codec

end OpenApi
