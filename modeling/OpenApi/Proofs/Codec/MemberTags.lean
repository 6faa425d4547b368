import OpenApi.Proofs.Codec.Encodable
import OpenApi.Proofs.Codec.LocalNames
import OpenApi.Proofs.Codec.Stable

/-!
# The tags of encoded members

A record that is encoded as a member of a union has a tag on the wire: the one that it holds itself
or, failing that, the one that the union has for it. Only the second is sure to lead back to the
record's type, since a tag that the record holds is written as it is.
-/

namespace OpenApi.Codec

open Json.Typed (bind_eq_ok_iff toOption_eq_some_iff)

/-- What a record holds under the key of a union's tag, as it is written. -/
def OwnTag (c : Codec) (id : RecordId) (fields : List (String × Value)) (field : String)
    (j : Json) : Prop :=
  ∃ f v, Declares c id f ∧ c.fieldKey f = c.tagKey field ∧
    Value.present fields f.localName = some v ∧ c.encode v f.type = .ok j

variable {c : Codec}

/-! ## What was written -/

theorem isNull_of_encode {v : Value} {ty : DataType} {j : Json} (present : v.isNull = false)
    (h : encode c v ty = .ok j) : j.isNull = false := by
  cases v with
  | null => cases present
  | bool _ | number _ | string _ | dateTime _ =>
    rw [encode] at h
    obtain rfl := Except.ok.inj h
    rfl
  | array items =>
    rw [encode.eq_def] at h
    obtain ⟨_, _, h⟩ := bind_eq_ok_iff.1 h
    obtain rfl := Except.ok.inj h
    rfl
  | object fields =>
    rw [encode] at h
    obtain ⟨_, _, h⟩ := bind_eq_ok_iff.1 h
    obtain rfl := Except.ok.inj h
    rfl
  | record id typeName fields =>
    by_cases hunion : ∃ field mapping, ty = .union field mapping
    · obtain ⟨field, mapping, rfl⟩ := hunion
      rw [encode_union] at h
      obtain ⟨_, _, rfl⟩ := ok_of_map h
      rfl
    · rw [encode_record fun field mapping he => hunion ⟨field, mapping, he⟩] at h
      obtain ⟨_, _, rfl⟩ := ok_of_map h
      rfl

theorem found_of_record {id : RecordId} {record : RecordType} (h : c.record id = .ok record) :
    c.registry.record? id = some record := by
  unfold Codec.record at h
  split at h
  · rename_i hfound
    rw [hfound, Except.ok.inj h]
  · cases h

theorem exists_part_of_encodeFields {record : RecordType} {parts : FieldParts} {fs : List Field}
    {out out' : OrderedMap String Json} (h : encodeFields c record parts fs out = .ok out') :
    ∀ f ∈ fs, ∀ part, OrderedMap.get? parts f.localName = some part →
      ∃ j, part f.type = .ok j := by
  induction fs generalizing out with
  | nil => simp
  | cons f rest ih =>
    rw [encodeFields] at h
    refine List.forall_mem_cons.2 ⟨fun part hpart => ?_, ?_⟩
    · rw [hpart] at h
      obtain ⟨j, hj, _⟩ := bind_eq_ok_iff.1 h
      exact ⟨j, hj⟩
    · split at h
      · obtain ⟨_, _, h⟩ := bind_eq_ok_iff.1 h
        exact ih h
      · split at h
        · exact ih h
        · exact ih h

theorem encodeMember_ok {field : String} {mapping : OrderedMap String DataType} {id : RecordId}
    {typeName : String} {parts : FieldParts} {out' : OrderedMap String Json}
    (h : encodeMember c field mapping id typeName parts = .ok out') :
    ∃ tag out, DataType.tagOf? mapping id = some tag ∧ encodeRecordParts c id parts = .ok out ∧
      ((∃ j, OrderedMap.get? out (c.tagKey field) = some j ∧ j.isNull = false ∧ out' = out) ∨
        (∀ j, OrderedMap.get? out (c.tagKey field) = some j → j.isNull = true) ∧
          out' = out.insert (c.tagKey field) (.string tag)) := by
  unfold encodeMember at h
  split at h
  · cases h
  · rename_i tag listed
    obtain ⟨out, hout, h⟩ := bind_eq_ok_iff.1 h
    refine ⟨tag, out, listed, hout, ?_⟩
    dsimp only at h
    split at h
    · rename_i hheld
      obtain rfl := Except.ok.inj h
      obtain ⟨j, hj⟩ := Option.isSome_iff_exists.1 hheld
      obtain ⟨hget, hnull⟩ := Option.filter_eq_some_iff.1 hj
      exact .inl ⟨j, hget, by simpa using hnull, rfl⟩
    · rename_i hfree
      obtain rfl := Except.ok.inj h
      refine .inr ⟨fun j hj => ?_, rfl⟩
      simpa [hj] using hfree

theorem ownTag_iff {id : RecordId} {fields : List (String × Value)} {out : OrderedMap String Json}
    (names : ∀ record ∈ c.registry.records, record.NamesOnce)
    (once : (OrderedMap.keys fields).Nodup)
    (encoded : encodeRecordParts c id (encodeParts c fields) = .ok out) (field : String)
    (j : Json) :
    OwnTag c id fields field j ↔
      OrderedMap.get? out (c.tagKey field) = some j ∧ j.isNull = false := by
  obtain ⟨record, hrecord, hfields⟩ := bind_eq_ok_iff.1 encoded
  have found : c.registry.record? id = some record := found_of_record hrecord
  have hkeys : (record.fields.map c.fieldKey).Nodup :=
    fieldKeys_nodup (names record (List.mem_of_getElem? found))
  obtain ⟨out', hout', hothers, hwritten⟩ :=
    encodeFields_ok hkeys [] (by simp [OrderedMap.keys]) (exists_part_of_encodeFields hfields)
  obtain rfl : out = out' := Except.ok.inj (hfields.symm.trans hout')
  constructor
  · rintro ⟨f, v, ⟨record', found', hf⟩, hkey, hv, hj⟩
    obtain rfl := Option.some.inj (found.symm.trans found')
    have hw := hwritten f hf
    unfold Written at hw
    rw [get?_encodeParts once, hv, hkey] at hw
    obtain ⟨j', hj', hentry⟩ := hw
    obtain rfl := Except.ok.inj (hj.symm.trans hj')
    exact ⟨hentry, isNull_of_encode (Value.present_eq_some.1 hv).2 hj⟩
  · rintro ⟨hentry, hnull⟩
    by_cases hk : c.tagKey field ∈ record.fields.map c.fieldKey
    · obtain ⟨f, hf, hkey⟩ := List.mem_map.1 hk
      have hw := hwritten f hf
      unfold Written at hw
      rw [get?_encodeParts once, hkey, hentry] at hw
      cases hv : Value.present fields f.localName with
      | some v =>
        rw [hv] at hw
        obtain ⟨j', hj', he⟩ := hw
        obtain rfl := Option.some.inj he
        exact ⟨f, v, ⟨record, found, hf⟩, hkey, hv, hj'⟩
      | none =>
        -- A field without a value is written as null at most.
        rw [hv] at hw
        by_cases ho : record.isOptional f.localName = true
        · simp [ho] at hw
        · obtain rfl : j = .null := by simpa [ho] using hw
          cases hnull
    · rw [hothers _ hk] at hentry
      cases hentry

/-! ## Where the tag leads -/

/-- An encoded member is an object with a tag that is not null, and the decoder goes by that tag. It
leads to the record's own type unless the record itself holds another tag. -/
theorem encode_member_dispatch (c : Codec)
    (names : ∀ record ∈ c.registry.records, record.NamesOnce) {id : RecordId} {typeName : String}
    {fields : List (String × Value)} {field : String} {mapping : OrderedMap String DataType}
    {wire : Json} (once : (OrderedMap.keys fields).Nodup)
    (tags : (OrderedMap.keys mapping).Nodup)
    (encoded : c.encode (.record id typeName fields) (.union field mapping) = .ok wire) :
    ∃ entries tag, wire = .object entries ∧ OrderedMap.get? entries (c.tagKey field) = some tag ∧
      tag.isNull = false ∧
      (∀ ty, OrderedMap.get? mapping (tagText tag) = some ty →
        c.decode wire (.union field mapping) = c.decode wire ty) ∧
      (OrderedMap.get? mapping (tagText tag) = some (.record id) ↔
        ∀ own, OwnTag c id fields field own →
          OrderedMap.get? mapping (tagText own) = some (.record id)) := by
  have hdispatch : ∀ {entries : List (String × Json)} {tag : Json},
      OrderedMap.get? entries (c.tagKey field) = some tag → tag.isNull = false →
      ∀ ty, OrderedMap.get? mapping (tagText tag) = some ty →
        c.decode (.object entries) (.union field mapping) = c.decode (.object entries) ty := by
    intro entries tag htag hnull ty hty
    obtain ⟨fallback, hfallback⟩ := exists_fallback c
    rw [hfallback]
    exact decodeWith_object_congr (select_union (payloadTag_of_get? htag hnull) hty)
  rw [encode_union] at encoded
  obtain ⟨entries, hentries, rfl⟩ := ok_of_map encoded
  obtain ⟨own, out, listed, hout, ⟨j, hj, hnull, rfl⟩ | ⟨hfree, rfl⟩⟩ := encodeMember_ok hentries
  · refine ⟨entries, j, rfl, hj, hnull, hdispatch hj hnull, ?_⟩
    constructor
    · intro hmember own hown
      obtain ⟨hown, _⟩ := (ownTag_iff names once hout field own).1 hown
      obtain rfl := Option.some.inj (hj.symm.trans hown)
      exact hmember
    · intro hmember
      exact hmember j ((ownTag_iff names once hout field j).2 ⟨hj, hnull⟩)
  · have hself : OrderedMap.get? (out.insert (c.tagKey field) (.string own)) (c.tagKey field) =
        some (.string own) := OrderedMap.get?_insert_self _ _ _
    refine ⟨_, .string own, rfl, hself, rfl, hdispatch hself rfl, ?_⟩
    refine iff_of_true (get?_of_tagOf? tags listed) fun j hown => ?_
    -- The record holds no tag itself.
    obtain ⟨hj, hnull⟩ := (ownTag_iff names once hout field j).1 hown
    rw [hfree j hj] at hnull
    cases hnull

theorem encode_member_dispatch_puppy :
    let fields : List (String × Value) := [("good_boy", .bool true)]
    let mapping : OrderedMap String DataType := [("a", .record ⟨0⟩), ("b", .record ⟨1⟩)]
    let wire : Json := .object [("good_boy", .bool true), ("pet_type", .string "b")]
    cattery.encode (.record ⟨1⟩ "Dog" fields) (.union "petType" mapping) = .ok wire ∧
      ∃ entries tag, wire = .object entries ∧
        OrderedMap.get? entries (cattery.tagKey "petType") = some tag ∧ tag.isNull = false ∧
        (∀ ty, OrderedMap.get? mapping (tagText tag) = some ty →
          cattery.decode wire (.union "petType" mapping) = cattery.decode wire ty) ∧
        (OrderedMap.get? mapping (tagText tag) = some (.record ⟨1⟩) ↔
          ∀ own, OwnTag cattery ⟨1⟩ fields "petType" own →
            OrderedMap.get? mapping (tagText own) = some (.record ⟨1⟩)) := by
  intro fields mapping wire
  have encoded : cattery.encode (.record ⟨1⟩ "Dog" fields) (.union "petType" mapping) =
      .ok wire := rfl
  exact ⟨encoded, encode_member_dispatch cattery cattery_namesOnce (by decide) (by decide) encoded⟩

section Changeling

/-- A component with a kind and one more property. -/
def ofKind (name property type : String) : String × Json :=
  (name, .object [("type", .string "object"), ("properties", .object
    [("kind", .object [("type", .string "string")]),
      (property, .object [("type", .string type)])])])

def catsAndDogs : Json :=
  Registry.documentOf [ofKind "Cat" "lives" "integer", ofKind "Dog" "goodBoy" "boolean",
    choice "Pet" "kind" [("cat", "Cat"), ("dog", "Dog")]]

/-- A cat that says it is a dog. -/
def changeling : Value :=
  .record ⟨0⟩ "Cat" [("kind", .string "dog"), ("lives", .number (.integer 9))]

/-- The tag of the encoded value and the record that the union has for it. -/
def dispatch? (c : Codec) (v : Value) : DataType → Option (String × RecordId)
  | .union field mapping => do
    let wire ← (encode c v (.union field mapping)).toOption
    let tag ← (c.payloadTag field wire).toOption
    let id ← (OrderedMap.get? mapping tag).bind DataType.recordId?
    return (tag, id)
  | _ => none

theorem changeling_dispatched :
    ((Document.ofJson catsAndDogs).toOption.bind fun doc =>
      (Registry.build doc).outcome.toOption.bind fun r =>
        (Resolution.resolve doc r.names (.reference "#/components/schemas/Pet") "").outcome
          |>.toOption.map fun ty =>
            [NameMode.wire, .local].map fun mode => dispatch? ⟨r, mode⟩ changeling ty) =
      some [some ("dog", ⟨1⟩), some ("dog", ⟨1⟩)] := by
  decide +kernel

theorem encode_of_dispatch? {v : Value} {field tag : String} {mapping : OrderedMap String DataType}
    {id : RecordId} (h : dispatch? c v (.union field mapping) = some (tag, id)) :
    ∃ wire, encode c v (.union field mapping) = .ok wire ∧ c.payloadTag field wire = .ok tag ∧
      OrderedMap.get? mapping tag = some (.record id) := by
  obtain ⟨wire, hwire, h⟩ := Option.bind_eq_some_iff.1 h
  obtain ⟨tag', htag, h⟩ := Option.bind_eq_some_iff.1 h
  obtain ⟨id', hid, h⟩ := Option.bind_eq_some_iff.1 h
  obtain ⟨rfl, rfl⟩ := Prod.mk.inj (Option.some.inj h)
  obtain ⟨ty, hty, hrecord⟩ := Option.bind_eq_some_iff.1 hid
  rw [DataType.eq_record_of_recordId? hrecord] at hty
  exact ⟨wire, toOption_eq_some_iff.1 hwire, toOption_eq_some_iff.1 htag, hty⟩

/-- The cat is written with the tag that it holds, which is the tag of dogs, in either mode. -/
theorem changeling_sent_as_dog :
    ∃ doc r field mapping, Document.ofJson catsAndDogs = .ok doc ∧
      (Registry.build doc).outcome = .ok r ∧
      (Resolution.resolve doc r.names (.reference "#/components/schemas/Pet") "").outcome =
        .ok (.union field mapping) ∧
      ∀ mode, ∃ wire, encode ⟨r, mode⟩ changeling (.union field mapping) = .ok wire ∧
        payloadTag ⟨r, mode⟩ field wire = .ok "dog" ∧
        OrderedMap.get? mapping "dog" = some (.record ⟨1⟩) := by
  obtain ⟨doc, hdoc, h⟩ := Option.bind_eq_some_iff.1 changeling_dispatched
  obtain ⟨r, hr, h⟩ := Option.bind_eq_some_iff.1 h
  obtain ⟨ty, hty, h⟩ := Option.map_eq_some_iff.1 h
  simp only [List.map_cons, List.map_nil, List.cons.injEq] at h
  cases ty with
  | union field mapping =>
    refine ⟨doc, r, field, mapping, toOption_eq_some_iff.1 hdoc, toOption_eq_some_iff.1 hr,
      toOption_eq_some_iff.1 hty, fun mode => ?_⟩
    cases mode with
    | wire => exact encode_of_dispatch? h.1
    | «local» => exact encode_of_dispatch? h.2.1
  | _ => cases h.1

end Changeling

end OpenApi.Codec
