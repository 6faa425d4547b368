import OpenApi.Proofs.Codec.Registered

/-!
# Encoding what was decoded

The decoder goes through unions within unions, while the encoder looks for a record among the tags
of the outermost one. A decoded value can be encoded if each union has a tag of its own for every
record that it leads to.
-/

namespace OpenApi

namespace DataType

mutual

/-- The records that a payload of the type may be decoded to, through unions within unions. -/
def leaves : DataType → List RecordId
  | .record id => [id]
  | .union _ mapping => memberLeaves mapping
  | _ => []

def memberLeaves : List (String × DataType) → List RecordId
  | [] => []
  | (_, ty) :: rest => leaves ty ++ memberLeaves rest

end

theorem mem_memberLeaves {mapping : List (String × DataType)} {id : RecordId} :
    id ∈ memberLeaves mapping ↔ ∃ p ∈ mapping, id ∈ leaves p.2 := by
  induction mapping with
  | nil => simp [memberLeaves]
  | cons p rest ih =>
    obtain ⟨tag, ty⟩ := p
    rw [memberLeaves, List.mem_append, ih]
    simp

/-- The type is no union, or one with a tag for each record that it leads to; and so are the
elements of an array. -/
def ListsRecords : DataType → Prop
  | .array element => element.ListsRecords
  | .union _ mapping => ∀ id ∈ memberLeaves mapping, (tagOf? mapping id).isSome
  | _ => True

end DataType

namespace Codec

variable {c : Codec}

/-! ## Records -/

theorem get?_encodeParts_of_present {fields : List (String × Value)}
    (once : (OrderedMap.keys fields).Nodup) {name : String} {part : DataType → Encoded Json}
    (h : OrderedMap.get? (encodeParts c fields) name = some part) :
    ∃ v, OrderedMap.get? fields name = some v ∧ part = encode c v := by
  rw [get?_encodeParts once] at h
  obtain ⟨v, hv, rfl⟩ := Option.map_eq_some_iff.1 h
  exact ⟨v, (Value.present_eq_some.1 hv).1, rfl⟩

theorem exists_encodeRecordParts {id : RecordId} {record : RecordType}
    {fields : List (String × Value)} (found : c.registry.record? id = some record)
    (once : (OrderedMap.keys fields).Nodup)
    (each : ∀ f ∈ record.fields, ∀ v, OrderedMap.get? fields f.localName = some v →
      ∃ j, encode c v f.type = .ok j) :
    ∃ out, encodeRecordParts c id (encodeParts c fields) = .ok out := by
  cases h : encodeRecordParts c id (encodeParts c fields) with
  | ok out => exact ⟨out, rfl⟩
  | error e =>
    rcases encodeRecordParts_error h with ⟨unknown, _⟩ | ⟨record', found', f, hf, part, hpart, he⟩
    · rw [found] at unknown
      cases unknown
    · obtain rfl := Option.some.inj (found.symm.trans found')
      obtain ⟨v, hv, rfl⟩ := get?_encodeParts_of_present once hpart
      obtain ⟨j, hj⟩ := each f hf v hv
      rw [he] at hj
      cases hj

theorem exists_encodeMember {tag : String} {mapping : OrderedMap String DataType}
    {id : RecordId} {parts : FieldParts} {out : OrderedMap String Json} (field typeName : String)
    (listed : DataType.tagOf? mapping id = some tag)
    (encoded : encodeRecordParts c id parts = .ok out) :
    ∃ out', encodeMember c field mapping id typeName parts = .ok out' := by
  cases h : encodeMember c field mapping id typeName parts with
  | ok out' => exact ⟨out', rfl⟩
  | error e =>
    rcases encodeMember_error h with ⟨unlisted, _⟩ | h
    · rw [listed] at unlisted
      cases unlisted
    · rw [encoded] at h
      cases h

theorem exists_encodeItems {vs : List Value} {element : DataType}
    (each : ∀ v ∈ vs, ∃ j, encode c v element = .ok j) :
    ∃ js, encodeItems c vs element = .ok js := by
  induction vs with
  | nil => exact ⟨[], rfl⟩
  | cons v rest ih =>
    obtain ⟨⟨j, hj⟩, hrest⟩ := List.forall_mem_cons.1 each
    obtain ⟨js, hjs⟩ := ih hrest
    refine ⟨j :: js, ?_⟩
    rw [encodeItems, hj, hjs]
    rfl

/-! ## Decoded values -/

/-- What holds of a decoded value. A record is one that the type leads to, and can be written under
its own type; what is decoded from any other object is that object. -/
structure Writable (c : Codec) (wire : Json) (ty : DataType) (v : Value) : Prop where
  encodes : ty.ListsRecords → ∃ j, encode c v ty = .ok j
  record : ∀ id typeName fields, v = .record id typeName fields →
    id ∈ ty.leaves ∧ ∃ out, encodeRecordParts c id (encodeParts c fields) = .ok out
  other : ∀ entries, wire = .object entries →
    (∀ id typeName fields, v ≠ .record id typeName fields) → v = .ofJson wire

theorem writable_ofJson (c : Codec) (wire : Json) (ty : DataType) :
    Writable c wire ty (.ofJson wire) where
  encodes _ := ⟨wire, encode_ofJson c wire ty⟩
  record id typeName fields h := absurd h (Value.ofJson_ne_record wire id typeName fields)
  other _ _ _ := rfl

theorem object_of_payloadTag {field tag : String} {wire : Json}
    (h : c.payloadTag field wire = .ok tag) : ∃ entries, wire = .object entries := by
  cases wire with
  | object entries => exact ⟨entries, rfl⟩
  | _ => cases h

theorem Writable.member {field tag : String} {mapping : OrderedMap String DataType} {wire : Json}
    {ty : DataType} {v : Value} (tagged : c.payloadTag field wire = .ok tag)
    (listed : OrderedMap.get? mapping tag = some ty) (h : Writable c wire ty v) :
    Writable c wire (.union field mapping) v := by
  have hleaf : ∀ {id}, id ∈ ty.leaves → id ∈ DataType.memberLeaves mapping :=
    fun leaf => DataType.mem_memberLeaves.2 ⟨_, OrderedMap.mem_of_get? listed, leaf⟩
  refine ⟨?_, ?_, h.other⟩
  · intro lists
    obtain ⟨entries, hwire⟩ := object_of_payloadTag tagged
    by_cases hrecord : ∃ id typeName fields, v = .record id typeName fields
    · obtain ⟨id, typeName, fields, rfl⟩ := hrecord
      obtain ⟨leaf, out, hout⟩ := h.record id typeName fields rfl
      obtain ⟨tag, htag⟩ := Option.isSome_iff_exists.1 (lists id (hleaf leaf))
      obtain ⟨out', hout'⟩ := exists_encodeMember field typeName htag hout
      refine ⟨.object out', ?_⟩
      rw [encode_union, hout']
      rfl
    · -- The payload was passed through, and the encoder passes it through as well.
      simp only [not_exists] at hrecord
      rw [h.other entries hwire hrecord]
      exact ⟨wire, encode_ofJson c wire _⟩
  · intro id typeName fields hv
    obtain ⟨leaf, hout⟩ := h.record id typeName fields hv
    exact ⟨hleaf leaf, hout⟩

theorem DecodesTo.writable (onWire : DefaultsOnWire c)
    (listed : ∀ f, IsField c f → f.type.ListsRecords) {wire : Json} {ty : DataType} {v : Value}
    (h : DecodesTo c wire ty v) : Writable c wire ty v := by
  induction h with
  | null ty => exact writable_ofJson c .null ty
  | primitive wire kind => exact writable_ofJson c wire _
  | any wire => exact writable_ofJson c wire _
  | @dateTime s t _ =>
    exact ⟨fun _ => ⟨_, by rw [encode]⟩, by simp, by simp⟩
  | notText _ => exact writable_ofJson c _ _
  | @array items element vs length each ih =>
    refine ⟨fun lists => ?_, by simp, by simp⟩
    obtain ⟨js, hjs⟩ : ∃ js, encodeItems c vs element = .ok js := by
      refine exists_encodeItems fun v hv => ?_
      obtain ⟨j, hj⟩ := exists_mem_zip length hv
      exact (ih _ hj).encodes lists
    refine ⟨.array js, ?_⟩
    rw [encode]
    simp only [hjs]
    rfl
  | notArray element _ => exact writable_ofJson c _ _
  | @record entries id record fields found once declared absent held each ih =>
    have hout : ∃ out, encodeRecordParts c id (encodeParts c fields) = .ok out := by
      refine exists_encodeRecordParts found once fun f hf v hv => ?_
      have hfield : IsField c f := isField_of_found found f hf
      obtain ⟨wire, hstands⟩ := exists_wire_of_get? onWire hfield (absent f hf) hv
      exact (ih f hf wire v hstands hv).encodes (listed f hfield)
    refine ⟨fun _ => ?_, ?_, ?_⟩
    · obtain ⟨out, hout⟩ := hout
      refine ⟨.object out, ?_⟩
      rw [encode_record (by simp), hout]
      rfl
    · rintro _ _ _ ⟨⟩
      exact ⟨List.mem_singleton_self id, hout⟩
    · intro _ _ hrecord
      exact absurd rfl (hrecord id record.name fields)
  | member tagged listed _ ih => exact ih.member tagged listed

/-- What was decoded is encoded again, unless a record stands where its union does not list it, and
there is no such place where every union lists the records that it leads to. -/
theorem encode_decoded {doc : Document} {r : Registry}
    (built : (Registry.build doc).outcome = .ok r) {mode : NameMode} {wire : Json} {ty : DataType}
    {v : Value} (decoded : (decode ⟨r, mode⟩ wire ty).outcome = .ok v) :
    (∀ e, encode ⟨r, mode⟩ v ty = .error e → ∃ typeName, e = .notAMember typeName) ∧
      (ty.ListsRecords → (∀ record ∈ r.records, ∀ f ∈ record.fields, f.type.ListsRecords) →
        ∃ j, encode ⟨r, mode⟩ v ty = .ok j) := by
  have hr : r.WellFormed := Registry.wellFormed_of_build built
  have honWire : DefaultsOnWire ⟨r, mode⟩ := defaultsOnWire_of_wellFormed hr mode
  have hdecoded : DecodesTo ⟨r, mode⟩ wire ty v := decodesTo_of_decode hr.namesOnce decoded
  constructor
  · intro e he
    cases encodeFault_of_encode v ty e he with
    | notAMember typeName => exact ⟨typeName, rfl⟩
    | foreignRecord held unknown =>
      obtain ⟨record, hrecord⟩ := hdecoded.registered honWire _ held
      rw [unknown] at hrecord
      cases hrecord
  · intro hlists hfields
    refine (hdecoded.writable honWire ?_).encodes hlists
    rintro f ⟨record, hrecord, hf⟩
    exact hfields record hrecord f hf

/-! ## Unions within unions -/

section Zoo

open Json.Typed (toOption_eq_some_iff)

/-- A kind of animal with one field. -/
def kind (name property : String) : String × Json :=
  (name, .object [("type", .string "object"),
    ("properties", .object [(property, .object [("type", .string "boolean")])])])

/-- A union of components, which go by their tags. -/
def choice (name property : String) (members : List (String × String)) : String × Json :=
  (name, .object [("oneOf", .array (members.map fun p => Registry.referTo p.2)),
    ("discriminator", .object [("propertyName", .string property), ("mapping",
      .object (members.map fun p => (p.1, .string ("#/components/schemas/" ++ p.2))))])])

/-- Animals, with tags for cats and dogs beside the one for mammals. -/
def listedAnimal : DataType :=
  .union "class"
    [("mammal", .union "species" [("cat", .record ⟨0⟩), ("dog", .record ⟨1⟩)]),
      ("fish", .record ⟨2⟩), ("cat", .record ⟨0⟩), ("dog", .record ⟨1⟩)]

theorem listedAnimal_listsRecords : listedAnimal.ListsRecords := by
  change ∀ id ∈ DataType.memberLeaves _, _
  decide

def zooKinds : Json :=
  Registry.documentOf [kind "Cat" "purrs", kind "Dog" "barks", kind "Fish" "swims"]

/-- A cat, told by its class and by its species. -/
def zooCat : Json :=
  .object [("class", .string "mammal"), ("species", .string "cat"), ("purrs", .bool true)]

theorem zooCat_decoded :
    (Registry.ofJson? zooKinds).map (fun r =>
      (r.records.all fun record => record.fields.all fun f => f.type.same (.primitive .boolean),
        (decode ⟨r, .wire⟩ zooCat listedAnimal).outcome.toOption.isSome)) = some (true, true) := by
  decide +kernel

theorem encode_decoded_zooCat :
    ∃ r v, Registry.ofJson? zooKinds = some r ∧
      (decode ⟨r, .wire⟩ zooCat listedAnimal).outcome = .ok v ∧
      ∃ j, encode ⟨r, .wire⟩ v listedAnimal = .ok j := by
  obtain ⟨r, hr, h⟩ := Option.map_eq_some_iff.1 zooCat_decoded
  obtain ⟨hfields, hdecoded⟩ := Prod.mk.inj h
  obtain ⟨v, hv⟩ := Option.isSome_iff_exists.1 hdecoded
  obtain ⟨doc, _, hbuilt⟩ := Registry.ofJson?_eq_some hr
  obtain ⟨_, hencoded⟩ := encode_decoded hbuilt (toOption_eq_some_iff.1 hv)
  refine ⟨r, v, hr, toOption_eq_some_iff.1 hv, hencoded listedAnimal_listsRecords ?_⟩
  intro record hrecord f hf
  have hsame := List.all_eq_true.1 (List.all_eq_true.1 hfields record hrecord) f hf
  rw [DataType.eq_primitive_of_same hsame]
  trivial

def zoo : Json :=
  Registry.documentOf [kind "Cat" "purrs", kind "Dog" "barks", kind "Fish" "swims",
    choice "Mammal" "species" [("cat", "Cat"), ("dog", "Dog")],
    choice "Animal" "class" [("mammal", "Mammal"), ("fish", "Fish")]]

/-- The fault of encoding what was decoded. -/
def refusal? (c : Codec) (wire : Json) (ty : DataType) : Option CodecError :=
  match (decode c wire ty).outcome with
  | .ok v =>
    match encode c v ty with
    | .ok _ => none
    | .error e => some e
  | .error _ => none

theorem decode_of_refusal? {wire : Json} {ty : DataType} {e : CodecError}
    (h : refusal? c wire ty = some e) :
    ∃ v, (decode c wire ty).outcome = .ok v ∧ encode c v ty = .error e := by
  unfold refusal? at h
  split at h
  · rename_i v hv
    refine ⟨v, hv, ?_⟩
    split at h
    · cases h
    · rename_i he
      rw [he, Option.some.inj h]
  · cases h

theorem zooCat_refused :
    ((Document.ofJson zoo).toOption.bind fun doc =>
      (Registry.build doc).outcome.toOption.bind fun r =>
        (Resolution.resolve doc r.names (.reference "#/components/schemas/Animal") "").outcome
          |>.toOption.map fun ty =>
            [NameMode.wire, .local].map fun mode => refusal? ⟨r, mode⟩ zooCat ty) =
      some [some (.notAMember "Cat"), some (.notAMember "Cat")] := by
  decide +kernel

/-- The cat is decoded as an animal and not encoded as one, in either mode: among the animals there
is no tag for it, but for mammals. -/
theorem nested_member_refused :
    ∃ doc r ty, Document.ofJson zoo = .ok doc ∧ (Registry.build doc).outcome = .ok r ∧
      (Resolution.resolve doc r.names (.reference "#/components/schemas/Animal") "").outcome =
        .ok ty ∧
      ∀ mode, ∃ v, (decode ⟨r, mode⟩ zooCat ty).outcome = .ok v ∧
        encode ⟨r, mode⟩ v ty = .error (.notAMember "Cat") := by
  obtain ⟨doc, hdoc, h⟩ := Option.bind_eq_some_iff.1 zooCat_refused
  obtain ⟨r, hr, h⟩ := Option.bind_eq_some_iff.1 h
  obtain ⟨ty, hty, h⟩ := Option.map_eq_some_iff.1 h
  simp only [List.map_cons, List.map_nil, List.cons.injEq] at h
  refine ⟨doc, r, ty, toOption_eq_some_iff.1 hdoc, toOption_eq_some_iff.1 hr,
    toOption_eq_some_iff.1 hty, fun mode => ?_⟩
  cases mode with
  | wire => exact decode_of_refusal? h.1
  | «local» => exact decode_of_refusal? h.2.1

end Zoo

end Codec

end OpenApi
