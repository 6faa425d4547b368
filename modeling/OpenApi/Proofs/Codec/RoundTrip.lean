import OpenApi.Proofs.Codec.Parts
import OpenApi.Proofs.Json.Typed

/-!
# From values to the wire and back

A value that fits its type can be encoded, and what it is encoded to is decoded to an equal value.
-/

namespace OpenApi.Codec

/-- The text by which a value selects the member of a union when it stands as the tag. -/
inductive IsTag : Value → String → Prop where
  | json {j : Json} (present : j.isNull = false) : IsTag (.ofJson j) (tagText j)
  | dateTime (t : DateTime) : IsTag (.dateTime t) t.render

/-- The types that a record can be written under: its own, and a union that has a tag for it. If the
record declares a field for the tag, the field must be set, to a tag of the record. -/
inductive Admits (c : Codec) (id : RecordId) (record : RecordType)
    (fields : List (String × Value)) : DataType → Prop where
  | own : Admits c id record fields (.record id)
  | member {field tag : String} {mapping : OrderedMap String DataType}
      (once : (OrderedMap.keys mapping).Nodup) (listed : DataType.tagOf? mapping id = some tag)
      (tagged : ∀ f ∈ record.fields, c.fieldKey f = c.tagKey field →
        ∃ v t, Value.present fields f.localName = some v ∧ IsTag v t ∧
          OrderedMap.get? mapping t = some (.record id)) :
      Admits c id record fields (.union field mapping)

/-- The values that a type is meant for. Where a type does not constrain its values, any JSON tree
fits. -/
inductive Fits (c : Codec) : Value → DataType → Prop where
  | null (ty : DataType) : Fits c .null ty
  | primitive {j : Json} (kind : Primitive) (once : j.KeysOnce) :
      Fits c (.ofJson j) (.primitive kind)
  | any {j : Json} (once : j.KeysOnce) : Fits c (.ofJson j) .any
  | dateTime {t t' : DateTime} (read : readDateTime t.render = .ok t')
      (same : t'.sameInstant t = true) : Fits c (.dateTime t) .dateTime
  | notText {j : Json} (once : j.KeysOnce) (other : ∀ s, j ≠ .string s) :
      Fits c (.ofJson j) .dateTime
  | array {items : List Value} {element : DataType} (each : ∀ v ∈ items, Fits c v element) :
      Fits c (.array items) (.array element)
  | notArray {j : Json} (element : DataType) (once : j.KeysOnce)
      (other : ∀ items, j ≠ .array items) : Fits c (.ofJson j) (.array element)
  /-- Every field that is set is a declared one and fits its type. One that is absent and would be
  left off the wire has no default. -/
  | record {id : RecordId} {record : RecordType} {typeName : String}
      {fields : List (String × Value)} {ty : DataType}
      (found : c.registry.record? id = some record) (admits : Admits c id record fields ty)
      (once : (OrderedMap.keys fields).Nodup)
      (declared : ∀ name v, Value.present fields name = some v →
        name ∈ record.fields.map (·.localName))
      (each : ∀ f ∈ record.fields, ∀ v, Value.present fields f.localName = some v →
        Fits c v f.type)
      (absent : ∀ f ∈ record.fields, record.isOptional f.localName = true →
        Value.present fields f.localName = none → f.default = none) :
      Fits c (.record id typeName fields) ty
  /-- An untyped object that carries its tag and fits the tag's member. -/
  | untyped {field : String} {mapping : OrderedMap String DataType}
      {entries : List (String × Json)} {j : Json} {ty : DataType}
      (tagged : OrderedMap.get? entries (c.tagKey field) = some j) (present : j.isNull = false)
      (listed : OrderedMap.get? mapping (tagText j) = some ty)
      (fits : Fits c (.ofJson (.object entries)) ty) :
      Fits c (.ofJson (.object entries)) (.union field mapping)

variable {c : Codec} {fallback : Json → DataType → Decoded Value}

/-- The value is encoded, and decoding the wire value gives an equal one. -/
def RoundTrips (c : Codec) (fallback : Json → DataType → Decoded Value) (v : Value)
    (ty : DataType) : Prop :=
  ∃ j, encode c v ty = .ok j ∧
    ∃ v', (decodeWith c fallback j ty).outcome = .ok v' ∧ Value.Equal v' v

/-! ## What passes through -/

theorem roundTrips_ofJson {j : Json} {ty : DataType} (once : j.KeysOnce)
    (decoded : (decodeWith c fallback j ty).outcome = .ok (.ofJson j)) :
    RoundTrips c fallback (.ofJson j) ty :=
  ⟨j, encode_ofJson c j ty, .ofJson j, decoded, Value.equal_ofJson once⟩

/-! ## Arrays -/

theorem roundTrips_items {items : List Value} {element : DataType}
    (each : ∀ v ∈ items, RoundTrips c fallback v element) :
    ∃ js, encodeItems c items element = .ok js ∧
      ∃ items', (decodeItems c fallback js element).outcome = .ok items' ∧
        Value.sameItems items' items = true ∧ Value.sameItems items items' = true := by
  induction items with
  | nil => exact ⟨[], rfl, [], rfl, by rw [Value.sameItems], by rw [Value.sameItems]⟩
  | cons v rest ih =>
    obtain ⟨j, hj, v', hv', hvv, hvv'⟩ := each v List.mem_cons_self
    obtain ⟨js, hjs, rest', hrest', hsame, hsame'⟩ :=
      ih fun w hw => each w (List.mem_cons_of_mem _ hw)
    refine ⟨j :: js, ?_, v' :: rest', ?_, ?_, ?_⟩
    · rw [encodeItems, hj, hjs]
      rfl
    · rw [decodeItems, Logged.outcome_bind_of_ok hv', Logged.outcome_bind_of_ok hrest']
      rfl
    · rw [Value.sameItems, hvv, hsame, Bool.and_self]
    · rw [Value.sameItems, hvv', hsame', Bool.and_self]

theorem roundTrips_array {items : List Value} {element : DataType}
    (each : ∀ v ∈ items, RoundTrips c fallback v element) :
    RoundTrips c fallback (.array items) (.array element) := by
  obtain ⟨js, hjs, items', hitems', hsame, hsame'⟩ := roundTrips_items each
  refine ⟨.array js, ?_, .array items', ?_, ?_⟩
  · rw [encode]
    simp only [hjs]
    rfl
  · change (decodeItems c fallback js element >>= fun vs => pure (Value.array vs)).outcome = _
    rw [Logged.outcome_bind_of_ok hitems']
    rfl
  · constructor
    · rw [Value.same]
      exact hsame
    · rw [Value.same]
      exact hsame'

/-! ## Records -/

variable {id : RecordId} {record : RecordType} {fields : List (String × Value)}

theorem found_of_written {f : Field} {wire : List (String × Json)}
    (once : (OrderedMap.keys fields).Nodup)
    (written : Written record (encodeParts c fields) f (OrderedMap.get? wire (c.fieldKey f)))
    (each : ∀ v, Value.present fields f.localName = some v → RoundTrips c fallback v f.type)
    (absent : record.isOptional f.localName = true → Value.present fields f.localName = none →
      f.default = none) :
    ∃ v?, Found c (fieldParts c fallback wire) f v? ∧
      Option.Rel Value.Equal (v?.filter (!·.isNull)) (Value.present fields f.localName) := by
  have hparts : OrderedMap.get? (fieldParts c fallback wire) (c.fieldKey f) =
      (OrderedMap.get? wire (c.fieldKey f)).map (decodeWith c fallback) :=
    get?_fieldParts wire (c.fieldKey f)
  unfold Written at written
  rw [get?_encodeParts once] at written
  cases hp : Value.present fields f.localName with
  | some v =>
    rw [hp] at written
    obtain ⟨j, hj, hentry⟩ := written
    obtain ⟨j', hj', v', hv', hequal⟩ := each v hp
    obtain rfl : j' = j := Except.ok.inj (hj'.symm.trans hj)
    rw [hentry] at hparts
    have hnull : v'.isNull = false := by
      rw [Value.isNull_of_same hequal.1, (Value.present_eq_some.1 hp).2]
    refine ⟨some v', ⟨_, hparts, hv'⟩, ?_⟩
    rw [Option.filter_some_pos (by simp [hnull])]
    exact .some hequal
  | none =>
    rw [hp] at written
    by_cases ho : record.isOptional f.localName = true
    · have hentry : OrderedMap.get? wire (c.fieldKey f) = none := by simpa [ho] using written
      rw [hentry] at hparts
      exact ⟨none, ⟨hparts, absent ho hp⟩, .none⟩
    · have hentry : OrderedMap.get? wire (c.fieldKey f) = some .null := by simpa [ho] using written
      rw [hentry] at hparts
      exact ⟨some .null, ⟨_, hparts, rfl⟩, .none⟩

theorem decodeRecord_written (found : c.registry.record? id = some record)
    (names : record.NamesOnce) (once : (OrderedMap.keys fields).Nodup)
    (declared : ∀ name v, Value.present fields name = some v →
      name ∈ record.fields.map (·.localName))
    (each : ∀ f ∈ record.fields, ∀ v, Value.present fields f.localName = some v →
      RoundTrips c fallback v f.type)
    (absent : ∀ f ∈ record.fields, record.isOptional f.localName = true →
      Value.present fields f.localName = none → f.default = none)
    {wire : List (String × Json)}
    (written : ∀ f ∈ record.fields,
      Written record (encodeParts c fields) f (OrderedMap.get? wire (c.fieldKey f)))
    (typeName : String) :
    ∃ v, (decodeWith c fallback (.object wire) (.record id)).outcome = .ok v ∧
      Value.Equal v (.record id typeName fields) := by
  obtain ⟨r, hr, hid, hkeys, hothers, hall⟩ :=
    decodeFields_ok fallback names.1 ⟨id, record.name, []⟩ (by simp [OrderedMap.keys])
      (by simp [OrderedMap.keys]) fun f hf =>
        found_of_written once (written f hf) (each f hf) (absent f hf)
  refine ⟨r.toValue, ?_, ?_⟩
  · rw [decodeWith_record found, hr]
    rfl
  · rw [Record.toValue, hid]
    apply Value.equal_record hkeys once
    intro name
    by_cases hn : name ∈ record.fields.map (·.localName)
    · obtain ⟨f, hf, rfl⟩ := List.mem_map.1 hn
      exact hall f hf
    · have hleft : Value.present r.fields name = none :=
        Value.present_of_get?_none (hothers name hn)
      have hright : Value.present fields name = none := by
        cases hp : Value.present fields name with
        | none => rfl
        | some v => exact absurd (declared name v hp) hn
      rw [hleft, hright]
      exact .none

theorem tagText_of_isTag {v : Value} {t : String} (h : IsTag v t) {ty : DataType} {j : Json}
    (encoded : encode c v ty = .ok j) : j.isNull = false ∧ tagText j = t := by
  cases h with
  | @json j' present =>
    rw [encode_ofJson] at encoded
    obtain rfl := Except.ok.inj encoded
    exact ⟨present, rfl⟩
  | dateTime t =>
    rw [encode] at encoded
    obtain rfl := Except.ok.inj encoded
    exact ⟨rfl, rfl⟩

theorem payloadTag_of_get? {field : String} {wire : List (String × Json)} {j : Json}
    (h : OrderedMap.get? wire (c.tagKey field) = some j) (present : j.isNull = false) :
    c.payloadTag field (.object wire) = .ok (tagText j) := by
  have hfield : (Json.field? (.object wire) (c.tagKey field)).filter (!·.isNull) = some j := by
    rw [Json.field?, h, Option.filter_some_pos (by simp [present])]
  rw [payloadTag, hfield]

theorem encodeRecordParts_ok (found : c.registry.record? id = some record)
    (keys : (record.fields.map c.fieldKey).Nodup) (once : (OrderedMap.keys fields).Nodup)
    (encoded : ∀ f ∈ record.fields, ∀ v, Value.present fields f.localName = some v →
      ∃ j, encode c v f.type = .ok j) :
    ∃ out, encodeRecordParts c id (encodeParts c fields) = .ok out ∧
      (∀ key, key ∉ record.fields.map c.fieldKey → OrderedMap.get? out key = none) ∧
      ∀ f ∈ record.fields,
        Written record (encodeParts c fields) f (OrderedMap.get? out (c.fieldKey f)) := by
  have hparts : ∀ f ∈ record.fields, ∀ part,
      OrderedMap.get? (encodeParts c fields) f.localName = some part →
        ∃ j, part f.type = .ok j := by
    intro f hf part hpart
    rw [get?_encodeParts once, Option.map_eq_some_iff] at hpart
    obtain ⟨v, hv, rfl⟩ := hpart
    exact encoded f hf v hv
  obtain ⟨out, hfields, hothers, hwritten⟩ :=
    encodeFields_ok keys [] (by simp [OrderedMap.keys]) hparts
  refine ⟨out, ?_, hothers, hwritten⟩
  rw [encodeRecordParts, record_of_found found]
  exact hfields

/-- Under every type that admits it a record is written with its fields as under its own, and the
decoder takes what was written for a record of the same type. -/
theorem encode_admitted {ty : DataType} (admits : Admits c id record fields ty)
    (found : c.registry.record? id = some record) (keys : (record.fields.map c.fieldKey).Nodup)
    (once : (OrderedMap.keys fields).Nodup)
    (encoded : ∀ f ∈ record.fields, ∀ v, Value.present fields f.localName = some v →
      ∃ j, encode c v f.type = .ok j) (typeName : String) :
    ∃ wire, encode c (.record id typeName fields) ty = .ok (.object wire) ∧
      c.select (.object wire) ty = .ok (.record id) ∧
      ∀ f ∈ record.fields,
        Written record (encodeParts c fields) f (OrderedMap.get? wire (c.fieldKey f)) := by
  obtain ⟨out, hout, hothers, hwritten⟩ := encodeRecordParts_ok found keys once encoded
  cases admits with
  | own =>
    refine ⟨out, ?_, rfl, hwritten⟩
    rw [encode.eq_def]
    simp only [hout]
    rfl
  | @member field tag mapping nodup listed tagged =>
    have hencode : ∀ wire,
        encodeMember c field mapping id typeName (encodeParts c fields) = .ok wire →
        encode c (.record id typeName fields) (.union field mapping) = .ok (.object wire) := by
      intro wire hwire
      rw [encode.eq_def]
      simp only [hwire]
      rfl
    by_cases hk : c.tagKey field ∈ record.fields.map c.fieldKey
    · -- The record holds its tag itself.
      obtain ⟨f, hf, hkey⟩ := List.mem_map.1 hk
      obtain ⟨v, t, hv, ht, hmapping⟩ := tagged f hf hkey
      have hw := hwritten f hf
      unfold Written at hw
      rw [get?_encodeParts once, hv] at hw
      obtain ⟨j, hj, hentry⟩ := hw
      obtain ⟨hnull, rfl⟩ := tagText_of_isTag ht hj
      rw [hkey] at hentry
      have htag := encodeMember_of_tag typeName listed hout hentry hnull
      refine ⟨out, hencode out htag, ?_, hwritten⟩
      rw [select_union (payloadTag_of_get? hentry hnull) hmapping]
      rfl
    · have hfree : OrderedMap.get? out (c.tagKey field) = none := hothers _ hk
      refine ⟨_, hencode _ (encodeMember_of_none typeName listed hout hfree), ?_, ?_⟩
      · rw [select_union (payloadTag_of_get? (OrderedMap.get?_insert_self _ _ _) rfl)
          (get?_of_tagOf? nodup listed)]
        rfl
      · intro f hf
        have hne : c.fieldKey f ≠ c.tagKey field := fun e => hk (e ▸ List.mem_map_of_mem hf)
        rw [OrderedMap.get?_insert_of_ne _ _ hne]
        exact hwritten f hf

/-! ## The round trip -/

theorem fieldKeys_nodup {record : RecordType} (names : record.NamesOnce) :
    (record.fields.map c.fieldKey).Nodup := by
  unfold fieldKey
  cases c.mode
  · exact names.2
  · exact names.1

theorem roundTrips_of_fits (names : ∀ record ∈ c.registry.records, record.NamesOnce) {v : Value}
    {ty : DataType} (h : Fits c v ty) : RoundTrips c fallback v ty := by
  induction h with
  | null ty => exact roundTrips_ofJson .null (by rw [decodeWith]; rfl)
  | primitive kind once => exact roundTrips_ofJson once (decodeWith_primitive _ kind)
  | any once => exact roundTrips_ofJson once (decodeWith_any _)
  | @dateTime t t' read same =>
    refine ⟨.string t.render, rfl, .dateTime t', decodeWith_dateTime read, ?_⟩
    constructor
    · rw [Value.same]
      exact same
    · rw [Value.same]
      exact DateTime.sameInstant_symm same
  | notText once other => exact roundTrips_ofJson once (decodeWith_notText other)
  | array each ih => exact roundTrips_array ih
  | notArray element once other => exact roundTrips_ofJson once (decodeWith_notArray element other)
  | @record id record typeName fields ty found admits once declared each absent ih =>
    have hnames : record.NamesOnce := names record (List.mem_of_getElem? found)
    obtain ⟨wire, hencode, hselect, hwritten⟩ :=
      encode_admitted admits found (fieldKeys_nodup hnames) once
        (fun f hf v hv => (ih f hf v hv).imp fun _ h => h.1) typeName
    obtain ⟨v', hdecode, hequal⟩ :=
      decodeRecord_written found hnames once declared ih absent hwritten typeName
    have hsame : c.select (.object wire) ty = c.select (.object wire) (.record id) := by
      rw [hselect]
      rfl
    refine ⟨.object wire, hencode, v', ?_, hequal⟩
    rw [decodeWith_object_congr hsame]
    exact hdecode
  | @untyped field mapping entries j ty tagged present listed fits ih =>
    obtain ⟨j', hj', v', hv', hequal⟩ := ih
    obtain rfl := Except.ok.inj ((encode_ofJson c _ ty).symm.trans hj')
    refine ⟨_, encode_ofJson c _ _, v', ?_, hequal⟩
    rw [decodeWith_object_congr (select_union (payloadTag_of_get? tagged present) listed)]
    exact hv'

/-- A value that fits its type can be encoded, and what it was encoded to is decoded to an equal
value. -/
theorem decode_encode (c : Codec) (names : ∀ record ∈ c.registry.records, record.NamesOnce)
    (v : Value) (ty : DataType) (h : Fits c v ty) :
    ∃ wire, c.encode v ty = .ok wire ∧
      ∃ v', (c.decode wire ty).outcome = .ok v' ∧ v'.same v = true ∧ v.same v' = true := by
  have hdecode : ∃ fallback, decode c = decodeWith c fallback := by
    unfold decode
    cases defaultDepth c.registry with
    | zero => exact ⟨_, rfl⟩
    | succ depth => exact ⟨_, rfl⟩
  obtain ⟨fallback, hfallback⟩ := hdecode
  rw [hfallback]
  exact roundTrips_of_fits names h

section Cattery

/-- Cats and dogs, told apart by `petType`. A cat declares its tag and lists its litter. -/
def petType : DataType :=
  .union "petType" [("a", .record ⟨0⟩), ("b", .record ⟨1⟩)]

def cattery : Codec where
  registry :=
    { records :=
        [{ name := "Cat"
           fields :=
            [{ localName := "pet_type", wireName := "petType", type := .primitive .string },
              { localName := "nick_name", wireName := "nickName", type := .primitive .string },
              { localName := "born_at", wireName := "bornAt", type := .dateTime },
              { localName := "litter", wireName := "litter", type := .array petType }]
           required := ["pet_type"]
           nullable := ["nick_name"] },
          { name := "Dog"
            fields :=
            [{ localName := "good_boy", wireName := "goodBoy", type := .primitive .boolean }] }]
      names := [("Cat", ⟨0⟩), ("Dog", ⟨1⟩)]
      sources := ["Cat", "Dog"] }
  mode := .local

def puppy : Value :=
  .record ⟨1⟩ "Dog" [("good_boy", .bool true)]

/-- A dog, whose tag is filled in, in the litter of a cat, which has its tag. -/
def foundling : Value :=
  .record ⟨0⟩ "Cat"
    [("pet_type", .string "a"), ("born_at", .dateTime ⟨1589704200, 0, 0⟩),
      ("litter", .array [puppy, .null])]

theorem cattery_namesOnce : ∀ record ∈ cattery.registry.records, record.NamesOnce := by
  unfold RecordType.NamesOnce
  decide

theorem declared_of_keys {fields : List (String × Value)} {names : List String}
    (h : ∀ name ∈ OrderedMap.keys fields, name ∈ names) (name : String) (v : Value)
    (hv : Value.present fields name = some v) : name ∈ names :=
  h name ((OrderedMap.mem_keys fields name).2
    ⟨v, OrderedMap.mem_of_get? (Value.present_eq_some.1 hv).1⟩)

theorem puppy_fits : Fits cattery puppy petType := by
  refine .record rfl (.member (by decide) rfl ?_) (by decide) ?_ ?_ ?_
  · intro f hf hkey
    obtain rfl := List.mem_singleton.1 hf
    exact absurd hkey (by decide)
  · exact declared_of_keys (by decide)
  · intro f hf v hv
    obtain rfl := List.mem_singleton.1 hf
    obtain rfl := Option.some.inj hv
    exact .primitive (j := .bool true) _ (.bool true)
  · decide

theorem foundling_fits : Fits cattery foundling petType := by
  refine .record rfl (.member (by decide) rfl ?_) (by decide) ?_ ?_ ?_
  · intro f hf hkey
    simp only [List.mem_cons, List.not_mem_nil, or_false] at hf
    rcases hf with rfl | rfl | rfl | rfl
    · exact ⟨.string "a", "a", rfl, .json (j := .string "a") rfl, rfl⟩
    · exact absurd hkey (by decide)
    · exact absurd hkey (by decide)
    · exact absurd hkey (by decide)
  · exact declared_of_keys (by decide)
  · intro f hf v hv
    simp only [List.mem_cons, List.not_mem_nil, or_false] at hf
    rcases hf with rfl | rfl | rfl | rfl
    · obtain rfl := Option.some.inj hv
      exact .primitive (j := .string "a") _ (.string "a")
    · cases hv
    · obtain rfl := Option.some.inj hv
      have hread : readDateTime (DateTime.render ⟨1589704200, 0, 0⟩) =
          .ok ⟨1589704200, 0, 0⟩ := by
        rw [← Json.Typed.toOption_eq_some_iff]
        decide +kernel
      exact .dateTime hread (by decide)
    · obtain rfl := Option.some.inj hv
      refine .array ?_
      intro w hw
      rcases List.mem_cons.1 hw with rfl | hw
      · exact puppy_fits
      · obtain rfl := List.mem_singleton.1 hw
        exact .null petType
  · decide

theorem decode_encode_foundling :
    Fits cattery foundling petType ∧
      ∃ wire, cattery.encode foundling petType = .ok wire ∧
        ∃ v', (cattery.decode wire petType).outcome = .ok v' ∧
          v'.same foundling = true ∧ foundling.same v' = true :=
  ⟨foundling_fits, decode_encode cattery cattery_namesOnce foundling petType foundling_fits⟩

end Cattery

end OpenApi.Codec
