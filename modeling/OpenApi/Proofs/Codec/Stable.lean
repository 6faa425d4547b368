import OpenApi.Proofs.Codec.Registered
import OpenApi.Proofs.Codec.RoundTrip

/-!
# Decoding again

A decoded value is encoded to a payload that is decoded to an equal value, if nothing in it was lost
on the way in: a field that is left off the wire must have no default that would come back for it.
-/

namespace OpenApi.Codec

/-! ## What is asked of the types -/

/-- Values pass through the type unchanged. -/
def PassesThrough : DataType → Prop
  | .primitive _ | .any => True
  | _ => False

/-- The members of a union are records, each under a tag of its own, and a member that declares the
union's tag has it as it stands on the wire. The same holds of the elements of an array. -/
def Direct (c : Codec) : DataType → Prop
  | .array element => Direct c element
  | .union field mapping => (OrderedMap.keys mapping).Nodup ∧
    ∀ p ∈ mapping, ∃ id, p.2 = .record id ∧
      ∀ record, c.registry.record? id = some record →
        ∀ f ∈ record.fields, c.fieldKey f = c.tagKey field → PassesThrough f.type
  | _ => True

/-- What is asked of a registry. Its unions are direct, and its defaults are sound. -/
structure Steady (c : Codec) : Prop where
  names : ∀ record ∈ c.registry.records, record.NamesOnce
  direct : ∀ f, IsField c f → Direct c f.type
  defaults : ∀ f, IsField c f → ∀ wire, f.default = some (.wire wire) → wire.KeysOnce
  held : ∀ f, IsField c f → ∀ v, f.default = some (.held v) → Fits c v f.type

/-- What is asked of a decoded value. Its date-times are read back, and no field of a record that is
left off the wire has a default. -/
structure Lasting (c : Codec) (v : Value) : Prop where
  readBack : ∀ t, .dateTime t ∈ v.parts →
    ∃ t', readDateTime t.render = .ok t' ∧ t'.sameInstant t = true
  kept : ∀ id typeName fields, .record id typeName fields ∈ v.parts →
    ∀ record, c.registry.record? id = some record → ∀ f ∈ record.fields,
      record.isOptional f.localName = true → Value.present fields f.localName = none →
        f.default = none

variable {c : Codec}

theorem Lasting.of_parts {v w : Value} (h : Lasting c v) (parts : ∀ u ∈ w.parts, u ∈ v.parts) :
    Lasting c w :=
  ⟨fun t ht => h.readBack t (parts _ ht),
    fun id typeName fields hmem => h.kept id typeName fields (parts _ hmem)⟩

theorem Lasting.item {items : List Value} {v : Value} (h : Lasting c (.array items))
    (hv : v ∈ items) : Lasting c v := by
  refine h.of_parts fun u hu => ?_
  rw [Value.parts]
  exact List.mem_cons_of_mem _ (Value.mem_partsOfItems.2 ⟨v, hv, hu⟩)

theorem Lasting.field {id : RecordId} {typeName : String} {fields : List (String × Value)}
    (h : Lasting c (.record id typeName fields)) {name : String} {v : Value}
    (hv : OrderedMap.get? fields name = some v) : Lasting c v := by
  refine h.of_parts fun u hu => ?_
  rw [Value.parts]
  exact List.mem_cons_of_mem _
    (Value.mem_partsOfFields.2 ⟨(name, v), OrderedMap.mem_of_get? hv, hu⟩)

/-! ## What was decoded fits its type -/

theorem keysOnce_of_standsFor (steady : Steady c) {entries : List (String × Json)} {f : Field}
    {wire : Json} (field : IsField c f) (once : ∀ p ∈ entries, p.2.KeysOnce)
    (stands : standsFor c entries f = some (.wire wire)) : wire.KeysOnce := by
  unfold standsFor at stands
  split at stands
  · rename_i wire' hentry
    cases stands
    exact once _ (OrderedMap.mem_of_get? hentry)
  · exact steady.defaults f field wire stands

theorem eq_ofJson_of_passesThrough {wire : Json} {ty : DataType} {v : Value}
    (h : DecodesTo c wire ty v) (passes : PassesThrough ty) : v = .ofJson wire := by
  cases h with
  | null ty => rw [Value.ofJson]
  | primitive _ _ | any _ => rfl
  | _ => cases passes

theorem get?_of_payloadTag {field tag : String} {entries : List (String × Json)}
    (h : c.payloadTag field (.object entries) = .ok tag) :
    ∃ j, OrderedMap.get? entries (c.tagKey field) = some j ∧ j.isNull = false ∧
      tagText j = tag := by
  unfold payloadTag at h
  split at h
  · rename_i j hj
    obtain ⟨hget, hnull⟩ := Option.filter_eq_some_iff.1 hj
    exact ⟨j, hget, by simpa using hnull, Except.ok.inj h⟩
  · cases h

theorem tagOf?_of_mem {mapping : OrderedMap String DataType} {tag : String} {id : RecordId}
    (h : (tag, .record id) ∈ mapping) : ∃ tag', DataType.tagOf? mapping id = some tag' := by
  rw [← Option.isSome_iff_exists, DataType.tagOf?, List.findSome?_isSome_iff]
  exact ⟨(tag, .record id), h, by simp⟩

theorem Fits.of_admits {id : RecordId} {typeName : String} {fields : List (String × Value)}
    {ty ty' : DataType} (h : Fits c (.record id typeName fields) ty)
    (admits : ∀ record, c.registry.record? id = some record → Admits c id record fields ty') :
    Fits c (.record id typeName fields) ty' := by
  generalize hv : Value.record id typeName fields = v at h
  cases h with
  | record found _ once declared each absent =>
    cases hv
    exact .record found (admits _ found) once declared each absent
  | primitive _ _ | any _ | notText _ _ | notArray _ _ _ | untyped _ _ _ _ =>
    exact absurd hv.symm (Value.ofJson_ne_record _ _ _ _)
  | null _ | dateTime _ _ | array _ => cases hv

theorem Fits.of_member {field tag : String} {mapping : OrderedMap String DataType}
    {wire : Json} {ty : DataType} {v : Value} (direct : Direct c (.union field mapping))
    (tagged : c.payloadTag field wire = .ok tag) (listed : OrderedMap.get? mapping tag = some ty)
    (decodes : DecodesTo c wire ty v) (fits : Fits c v ty) : Fits c v (.union field mapping) := by
  obtain ⟨honce, hmembers⟩ := direct
  obtain ⟨id, hty, hplain⟩ := hmembers _ (OrderedMap.mem_of_get? listed)
  obtain rfl : ty = .record id := hty
  obtain ⟨tag', htag'⟩ := tagOf?_of_mem (OrderedMap.mem_of_get? listed)
  cases decodes with
  | null => cases tagged
  | @record entries _ record fields found _ _ absent _ each =>
    refine fits.of_admits fun record' found' => .member honce htag' ?_
    obtain rfl := Option.some.inj (found.symm.trans found')
    intro f hf hkey
    -- The tag of the payload is the record's own field.
    obtain ⟨j, hentry, hnull, rfl⟩ := get?_of_payloadTag tagged
    have hstands : standsFor c entries f = some (.wire j) := standsFor_of_some (hkey ▸ hentry)
    cases hget : OrderedMap.get? fields f.localName with
    | none =>
      rw [(absent f hf).1 hget] at hstands
      cases hstands
    | some v =>
      obtain rfl := eq_ofJson_of_passesThrough (each f hf j v hstands hget)
        (hplain record found f hf hkey)
      have hpresent : Value.present fields f.localName = some (.ofJson j) :=
        Value.present_eq_some.2 ⟨hget, by rw [Value.isNull_ofJson, hnull]⟩
      exact ⟨_, _, hpresent, .json hnull, listed⟩

theorem fits_record (steady : Steady c) {entries : List (String × Json)} {id : RecordId}
    {record : RecordType} {fields : List (String × Value)}
    (found : c.registry.record? id = some record) (nodup : (OrderedMap.keys fields).Nodup)
    (declared : ∀ name ∈ OrderedMap.keys fields, name ∈ record.fields.map (·.localName))
    (absent : ∀ f ∈ record.fields,
      OrderedMap.get? fields f.localName = none ↔ standsFor c entries f = none)
    (held : ∀ f ∈ record.fields, ∀ v w, standsFor c entries f = some (.held v) →
      OrderedMap.get? fields f.localName = some w → w = v)
    (each : ∀ f ∈ record.fields, ∀ wire v, standsFor c entries f = some (.wire wire) →
      OrderedMap.get? fields f.localName = some v → Fits c v f.type)
    (lasting : Lasting c (.record id record.name fields)) :
    Fits c (.record id record.name fields) (.record id) := by
  refine .record found .own nodup ?_ ?_ ?_
  · intro name v hv
    refine declared name ((OrderedMap.mem_keys fields name).2 ⟨v, ?_⟩)
    exact OrderedMap.mem_of_get? (Value.present_eq_some.1 hv).1
  · intro f hf v hv
    have hget : OrderedMap.get? fields f.localName = some v := (Value.present_eq_some.1 hv).1
    cases hstands : standsFor c entries f with
    | none =>
      rw [(absent f hf).2 hstands] at hget
      cases hget
    | some default =>
      cases default with
      | wire wire => exact each f hf wire v hstands hget
      | held w =>
        obtain rfl := held f hf w v hstands hget
        unfold standsFor at hstands
        split at hstands
        · cases hstands
        · exact steady.held f (isField_of_found found f hf) v hstands
  · refine lasting.kept id record.name fields ?_ record found
    rw [Value.parts]
    exact List.mem_cons_self

theorem DecodesTo.fits (steady : Steady c) {wire : Json} {ty : DataType} {v : Value}
    (h : DecodesTo c wire ty v) (once : wire.KeysOnce) (direct : Direct c ty)
    (lasting : Lasting c v) : Fits c v ty := by
  induction h with
  | null ty => exact .null ty
  | primitive wire kind => exact .primitive kind once
  | any wire => exact .any once
  | @dateTime s t _ =>
    obtain ⟨t', hread, hsame⟩ := lasting.readBack t (by simp [Value.parts])
    exact .dateTime hread hsame
  | notText other => exact .notText once other
  | @array items element vs length each ih =>
    rw [Json.keysOnce_array_iff] at once
    refine .array fun v hv => ?_
    obtain ⟨j, hj⟩ := exists_mem_zip length hv
    exact ih _ hj (once j (List.of_mem_zip hj).1) direct (lasting.item hv)
  | notArray element other => exact .notArray element once other
  | @record entries id record fields found nodup declared absent held each ih =>
    rw [Json.keysOnce_object_iff] at once
    refine fits_record steady found nodup declared absent held ?_ lasting
    intro f hf wire v hstands hget
    have hfield : IsField c f := isField_of_found found f hf
    exact ih f hf wire v hstands hget (keysOnce_of_standsFor steady hfield once.2 hstands)
      (steady.direct f hfield) (lasting.field hget)
  | @member wire field tag mapping ty v tagged listed decodes ih =>
    have hmember : Direct c ty := by
      obtain ⟨id, hty, _⟩ := direct.2 _ (OrderedMap.mem_of_get? listed)
      rw [show ty = .record id from hty]
      trivial
    exact .of_member direct tagged listed decodes (ih once hmember lasting)

/-! ## The payload of a decoded value -/

theorem exists_fallback (c : Codec) : ∃ fallback, decode c = decodeWith c fallback := by
  unfold decode
  cases defaultDepth c.registry with
  | zero => exact ⟨_, rfl⟩
  | succ depth => exact ⟨_, rfl⟩

/-- What was decoded is encoded to a payload that is decoded to an equal value. -/
theorem decode_encode_decode {c : Codec} (steady : Steady c) {wire : Json} {ty : DataType}
    {v : Value} (once : wire.KeysOnce) (direct : Direct c ty)
    (decoded : (c.decode wire ty).outcome = .ok v) (lasting : Lasting c v) :
    ∃ wire', c.encode v ty = .ok wire' ∧
      ∃ v', (c.decode wire' ty).outcome = .ok v' ∧ v'.same v = true ∧ v.same v' = true := by
  obtain ⟨fallback, hfallback⟩ := exists_fallback c
  have hdecodes : DecodesTo c wire ty v := decodesTo_of_decode steady.names decoded
  rw [hfallback]
  exact roundTrips_of_fits steady.names (hdecodes.fits steady once direct lasting)

section Kennel

/-- Dogs and cats, told apart by their kind. -/
def kennelPet : DataType :=
  .union "kind" [("dog", .record ⟨0⟩), ("cat", .record ⟨1⟩)]

/-- A dog declares its kind and is called Rex by default. A cat does neither. -/
def kennel : Codec where
  registry :=
    { records :=
        [{ name := "Dog"
           fields :=
            [{ localName := "kind", wireName := "kind", type := .primitive .string },
              { localName := "name", wireName := "name", type := .primitive .string
                default := some (.wire (.string "rex")) },
              { localName := "born_at", wireName := "bornAt", type := .dateTime }]
           required := ["kind"] },
          { name := "Cat"
            fields := [{ localName := "rival", wireName := "rival", type := kennelPet }] }]
      names := [("Dog", ⟨0⟩), ("Cat", ⟨1⟩)]
      sources := ["Dog", "Cat"] }

theorem kennelPet_direct : Direct kennel kennelPet := by
  refine ⟨by decide, ?_⟩
  intro p hp
  simp only [List.mem_cons, List.not_mem_nil, or_false] at hp
  rcases hp with rfl | rfl
  · refine ⟨⟨0⟩, rfl, ?_⟩
    rintro record ⟨⟩ f hf hkey
    simp only [List.mem_cons, List.not_mem_nil, or_false] at hf
    rcases hf with rfl | rfl | rfl
    · trivial
    · exact absurd hkey (by decide)
    · exact absurd hkey (by decide)
  · refine ⟨⟨1⟩, rfl, ?_⟩
    rintro record ⟨⟩ f hf hkey
    obtain rfl := List.mem_singleton.1 hf
    exact absurd hkey (by decide)

theorem kennel_steady : Steady kennel := by
  have hfields : ∀ f, IsField kennel f → Direct kennel f.type ∧
      (f.default = none ∨ f.default = some (.wire (.string "rex"))) := by
    rintro f ⟨record, hrecord, hf⟩
    simp only [kennel, List.mem_cons, List.not_mem_nil, or_false] at hrecord
    rcases hrecord with rfl | rfl
    · simp only [List.mem_cons, List.not_mem_nil, or_false] at hf
      rcases hf with rfl | rfl | rfl
      · exact ⟨trivial, .inl rfl⟩
      · exact ⟨trivial, .inr rfl⟩
      · exact ⟨trivial, .inl rfl⟩
    · obtain rfl := List.mem_singleton.1 hf
      exact ⟨kennelPet_direct, .inl rfl⟩
  refine ⟨?_, fun f hf => (hfields f hf).1, ?_, ?_⟩
  · unfold RecordType.NamesOnce
    decide
  · intro f hf wire hdefault
    rcases (hfields f hf).2 with h | h <;> rw [h] at hdefault <;> cases hdefault
    exact .string "rex"
  · intro f hf v hdefault
    rcases (hfields f hf).2 with h | h <;> rw [h] at hdefault <;> cases hdefault

/-- A cat and its rival, a dog that is not named. -/
def rivalWire : Json :=
  .object [("rival", .object [("kind", .string "dog"),
    ("bornAt", .string "2020-05-17T07:30:00Z")])]

def rival : Value :=
  .record ⟨0⟩ "Dog" [("kind", .string "dog"), ("name", .string "rex"),
    ("born_at", .dateTime ⟨1589700600, 0, 0⟩)]

theorem rival_lasting : Lasting kennel (.record ⟨1⟩ "Cat" [("rival", rival)]) := by
  have hread : readDateTime (DateTime.render ⟨1589700600, 0, 0⟩) = .ok ⟨1589700600, 0, 0⟩ := by
    rw [← Json.Typed.toOption_eq_some_iff]
    decide +kernel
  constructor
  · intro t ht
    simp only [rival, Value.parts, Value.partsOfFields, List.append_nil, List.cons_append,
      List.nil_append, List.mem_cons, reduceCtorEq, Value.dateTime.injEq, List.not_mem_nil,
      or_false, false_or] at ht
    rw [ht]
    exact ⟨_, hread, by decide⟩
  · intro id typeName fields hmem record hrecord f hf _ habsent
    simp only [rival, Value.parts, Value.partsOfFields, List.append_nil, List.cons_append,
      List.nil_append, List.mem_cons, Value.record.injEq, reduceCtorEq, List.not_mem_nil, or_self,
      or_false] at hmem
    rcases hmem with ⟨rfl, rfl, rfl⟩ | ⟨rfl, rfl, rfl⟩
    · obtain rfl := Option.some.inj hrecord
      obtain rfl := List.mem_singleton.1 hf
      rfl
    · obtain rfl := Option.some.inj hrecord
      simp only [List.mem_cons, List.not_mem_nil, or_false] at hf
      rcases hf with rfl | rfl | rfl
      · rfl
      · cases habsent
      · rfl

theorem decode_encode_decode_rival :
    let cat : Value := .record ⟨1⟩ "Cat" [("rival", rival)]
    (kennel.decode rivalWire (.record ⟨1⟩)).outcome = .ok cat ∧
      ∃ wire', kennel.encode cat (.record ⟨1⟩) = .ok wire' ∧
        ∃ v', (kennel.decode wire' (.record ⟨1⟩)).outcome = .ok v' ∧
          v'.same cat = true ∧ cat.same v' = true := by
  have honce : rivalWire.KeysOnce := by
    simp [rivalWire, OrderedMap.keys, Json.KeysOnce.string]
  exact ⟨rfl, decode_encode_decode kennel_steady honce trivial rfl rival_lasting⟩

end Kennel

/-! ## A default that comes back -/

/-- A pet is called Rex unless it has another name. -/
def petCalledRex : String × Json :=
  ("Pet", .object [("type", .string "object"), ("properties", .object
    [("name", .object [("type", .string "string"), ("default", .string "rex")])])])

def rexRegistry : Registry where
  records :=
    [{ name := "Pet"
       fields := [{ localName := "name", wireName := "name", type := .primitive .string
                    default := some (.wire (.string "rex")) }] }]
  names := [("Pet", ⟨0⟩)]
  sources := ["Pet"]

/-- A name that is null is left off the wire, and the pet is called Rex again. -/
theorem null_comes_back_as_default :
    Registry.ofJson? (Registry.documentOf [petCalledRex]) = some rexRegistry ∧ ∀ mode,
      (decode ⟨rexRegistry, mode⟩ (.object [("name", .null)]) (.record ⟨0⟩)).outcome =
          .ok (.record ⟨0⟩ "Pet" [("name", .null)]) ∧
        encode ⟨rexRegistry, mode⟩ (.record ⟨0⟩ "Pet" [("name", .null)]) (.record ⟨0⟩) =
          .ok (.object []) ∧
        (decode ⟨rexRegistry, mode⟩ (.object []) (.record ⟨0⟩)).outcome =
          .ok (.record ⟨0⟩ "Pet" [("name", .string "rex")]) ∧
        Value.same (.record ⟨0⟩ "Pet" [("name", .string "rex")])
          (.record ⟨0⟩ "Pet" [("name", .null)]) = false := by
  have hsame : Value.same (.record ⟨0⟩ "Pet" [("name", .string "rex")])
      (.record ⟨0⟩ "Pet" [("name", .null)]) = false := by
    simp [Value.same, Value.samePresent, OrderedMap.get?_cons]
  refine ⟨rfl, fun mode => ?_⟩
  cases mode with
  | wire => exact ⟨rfl, rfl, rfl, hsame⟩
  | «local» => exact ⟨rfl, rfl, rfl, hsame⟩

/-! ## A tag that is a date -/

def dayRegistry : Registry where
  records :=
    [{ name := "Day", fields := [{ localName := "on", wireName := "on", type := .dateTime }] }]
  names := [("Day", ⟨0⟩)]
  sources := ["Day"]

/-- A date is written with its time, and then it is no tag any more. -/
example :
    let ty : DataType := .union "on" [("2020-01-01", .record ⟨0⟩)]
    let day : Value := .record ⟨0⟩ "Day" [("on", .dateTime ⟨1577836800, 0, 0⟩)]
    let written : Json := .object [("on", .string "2020-01-01T00:00:00Z")]
    (decode ⟨dayRegistry, .wire⟩ (.object [("on", .string "2020-01-01")]) ty).outcome = .ok day ∧
      encode ⟨dayRegistry, .wire⟩ day ty = .ok written ∧
      (decode ⟨dayRegistry, .wire⟩ written ty).outcome =
        .error (.unknownTag "2020-01-01T00:00:00Z") :=
  ⟨rfl, rfl, rfl⟩

end OpenApi.Codec
