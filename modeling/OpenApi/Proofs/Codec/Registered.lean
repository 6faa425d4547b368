import OpenApi.Proofs.Codec.Decoded
import OpenApi.Proofs.Codec.Encoding
import OpenApi.Proofs.Operation
import OpenApi.Proofs.Registry.Reordered

/-!
# Records that are reached

Whatever record the types of a document lead to, in decoding and in encoding, is in the registry.
-/

namespace OpenApi.Codec

/-- The record is in the registry. -/
def Registered (c : Codec) (id : RecordId) : Prop :=
  ∃ record, c.registry.record? id = some record

/-- Every default of the registry stands as it does on the wire. -/
def DefaultsOnWire (c : Codec) : Prop :=
  ∀ f, IsField c f → ∀ v, f.default ≠ some (.held v)

variable {c : Codec}

theorem defaultsOnWire_of_wellFormed {r : Registry} (h : r.WellFormed) (mode : NameMode) :
    DefaultsOnWire ⟨r, mode⟩ := by
  rintro f ⟨record, hrecord, hf⟩
  exact (h.sound record hrecord).onWire f hf

/-! ## Decoded values -/

theorem standsFor_ne_held (onWire : DefaultsOnWire c) {f : Field} (field : IsField c f)
    (entries : List (String × Json)) (v : Value) : standsFor c entries f ≠ some (.held v) := by
  unfold standsFor
  split
  · simp
  · exact onWire f field v

theorem exists_mem_zip {items : List Json} {vs : List Value} (length : items.length = vs.length)
    {v : Value} (h : v ∈ vs) : ∃ j, (j, v) ∈ items.zip vs := by
  rw [← List.map_snd_zip (Nat.le_of_eq length.symm), List.mem_map] at h
  obtain ⟨⟨j, w⟩, hp, rfl⟩ := h
  exact ⟨j, hp⟩

theorem exists_wire_of_get? (onWire : DefaultsOnWire c) {entries : List (String × Json)}
    {fields : List (String × Value)} {f : Field} (field : IsField c f)
    (absent : OrderedMap.get? fields f.localName = none ↔ standsFor c entries f = none) {v : Value}
    (h : OrderedMap.get? fields f.localName = some v) :
    ∃ wire, standsFor c entries f = some (.wire wire) := by
  cases hstands : standsFor c entries f with
  | none =>
    rw [absent.2 hstands] at h
    cases h
  | some default =>
    cases default with
    | wire wire => exact ⟨wire, rfl⟩
    | held v => exact absurd hstands (standsFor_ne_held onWire field entries v)

theorem DecodesTo.registered (onWire : DefaultsOnWire c) {wire : Json} {ty : DataType} {v : Value}
    (h : DecodesTo c wire ty v) : ∀ id, v.Holds id → Registered c id := by
  induction h with
  | null _ | dateTime _ =>
    intro id hid
    simp [Value.Holds, Value.parts] at hid
  | primitive wire _ | any wire | notText _ | notArray _ _ =>
    intro id hid
    exact absurd hid (Value.not_holds_ofJson _ id)
  | array length _ ih =>
    intro id hid
    obtain ⟨v, hv, hid⟩ := Value.holds_array_iff.1 hid
    obtain ⟨j, hj⟩ := exists_mem_zip length hv
    exact ih _ hj id hid
  | @record entries id record fields found once declared absent held each ih =>
    intro id hid
    rcases Value.holds_record_iff.1 hid with rfl | ⟨p, mem, holds⟩
    · exact ⟨record, found⟩
    · obtain ⟨f, hf, hname⟩ := List.mem_map.1 (declared p.1 (List.mem_map_of_mem mem))
      have hget : OrderedMap.get? fields f.localName = some p.2 := by
        rw [hname]
        exact OrderedMap.get?_of_mem once mem
      obtain ⟨wire, hstands⟩ :=
        exists_wire_of_get? onWire (isField_of_found found f hf) (absent f hf) hget
      exact ih f hf wire p.2 hstands hget id holds
  | member _ _ _ ih => exact ih

/-! ## Outcomes -/

theorem DecodesWithin.ne_foreignRecord
    (fields : ∀ f, IsField c f → ∀ id, f.type.Mentions id → Registered c id)
    {depth : Nat} {wire : Json} {ty : DataType} (known : ∀ id, ty.Mentions id → Registered c id)
    (id : RecordId) : ¬DecodesWithin c depth wire ty (.error (.foreignRecord id)) := by
  intro h
  induction depth generalizing wire ty with
  | zero => exact h
  | succ depth ih =>
    -- Either the record is asked for here, or by a default with one level less.
    cases DecodesBy.faultBy h _ rfl with
    | foreignRecord reached unknown =>
      have hregistered : Registered c id := by
        rcases reached with hid | ⟨f, hf, hid⟩
        · exact known id hid
        · exact fields f hf id hid
      obtain ⟨record, hrecord⟩ := hregistered
      rw [unknown] at hrecord
      cases hrecord
    | fallback default fault =>
      obtain ⟨f, hf, _, rfl⟩ := default
      exact ih (fields f hf) fault

theorem decodeWithin_ne_foreignRecord
    (fields : ∀ f, IsField c f → ∀ id, f.type.Mentions id → Registered c id)
    {depth : Nat} {wire : Json} {ty : DataType} (known : ∀ id, ty.Mentions id → Registered c id)
    (id : RecordId) : (decodeWithin c depth wire ty).outcome ≠ .error (.foreignRecord id) :=
  fun h => DecodesWithin.ne_foreignRecord fields known id
    ((decodesWithin_succ_iff depth).2 ⟨h, by simp⟩)

/-! ## The types of a document -/

/-- The type of a field of the registry, or of a parameter or a response of an operation. -/
inductive Declared (r : Registry) (table : OperationTable) : DataType → Prop where
  | field {record : RecordType} {f : Field} (mem : record ∈ r.records) (field : f ∈ record.fields) :
      Declared r table f.type
  | parameter {o : Operation} {p : Parameter} (mem : o ∈ table.operations)
      (parameter : p ∈ o.parameters) : Declared r table p.type
  | response {o : Operation} {p : ResponseKey × DataType} (mem : o ∈ table.operations)
      (response : p ∈ o.responses) : Declared r table p.2

theorem Declared.known {r : Registry} {table : OperationTable} {ty : DataType}
    (sound : ∀ record ∈ r.records, Registry.SoundRecord r.names record)
    (operations : ∀ o ∈ table.operations, o.Known r.names) (h : Declared r table ty) :
    ty.Known r.names := by
  cases h with
  | field mem field => exact (sound _ mem).known _ field
  | parameter mem parameter => exact (operations _ mem).parameters _ parameter
  | response mem response => exact (operations _ mem).responses _ response

theorem index_lt_of_record? {r : Registry} {id : RecordId} {record : RecordType}
    (h : r.record? id = some record) : id.index < r.records.length :=
  (List.getElem?_eq_some_iff.1 h).1

/-- Each record that a type of the document mentions is the registry's of that name. Whatever is
decoded under the type, however far, and whatever is encoded again, no other record is asked for. -/
theorem declared_records_registered {doc : Document} {r : Registry} {table : OperationTable}
    (built : (Registry.build doc).outcome = .ok r)
    (operations : (OperationTable.build doc r.names).outcome = .ok table)
    {ty : DataType} (declared : Declared r table ty) :
    (∀ id, ty.Mentions id → id.index < r.records.length ∧
      ∃ record, r.record? id = some record ∧ r.idOf? record.name = some id) ∧
    ∀ mode wire depth,
      (∀ id, (decodeWithin ⟨r, mode⟩ depth wire ty).outcome ≠ .error (.foreignRecord id)) ∧
      ∀ v, (decodeWithin ⟨r, mode⟩ depth wire ty).outcome = .ok v →
        (∀ id, v.Holds id → id.index < r.records.length) ∧
        ∀ ty' id, encode ⟨r, mode⟩ v ty' ≠ .error (.foreignRecord id) := by
  have hr : r.WellFormed := Registry.wellFormed_of_build built
  have hmentions : ∀ ty : DataType, ty.Known r.names → ∀ id, ty.Mentions id →
      ∃ record, r.record? id = some record ∧ r.idOf? record.name = some id :=
    fun ty known id => hr.of_mentions known
  have hknown : ty.Known r.names :=
    declared.known hr.sound (OperationTable.known_of_build operations)
  refine ⟨fun id hid => ?_, fun mode wire depth => ⟨fun id => ?_, fun v hv => ?_⟩⟩
  · obtain ⟨record, hrecord, hname⟩ := hmentions ty hknown id hid
    exact ⟨index_lt_of_record? hrecord, record, hrecord, hname⟩
  · refine decodeWithin_ne_foreignRecord ?_ (fun id hid => ?_) id
    · rintro f ⟨record, hrecord, hf⟩ id hid
      have hf : f.type.Known r.names := (hr.sound record hrecord).known f hf
      obtain ⟨record', hrecord', _⟩ := hmentions f.type hf id hid
      exact ⟨record', hrecord'⟩
    · obtain ⟨record, hrecord, _⟩ := hmentions ty hknown id hid
      exact ⟨record, hrecord⟩
  · have hdecoded : DecodesTo ⟨r, mode⟩ wire ty v := decodesTo_of_decodeWithin hr.namesOnce hv
    have hheld := hdecoded.registered (defaultsOnWire_of_wellFormed hr mode)
    refine ⟨fun id hid => ?_, fun ty' id hforeign => ?_⟩
    · obtain ⟨record, hrecord⟩ := hheld id hid
      exact index_lt_of_record? hrecord
    · cases encodeFault_of_encode v ty' _ hforeign with
      | foreignRecord held unknown =>
        obtain ⟨record, hrecord⟩ := hheld id held
        rw [unknown] at hrecord
        cases hrecord

section Rescue

open Json.Typed (toOption_eq_some_iff)

/-- Owners and their pets, with an operation that answers with an owner. -/
def rescue : Json :=
  .object [("openapi", .string "3.0.0"), ("info", .object []),
    ("paths", .object [("/owner", .object [("get", .object [("operationId", .string "findOwner"),
      ("responses", .object [("200", .object [("description", .string ""),
        ("content", .object [("application/json", .object
          [("schema", Registry.referTo "Owner")])])])])])])]),
    ("components", .object [("schemas", .object [Registry.owner, Registry.pet])])]

theorem rescue_responses :
    ((Document.ofJson rescue).toOption.bind fun doc =>
      (Registry.build doc).outcome.toOption.bind fun r =>
        (OperationTable.build doc r.names).outcome.toOption.map fun table =>
          table.operations.any fun o => o.responses.any fun p => p.2.same (.record ⟨0⟩)) =
      some true := by
  decide +kernel

theorem declared_records_registered_owner :
    ∃ doc r table, Document.ofJson rescue = .ok doc ∧ (Registry.build doc).outcome = .ok r ∧
      (OperationTable.build doc r.names).outcome = .ok table ∧ Declared r table (.record ⟨0⟩) ∧
      0 < r.records.length ∧ ∀ mode wire depth,
        (∀ id, (decodeWithin ⟨r, mode⟩ depth wire (.record ⟨0⟩)).outcome ≠
          .error (.foreignRecord id)) ∧
        ∀ v, (decodeWithin ⟨r, mode⟩ depth wire (.record ⟨0⟩)).outcome = .ok v →
          (∀ id, v.Holds id → id.index < r.records.length) ∧
          ∀ ty' id, encode ⟨r, mode⟩ v ty' ≠ .error (.foreignRecord id) := by
  obtain ⟨doc, hdoc, h⟩ := Option.bind_eq_some_iff.1 rescue_responses
  obtain ⟨r, hr, h⟩ := Option.bind_eq_some_iff.1 h
  obtain ⟨table, htable, h⟩ := Option.map_eq_some_iff.1 h
  obtain ⟨o, ho, h⟩ := List.any_eq_true.1 h
  obtain ⟨p, hp, hsame⟩ := List.any_eq_true.1 h
  have hdeclared : Declared r table (.record ⟨0⟩) :=
    DataType.eq_record_of_same hsame ▸ .response ho hp
  obtain ⟨hmentions, hsafe⟩ := declared_records_registered (toOption_eq_some_iff.1 hr)
    (toOption_eq_some_iff.1 htable) hdeclared
  exact ⟨doc, r, table, toOption_eq_some_iff.1 hdoc, toOption_eq_some_iff.1 hr,
    toOption_eq_some_iff.1 htable, hdeclared, (hmentions ⟨0⟩ (.record ⟨0⟩)).1, hsafe⟩

end Rescue

end OpenApi.Codec
