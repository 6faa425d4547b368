import OpenApi.Proofs.Codec.Parts
import OpenApi.Proofs.Json.Typed

/-!
# Where encoding fails

Encoding fails only at a record: one that its union does not list, or one that is not in the
registry.
-/

namespace OpenApi

/-- The type under which the items of an array value are written. -/
def DataType.elementType : DataType → DataType
  | .array element => element
  | _ => .any

namespace Codec

open Json.Typed (bind_eq_error_iff)

variable {c : Codec}

/-! ## Records -/

theorem encodeFields_error {record : RecordType} {parts : FieldParts} {fs : List Field}
    {out : OrderedMap String Json} {e : CodecError}
    (h : encodeFields c record parts fs out = .error e) :
    ∃ f ∈ fs, ∃ part, OrderedMap.get? parts f.localName = some part ∧ part f.type = .error e := by
  induction fs generalizing out with
  | nil => cases h
  | cons f rest ih =>
    have hrest : ∀ {out'}, encodeFields c record parts rest out' = .error e →
        ∃ g ∈ f :: rest, ∃ part, OrderedMap.get? parts g.localName = some part ∧
          part g.type = .error e := by
      intro out' h
      obtain ⟨g, hg, hpart⟩ := ih h
      exact ⟨g, List.mem_cons_of_mem _ hg, hpart⟩
    rw [encodeFields] at h
    split at h
    · rename_i part hpart
      rcases bind_eq_error_iff.1 h with h | ⟨_, _, h⟩
      · exact ⟨f, List.mem_cons_self, part, hpart, h⟩
      · exact hrest h
    · split at h
      · exact hrest h
      · exact hrest h

theorem encodeRecordParts_error {id : RecordId} {parts : FieldParts} {e : CodecError}
    (h : encodeRecordParts c id parts = .error e) :
    (c.registry.record? id = none ∧ e = .foreignRecord id) ∨
      ∃ record, c.registry.record? id = some record ∧ ∃ f ∈ record.fields, ∃ part,
        OrderedMap.get? parts f.localName = some part ∧ part f.type = .error e := by
  cases hfound : c.registry.record? id with
  | none =>
    rw [encodeRecordParts, Codec.record, hfound] at h
    cases h
    exact .inl ⟨rfl, rfl⟩
  | some record =>
    rw [encodeRecordParts, record_of_found hfound] at h
    exact .inr ⟨record, rfl, encodeFields_error h⟩

theorem encodeMember_error {field : String} {mapping : OrderedMap String DataType} {id : RecordId}
    {typeName : String} {parts : FieldParts} {e : CodecError}
    (h : encodeMember c field mapping id typeName parts = .error e) :
    (DataType.tagOf? mapping id = none ∧ e = .notAMember typeName) ∨
      encodeRecordParts c id parts = .error e := by
  unfold encodeMember at h
  split at h
  · rename_i hlisted
    cases h
    exact .inl ⟨hlisted, rfl⟩
  · rcases bind_eq_error_iff.1 h with h | ⟨out, _, h⟩
    · exact .inr h
    · dsimp only at h
      split at h <;> cases h

theorem encode_array (c : Codec) (items : List Value) (ty : DataType) :
    encode c (.array items) ty = (encodeItems c items ty.elementType).map .array := by
  rw [encode.eq_def]
  cases ty <;> exact bind_pure_eq_map _ _

theorem encode_object (c : Codec) (fields : List (String × Value)) (ty : DataType) :
    encode c (.object fields) ty = (encodeEntries c fields).map .object := by
  rw [encode]
  exact bind_pure_eq_map _ _

theorem encode_union (field : String) (mapping : OrderedMap String DataType) (id : RecordId)
    (typeName : String) (fields : List (String × Value)) :
    encode c (.record id typeName fields) (.union field mapping) =
      (encodeMember c field mapping id typeName (encodeParts c fields)).map .object := by
  rw [encode.eq_def]
  exact bind_pure_eq_map _ _

theorem encode_record {ty : DataType} (h : ∀ field mapping, ty ≠ .union field mapping)
    (id : RecordId) (typeName : String) (fields : List (String × Value)) :
    encode c (.record id typeName fields) ty =
      (encodeRecordParts c id (encodeParts c fields)).map .object := by
  rw [encode.eq_def]
  cases ty with
  | union field mapping => exact absurd rfl (h field mapping)
  | _ => exact bind_pure_eq_map _ _

/-! ## Values -/

/-- What a fault of encoding comes from: a record of the value. -/
inductive EncodeFault (c : Codec) (v : Value) : CodecError → Prop where
  | notAMember (typeName : String) : EncodeFault c v (.notAMember typeName)
  | foreignRecord {id : RecordId} (held : v.Holds id) (unknown : c.registry.record? id = none) :
      EncodeFault c v (.foreignRecord id)

theorem EncodeFault.mono {v w : Value} {e : CodecError} (h : ∀ id, v.Holds id → w.Holds id)
    (fault : EncodeFault c v e) : EncodeFault c w e := by
  cases fault with
  | notAMember typeName => exact .notAMember typeName
  | foreignRecord held unknown => exact .foreignRecord (h _ held) unknown

theorem encodeFault_of_parts {id : RecordId} (typeName : String) {fields : List (String × Value)}
    {e : CodecError}
    (each : ∀ name part, OrderedMap.get? (encodeParts c fields) name = some part →
      ∀ ty, part ty = .error e → ∃ p ∈ fields, EncodeFault c p.2 e)
    (h : encodeRecordParts c id (encodeParts c fields) = .error e) :
    EncodeFault c (.record id typeName fields) e := by
  rcases encodeRecordParts_error h with ⟨unknown, rfl⟩ | ⟨_, _, f, _, part, hpart, h⟩
  · exact .foreignRecord (Value.holds_record_iff.2 (.inl rfl)) unknown
  · obtain ⟨p, hp, hfault⟩ := each _ part hpart _ h
    exact hfault.mono fun id hid => Value.holds_record_iff.2 (.inr ⟨p, hp, hid⟩)

mutual

theorem encodeFault_of_encode : (v : Value) → ∀ ty e, encode c v ty = .error e → EncodeFault c v e
  | .null, _, _, h | .bool _, _, _, h | .number _, _, _, h | .string _, _, _, h
  | .dateTime _, _, _, h => by
    rw [encode] at h
    cases h
  | .array items, ty, e, h => by
    rw [encode.eq_def] at h
    rcases bind_eq_error_iff.1 h with h | ⟨_, _, h⟩
    · obtain ⟨v, hv, hfault⟩ := encodeFault_of_items items _ e h
      exact hfault.mono fun id hid => Value.holds_array_iff.2 ⟨v, hv, hid⟩
    · cases h
  | .object fields, ty, e, h => by
    rw [encode] at h
    rcases bind_eq_error_iff.1 h with h | ⟨_, _, h⟩
    · obtain ⟨p, hp, hfault⟩ := encodeFault_of_entries fields e h
      exact hfault.mono fun id hid => Value.holds_object_iff.2 ⟨p, hp, hid⟩
    · cases h
  | .record id typeName fields, ty, e, h => by
    have hrecord : encodeRecordParts c id (encodeParts c fields) = .error e →
        EncodeFault c (.record id typeName fields) e :=
      encodeFault_of_parts typeName (encodeFault_of_field fields e)
    by_cases hunion : ∃ field mapping, ty = .union field mapping
    · obtain ⟨field, mapping, rfl⟩ := hunion
      rw [encode_union] at h
      rcases encodeMember_error (error_of_map h) with ⟨_, rfl⟩ | h
      · exact .notAMember typeName
      · exact hrecord h
    · rw [encode_record fun field mapping he => hunion ⟨field, mapping, he⟩] at h
      exact hrecord (error_of_map h)

theorem encodeFault_of_items : (items : List Value) → ∀ element e,
    encodeItems c items element = .error e → ∃ v ∈ items, EncodeFault c v e
  | [], _, _, h => by cases h
  | v :: rest, element, e, h => by
    rw [encodeItems] at h
    rcases bind_eq_error_iff.1 h with h | ⟨_, _, h⟩
    · exact ⟨v, List.mem_cons_self, encodeFault_of_encode v element e h⟩
    · rcases bind_eq_error_iff.1 h with h | ⟨_, _, h⟩
      · obtain ⟨w, hw, hfault⟩ := encodeFault_of_items rest element e h
        exact ⟨w, List.mem_cons_of_mem _ hw, hfault⟩
      · cases h

theorem encodeFault_of_entries : (fields : List (String × Value)) → ∀ e,
    encodeEntries c fields = .error e → ∃ p ∈ fields, EncodeFault c p.2 e
  | [], _, h => by cases h
  | (key, v) :: rest, e, h => by
    rw [encodeEntries] at h
    rcases bind_eq_error_iff.1 h with h | ⟨_, _, h⟩
    · exact ⟨(key, v), List.mem_cons_self, encodeFault_of_encode v .any e h⟩
    · rcases bind_eq_error_iff.1 h with h | ⟨_, _, h⟩
      · obtain ⟨p, hp, hfault⟩ := encodeFault_of_entries rest e h
        exact ⟨p, List.mem_cons_of_mem _ hp, hfault⟩
      · cases h

theorem encodeFault_of_field : (fields : List (String × Value)) → ∀ e name part,
    OrderedMap.get? (encodeParts c fields) name = some part →
      ∀ ty, part ty = .error e → ∃ p ∈ fields, EncodeFault c p.2 e
  | [], _, _, _, hpart, _, _ => by cases hpart
  | (key, v) :: rest, e, name, part, hpart, ty, h => by
    have hrest : OrderedMap.get? (encodeParts c rest) name = some part →
        ∃ p ∈ (key, v) :: rest, EncodeFault c p.2 e := by
      intro hpart
      obtain ⟨p, hp, hfault⟩ := encodeFault_of_field rest e name part hpart ty h
      exact ⟨p, List.mem_cons_of_mem _ hp, hfault⟩
    rw [encodeParts] at hpart
    split at hpart
    · exact hrest hpart
    · rw [OrderedMap.get?_cons] at hpart
      split at hpart
      · obtain rfl := Option.some.inj hpart
        exact ⟨(key, v), List.mem_cons_self, encodeFault_of_encode v ty e h⟩
      · exact hrest hpart

end

end Codec

end OpenApi
