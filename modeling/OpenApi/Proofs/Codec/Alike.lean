import Mathlib.Data.List.Forall2
import OpenApi.Codec

/-!
# Registries that the codec does not tell apart

The decoder reads the names, the types and the defaults of fields. The encoder reads their names and
types, and which of them may be left out. Neither sees anything else of a record type.
-/

namespace OpenApi

/-- The decoder makes the same of both fields. -/
structure Field.DecodesAlike (f g : Field) : Prop where
  localName : f.localName = g.localName
  wireName : f.wireName = g.wireName
  type : f.type = g.type
  default : f.default = g.default

/-- The decoder makes the same of both record types. -/
structure RecordType.DecodesAlike (a b : RecordType) : Prop where
  name : a.name = b.name
  fields : List.Forall₂ Field.DecodesAlike a.fields b.fields

/-- The encoder makes the same of both record types. -/
def RecordType.EncodesAlike (a b : RecordType) : Prop :=
  List.Forall₂ (fun f g => f.localName = g.localName ∧ f.wireName = g.wireName ∧ f.type = g.type ∧
    a.isOptional f.localName = b.isOptional g.localName) a.fields b.fields

/-- The records of both registries stand to each other in this way. -/
def Registry.Alike (R : RecordType → RecordType → Prop) (r s : Registry) : Prop :=
  List.Forall₂ R r.records s.records

theorem Registry.Alike.record? {R : RecordType → RecordType → Prop} {r s : Registry}
    (h : r.Alike R s) (id : RecordId) :
    (r.record? id = none ∧ s.record? id = none) ∨
      ∃ a b, r.record? id = some a ∧ s.record? id = some b ∧ R a b := by
  unfold Registry.record?
  by_cases hlt : id.index < r.records.length
  · have hlt' : id.index < s.records.length := h.length_eq ▸ hlt
    exact .inr ⟨_, _, List.getElem?_eq_getElem hlt, List.getElem?_eq_getElem hlt',
      h.get hlt hlt'⟩
  · have hge : s.records.length ≤ id.index := h.length_eq ▸ Nat.le_of_not_lt hlt
    exact .inl ⟨List.getElem?_eq_none (Nat.le_of_not_lt hlt), List.getElem?_eq_none hge⟩

namespace Codec

variable {r s : Registry} {mode : NameMode}

theorem fieldKey_congr {f g : Field} (localNames : f.localName = g.localName)
    (wireNames : f.wireName = g.wireName) :
    fieldKey ⟨r, mode⟩ f = fieldKey ⟨s, mode⟩ g := by
  cases mode with
  | wire => exact wireNames
  | «local» => exact localNames

/-! ## Decoding -/

section Decoding

mutual

theorem select_congr (r s : Registry) (mode : NameMode) (wire : Json) :
    (ty : DataType) → select ⟨r, mode⟩ wire ty = select ⟨s, mode⟩ wire ty
  | .union field mapping => by
    simp only [select, selectMember_congr r s mode wire _ mapping]
    rfl
  | .primitive _ | .any | .dateTime | .array _ | .record _ => rfl

theorem selectMember_congr (r s : Registry) (mode : NameMode) (wire : Json) (tag : String) :
    (mapping : List (String × DataType)) →
      selectMember ⟨r, mode⟩ wire tag mapping = selectMember ⟨s, mode⟩ wire tag mapping
  | [] => rfl
  | (t, ty) :: rest => by
    rw [selectMember, selectMember, select_congr r s mode wire ty,
      selectMember_congr r s mode wire tag rest]

end

variable {fallback : Json → DataType → Decoded Value}

theorem decodeFields_congr_fields {parts : OrderedMap String (DataType → Decoded Value)}
    {fs gs : List Field} (h : List.Forall₂ Field.DecodesAlike fs gs) (x : Record) :
    decodeFields ⟨r, mode⟩ fallback parts fs x = decodeFields ⟨s, mode⟩ fallback parts gs x := by
  induction h generalizing x with
  | nil => rfl
  | @cons f g _ _ hfield _ ih =>
    have hkey : fieldKey ⟨r, mode⟩ f = fieldKey ⟨s, mode⟩ g :=
      fieldKey_congr hfield.localName hfield.wireName
    simp only [decodeFields, hkey, hfield.localName, hfield.type, hfield.default, ih]

theorem decodeRecordParts_congr (alike : r.Alike RecordType.DecodesAlike s)
    {parts : OrderedMap String (DataType → Decoded Value)} (id : RecordId) :
    decodeRecordParts ⟨r, mode⟩ fallback parts id =
      decodeRecordParts ⟨s, mode⟩ fallback parts id := by
  rcases alike.record? id with ⟨hr, hs⟩ | ⟨a, b, hr, hs, halike⟩
  · simp only [decodeRecordParts, record, hr, hs, Logged.ofExcept_error_bind]
  · simp only [decodeRecordParts, record, hr, hs, Logged.ofExcept_ok_bind, halike.name]
    exact decodeFields_congr_fields halike.fields _

theorem decodeParts_congr_registry (alike : r.Alike RecordType.DecodesAlike s) (wire : Json)
    (parts : Parts) (ty : DataType) :
    decodeParts ⟨r, mode⟩ fallback wire parts ty = decodeParts ⟨s, mode⟩ fallback wire parts ty := by
  unfold decodeParts
  rw [select_congr r s mode]
  cases select ⟨s, mode⟩ wire ty with
  | error e => rfl
  | ok ty =>
    rw [Logged.ofExcept_ok_bind, Logged.ofExcept_ok_bind]
    cases ty with
    | record id =>
      cases hfields : parts.fields? with
      | some fields => simp only [decodeRecordParts_congr alike id]
      | none =>
        rcases alike.record? id with ⟨hr, hs⟩ | ⟨a, b, hr, hs, halike⟩
        · simp only [record, hr, hs, Logged.ofExcept_error_bind]
        · simp only [record, hr, hs, Logged.ofExcept_ok_bind, halike.name]
    | _ => rfl

mutual

theorem decodeWith_congr_registry (alike : r.Alike RecordType.DecodesAlike s) :
    (wire : Json) → decodeWith ⟨r, mode⟩ fallback wire = decodeWith ⟨s, mode⟩ fallback wire
  | .null => by
    funext ty
    rw [decodeWith, decodeWith]
  | .array items => by
    funext ty
    rw [decodeWith, decodeWith, decodeItems_congr_registry alike items, decodeParts_congr_registry alike]
  | .object fields => by
    funext ty
    rw [decodeWith, decodeWith, fieldParts_congr_registry alike fields, decodeParts_congr_registry alike]
  | .bool _ | .number _ | .string _ => by
    funext ty
    rw [decodeWith, decodeWith, decodeParts_congr_registry alike]
    all_goals simp

theorem decodeItems_congr_registry (alike : r.Alike RecordType.DecodesAlike s) :
    (items : List Json) → decodeItems ⟨r, mode⟩ fallback items = decodeItems ⟨s, mode⟩ fallback items
  | [] => by
    funext element
    rw [decodeItems, decodeItems]
  | v :: rest => by
    funext element
    rw [decodeItems, decodeItems, decodeWith_congr_registry alike v, decodeItems_congr_registry alike rest]

theorem fieldParts_congr_registry (alike : r.Alike RecordType.DecodesAlike s) :
    (fields : List (String × Json)) →
    fieldParts ⟨r, mode⟩ fallback fields = fieldParts ⟨s, mode⟩ fallback fields
  | [] => rfl
  | (key, v) :: rest => by
    rw [fieldParts, fieldParts, decodeWith_congr_registry alike v, fieldParts_congr_registry alike rest]

end

variable (alike : r.Alike RecordType.DecodesAlike s)
include alike

theorem decodeWithin_congr_registry (depth : Nat) :
    decodeWithin ⟨r, mode⟩ depth = decodeWithin ⟨s, mode⟩ depth := by
  induction depth with
  | zero => exact funext fun wire => decodeWith_congr_registry alike wire
  | succ depth ih =>
    funext wire
    rw [decodeWithin, decodeWithin, ih]
    exact decodeWith_congr_registry alike wire

theorem defaultDepth_congr : defaultDepth r = defaultDepth s := by
  have hfields : List.Forall₂ Field.DecodesAlike (r.records.flatMap (·.fields))
      (s.records.flatMap (·.fields)) :=
    List.rel_flatMap alike fun _ _ h => h.fields
  unfold defaultDepth
  generalize r.records.flatMap (·.fields) = fs at hfields ⊢
  generalize s.records.flatMap (·.fields) = gs at hfields ⊢
  induction hfields with
  | nil => rfl
  | cons hfield _ ih => rw [List.countP_cons, List.countP_cons, ih, hfield.default]

/-- The decoder reads nothing but names, types and defaults. -/
theorem decode_congr_registry (wire : Json) (ty : DataType) :
    decode ⟨r, mode⟩ wire ty = decode ⟨s, mode⟩ wire ty := by
  rw [decode, decode, defaultDepth_congr alike, decodeWithin_congr_registry alike]

end Decoding

/-! ## Encoding -/

section Encoding

theorem encodeFields_congr_fields {a b : RecordType} {parts : FieldParts} {fs gs : List Field}
    (h : List.Forall₂ (fun f g => f.localName = g.localName ∧ f.wireName = g.wireName ∧
      f.type = g.type ∧ a.isOptional f.localName = b.isOptional g.localName) fs gs)
    (out : OrderedMap String Json) :
    encodeFields ⟨r, mode⟩ a parts fs out = encodeFields ⟨s, mode⟩ b parts gs out := by
  induction h generalizing out with
  | nil => rfl
  | @cons f g _ _ hfield _ ih =>
    obtain ⟨hlocal, hwire, htype, hoptional⟩ := hfield
    have hkey : fieldKey ⟨r, mode⟩ f = fieldKey ⟨s, mode⟩ g := fieldKey_congr hlocal hwire
    rw [hlocal] at hoptional
    simp only [encodeFields, hkey, hlocal, htype, hoptional, ih]

variable (alike : r.Alike RecordType.EncodesAlike s)
include alike

theorem encodeRecordParts_congr (id : RecordId) (parts : FieldParts) :
    encodeRecordParts ⟨r, mode⟩ id parts = encodeRecordParts ⟨s, mode⟩ id parts := by
  rcases alike.record? id with ⟨hr, hs⟩ | ⟨a, b, hr, hs, halike⟩
  · simp only [encodeRecordParts, record, hr, hs]
    rfl
  · simp only [encodeRecordParts, record, hr, hs]
    exact encodeFields_congr_fields halike []

theorem encodeMember_congr (field : String) (mapping : OrderedMap String DataType) (id : RecordId)
    (name : String) (parts : FieldParts) :
    encodeMember ⟨r, mode⟩ field mapping id name parts =
      encodeMember ⟨s, mode⟩ field mapping id name parts := by
  rw [encodeMember, encodeMember, encodeRecordParts_congr alike id parts]
  rfl

omit alike

mutual

theorem encode_congr_registry (alike : r.Alike RecordType.EncodesAlike s) :
    (v : Value) → encode ⟨r, mode⟩ v = encode ⟨s, mode⟩ v
  | .null | .bool _ | .number _ | .string _ | .dateTime _ => by
    funext ty
    rw [encode, encode]
  | .array items => by
    funext ty
    cases ty <;> simp only [encode, encodeItems_congr_registry alike items]
  | .object fields => by
    funext ty
    rw [encode, encode, encodeEntries_congr_registry alike fields]
  | .record id name fields => by
    funext ty
    cases ty with
    | union field mapping =>
      rw [encode, encode, encodeParts_congr_registry alike fields, encodeMember_congr alike]
    | _ =>
      simp only [encode, encodeParts_congr_registry alike fields, encodeRecordParts_congr alike]

theorem encodeItems_congr_registry (alike : r.Alike RecordType.EncodesAlike s) :
    (items : List Value) → encodeItems ⟨r, mode⟩ items = encodeItems ⟨s, mode⟩ items
  | [] => rfl
  | v :: rest => by
    funext element
    rw [encodeItems, encodeItems, encode_congr_registry alike v,
      encodeItems_congr_registry alike rest]

theorem encodeEntries_congr_registry (alike : r.Alike RecordType.EncodesAlike s) :
    (fields : List (String × Value)) →
      encodeEntries ⟨r, mode⟩ fields = encodeEntries ⟨s, mode⟩ fields
  | [] => rfl
  | (key, v) :: rest => by
    rw [encodeEntries, encodeEntries, encode_congr_registry alike v,
      encodeEntries_congr_registry alike rest]

theorem encodeParts_congr_registry (alike : r.Alike RecordType.EncodesAlike s) :
    (fields : List (String × Value)) → encodeParts ⟨r, mode⟩ fields = encodeParts ⟨s, mode⟩ fields
  | [] => rfl
  | (key, v) :: rest => by
    rw [encodeParts, encodeParts, encode_congr_registry alike v,
      encodeParts_congr_registry alike rest]

end

end Encoding

end Codec

end OpenApi
