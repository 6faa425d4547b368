import OpenApi.Proofs.Json.KeysOnce
import OpenApi.Proofs.Related
import OpenApi.Value

/-!
# Equality of values

What the comparison of lists, objects and records comes down to, and that a JSON tree is equal to
itself as a value.
-/

namespace OpenApi.Value

theorem ofItems_eq_map (items : List Json) : ofItems items = items.map ofJson := by
  induction items with
  | nil => rfl
  | cons v rest ih => rw [ofItems, ih, List.map_cons]

theorem ofFields_eq_map (fields : List (String × Json)) :
    ofFields fields = fields.map fun p => (p.1, ofJson p.2) := by
  induction fields with
  | nil => rfl
  | cons p rest ih => rw [ofFields, ih, List.map_cons]

theorem ofJson_ne_record (j : Json) (id : RecordId) (typeName : String)
    (fields : List (String × Value)) : ofJson j ≠ .record id typeName fields := by
  cases j <;> simp [Value.ofJson]

theorem isNull_ofJson (j : Json) : (ofJson j).isNull = j.isNull := by
  cases j <;> simp [ofJson, isNull, Json.isNull]

/-! ## The comparisons, part by part -/

theorem sameItems_iff (a b : List Value) :
    sameItems a b = true ↔ List.Forall₂ (fun v w => same v w = true) a b := by
  induction a generalizing b with
  | nil => cases b <;> simp [sameItems]
  | cons v a ih => cases b <;> simp [sameItems, ih]

theorem sameFields_iff (a b : List (String × Value)) :
    sameFields a b = true ↔
      ∀ p ∈ a, ∃ w, OrderedMap.get? b p.1 = some w ∧ same p.2 w = true := by
  induction a with
  | nil => simp [sameFields]
  | cons p rest ih =>
    obtain ⟨key, v⟩ := p
    rw [sameFields, Bool.and_eq_true, ih, List.forall_mem_cons]
    cases OrderedMap.get? b key <;> simp

theorem samePresent_iff (a b : List (String × Value)) :
    samePresent a b = true ↔
      ∀ p ∈ a, (∃ w, OrderedMap.get? b p.1 = some w ∧ same p.2 w = true) ∨
        (OrderedMap.get? b p.1 = none ∧ p.2.isNull = true) := by
  induction a with
  | nil => simp [samePresent]
  | cons p rest ih =>
    obtain ⟨key, v⟩ := p
    rw [samePresent, Bool.and_eq_true, ih, List.forall_mem_cons]
    cases OrderedMap.get? b key <;> simp

/-! ## What values are made of -/

mutual

/-- The value and all the values within it. -/
def parts : Value → List Value
  | .array items => .array items :: partsOfItems items
  | .object fields => .object fields :: partsOfFields fields
  | .record id typeName fields => .record id typeName fields :: partsOfFields fields
  | v => [v]

def partsOfItems : List Value → List Value
  | [] => []
  | v :: rest => parts v ++ partsOfItems rest

def partsOfFields : List (String × Value) → List Value
  | [] => []
  | (_, v) :: rest => parts v ++ partsOfFields rest

end

theorem mem_partsOfItems {items : List Value} {w : Value} :
    w ∈ partsOfItems items ↔ ∃ v ∈ items, w ∈ v.parts := by
  induction items with
  | nil => simp [partsOfItems]
  | cons v rest ih => simp [partsOfItems, ih]

theorem mem_partsOfFields {fields : List (String × Value)} {w : Value} :
    w ∈ partsOfFields fields ↔ ∃ p ∈ fields, w ∈ p.2.parts := by
  induction fields with
  | nil => simp [partsOfFields]
  | cons p rest ih => simp [partsOfFields, ih]

/-- The value is a record of the type or has one within it. -/
def Holds (v : Value) (id : RecordId) : Prop :=
  ∃ typeName fields, .record id typeName fields ∈ v.parts

theorem holds_array_iff {items : List Value} {id : RecordId} :
    (Value.array items).Holds id ↔ ∃ v ∈ items, v.Holds id := by
  simp only [Holds, parts, List.mem_cons, reduceCtorEq, false_or, mem_partsOfItems]
  constructor
  · rintro ⟨typeName, fields, v, hv, h⟩
    exact ⟨v, hv, typeName, fields, h⟩
  · rintro ⟨v, hv, typeName, fields, h⟩
    exact ⟨typeName, fields, v, hv, h⟩

theorem holds_object_iff {entries : List (String × Value)} {id : RecordId} :
    (Value.object entries).Holds id ↔ ∃ p ∈ entries, p.2.Holds id := by
  simp only [Holds, parts, List.mem_cons, reduceCtorEq, false_or, mem_partsOfFields]
  constructor
  · rintro ⟨typeName, fields, p, hp, h⟩
    exact ⟨p, hp, typeName, fields, h⟩
  · rintro ⟨p, hp, typeName, fields, h⟩
    exact ⟨typeName, fields, p, hp, h⟩

theorem holds_record_iff {owner id : RecordId} {name : String} {entries : List (String × Value)} :
    (Value.record owner name entries).Holds id ↔ id = owner ∨ ∃ p ∈ entries, p.2.Holds id := by
  simp only [Holds, parts, List.mem_cons, record.injEq, mem_partsOfFields]
  constructor
  · rintro ⟨typeName, fields, ⟨rfl, _⟩ | ⟨p, hp, h⟩⟩
    · exact .inl rfl
    · exact .inr ⟨p, hp, typeName, fields, h⟩
  · rintro (rfl | ⟨p, hp, typeName, fields, h⟩)
    · exact ⟨name, entries, .inl ⟨rfl, rfl, rfl⟩⟩
    · exact ⟨typeName, fields, .inr ⟨p, hp, h⟩⟩

mutual

theorem not_holds_ofJson : (j : Json) → ∀ id, ¬(ofJson j).Holds id
  | .null, _ | .bool _, _ | .number _, _ | .string _, _ => by simp [Holds, ofJson, parts]
  | .array items, id => by
    rw [ofJson, holds_array_iff]
    rintro ⟨v, hv, h⟩
    exact not_holds_ofItems items v hv id h
  | .object fields, id => by
    rw [ofJson, holds_object_iff]
    rintro ⟨p, hp, h⟩
    exact not_holds_ofFields fields p hp id h

theorem not_holds_ofItems : (items : List Json) → ∀ v ∈ ofItems items, ∀ id, ¬v.Holds id
  | [], _, hv => by simp [ofItems] at hv
  | j :: rest, v, hv => by
    rw [ofItems] at hv
    rcases List.mem_cons.1 hv with rfl | hv
    · exact not_holds_ofJson j
    · exact not_holds_ofItems rest v hv

theorem not_holds_ofFields : (fields : List (String × Json)) →
    ∀ p ∈ ofFields fields, ∀ id, ¬p.2.Holds id
  | [], _, hp => by simp [ofFields] at hp
  | (_, j) :: rest, p, hp => by
    rw [ofFields] at hp
    rcases List.mem_cons.1 hp with rfl | hp
    · exact not_holds_ofJson j
    · exact not_holds_ofFields rest p hp

end

/-! ## Equal both ways -/

/-- Each of the values is equal to the other. -/
def Equal (v w : Value) : Prop :=
  same v w = true ∧ same w v = true

theorem Equal.symm {v w : Value} (h : Equal v w) : Equal w v :=
  ⟨h.2, h.1⟩

theorem isNull_iff (v : Value) : v.isNull = true ↔ v = .null := by
  cases v <;> simp [isNull]

theorem isNull_of_same {v w : Value} (h : same v w = true) : v.isNull = w.isNull := by
  cases v <;> cases w <;> simp [same] at h <;> rfl

theorem equal_ofJson {j : Json} (h : j.KeysOnce) : Equal (ofJson j) (ofJson j) := by
  suffices same (ofJson j) (ofJson j) = true from ⟨this, this⟩
  induction h with
  | null => simp [ofJson, same]
  | bool b => simp [ofJson, same]
  | number n => simp [ofJson, same, Json.Number.equals_refl]
  | string s => simp [ofJson, same]
  | array each ih =>
    rw [ofJson, same, sameItems_iff, ofItems_eq_map, List.forall₂_map_left_iff,
      List.forall₂_map_right_iff]
    exact List.forall₂_same.2 ih
  | object nodup each ih =>
    rw [ofJson, same, Bool.and_eq_true, sameFields_iff, ofFields_eq_map]
    refine ⟨beq_self_eq_true _, ?_⟩
    intro p hp
    obtain ⟨q, hq, rfl⟩ := List.mem_map.1 hp
    refine ⟨ofJson q.2, ?_, ih q hq⟩
    rw [OrderedMap.get?_map, OrderedMap.get?_of_mem nodup hq, Option.map_some]

/-- The value of a record's field that is there and not null. -/
def present (fields : List (String × Value)) (name : String) : Option Value :=
  (OrderedMap.get? fields name).filter (!·.isNull)

theorem present_of_get?_none {fields : List (String × Value)} {name : String}
    (h : OrderedMap.get? fields name = none) : present fields name = none := by
  rw [present, h]
  rfl

theorem present_of_get? {fields : List (String × Value)} {name : String} {v : Value}
    (h : OrderedMap.get? fields name = some v) :
    present fields name = if v.isNull = true then none else some v := by
  rw [present, h]
  cases hv : v.isNull <;> simp [Option.filter, hv]

theorem present_eq_some {fields : List (String × Value)} {name : String} {v : Value} :
    present fields name = some v ↔
      OrderedMap.get? fields name = some v ∧ v.isNull = false := by
  simp [present, Option.filter_eq_some_iff]

theorem samePresent_of_present {a b : List (String × Value)} (nodup : (OrderedMap.keys a).Nodup)
    (h : ∀ name, Option.Rel (fun v w => same v w = true) (present a name) (present b name)) :
    samePresent a b = true := by
  rw [samePresent_iff]
  rintro ⟨name, v⟩ hv
  have hrel := h name
  rw [present_of_get? (OrderedMap.get?_of_mem nodup hv)] at hrel
  by_cases hn : v.isNull = true
  · -- A null field is matched by a null one and by none at all.
    rw [if_pos hn] at hrel
    cases hb : OrderedMap.get? b name with
    | none => exact .inr ⟨rfl, hn⟩
    | some w =>
      refine .inl ⟨w, rfl, ?_⟩
      rw [present_of_get? hb] at hrel
      by_cases hw : w.isNull = true
      · rw [isNull_iff] at hn hw
        simp [hn, hw, same]
      · rw [if_neg hw] at hrel
        cases hrel
  · rw [if_neg hn] at hrel
    cases hp : present b name with
    | none =>
      rw [hp] at hrel
      cases hrel
    | some w =>
      rw [hp] at hrel
      cases hrel with
      | some hvw => exact .inl ⟨w, (present_eq_some.1 hp).1, hvw⟩

theorem contains_of_present {R : Value → Value → Prop} {a b : List (String × Value)}
    (nodup : (OrderedMap.keys b).Nodup)
    (h : ∀ name, Option.Rel R (present a name) (present b name)) :
    (b.all fun (key, v) => v.isNull || OrderedMap.contains a key) = true := by
  rw [List.all_eq_true]
  rintro ⟨name, v⟩ hv
  have hrel := h name
  rw [present_of_get? (OrderedMap.get?_of_mem nodup hv)] at hrel
  by_cases hn : v.isNull = true
  · simp [hn]
  · rw [if_neg hn] at hrel
    cases ha : OrderedMap.get? a name with
    | none =>
      rw [present_of_get?_none ha] at hrel
      cases hrel
    | some w => simp [OrderedMap.contains, ha]

theorem same_record_of_present {id : RecordId} {a b : List (String × Value)} {n m : String}
    (ha : (OrderedMap.keys a).Nodup) (hb : (OrderedMap.keys b).Nodup)
    (h : ∀ name, Option.Rel (fun v w => same v w = true) (present a name) (present b name)) :
    same (.record id n a) (.record id m b) = true := by
  rw [same, samePresent_of_present ha h, contains_of_present hb h]
  simp

theorem equal_record {id : RecordId} {a b : List (String × Value)} {n m : String}
    (ha : (OrderedMap.keys a).Nodup) (hb : (OrderedMap.keys b).Nodup)
    (h : ∀ name, Option.Rel Equal (present a name) (present b name)) :
    Equal (.record id n a) (.record id m b) :=
  ⟨same_record_of_present ha hb fun name => (h name).imp_of_mem fun _ _ _ _ hvw => hvw.1,
    same_record_of_present hb ha fun name => (h name).symm_of_mem fun _ _ _ _ hvw => hvw.2⟩

end OpenApi.Value
