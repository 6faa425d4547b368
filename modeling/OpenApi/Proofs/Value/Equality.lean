import OpenApi.Proofs.Value

/-!
# Equality of values is an equivalence

In a value the keys of an object stand once, and so do those of a record. Between such values the
comparison is what it is meant to be: of the same kind, with equal parts under equal keys, where a
record has no part for a null field. It is then reflexive, symmetric and transitive.
-/

namespace OpenApi.Value

/-- In each object and in each record of the value a key stands once. -/
inductive KeysOnce : Value → Prop where
  | null : KeysOnce .null
  | bool (b : Bool) : KeysOnce (.bool b)
  | number (n : Json.Number) : KeysOnce (.number n)
  | string (s : String) : KeysOnce (.string s)
  | dateTime (t : DateTime) : KeysOnce (.dateTime t)
  | array {items : List Value} (each : ∀ v ∈ items, KeysOnce v) : KeysOnce (.array items)
  | object {fields : List (String × Value)} (nodup : (OrderedMap.keys fields).Nodup)
      (each : ∀ p ∈ fields, KeysOnce p.2) : KeysOnce (.object fields)
  | record (id : RecordId) (typeName : String) {fields : List (String × Value)}
      (nodup : (OrderedMap.keys fields).Nodup) (each : ∀ p ∈ fields, KeysOnce p.2) :
      KeysOnce (.record id typeName fields)

@[simp] theorem keysOnce_array_iff (items : List Value) :
    KeysOnce (.array items) ↔ ∀ v ∈ items, KeysOnce v :=
  ⟨fun | .array each => each, .array⟩

@[simp] theorem keysOnce_object_iff (fields : List (String × Value)) :
    KeysOnce (.object fields) ↔
      (OrderedMap.keys fields).Nodup ∧ ∀ p ∈ fields, KeysOnce p.2 :=
  ⟨fun | .object nodup each => ⟨nodup, each⟩, fun h => .object h.1 h.2⟩

@[simp] theorem keysOnce_record_iff (id : RecordId) (typeName : String)
    (fields : List (String × Value)) :
    KeysOnce (.record id typeName fields) ↔
      (OrderedMap.keys fields).Nodup ∧ ∀ p ∈ fields, KeysOnce p.2 :=
  ⟨fun | .record _ _ nodup each => ⟨nodup, each⟩, fun h => .record id typeName h.1 h.2⟩

/-- The items of an array, and the values of an object or a record under its keys. -/
def children : Value → List Value
  | .array items => items
  | .object fields | .record _ _ fields => OrderedMap.values fields
  | _ => []

theorem mem_children_array {items : List Value} {i : Nat} {v : Value} (h : v ∈ items[i]?) :
    v ∈ (Value.array items).children :=
  List.mem_of_getElem? h

theorem mem_children_object {fields : List (String × Value)} {key : String} {v : Value}
    (h : v ∈ OrderedMap.get? fields key) : v ∈ (Value.object fields).children :=
  List.mem_map_of_mem (OrderedMap.mem_of_get? h)

theorem mem_children_record {id : RecordId} {typeName name : String}
    {fields : List (String × Value)} {v : Value} (h : v ∈ present fields name) :
    v ∈ (Value.record id typeName fields).children :=
  List.mem_map_of_mem (OrderedMap.mem_of_get? (present_eq_some.1 h).1)

theorem KeysOnce.child {v a : Value} (once : v.KeysOnce) (mem : a ∈ v.children) : a.KeysOnce := by
  cases once with
  | array each => exact each a mem
  | object _ each | record _ _ _ each =>
    obtain ⟨p, hp, rfl⟩ := List.mem_map.1 mem
    exact each p hp
  | _ => cases mem

theorem KeysOnce.of_children {P : Value → Prop}
    (step : ∀ v : Value, v.KeysOnce → (∀ a ∈ v.children, P a) → P v) {v : Value}
    (once : v.KeysOnce) : P v := by
  have hleaf : ∀ v : Value, v.KeysOnce → v.children = [] → P v := by
    intro v hv hnil
    exact step v hv fun a ha => by simp [hnil] at ha
  induction once with
  | array each ih => exact step _ (.array each) ih
  | object nodup each ih => exact step _ (.object nodup each) (List.forall_mem_map.2 ih)
  | record id typeName nodup each ih =>
    exact step _ (.record id typeName nodup each) (List.forall_mem_map.2 ih)
  | _ => exact hleaf _ (by constructor) rfl

/-! ## The comparison, kind by kind -/

/-- Two values of one kind with related parts. Records have parts for the fields that are not
null. -/
inductive Matched (R : Value → Value → Prop) : Value → Value → Prop where
  | null : Matched R .null .null
  | bool (b : Bool) : Matched R (.bool b) (.bool b)
  | number {a b : Json.Number} (equal : a.equals b = true) : Matched R (.number a) (.number b)
  | string (s : String) : Matched R (.string s) (.string s)
  | dateTime {a b : DateTime} (equal : a.sameInstant b = true) :
      Matched R (.dateTime a) (.dateTime b)
  | array {a b : List Value} (each : ∀ i : Nat, Option.Rel R a[i]? b[i]?) :
      Matched R (.array a) (.array b)
  | object {a b : List (String × Value)} (each : OrderedMap.Related R a b) :
      Matched R (.object a) (.object b)
  | record (id : RecordId) (n m : String) {a b : List (String × Value)}
      (each : ∀ name, Option.Rel R (present a name) (present b name)) :
      Matched R (.record id n a) (.record id m b)

theorem same_array_iff {a b : List Value} :
    same (.array a) (.array b) = true ↔
      ∀ i : Nat, Option.Rel (fun v w => same v w = true) a[i]? b[i]? := by
  rw [same, sameItems_iff, forall₂_iff_getElem?]

theorem same_object_iff {a b : List (String × Value)} (ha : (OrderedMap.keys a).Nodup)
    (hb : (OrderedMap.keys b).Nodup) :
    same (.object a) (.object b) = true ↔
      OrderedMap.Related (fun v w => same v w = true) a b := by
  rw [same, Bool.and_eq_true, beq_iff_eq, sameFields_iff]
  constructor
  · rintro ⟨length, found⟩
    exact OrderedMap.related_of_length_eq ha length found
  · intro h
    refine ⟨h.length_eq ha hb, ?_⟩
    rintro ⟨key, v⟩ hv
    have hkey := h key
    rw [OrderedMap.get?_of_mem ha hv] at hkey
    cases hw : OrderedMap.get? b key with
    | none =>
      rw [hw] at hkey
      cases hkey
    | some w =>
      rw [hw] at hkey
      cases hkey with
      | some hvw => exact ⟨w, rfl, hvw⟩

theorem present_of_scans {a b : List (String × Value)} (scan : samePresent a b = true)
    (others : (b.all fun (key, v) => v.isNull || OrderedMap.contains a key) = true)
    (name : String) :
    Option.Rel (fun v w => same v w = true) (present a name) (present b name) := by
  rw [samePresent_iff] at scan
  rw [List.all_eq_true] at others
  cases ha : OrderedMap.get? a name with
  | some v =>
    rw [present_of_get? ha]
    rcases scan _ (OrderedMap.mem_of_get? ha) with ⟨w, hb, hvw⟩ | ⟨hb, hnull⟩
    · rw [present_of_get? hb, ← isNull_of_same hvw]
      split
      · exact .none
      · exact .some hvw
    · rw [present_of_get?_none hb, if_pos hnull]
      exact .none
  | none =>
    rw [present_of_get?_none ha]
    cases hb : OrderedMap.get? b name with
    | none =>
      rw [present_of_get?_none hb]
      exact .none
    | some w =>
      have hnull : w.isNull = true := by
        simpa [OrderedMap.contains, ha] using others _ (OrderedMap.mem_of_get? hb)
      rw [present_of_get? hb, if_pos hnull]
      exact .none

theorem same_record_iff {i j : RecordId} {n m : String} {a b : List (String × Value)}
    (ha : (OrderedMap.keys a).Nodup) (hb : (OrderedMap.keys b).Nodup) :
    same (.record i n a) (.record j m b) = true ↔
      i = j ∧ ∀ name,
        Option.Rel (fun v w => same v w = true) (present a name) (present b name) := by
  constructor
  · intro h
    rw [same, Bool.and_eq_true, Bool.and_eq_true, beq_iff_eq] at h
    obtain ⟨⟨hid, scan⟩, others⟩ := h
    exact ⟨hid, present_of_scans scan others⟩
  · rintro ⟨rfl, h⟩
    exact same_record_of_present ha hb h

theorem same_iff_matched {v w : Value} (hv : v.KeysOnce) (hw : w.KeysOnce) :
    same v w = true ↔ Matched (fun v w => same v w = true) v w := by
  constructor
  · intro h
    cases hv <;> cases hw
    case null.null => exact .null
    case bool.bool a b =>
      rw [same, beq_iff_eq] at h
      exact h ▸ .bool a
    case number.number =>
      rw [same] at h
      exact .number h
    case string.string a b =>
      rw [same, beq_iff_eq] at h
      exact h ▸ .string a
    case dateTime.dateTime =>
      rw [same] at h
      exact .dateTime h
    case array.array => exact .array (same_array_iff.1 h)
    case object.object ha _ _ hb _ => exact .object ((same_object_iff ha hb).1 h)
    case record.record i n _ ha _ j m _ hb _ =>
      obtain ⟨rfl, each⟩ := (same_record_iff ha hb).1 h
      exact .record _ _ _ each
    -- Values of different kinds are not the same.
    all_goals simp [same] at h
  · intro h
    cases h with
    | object h =>
      cases hv with
      | object ha _ =>
        cases hw with
        | object hb _ => exact (same_object_iff ha hb).2 h
    | record id n m h =>
      cases hv with
      | record _ _ ha _ =>
        cases hw with
        | record _ _ hb _ => exact (same_record_iff ha hb).2 ⟨rfl, h⟩
    | array h => exact same_array_iff.2 h
    | _ => simp [same, *]

/-! ## The equivalence -/

namespace Matched

variable {R S T : Value → Value → Prop} {u v w : Value}

theorem refl (each : ∀ a ∈ v.children, R a a) : Matched R v v := by
  cases v with
  | null => exact .null
  | bool b => exact .bool b
  | number n => exact .number n.equals_refl
  | string s => exact .string s
  | dateTime t => exact .dateTime t.sameInstant_refl
  | array items => exact .array fun i => .refl_of_mem fun a ha => each a (mem_children_array ha)
  | object fields =>
    exact .object fun key => .refl_of_mem fun a ha => each a (mem_children_object ha)
  | record id typeName fields =>
    exact .record id _ _ fun name => .refl_of_mem fun a ha => each a (mem_children_record ha)

theorem symm (h : Matched R v w)
    (each : ∀ a ∈ v.children, ∀ b ∈ w.children, R a b → S b a) : Matched S w v := by
  cases h with
  | null => exact .null
  | bool b => exact .bool b
  | number h => exact .number (Json.Number.equals_symm h)
  | string s => exact .string s
  | dateTime h => exact .dateTime (DateTime.sameInstant_symm h)
  | array h =>
    exact .array fun i => (h i).symm_of_mem fun a ha b hb =>
      each a (mem_children_array ha) b (mem_children_array hb)
  | object h =>
    exact .object fun key => (h key).symm_of_mem fun a ha b hb =>
      each a (mem_children_object ha) b (mem_children_object hb)
  | record id n m h =>
    exact .record id m n fun name => (h name).symm_of_mem fun a ha b hb =>
      each a (mem_children_record ha) b (mem_children_record hb)

theorem trans (h : Matched R u v) (h' : Matched S v w)
    (each : ∀ a ∈ u.children, ∀ b ∈ v.children, ∀ c ∈ w.children, R a b → S b c → T a c) :
    Matched T u w := by
  cases h with
  | null =>
    cases h'
    exact .null
  | bool b =>
    cases h'
    exact .bool b
  | number h =>
    cases h' with
    | number h' => exact .number (Json.Number.equals_trans h h')
  | string s =>
    cases h'
    exact .string s
  | dateTime h =>
    cases h' with
    | dateTime h' => exact .dateTime (DateTime.sameInstant_trans h h')
  | array h =>
    cases h' with
    | array h' =>
      exact .array fun i => (h i).trans_of_mem (h' i) fun a ha b hb c hc =>
        each a (mem_children_array ha) b (mem_children_array hb) c (mem_children_array hc)
  | object h =>
    cases h' with
    | object h' =>
      exact .object fun key => (h key).trans_of_mem (h' key) fun a ha b hb c hc =>
        each a (mem_children_object ha) b (mem_children_object hb) c (mem_children_object hc)
  | record id n m h =>
    cases h' with
    | record _ _ m' h' =>
      exact .record id n m' fun name => (h name).trans_of_mem (h' name) fun a ha b hb c hc =>
        each a (mem_children_record ha) b (mem_children_record hb) c (mem_children_record hc)

end Matched

theorem same_refl {v : Value} (once : v.KeysOnce) : same v v = true := by
  refine KeysOnce.of_children (P := fun v => same v v = true) (fun v once ih => ?_) once
  rw [same_iff_matched once once]
  exact .refl ih

theorem same_symm {v w : Value} (hv : v.KeysOnce) (hw : w.KeysOnce) (h : same v w = true) :
    same w v = true := by
  refine KeysOnce.of_children (P := fun v => ∀ w : Value, w.KeysOnce → same v w = true →
    same w v = true) (fun v hv ih w hw h => ?_) hv w hw h
  rw [same_iff_matched hv hw] at h
  rw [same_iff_matched hw hv]
  exact h.symm fun a ha b hb => ih a ha b (hw.child hb)

theorem same_trans {u v w : Value} (hu : u.KeysOnce) (hv : v.KeysOnce) (hw : w.KeysOnce)
    (h : same u v = true) (h' : same v w = true) : same u w = true := by
  refine KeysOnce.of_children (P := fun u => ∀ v w : Value, v.KeysOnce → w.KeysOnce →
    same u v = true → same v w = true → same u w = true)
    (fun u hu ih v w hv hw h h' => ?_) hu v w hv hw h h'
  rw [same_iff_matched hu hv] at h
  rw [same_iff_matched hv hw] at h'
  rw [same_iff_matched hu hw]
  exact h.trans h' fun a ha b hb c hc => ih a ha b c (hv.child hb) (hw.child hc)

/-- Equality is an equivalence between the values in which keys stand once. -/
theorem same_equivalence :
    Equivalence fun v w : {v : Value // v.KeysOnce} => same v.1 w.1 = true where
  refl v := same_refl v.2
  symm := fun {v w} h => same_symm v.2 w.2 h
  trans := fun {u v w} h h' => same_trans u.2 v.2 w.2 h h'

end OpenApi.Value
