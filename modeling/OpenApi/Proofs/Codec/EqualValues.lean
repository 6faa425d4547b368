import OpenApi.Proofs.Codec.Encoding
import OpenApi.Proofs.Codec.RoundTrip
import OpenApi.Proofs.Value.Equality

/-!
# Equal values are encoded alike

Equality overlooks nulls in records, the order of keys and the names of record types. So does the
encoder, as far as its JSON is compared without the order of keys. A date-time is the exception: its
text tells more than its instant.
-/

namespace OpenApi

/-! ## Equal JSON -/

/-- Equality of JSON trees: of numbers as numbers, of objects without the order of their keys. -/
inductive Json.Same : Json → Json → Prop where
  | null : Same .null .null
  | bool (b : Bool) : Same (.bool b) (.bool b)
  | number {a b : Json.Number} (equal : a.equals b = true) : Same (.number a) (.number b)
  | string (s : String) : Same (.string s) (.string s)
  | array {a b : List Json} (each : List.Forall₂ Same a b) : Same (.array a) (.array b)
  | object {a b : List (String × Json)}
      (each : ∀ key, Option.Rel Same (OrderedMap.get? a key) (OrderedMap.get? b key)) :
      Same (.object a) (.object b)

theorem Json.Same.isNull_eq {j k : Json} (h : j.Same k) : j.isNull = k.isNull := by
  cases h <;> rfl

/-- No date-time stands in the value, at any depth. -/
def Value.Dateless (v : Value) : Prop :=
  ∀ t, .dateTime t ∉ v.parts

theorem Value.parts_subset_of_child {v a : Value} (mem : a ∈ v.children) : a.parts ⊆ v.parts := by
  intro x hx
  cases v with
  | array items => exact List.mem_cons_of_mem _ (mem_partsOfItems.2 ⟨a, mem, hx⟩)
  | object fields =>
    obtain ⟨p, hp, rfl⟩ := List.mem_map.1 mem
    exact List.mem_cons_of_mem _ (mem_partsOfFields.2 ⟨p, hp, hx⟩)
  | record id typeName fields =>
    obtain ⟨p, hp, rfl⟩ := List.mem_map.1 mem
    exact List.mem_cons_of_mem _ (mem_partsOfFields.2 ⟨p, hp, hx⟩)
  | _ => cases mem

theorem Value.Dateless.child {v a : Value} (dateless : v.Dateless) (mem : a ∈ v.children) :
    a.Dateless :=
  fun t ht => dateless t (parts_subset_of_child mem ht)

namespace Codec

open Json.Typed (bind_eq_ok_iff bind_eq_error_iff)

/-! ## Outcomes in pairs -/

section Outcomes

variable {α β α' β' : Type} {R : α → β → Prop} {S : α' → β' → Prop} {x : Encoded α}
  {y : Encoded β}

/-- Both fail, or both succeed with related results. -/
def Agree (R : α → β → Prop) (x : Encoded α) (y : Encoded β) : Prop :=
  Option.Rel R x.toOption y.toOption

theorem agree_error (e e' : CodecError) : Agree R (.error e) (.error e') :=
  .none

theorem agree_ok_iff {a : α} {b : β} : Agree R (.ok a) (.ok b) ↔ R a b :=
  ⟨fun | .some h => h, .some⟩

theorem Agree.exists_ok {a : α} (h : Agree R (.ok a) y) : ∃ b, y = .ok b ∧ R a b := by
  cases y with
  | error e => cases h
  | ok b => exact ⟨b, rfl, agree_ok_iff.1 h⟩

theorem Agree.flip (h : Agree R x y) : Agree (fun b a => R a b) y x :=
  Option.Rel.symm_of_mem h fun _ _ _ _ hab => hab

theorem Agree.map (h : Agree R x y) {f : α → α'} {g : β → β'}
    (rel : ∀ a b, R a b → S (f a) (g b)) : Agree S (x.map f) (y.map g) := by
  cases x <;> cases y <;> cases h
  · exact agree_error _ _
  · exact agree_ok_iff.2 (rel _ _ ‹R _ _›)

theorem Agree.bind (h : Agree R x y) {f : α → Encoded α'} {g : β → Encoded β'}
    (rel : ∀ a b, R a b → Agree S (f a) (g b)) : Agree S (x >>= f) (y >>= g) := by
  cases x <;> cases y <;> cases h
  · exact agree_error _ _
  · exact rel _ _ ‹R _ _›

end Outcomes

variable {c : Codec}

/-! ## Records -/

/-- The parts under one name are both there, and are encoded alike under every type. -/
def PartsAgree (parts parts' : FieldParts) : Prop :=
  OrderedMap.Related (fun part part' => ∀ ty, Agree Json.Same (part ty) (part' ty)) parts parts'

section Records

variable {parts parts' : FieldParts}

theorem partsAgree_encodeParts {a b : List (String × Value)} (ha : (OrderedMap.keys a).Nodup)
    (hb : (OrderedMap.keys b).Nodup)
    (h : ∀ name, Option.Rel (fun v w => ∀ ty, Agree Json.Same (encode c v ty) (encode c w ty))
      (Value.present a name) (Value.present b name)) :
    PartsAgree (encodeParts c a) (encodeParts c b) := by
  intro name
  rw [get?_encodeParts ha, get?_encodeParts hb]
  exact (h name).map fun _ _ hvw => hvw

theorem encodeFields_agree (record : RecordType) (agree : PartsAgree parts parts')
    (fs : List Field) {out out' : OrderedMap String Json}
    (written : OrderedMap.Related Json.Same out out') :
    Agree (OrderedMap.Related Json.Same) (encodeFields c record parts fs out)
      (encodeFields c record parts' fs out') := by
  induction fs generalizing out out' with
  | nil => exact agree_ok_iff.2 written
  | cons f rest ih =>
    have hpart := agree f.localName
    rw [encodeFields, encodeFields]
    cases hp : OrderedMap.get? parts f.localName <;>
      cases hp' : OrderedMap.get? parts' f.localName <;> rw [hp, hp'] at hpart <;> cases hpart
    · by_cases ho : record.isOptional f.localName = true
      · simp only [if_pos ho]
        exact ih written
      · simp only [if_neg ho]
        exact ih (written.insert _ .null)
    · rename_i hagree
      exact (hagree f.type).bind fun _ _ hjk => ih (written.insert _ hjk)

theorem encodeRecordParts_agree (id : RecordId) (agree : PartsAgree parts parts') :
    Agree (OrderedMap.Related Json.Same) (encodeRecordParts c id parts)
      (encodeRecordParts c id parts') := by
  unfold encodeRecordParts
  cases c.record id with
  | error e => exact agree_error e e
  | ok record => exact encodeFields_agree record agree record.fields .nil

theorem isSome_filter_of_same {o o' : Option Json} (h : Option.Rel Json.Same o o') :
    (o.filter (!·.isNull)).isSome = (o'.filter (!·.isNull)).isSome := by
  cases h with
  | none => rfl
  | some hjk =>
    rw [Option.filter_some, Option.filter_some, hjk.isNull_eq]
    split <;> rfl

theorem encodeMember_agree (field : String) (mapping : OrderedMap String DataType) (id : RecordId)
    (n m : String) (agree : PartsAgree parts parts') :
    Agree (OrderedMap.Related Json.Same) (encodeMember c field mapping id n parts)
      (encodeMember c field mapping id m parts') := by
  unfold encodeMember
  cases DataType.tagOf? mapping id with
  | none => exact agree_error _ _
  | some tag =>
    refine (encodeRecordParts_agree id agree).bind fun out out' written => ?_
    dsimp only
    rw [isSome_filter_of_same (written (c.tagKey field))]
    split
    · exact agree_ok_iff.2 written
    · exact agree_ok_iff.2 (written.insert _ (.string tag))

end Records

/-! ## Arrays and untyped objects -/

theorem encodeItems_agree {a b : List Value}
    (each : List.Forall₂ (fun v w => ∀ ty, Agree Json.Same (encode c v ty) (encode c w ty)) a b)
    (element : DataType) :
    Agree (List.Forall₂ Json.Same) (encodeItems c a element) (encodeItems c b element) := by
  induction each with
  | nil => exact agree_ok_iff.2 .nil
  | cons h _ ih =>
    rw [encodeItems, encodeItems]
    refine (h element).bind fun _ _ hjk => ih.bind fun _ _ hrest => ?_
    exact agree_ok_iff.2 (.cons hjk hrest)

theorem related_of_encodeEntries {fields : List (String × Value)} {out : List (String × Json)}
    (h : encodeEntries c fields = .ok out) :
    OrderedMap.Related (fun v j => encode c v .any = .ok j) fields out := by
  induction fields generalizing out with
  | nil =>
    cases h
    exact .nil
  | cons p rest ih =>
    obtain ⟨key, v⟩ := p
    rw [encodeEntries, bind_eq_ok_iff] at h
    obtain ⟨j, hj, h⟩ := h
    obtain ⟨out', hout, h⟩ := bind_eq_ok_iff.1 h
    cases h
    intro name
    rw [OrderedMap.get?_cons, OrderedMap.get?_cons]
    split
    · exact .some hj
    · exact ih hout name

theorem encodeEntries_isOk_iff {fields : List (String × Value)} :
    (∃ out, encodeEntries c fields = .ok out) ↔
      ∀ p ∈ fields, ∃ j, encode c p.2 .any = .ok j := by
  induction fields with
  | nil => exact ⟨fun _ _ hp => by simp at hp, fun _ => ⟨[], rfl⟩⟩
  | cons p rest ih =>
    obtain ⟨key, v⟩ := p
    rw [List.forall_mem_cons, ← ih]
    simp only [encodeEntries, bind_eq_ok_iff]
    constructor
    · rintro ⟨_, j, hj, out, hout, _⟩
      exact ⟨⟨j, hj⟩, out, hout⟩
    · rintro ⟨⟨j, hj⟩, out, hout⟩
      exact ⟨_, j, hj, out, hout, rfl⟩

theorem encodeEntries_isOk_of_agree {R : Json → Json → Prop} {a b : List (String × Value)}
    (hb : (OrderedMap.keys b).Nodup)
    (each : OrderedMap.Related (fun v w => Agree R (encode c v .any) (encode c w .any)) a b)
    (h : ∃ out, encodeEntries c a = .ok out) : ∃ out, encodeEntries c b = .ok out := by
  rw [encodeEntries_isOk_iff] at h ⊢
  rintro ⟨key, w⟩ hw
  have hkey := each key
  rw [OrderedMap.get?_of_mem hb hw] at hkey
  obtain ⟨v, hv, hagree⟩ := hkey.exists_left
  obtain ⟨j, hj⟩ := h _ (OrderedMap.mem_of_get? hv)
  rw [hj] at hagree
  obtain ⟨k, hk, _⟩ := hagree.exists_ok
  exact ⟨k, hk⟩

theorem encodeEntries_agree {a b : List (String × Value)} (ha : (OrderedMap.keys a).Nodup)
    (hb : (OrderedMap.keys b).Nodup)
    (each : OrderedMap.Related
      (fun v w => Agree Json.Same (encode c v .any) (encode c w .any)) a b) :
    Agree (OrderedMap.Related Json.Same) (encodeEntries c a) (encodeEntries c b) := by
  cases h : encodeEntries c a with
  | ok out =>
    obtain ⟨out', h'⟩ := encodeEntries_isOk_of_agree hb each ⟨out, h⟩
    rw [h']
    refine agree_ok_iff.2 fun key => ?_
    have hout := related_of_encodeEntries h key
    have hright := (each key).trans_of_mem (related_of_encodeEntries h' key)
      (T := fun v k => Agree Json.Same (encode c v .any) (.ok k))
      fun _ _ _ _ _ _ hagree hk => hk ▸ hagree
    refine (hout.symm_of_mem fun _ _ _ _ hj => hj).trans_of_mem hright ?_
    intro j _ v _ k _ hj hagree
    rw [hj] at hagree
    exact agree_ok_iff.1 hagree
  | error e =>
    cases h' : encodeEntries c b with
    | error e' => exact agree_error e e'
    | ok out' =>
      obtain ⟨out, hout⟩ := encodeEntries_isOk_of_agree ha
        (fun key => (each key).symm_of_mem fun _ _ _ _ hagree => hagree.flip) ⟨out', h'⟩
      rw [h] at hout
      cases hout

/-! ## Values -/

theorem encode_agree_of_matched {R : Value → Value → Prop} {v w : Value} (hv : v.KeysOnce)
    (hw : w.KeysOnce) (dateless : ∀ t, v ≠ .dateTime t) (matched : v.Matched R w)
    (each : ∀ a ∈ v.children, ∀ b ∈ w.children, R a b →
      ∀ ty, Agree Json.Same (encode c a ty) (encode c b ty)) (ty : DataType) :
    Agree Json.Same (encode c v ty) (encode c w ty) := by
  cases matched with
  | null => exact agree_ok_iff.2 .null
  | bool b => exact agree_ok_iff.2 (.bool b)
  | number h => exact agree_ok_iff.2 (.number h)
  | string s => exact agree_ok_iff.2 (.string s)
  | dateTime h => exact absurd rfl (dateless _)
  | array h =>
    rw [encode_array, encode_array]
    refine Agree.map (encodeItems_agree ?_ _) fun _ _ hjk => .array hjk
    rw [forall₂_iff_getElem?]
    exact fun i => (h i).imp_of_mem fun a ha b hb =>
      each a (Value.mem_children_array ha) b (Value.mem_children_array hb)
  | object h =>
    cases hv with
    | object ha _ =>
      cases hw with
      | object hb _ =>
        rw [encode_object, encode_object]
        refine Agree.map (encodeEntries_agree ha hb fun key => ?_) fun _ _ hjk => .object hjk
        exact (h key).imp_of_mem fun a ha b hb hab =>
          each a (Value.mem_children_object ha) b (Value.mem_children_object hb) hab .any
  | record id n m h =>
    cases hv with
    | record _ _ ha _ =>
      cases hw with
      | record _ _ hb _ =>
        have hparts := partsAgree_encodeParts (c := c) ha hb fun name =>
          (h name).imp_of_mem fun a ha b hb =>
            each a (Value.mem_children_record ha) b (Value.mem_children_record hb)
        by_cases hunion : ∃ field mapping, ty = .union field mapping
        · obtain ⟨field, mapping, rfl⟩ := hunion
          rw [encode_union, encode_union]
          exact (encodeMember_agree field mapping id n m hparts).map fun _ _ hjk => .object hjk
        · have hother : ∀ field mapping, ty ≠ .union field mapping :=
            fun field mapping he => hunion ⟨field, mapping, he⟩
          rw [encode_record hother, encode_record hother]
          exact (encodeRecordParts_agree id hparts).map fun _ _ hjk => .object hjk

/-- Equal values without date-times are encoded alike under every type and in both modes. -/
theorem encode_agree_of_same (c : Codec) {v w : Value} (hv : v.KeysOnce) (hw : w.KeysOnce)
    (dateless : v.Dateless) (h : Value.same v w = true) (ty : DataType) :
    Agree Json.Same (encode c v ty) (encode c w ty) := by
  refine Value.KeysOnce.of_children (P := fun v => v.Dateless → ∀ w : Value, w.KeysOnce →
    Value.same v w = true → ∀ ty, Agree Json.Same (encode c v ty) (encode c w ty))
    (fun v hv ih dateless w hw h ty => ?_) hv dateless w hw h ty
  refine encode_agree_of_matched hv hw ?_ ((Value.same_iff_matched hv hw).1 h) ?_ ty
  · rintro t rfl
    exact dateless t List.mem_cons_self
  · exact fun a ha b hb hab => ih a ha (dateless.child ha) b (hw.child hb) hab

/-- Equality is an equivalence in which a record's null fields count as absent, and the encoder
respects it. -/
theorem encode_respects_equality (c : Codec) :
    (Equivalence fun v w : {v : Value // v.KeysOnce} => Value.same v.1 w.1 = true) ∧
    (∀ (i j : RecordId) (n m : String) (a b : List (String × Value)),
      (Value.record i n a).KeysOnce → (Value.record j m b).KeysOnce →
        (Value.same (.record i n a) (.record j m b) = true ↔
          i = j ∧ ∀ name, Option.Rel (fun v w => Value.same v w = true)
            (Value.present a name) (Value.present b name))) ∧
    ∀ v w : Value, v.KeysOnce → w.KeysOnce → v.Dateless → Value.same v w = true →
      ∀ ty, Agree Json.Same (encode c v ty) (encode c w ty) := by
  refine ⟨Value.same_equivalence, ?_, ?_⟩
  · intro i j n m a b ha hb
    cases ha with
    | record _ _ ha _ =>
      cases hb with
      | record _ _ hb _ => exact Value.same_record_iff ha hb
  · exact fun v w hv hw dateless h => encode_agree_of_same c hv hw dateless h

section Tomcat

/-- A cat without a nickname, with a dog and an untyped object in its litter. -/
def tomcat : Value :=
  .record ⟨0⟩ "Cat"
    [("pet_type", .string "a"), ("nick_name", .null),
      ("litter", .array
        [puppy, .object [("paws", .number (.integer 4)), ("weight", .number (.double .zero))]])]

/-- The same cat with its fields in another order and the nulls in other places. -/
def straycat : Value :=
  .record ⟨0⟩ "Stray"
    [("litter", .array
        [.record ⟨1⟩ "Dog" [("age", .null), ("good_boy", .bool true)],
          .object
            [("weight", .number (.double (.negate .zero))), ("paws", .number (.integer 4))]]),
      ("pet_type", .string "a")]

theorem tomcat_keysOnce : tomcat.KeysOnce := by
  simp [tomcat, puppy, OrderedMap.keys, Value.KeysOnce.null, Value.KeysOnce.bool,
    Value.KeysOnce.number, Value.KeysOnce.string]

theorem straycat_keysOnce : straycat.KeysOnce := by
  simp [straycat, OrderedMap.keys, Value.KeysOnce.null, Value.KeysOnce.bool,
    Value.KeysOnce.number, Value.KeysOnce.string]

theorem encode_respects_equality_tomcat :
    tomcat.KeysOnce ∧ straycat.KeysOnce ∧ tomcat.Dateless ∧
      Value.same tomcat straycat = true ∧
      Agree Json.Same (encode cattery tomcat petType) (encode cattery straycat petType) := by
  have hdateless : tomcat.Dateless := by
    simp [Value.Dateless, tomcat, puppy, Value.parts, Value.partsOfItems, Value.partsOfFields]
  have hsame : Value.same tomcat straycat = true := by decide +kernel
  obtain ⟨_, _, hagree⟩ := encode_respects_equality cattery
  exact ⟨tomcat_keysOnce, straycat_keysOnce, hdateless, hsame,
    hagree _ _ tomcat_keysOnce straycat_keysOnce hdateless hsame petType⟩

end Tomcat

end Codec

end OpenApi
