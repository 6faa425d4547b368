import OpenApi.Codec
import OpenApi.Proofs.Value

/-!
# What the encoder writes and the decoder reads

The codec takes payloads and values apart before their types are known. These lemmas put the parts
together again: one for each of its functions, stated on look-ups.
-/

namespace OpenApi.Codec

variable {c : Codec} {fallback : Json → DataType → Decoded Value}

/-! ## Outcomes -/

section Outcomes

variable {α β : Type} {o : Except CodecError α} {e : CodecError}

theorem ok_of_map {f : α → β} {b : β} (h : o.map f = .ok b) : ∃ a, o = .ok a ∧ f a = b := by
  cases o with
  | ok a => exact ⟨a, rfl, Except.ok.inj h⟩
  | error e => cases h

theorem error_of_map {f : α → β} (h : o.map f = .error e) : o = .error e := by
  cases o with
  | ok a => cases h
  | error e' => exact congrArg Except.error (Except.error.inj h)

theorem bind_pure_eq_map (o : Except CodecError α) (f : α → β) :
    (o >>= fun a => pure (f a)) = o.map f := by
  cases o <;> rfl

end Outcomes

/-! ## JSON trees -/

mutual

theorem encode_ofJson (c : Codec) : (j : Json) → (ty : DataType) →
    encode c (.ofJson j) ty = .ok j
  | .null, _ | .bool _, _ | .number _, _ | .string _, _ => by simp [Value.ofJson, encode]
  | .array items, ty => by
    rw [Value.ofJson, encode.eq_def]
    simp only [encodeItems_ofItems]
    rfl
  | .object fields, _ => by
    rw [Value.ofJson, encode, encodeEntries_ofFields]
    rfl

theorem encodeItems_ofItems (c : Codec) : (items : List Json) → (element : DataType) →
    encodeItems c (Value.ofItems items) element = .ok items
  | [], _ => rfl
  | v :: rest, element => by
    rw [Value.ofItems, encodeItems, encode_ofJson, encodeItems_ofItems]
    rfl

theorem encodeEntries_ofFields (c : Codec) : (fields : List (String × Json)) →
    encodeEntries c (Value.ofFields fields) = .ok fields
  | [] => rfl
  | (key, v) :: rest => by
    rw [Value.ofFields, encodeEntries, encode_ofJson, encodeEntries_ofFields]
    rfl

end

/-! ## Unions -/

theorem get?_of_tagOf? {mapping : OrderedMap String DataType} {id : RecordId} {tag : String}
    (nodup : (OrderedMap.keys mapping).Nodup) (h : DataType.tagOf? mapping id = some tag) :
    OrderedMap.get? mapping tag = some (.record id) := by
  obtain ⟨⟨t, ty⟩, hm, heq⟩ := List.exists_of_findSome?_eq_some h
  split at heq
  · rename_i t' id' hp
    obtain ⟨rfl, rfl⟩ := Prod.mk.inj hp
    by_cases e : id' = id
    · rw [if_pos e] at heq
      cases heq
      exact OrderedMap.get?_of_mem nodup (e ▸ hm)
    · simp [e] at heq
  · cases heq

theorem selectMember_of_get? {mapping : OrderedMap String DataType} {tag : String}
    {ty : DataType} (wire : Json) (h : OrderedMap.get? mapping tag = some ty) :
    c.selectMember wire tag mapping = c.select wire ty := by
  induction mapping with
  | nil => simp at h
  | cons p rest ih =>
    obtain ⟨t, ty'⟩ := p
    rw [OrderedMap.get?_cons] at h
    rw [selectMember]
    by_cases e : t = tag
    · simp_all
    · rw [if_neg e] at h ⊢
      exact ih h

theorem select_union {field tag : String} {mapping : OrderedMap String DataType} {ty : DataType}
    {wire : Json} (htag : c.payloadTag field wire = .ok tag)
    (h : OrderedMap.get? mapping tag = some ty) :
    c.select wire (.union field mapping) = c.select wire ty := by
  rw [select, htag]
  exact selectMember_of_get? wire h

theorem decodeParts_congr {wire : Json} {parts : Parts} {ty ty' : DataType}
    (h : c.select wire ty = c.select wire ty') :
    decodeParts c fallback wire parts ty = decodeParts c fallback wire parts ty' := by
  unfold decodeParts
  rw [h]

theorem decodeWith_object_congr {fields : List (String × Json)} {ty ty' : DataType}
    (h : c.select (.object fields) ty = c.select (.object fields) ty') :
    decodeWith c fallback (.object fields) ty = decodeWith c fallback (.object fields) ty' := by
  rw [decodeWith, decodeWith]
  exact decodeParts_congr h

/-! ## What passes through -/

theorem decodeWith_primitive (j : Json) (kind : Primitive) :
    (decodeWith c fallback j (.primitive kind)).outcome = .ok (.ofJson j) := by
  cases j <;> rfl

theorem decodeWith_any (j : Json) : (decodeWith c fallback j .any).outcome = .ok (.ofJson j) := by
  cases j <;> rfl

theorem decodeWith_notText {j : Json} (other : ∀ s, j ≠ .string s) :
    (decodeWith c fallback j .dateTime).outcome = .ok (.ofJson j) := by
  cases j with
  | string s => exact absurd rfl (other s)
  | _ => rfl

theorem decodeWith_notArray {j : Json} (element : DataType) (other : ∀ items, j ≠ .array items) :
    (decodeWith c fallback j (.array element)).outcome = .ok (.ofJson j) := by
  cases j with
  | array items => exact absurd rfl (other items)
  | _ => rfl

theorem decodeWith_dateTime {s : String} {t : DateTime} (read : readDateTime s = .ok t) :
    (decodeWith c fallback (.string s) .dateTime).outcome = .ok (.dateTime t) := by
  change (Logged.ofExcept (readDateTime s) >>= _).outcome = _
  rw [Logged.outcome_bind_of_ok read]
  rfl

/-! ## The fields of records -/

theorem record_of_found {id : RecordId} {record : RecordType}
    (found : c.registry.record? id = some record) : c.record id = .ok record := by
  rw [Codec.record, found]

theorem decodeWith_record {id : RecordId} {record : RecordType}
    (found : c.registry.record? id = some record) (wire : List (String × Json)) :
    (decodeWith c fallback (.object wire) (.record id)).outcome =
      (decodeFields c fallback (fieldParts c fallback wire) record.fields
        ⟨id, record.name, []⟩).outcome.map Record.toValue := by
  change (decodeRecordParts c fallback (fieldParts c fallback wire) id >>=
    fun r => pure r.toValue).outcome = _
  unfold decodeRecordParts
  rw [record_of_found found, Logged.outcome_bind, Logged.outcome_bind]
  change Except.bind (Except.bind (.ok record) _) _ = _
  cases h : (decodeFields c fallback (fieldParts c fallback wire) record.fields
    ⟨id, record.name, []⟩).outcome <;> simp [Except.bind, Except.map, h]

theorem get?_fieldParts (fields : List (String × Json)) (key : String) :
    OrderedMap.get? (fieldParts c fallback fields) key =
      (OrderedMap.get? fields key).map (decodeWith c fallback) := by
  induction fields with
  | nil => rfl
  | cons p rest ih =>
    obtain ⟨k, v⟩ := p
    rw [fieldParts, OrderedMap.get?_cons, OrderedMap.get?_cons, ih]
    split <;> rfl

theorem get?_encodeParts {fields : List (String × Value)}
    (nodup : (OrderedMap.keys fields).Nodup) (name : String) :
    OrderedMap.get? (encodeParts c fields) name = (Value.present fields name).map (encode c) := by
  induction fields with
  | nil => rfl
  | cons p rest ih =>
    obtain ⟨k, v⟩ := p
    obtain ⟨hk, hrest⟩ := List.nodup_cons.1 nodup
    rw [encodeParts]
    by_cases e : k = name
    · -- A null field is the only one of its name.
      subst e
      have hnone : OrderedMap.get? rest k = none := (OrderedMap.get?_eq_none_iff rest k).2 hk
      rw [Value.present_of_get? (v := v) (by simp [OrderedMap.get?_cons])]
      by_cases hv : v.isNull = true
      · rw [if_pos hv, if_pos hv, ih hrest, Value.present_of_get?_none hnone]
      · rw [if_neg hv, if_neg hv, OrderedMap.get?_cons, if_pos rfl]
        rfl
    · have hskip : Value.present ((k, v) :: rest) name = Value.present rest name := by
        rw [Value.present, Value.present, OrderedMap.get?_cons, if_neg e]
      rw [hskip]
      by_cases hv : v.isNull = true
      · rw [if_pos hv, ih hrest]
      · rw [if_neg hv, OrderedMap.get?_cons, if_neg e, ih hrest]

/-- What stands on the wire for a field: its encoded value, or null, or nothing. -/
def Written (record : RecordType) (parts : FieldParts) (f : Field) (entry : Option Json) : Prop :=
  match OrderedMap.get? parts f.localName with
  | some part => ∃ j, part f.type = .ok j ∧ entry = some j
  | none => entry = if record.isOptional f.localName then none else some .null

theorem encodeFields_cons (record : RecordType) {parts : FieldParts} {f : Field}
    (rest : List Field) (out : OrderedMap String Json) (new : c.fieldKey f ∉ OrderedMap.keys out)
    (encoded : ∀ part, OrderedMap.get? parts f.localName = some part →
      ∃ j, part f.type = .ok j) :
    ∃ out', encodeFields c record parts (f :: rest) out = encodeFields c record parts rest out' ∧
      Written record parts f (OrderedMap.get? out' (c.fieldKey f)) ∧
      (∀ key, key ≠ c.fieldKey f → OrderedMap.get? out' key = OrderedMap.get? out key) := by
  have hinsert := fun (j : Json) => OrderedMap.get?_insert_self out (c.fieldKey f) j
  have hothers : ∀ (j : Json) (key : String), key ≠ c.fieldKey f →
      OrderedMap.get? (out.insert (c.fieldKey f) j) key = OrderedMap.get? out key :=
    fun j _ hne => OrderedMap.get?_insert_of_ne out j hne
  rw [encodeFields]
  unfold Written
  cases hp : OrderedMap.get? parts f.localName with
  | some part =>
    obtain ⟨j, hj⟩ := encoded part hp
    simp only [hj]
    exact ⟨out.insert (c.fieldKey f) j, rfl, ⟨j, rfl, hinsert j⟩, hothers j⟩
  | none =>
    by_cases ho : record.isOptional f.localName = true
    · simp only [if_pos ho]
      exact ⟨out, rfl, (OrderedMap.get?_eq_none_iff out _).2 new, fun _ _ => rfl⟩
    · simp only [if_neg ho]
      exact ⟨out.insert (c.fieldKey f) .null, rfl, hinsert .null, hothers .null⟩

theorem encodeFields_ok {record : RecordType} {parts : FieldParts} {fs : List Field}
    (keys : (fs.map c.fieldKey).Nodup) (out : OrderedMap String Json)
    (new : ∀ f ∈ fs, c.fieldKey f ∉ OrderedMap.keys out)
    (encoded : ∀ f ∈ fs, ∀ part, OrderedMap.get? parts f.localName = some part →
      ∃ j, part f.type = .ok j) :
    ∃ out', encodeFields c record parts fs out = .ok out' ∧
      (∀ key, key ∉ fs.map c.fieldKey → OrderedMap.get? out' key = OrderedMap.get? out key) ∧
      ∀ f ∈ fs, Written record parts f (OrderedMap.get? out' (c.fieldKey f)) := by
  induction fs generalizing out with
  | nil => exact ⟨out, rfl, fun _ _ => rfl, by simp⟩
  | cons f rest ih =>
    obtain ⟨hf, hrest⟩ := List.nodup_cons.1 keys
    obtain ⟨out₁, hstep, hwritten, hothers⟩ :=
      encodeFields_cons record rest out (new f List.mem_cons_self) (encoded f List.mem_cons_self)
    have hne : ∀ g ∈ rest, c.fieldKey g ≠ c.fieldKey f := fun g hg e =>
      hf (e ▸ List.mem_map_of_mem hg)
    have new₁ : ∀ g ∈ rest, c.fieldKey g ∉ OrderedMap.keys out₁ := by
      intro g hg
      rw [← OrderedMap.get?_eq_none_iff, hothers _ (hne g hg), OrderedMap.get?_eq_none_iff]
      exact new g (List.mem_cons_of_mem _ hg)
    obtain ⟨out₂, hout, hsame, hall⟩ :=
      ih hrest out₁ new₁ fun g hg => encoded g (List.mem_cons_of_mem _ hg)
    refine ⟨out₂, hstep.trans hout, ?_, ?_⟩
    · intro key hkey
      rw [List.map_cons, List.mem_cons, not_or] at hkey
      rw [hsame key hkey.2, hothers key hkey.1]
    · intro g hg
      rcases List.mem_cons.1 hg with rfl | hg
      · rw [hsame _ hf]
        exact hwritten
      · exact hall g hg

section Member

variable {field tag : String} {mapping : OrderedMap String DataType} {id : RecordId}
  {parts : FieldParts} {out : OrderedMap String Json}

theorem encodeMember_of_tag (typeName : String) (listed : DataType.tagOf? mapping id = some tag)
    (encoded : encodeRecordParts c id parts = .ok out) {j : Json}
    (held : OrderedMap.get? out (c.tagKey field) = some j) (present : j.isNull = false) :
    encodeMember c field mapping id typeName parts = .ok out := by
  have hsome : ((OrderedMap.get? out (c.tagKey field)).filter (!·.isNull)).isSome = true := by
    rw [held, Option.filter_some_pos (by simp [present])]
    rfl
  simp only [encodeMember, listed, encoded]
  exact if_pos hsome

theorem encodeMember_of_none (typeName : String) (listed : DataType.tagOf? mapping id = some tag)
    (encoded : encodeRecordParts c id parts = .ok out)
    (free : OrderedMap.get? out (c.tagKey field) = none) :
    encodeMember c field mapping id typeName parts =
      .ok (out.insert (c.tagKey field) (.string tag)) := by
  have hnone : ¬((OrderedMap.get? out (c.tagKey field)).filter (!·.isNull)).isSome = true := by
    simp [free]
  simp only [encodeMember, listed, encoded]
  exact if_neg hnone

end Member

/-- What the decoder finds for a field: the value of its part, or nothing for an absent one. -/
def Found (c : Codec) (parts : OrderedMap String (DataType → Decoded Value)) (f : Field) :
    Option Value → Prop
  | some v => ∃ part, OrderedMap.get? parts (c.fieldKey f) = some part ∧
      (part f.type).outcome = .ok v
  | none => OrderedMap.get? parts (c.fieldKey f) = none ∧ f.default = none

theorem decodeFields_cons (fallback : Json → DataType → Decoded Value)
    {parts : OrderedMap String (DataType → Decoded Value)} {f : Field} (rest : List Field)
    (r : Record) {found : Option Value} (h : Found c parts f found)
    (new : f.localName ∉ OrderedMap.keys r.fields) (nodup : (OrderedMap.keys r.fields).Nodup) :
    ∃ r', (decodeFields c fallback parts (f :: rest) r).outcome =
        (decodeFields c fallback parts rest r').outcome ∧
      r'.id = r.id ∧ (OrderedMap.keys r'.fields).Nodup ∧
      OrderedMap.get? r'.fields f.localName = found ∧
      ∀ name, name ≠ f.localName →
        OrderedMap.get? r'.fields name = OrderedMap.get? r.fields name := by
  rw [decodeFields]
  cases found with
  | some v =>
    obtain ⟨part, hpart, hv⟩ := h
    simp only [hpart]
    exact ⟨r.set f.localName v, Logged.outcome_bind_of_ok hv _, rfl,
      OrderedMap.nodup_keys_insert nodup _ _, OrderedMap.get?_insert_self _ _ _,
      fun name hne => OrderedMap.get?_insert_of_ne _ _ hne⟩
  | none =>
    obtain ⟨hpart, hdefault⟩ := h
    simp only [hpart, hdefault]
    exact ⟨r, rfl, rfl, nodup, (OrderedMap.get?_eq_none_iff _ _).2 new, fun _ _ => rfl⟩

theorem decodeFields_ok (fallback : Json → DataType → Decoded Value)
    {parts : OrderedMap String (DataType → Decoded Value)} {fs : List Field}
    (names : (fs.map Field.localName).Nodup) (r : Record)
    (new : ∀ f ∈ fs, f.localName ∉ OrderedMap.keys r.fields)
    (nodup : (OrderedMap.keys r.fields).Nodup) {Goal : Field → Option Value → Prop}
    (found : ∀ f ∈ fs, ∃ v, Found c parts f v ∧ Goal f v) :
    ∃ r', (decodeFields c fallback parts fs r).outcome = .ok r' ∧ r'.id = r.id ∧
      (OrderedMap.keys r'.fields).Nodup ∧
      (∀ name, name ∉ fs.map Field.localName →
        OrderedMap.get? r'.fields name = OrderedMap.get? r.fields name) ∧
      ∀ f ∈ fs, Goal f (OrderedMap.get? r'.fields f.localName) := by
  induction fs generalizing r with
  | nil => exact ⟨r, rfl, rfl, nodup, fun _ _ => rfl, by simp⟩
  | cons f rest ih =>
    obtain ⟨hf, hrest⟩ := List.nodup_cons.1 names
    obtain ⟨v, hv, hgoal⟩ := found f List.mem_cons_self
    obtain ⟨r₁, hstep, hid, nodup₁, hget, hothers⟩ :=
      decodeFields_cons fallback rest r hv (new f List.mem_cons_self) nodup
    have hne : ∀ g ∈ rest, g.localName ≠ f.localName := fun g hg e =>
      hf (e ▸ List.mem_map_of_mem hg)
    have new₁ : ∀ g ∈ rest, g.localName ∉ OrderedMap.keys r₁.fields := by
      intro g hg
      rw [← OrderedMap.get?_eq_none_iff, hothers _ (hne g hg), OrderedMap.get?_eq_none_iff]
      exact new g (List.mem_cons_of_mem _ hg)
    obtain ⟨r₂, hr, hid₂, nodup₂, hsame, hall⟩ :=
      ih hrest r₁ new₁ nodup₁ fun g hg => found g (List.mem_cons_of_mem _ hg)
    refine ⟨r₂, hstep.trans hr, hid₂.trans hid, nodup₂, ?_, ?_⟩
    · intro name hname
      rw [List.map_cons, List.mem_cons, not_or] at hname
      rw [hsame name hname.2, hothers name hname.1]
    · intro g hg
      rcases List.mem_cons.1 hg with rfl | hg
      · rw [hsame _ hf, hget]
        exact hgoal
      · exact hall g hg

end OpenApi.Codec
