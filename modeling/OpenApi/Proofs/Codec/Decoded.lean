import OpenApi.Proofs.Codec.Ends

/-!
# Decoded values

Which payloads are decoded, and to which values, in a registry whose records have each name once.
Whatever is said of decoded values is proved by induction on these rules.
-/

namespace OpenApi.Codec

/-- What stands for a field in an object: its entry, or else its default. -/
def standsFor (c : Codec) (entries : List (String × Json)) (f : Field) : Option FieldDefault :=
  match OrderedMap.get? entries (c.fieldKey f) with
  | some wire => some (.wire wire)
  | none => f.default

/-- The payload is decoded to the value. -/
inductive DecodesTo (c : Codec) : Json → DataType → Value → Prop where
  | null (ty : DataType) : DecodesTo c .null ty .null
  | primitive (wire : Json) (kind : Primitive) :
      DecodesTo c wire (.primitive kind) (.ofJson wire)
  | any (wire : Json) : DecodesTo c wire .any (.ofJson wire)
  | dateTime {s : String} {t : DateTime} (read : readDateTime s = .ok t) :
      DecodesTo c (.string s) .dateTime (.dateTime t)
  | notText {wire : Json} (other : ∀ s, wire ≠ .string s) :
      DecodesTo c wire .dateTime (.ofJson wire)
  | array {items : List Json} {element : DataType} {vs : List Value}
      (length : items.length = vs.length)
      (each : ∀ p ∈ items.zip vs, DecodesTo c p.1 element p.2) :
      DecodesTo c (.array items) (.array element) (.array vs)
  | notArray {wire : Json} (element : DataType) (other : ∀ items, wire ≠ .array items) :
      DecodesTo c wire (.array element) (.ofJson wire)
  /-- The record has its declared fields and no others, each with what stands for it. -/
  | record {entries : List (String × Json)} {id : RecordId} {record : RecordType}
      {fields : List (String × Value)} (found : c.registry.record? id = some record)
      (once : (OrderedMap.keys fields).Nodup)
      (declared : ∀ name ∈ OrderedMap.keys fields, name ∈ record.fields.map (·.localName))
      (absent : ∀ f ∈ record.fields,
        OrderedMap.get? fields f.localName = none ↔ standsFor c entries f = none)
      (held : ∀ f ∈ record.fields, ∀ v w, standsFor c entries f = some (.held v) →
        OrderedMap.get? fields f.localName = some w → w = v)
      (each : ∀ f ∈ record.fields, ∀ wire v, standsFor c entries f = some (.wire wire) →
        OrderedMap.get? fields f.localName = some v → DecodesTo c wire f.type v) :
      DecodesTo c (.object entries) (.record id) (.record id record.name fields)
  | member {wire : Json} {field tag : String} {mapping : OrderedMap String DataType} {ty : DataType}
      {v : Value} (tagged : c.payloadTag field wire = .ok tag)
      (listed : OrderedMap.get? mapping tag = some ty) (decodes : DecodesTo c wire ty v) :
      DecodesTo c wire (.union field mapping) v

variable {c : Codec} {defaults : Json → DataType → Except CodecError Value → Prop}

/-! ## Fields -/

/-- What a decoded record has for a field. -/
inductive FieldTo (c : Codec) (entries : List (String × Json)) (f : Field) :
    Option Value → Prop where
  | decoded {wire : Json} {v : Value} (stands : standsFor c entries f = some (.wire wire))
      (decodes : DecodesTo c wire f.type v) : FieldTo c entries f (some v)
  | held {v : Value} (stands : standsFor c entries f = some (.held v)) :
      FieldTo c entries f (some v)
  | absent (stands : standsFor c entries f = none) : FieldTo c entries f none

theorem standsFor_of_some {entries : List (String × Json)} {f : Field} {wire : Json}
    (h : OrderedMap.get? entries (c.fieldKey f) = some wire) :
    standsFor c entries f = some (.wire wire) := by
  rw [standsFor, h]

theorem standsFor_of_none {entries : List (String × Json)} {f : Field}
    (h : OrderedMap.get? entries (c.fieldKey f) = none) : standsFor c entries f = f.default := by
  rw [standsFor, h]

theorem FieldTo.eq_none_iff {entries : List (String × Json)} {f : Field} {v? : Option Value}
    (h : FieldTo c entries f v?) : v? = none ↔ standsFor c entries f = none := by
  cases h with
  | decoded stands => simp [stands]
  | held stands => simp [stands]
  | absent stands => simp [stands]

theorem FieldTo.eq_of_held {entries : List (String × Json)} {f : Field} {v w : Value}
    (h : FieldTo c entries f (some w)) (held : standsFor c entries f = some (.held v)) : w = v := by
  cases h with
  | decoded stands => simp [held] at stands
  | held stands => simpa [held] using stands.symm

theorem FieldTo.decodesTo {entries : List (String × Json)} {f : Field} {wire : Json} {v : Value}
    (h : FieldTo c entries f (some v)) (stands : standsFor c entries f = some (.wire wire)) :
    DecodesTo c wire f.type v := by
  cases h with
  | decoded stands' decodes =>
    rw [stands] at stands'
    cases stands'
    exact decodes
  | held held => simp [stands] at held

theorem DecodesTo.of_fields {entries : List (String × Json)} {id : RecordId} {record : RecordType}
    {fields : List (String × Value)} (found : c.registry.record? id = some record)
    (once : (OrderedMap.keys fields).Nodup)
    (declared : ∀ name ∈ OrderedMap.keys fields, name ∈ record.fields.map (·.localName))
    (each : ∀ f ∈ record.fields, FieldTo c entries f (OrderedMap.get? fields f.localName)) :
    DecodesTo c (.object entries) (.record id) (.record id record.name fields) := by
  have hsome : ∀ f ∈ record.fields, ∀ v, OrderedMap.get? fields f.localName = some v →
      FieldTo c entries f (some v) := fun f hf _ hv => hv ▸ each f hf
  refine .record found once declared ?_ ?_ ?_
  · exact fun f hf => (each f hf).eq_none_iff
  · exact fun f hf _ w held hw => (hsome f hf w hw).eq_of_held held
  · exact fun f hf _ v stands hv => (hsome f hf v hv).decodesTo stands

/-- The fields have been decoded into the record, whose other fields are as they were. -/
structure Filled (c : Codec) (entries : List (String × Json)) (fs : List Field)
    (r r' : Record) : Prop where
  id : r'.id = r.id
  typeName : r'.typeName = r.typeName
  once : (OrderedMap.keys r.fields).Nodup → (OrderedMap.keys r'.fields).Nodup
  others : ∀ name, name ∉ fs.map (·.localName) →
    OrderedMap.get? r'.fields name = OrderedMap.get? r.fields name
  each : ∀ f ∈ fs, f.localName ∉ OrderedMap.keys r.fields →
    FieldTo c entries f (OrderedMap.get? r'.fields f.localName)

theorem get?_put_self {r : Record} {name : String} (v? : Option Value)
    (new : name ∉ OrderedMap.keys r.fields) :
    OrderedMap.get? (r.put name v?).fields name = v? := by
  cases v? with
  | some v => exact OrderedMap.get?_insert_self _ _ _
  | none => exact (OrderedMap.get?_eq_none_iff _ _).2 new

theorem get?_put_of_ne (r : Record) (v? : Option Value) {name other : String} (h : other ≠ name) :
    OrderedMap.get? (r.put name v?).fields other = OrderedMap.get? r.fields other := by
  cases v? with
  | some v => exact OrderedMap.get?_insert_of_ne _ _ h
  | none => rfl

theorem Filled.cons {entries : List (String × Json)} {f : Field} {rest : List Field}
    {r r' : Record} {v? : Option Value} (new : f.localName ∉ rest.map (·.localName))
    (first : FieldTo c entries f v?) (others : Filled c entries rest (r.put f.localName v?) r') :
    Filled c entries (f :: rest) r r' := by
  have hid : (r.put f.localName v?).id = r.id := by cases v? <;> rfl
  have htypeName : (r.put f.localName v?).typeName = r.typeName := by cases v? <;> rfl
  refine ⟨others.id.trans hid, others.typeName.trans htypeName, ?_, ?_, ?_⟩
  · intro once
    refine others.once ?_
    cases v? with
    | some v => exact OrderedMap.nodup_keys_insert once _ _
    | none => exact once
  · intro name hname
    rw [List.map_cons, List.mem_cons, not_or] at hname
    rw [others.others name hname.2, get?_put_of_ne r v? hname.1]
  · intro g hg hnew
    rcases List.mem_cons.1 hg with rfl | hg
    · rw [others.others _ new, get?_put_self v? hnew]
      exact first
    · have hne : g.localName ≠ f.localName := fun e => new (e ▸ List.mem_map_of_mem hg)
      refine others.each g hg ?_
      rw [← OrderedMap.get?_eq_none_iff, get?_put_of_ne r v? hne, OrderedMap.get?_eq_none_iff]
      exact hnew

/-! ## What is decoded is decoded by the rules -/

mutual

theorem DecodesBy.decodesTo (names : ∀ record ∈ c.registry.records, record.NamesOnce)
    (h : OnDefaults c defaults fun wire ty o => ∀ v, o = .ok v → DecodesTo c wire ty v)
    {wire : Json} {ty : DataType} {o : Except CodecError Value} :
    DecodesBy c defaults wire ty o → ∀ v, o = .ok v → DecodesTo c wire ty v
  | .null ty, v, hv => by
    obtain rfl := Except.ok.inj hv
    exact .null ty
  | .primitive wire kind, v, hv => by
    obtain rfl := Except.ok.inj hv
    exact .primitive wire kind
  | .any wire, v, hv => by
    obtain rfl := Except.ok.inj hv
    exact .any wire
  | .dateTime s, v, hv => by
    obtain ⟨t, ht, rfl⟩ := ok_of_map hv
    exact .dateTime ht
  | .notText other, v, hv => by
    obtain rfl := Except.ok.inj hv
    exact .notText other
  | .array each, v, hv => by
    obtain ⟨vs, hvs, rfl⟩ := ok_of_map hv
    have hitems := each.decodesTo names h vs hvs
    exact .array hitems.1 hitems.2
  | .notArray element other, v, hv => by
    obtain rfl := Except.ok.inj hv
    exact .notArray element other
  | @DecodesBy.record _ _ entries id record o found each, v, hv => by
    obtain ⟨r, hr, rfl⟩ := ok_of_map hv
    have hnames : record.NamesOnce := names record (List.mem_of_getElem? found)
    have hfilled : Filled c entries record.fields ⟨id, record.name, []⟩ r :=
      each.decodesTo names h (isField_of_found found) hnames.1 r hr
    rw [Record.toValue, hfilled.id, hfilled.typeName]
    have hempty : ∀ name, name ∉ OrderedMap.keys ([] : List (String × Value)) := by
      simp [OrderedMap.keys]
    refine .of_fields found (hfilled.once List.nodup_nil) ?_
      fun f hf => hfilled.each f hf (hempty _)
    intro name hname
    by_contra hother
    exact (OrderedMap.get?_eq_none_iff _ _).1 (hfilled.others name hother) hname
  | .notObject found present other, v, hv => nomatch hv
  | .foreign unknown present, v, hv => nomatch hv
  | .member tagged listed decodes, v, hv => .member tagged listed (decodes.decodesTo names h v hv)
  | .untagged mapping present untagged, v, hv => nomatch hv
  | .unlisted tagged unlisted, v, hv => nomatch hv

theorem ItemsBy.decodesTo (names : ∀ record ∈ c.registry.records, record.NamesOnce)
    (h : OnDefaults c defaults fun wire ty o => ∀ v, o = .ok v → DecodesTo c wire ty v)
    {element : DataType} {items : List Json} {o : Except CodecError (List Value)} :
    ItemsBy c defaults element items o → ∀ vs, o = .ok vs →
      items.length = vs.length ∧ ∀ p ∈ items.zip vs, DecodesTo c p.1 element p.2
  | .nil element, vs, hvs => by
    obtain rfl := Except.ok.inj hvs
    exact ⟨rfl, by simp⟩
  | .cons first others, vs, hvs => by
    obtain ⟨vs, hrest, rfl⟩ := ok_of_map hvs
    obtain ⟨hlength, heach⟩ := others.decodesTo names h vs hrest
    refine ⟨by simp [hlength], ?_⟩
    intro p hp
    rw [List.zip_cons_cons, List.mem_cons] at hp
    rcases hp with rfl | hp
    · exact first.decodesTo names h _ rfl
    · exact heach p hp
  | .fault rest first, vs, hvs => nomatch hvs

theorem FieldsBy.decodesTo (names : ∀ record ∈ c.registry.records, record.NamesOnce)
    (h : OnDefaults c defaults fun wire ty o => ∀ v, o = .ok v → DecodesTo c wire ty v)
    {entries : List (String × Json)} {fs : List Field} {r : Record} {o : Except CodecError Record}
    (fields : ∀ f ∈ fs, IsField c f) (once : (fs.map (·.localName)).Nodup) :
    FieldsBy c defaults entries fs r o → ∀ r', o = .ok r' → Filled c entries fs r r'
  | .nil entries r, r', hr => by
    obtain rfl := Except.ok.inj hr
    exact ⟨rfl, rfl, id, fun _ _ => rfl, by simp⟩
  | .cons first others, r', hr => by
    obtain ⟨hnew, honce⟩ := List.nodup_cons.1 once
    exact .cons hnew (first.decodesTo names h (fields _ List.mem_cons_self) _ rfl)
      (others.decodesTo names h (fun f hf => fields f (List.mem_cons_of_mem _ hf)) honce r' hr)
  | .fault rest r first, r', hr => nomatch hr

theorem FieldBy.decodesTo (names : ∀ record ∈ c.registry.records, record.NamesOnce)
    (h : OnDefaults c defaults fun wire ty o => ∀ v, o = .ok v → DecodesTo c wire ty v)
    {entries : List (String × Json)} {f : Field} {o : Except CodecError (Option Value)}
    (field : IsField c f) :
    FieldBy c defaults entries f o → ∀ v?, o = .ok v? → FieldTo c entries f v?
  | .entry stands decodes, v?, hv => by
    obtain ⟨v, ho, rfl⟩ := ok_of_map hv
    exact .decoded (standsFor_of_some stands) (decodes.decodesTo names h v ho)
  | .fallback lacks default decodes, v?, hv => by
    obtain ⟨v, ho, rfl⟩ := ok_of_map hv
    exact .decoded ((standsFor_of_none lacks).trans default)
      (h _ _ ⟨f, field, default, rfl⟩ _ decodes v ho)
  | .held lacks default, v?, hv => by
    obtain rfl := Except.ok.inj hv
    exact .held ((standsFor_of_none lacks).trans default)
  | .absent lacks default, v?, hv => by
    obtain rfl := Except.ok.inj hv
    exact .absent ((standsFor_of_none lacks).trans default)

end

theorem DecodesWithin.decodesTo (names : ∀ record ∈ c.registry.records, record.NamesOnce)
    {depth : Nat} {wire : Json} {ty : DataType} {v : Value}
    (h : DecodesWithin c depth wire ty (.ok v)) : DecodesTo c wire ty v := by
  induction depth generalizing wire ty v with
  | zero => exact h.elim
  | succ depth ih =>
    refine DecodesBy.decodesTo names ?_ h v rfl
    rintro wire ty _ _ ho v rfl
    exact ih ho

theorem decodesTo_of_decodeWithin (names : ∀ record ∈ c.registry.records, record.NamesOnce)
    {depth : Nat} {wire : Json} {ty : DataType} {v : Value}
    (h : (decodeWithin c depth wire ty).outcome = .ok v) : DecodesTo c wire ty v :=
  DecodesWithin.decodesTo names ((decodesWithin_succ_iff depth).2 ⟨h, by simp⟩)

theorem decodesTo_of_decode (names : ∀ record ∈ c.registry.records, record.NamesOnce)
    {wire : Json} {ty : DataType} {v : Value} (h : (c.decode wire ty).outcome = .ok v) :
    DecodesTo c wire ty v :=
  decodesTo_of_decodeWithin names h

end OpenApi.Codec
