import OpenApi.Proofs.DataType
import OpenApi.Proofs.Registry.Settled

/-!
# What holds of every registry

The registry of any document has each name of a record once, and each record that a field's type
mentions stands in it under its own name.
-/

namespace OpenApi

open Resolution

/-- Each record that the type mentions is in the table. -/
def DataType.Known (names : RecordNames) (ty : DataType) : Prop :=
  ∀ id, ty.Mentions id → ∃ name, OrderedMap.get? names name = some id

theorem DataType.Known.any (names : RecordNames) : DataType.any.Known names := by
  rintro _ ⟨⟩

theorem DataType.Known.mono {names names' : RecordNames} {ty : DataType}
    (h : ∀ name id, OrderedMap.get? names name = some id → OrderedMap.get? names' name = some id)
    (known : ty.Known names) : ty.Known names' := by
  intro id hid
  obtain ⟨name, hname⟩ := known id hid
  exact ⟨name, h name id hname⟩

/-! ## The types of schemas -/

theorem Schema.Typed.known {refers : String → DataType → Prop} {names : RecordNames} {s : Schema}
    {ty : DataType} (h : ∀ path ty, refers path ty → ty.Known names)
    (typed : s.Typed refers ty) : ty.Known names := by
  induction typed with
  | reference has => exact h _ _ has
  | branch _ _ ih => exact ih
  | @union o d member _ _ listed ih =>
    rintro id ⟨⟩
    rename_i p hp hmentions
    obtain ⟨q, hq, rfl⟩ := List.mem_map.1 hp
    exact ih _ (listed q hq) id hmentions
  | array _ _ _ ih =>
    rintro id ⟨⟩
    exact ih id ‹_›
  | arrayOfAny _ _ =>
    rintro id ⟨⟩
    rename_i hmentions
    cases hmentions
  | allOf _ _ | dateTime _ _ | primitive _ _ =>
    rintro id ⟨⟩

theorem Resolution.HasType.known {raw : Json} {names : RecordNames} {s : Schema} {ty : DataType}
    (h : HasType raw names s ty) : ty.Known names := by
  refine Schema.Typed.known (fun path ty denotes => ?_) h
  refine Denotes.induct (P := fun _ ty => ty.Known names) ?_ ?_ denotes
  · rintro path id found _ ⟨⟩
    obtain ⟨name, _, hname⟩ := Option.bind_eq_some_iff.1 found
    exact ⟨typeName name, hname⟩
  · intro path s ty _ _ typed
    exact typed.known fun _ _ has => has.2

theorem Resolution.known_of_resolve {doc : Document} {names : RecordNames} {s : Schema}
    {location : String} {ty : DataType} (h : (resolve doc names s location).outcome = .ok ty) :
    ty.Known names :=
  (resolve_ok_iff.1 h).known

namespace Registry

/-! ## Records -/

/-- No name of a field stands twice, the types of the fields mention records of the table, and
defaults stand as they do on the wire. -/
structure SoundRecord (names : RecordNames) (record : RecordType) : Prop where
  once : record.NamesOnce
  known : ∀ f ∈ record.fields, f.type.Known names
  onWire : ∀ f ∈ record.fields, ∀ v, f.default ≠ some (.held v)

theorem SoundRecord.mono {names names' : RecordNames} {record : RecordType}
    (h : ∀ name id, OrderedMap.get? names name = some id → OrderedMap.get? names' name = some id)
    (sound : SoundRecord names record) : SoundRecord names' record :=
  ⟨sound.once, fun f hf => (sound.known f hf).mono h, sound.onWire⟩

theorem map_localName_zipWith {properties : List (String × Schema)} {types : List DataType}
    (length : properties.length = types.length) :
    (List.zipWith (fun p ty => fieldOf p.1 p.2 ty) properties types).map (·.localName) =
      properties.map (localName ·.1) := by
  induction properties generalizing types with
  | nil => rfl
  | cons p rest ih =>
    cases types with
    | nil => cases length
    | cons ty types =>
      rw [List.zipWith_cons_cons, List.map_cons, List.map_cons, ih (Nat.succ.inj length)]
      rfl

theorem mem_zipWith_fieldOf {properties : List (String × Schema)} {types : List DataType}
    {f : Field} (h : f ∈ List.zipWith (fun p ty => fieldOf p.1 p.2 ty) properties types) :
    ∃ p ty, (p, ty) ∈ properties.zip types ∧ f = fieldOf p.1 p.2 ty := by
  rw [← List.map_uncurry_zip_eq_zipWith, List.mem_map] at h
  obtain ⟨⟨p, ty⟩, hp, rfl⟩ := h
  exact ⟨p, ty, hp, rfl⟩

theorem sound_recordWith {names : RecordNames} {name : String} {o : SchemaObject Schema}
    {types : List DataType} (once : (o.properties.map (localName ·.1)).Nodup)
    (known : List.Forall₂ (fun _ ty => ty.Known names) o.properties types) :
    SoundRecord names (recordWith name o types) := by
  have hfields : (recordWith name o types).fields =
      List.zipWith (fun p ty => fieldOf p.1 p.2 ty) o.properties types := rfl
  have hlocal : ((recordWith name o types).fields.map (·.localName)).Nodup := by
    rw [hfields, map_localName_zipWith known.length_eq]
    exact once
  have hwire : (recordWith name o types).fields.map (·.localName) =
      ((recordWith name o types).fields.map (·.wireName)).map localName := by
    rw [List.map_map, hfields]
    refine List.map_congr_left fun f hf => ?_
    obtain ⟨p, ty, _, rfl⟩ := mem_zipWith_fieldOf hf
    rfl
  refine ⟨⟨hlocal, (hwire ▸ hlocal).of_map⟩, ?_, ?_⟩
  · intro f hf
    obtain ⟨p, ty, hp, rfl⟩ := mem_zipWith_fieldOf (hfields ▸ hf)
    exact List.forall₂_zip known hp
  · intro f hf v hv
    obtain ⟨p, ty, _, rfl⟩ := mem_zipWith_fieldOf (hfields ▸ hf)
    obtain ⟨_, _, hheld⟩ := Option.map_eq_some_iff.1 hv
    cases hheld

theorem mem_modify {α : Type} {l : List α} {i : Nat} {f : α → α} {a : α} (h : a ∈ l.modify i f) :
    ∃ b ∈ l, a = b ∨ a = f b := by
  obtain ⟨j, hj⟩ := List.mem_iff_getElem?.1 h
  rw [List.getElem?_modify] at hj
  obtain ⟨b, hb, rfl⟩ := Option.map_eq_some_iff.1 hj
  refine ⟨b, List.mem_of_getElem? hb, ?_⟩
  split
  · exact .inr rfl
  · exact .inl rfl

theorem map_modify_of_eq {α β : Type} (f : α → α) (g : α → β) (h : ∀ a, g (f a) = g a)
    (l : List α) (i : Nat) : (l.modify i f).map g = l.map g := by
  apply List.ext_getElem?
  intro j
  rw [List.getElem?_map, List.getElem?_map, List.getElem?_modify, Option.map_eq_map,
    Option.map_map]
  congr 1
  funext a
  dsimp only [Function.comp]
  split
  · exact h a
  · rfl

theorem sound_setFieldType {names : RecordNames} {record : RecordType} {ty : DataType}
    (sound : SoundRecord names record) (place : Nat) (known : ty.Known names) :
    SoundRecord names (record.setFieldType place ty) := by
  have hnames : ∀ name : Field → String, (∀ f, name { f with type := ty } = name f) →
      (record.setFieldType place ty).fields.map name = record.fields.map name :=
    fun name hname => map_modify_of_eq _ name hname record.fields place
  refine ⟨⟨?_, ?_⟩, ?_, ?_⟩
  · rw [hnames Field.localName fun _ => rfl]
    exact sound.once.1
  · rw [hnames Field.wireName fun _ => rfl]
    exact sound.once.2
  · intro f hf
    obtain ⟨g, hg, rfl | rfl⟩ := mem_modify hf
    · exact sound.known _ hg
    · exact known
  · intro f hf
    obtain ⟨g, hg, rfl | rfl⟩ := mem_modify hf
    · exact sound.onWire _ hg
    · exact sound.onWire g hg

/-! ## The two passes -/

theorem sound_of_entered {raw : Json} {sources : List String}
    {objects : List (String × SchemaObject Schema)} {records : List RecordType}
    (h : Entered raw sources objects records) :
    records.map (·.name) = objects.map (typeName ·.1) ∧
      ∀ record ∈ records, SoundRecord (tableOf (sources ++ objects.map (·.1))) record := by
  induction h with
  | nil sources => exact ⟨rfl, by simp⟩
  | @cons sources name o types rest records _ names typed _ ih =>
    obtain ⟨hnames, hsounds⟩ := ih
    refine ⟨congrArg (typeName name :: ·) hnames, ?_⟩
    rw [List.map_cons, List.append_cons, List.forall_mem_cons]
    refine ⟨?_, hsounds⟩
    have hsound : SoundRecord (tableOf (sources ++ [name])) (recordWith name o types) :=
      sound_recordWith names (typed.imp fun _ _ hty => hty.known)
    refine hsound.mono fun name' id hid => ?_
    rw [tableOf_append, OrderedMap.get?_append, hid]
    rfl

variable {doc : Document} {r : Registry}

theorem sound_of_settleFields {names : RecordNames} {pending : List Pending} {replaced : Nat}
    {out : Registry × Nat} (sound : ∀ record ∈ r.records, SoundRecord names record)
    (h : (settleFields doc names pending r replaced).outcome = .ok out) :
    out.1.names = r.names ∧ out.1.records.map (·.name) = r.records.map (·.name) ∧
      ∀ record ∈ out.1.records, SoundRecord names record := by
  refine settleFields_keeps (P := fun r' => r'.names = r.names ∧
    r'.records.map (·.name) = r.records.map (·.name) ∧
      ∀ record ∈ r'.records, SoundRecord names record) ?_ ⟨rfl, rfl, sound⟩ h
  rintro r' p ty hty ⟨hnames, hrecords, hsound⟩
  have hsame := map_modify_of_eq (·.setFieldType p.place ty) (·.name) (fun _ => rfl) r'.records
    p.record.index
  refine ⟨hnames, hsame.trans hrecords, fun record hrecord => ?_⟩
  obtain ⟨old, hold, rfl | rfl⟩ := mem_modify hrecord
  · exact hsound _ hold
  · exact sound_setFieldType (hsound old hold) _ hty.known

/-- The registry of a document. -/
structure WellFormed (r : Registry) : Prop where
  sound : ∀ record ∈ r.records, SoundRecord r.names record
  /-- A name stands for the record of that name. -/
  placed : ∀ name id, r.idOf? name = some id →
    ∃ record, r.record? id = some record ∧ record.name = name

theorem wellFormed_of_build (built : (build doc).outcome = .ok r) : WellFormed r := by
  obtain ⟨hdiffer, entered, hentered, replaced, hsettle⟩ := build_ok_iff_passes.1 built
  obtain ⟨hentries, hsound⟩ := sound_of_entered hentered
  obtain ⟨hnames, hrecords, hsound⟩ := sound_of_settleFields hsound hsettle
  have htable : r.names = tableOf (sourcesOf doc) := hnames
  refine ⟨htable ▸ hsound, fun name id hid => ?_⟩
  rw [idOf?, htable] at hid
  obtain ⟨⟨source, i⟩, hsource, he⟩ := List.mem_map.1 (OrderedMap.mem_of_get? hid)
  cases he
  have hplace : (r.records.map (·.name))[i]? = some (typeName source) := by
    have hsource' : (sourcesOf doc)[i]? = some source := List.mem_zipIdx_iff_getElem?.1 hsource
    have hall : r.records.map (·.name) = (sourcesOf doc).map typeName := by
      rw [hrecords, sourcesOf, List.map_map]
      exact hentries
    rw [hall, List.getElem?_map, hsource']
    rfl
  rw [List.getElem?_map] at hplace
  exact Option.map_eq_some_iff.1 hplace

theorem WellFormed.of_mentions (h : WellFormed r) {ty : DataType} (known : ty.Known r.names)
    {id : RecordId} (mentions : ty.Mentions id) :
    ∃ record, r.record? id = some record ∧ r.idOf? record.name = some id := by
  obtain ⟨name, hname⟩ := known id mentions
  obtain ⟨record, hrecord, rfl⟩ := h.placed name id hname
  exact ⟨record, hrecord, hname⟩

theorem WellFormed.namesOnce (h : WellFormed r) : ∀ record ∈ r.records, record.NamesOnce :=
  fun record hrecord => (h.sound record hrecord).once

/-! ## Local names -/

theorem named_of_entered {raw : Json} {sources : List String}
    {objects : List (String × SchemaObject Schema)} {records : List RecordType}
    (h : Entered raw sources objects records) : ∀ record ∈ records, Named record := by
  induction h with
  | nil sources => simp
  | @cons sources name o types rest records _ names typed _ ih =>
    refine List.forall_mem_cons.2 ⟨fun f hf => ?_, ih⟩
    obtain ⟨p, ty, _, rfl⟩ := mem_zipWith_fieldOf hf
    rfl

theorem named_setFieldType {record : RecordType} (h : Named record) (place : Nat)
    (ty : DataType) : Named (record.setFieldType place ty) := by
  intro f hf
  obtain ⟨g, hg, rfl | rfl⟩ := mem_modify hf
  · exact h _ hg
  · exact h g hg

theorem named_of_settleFields {names : RecordNames} {pending : List Pending}
    {replaced : Nat} {out : Registry × Nat} (named : ∀ record ∈ r.records, Named record)
    (h : (settleFields doc names pending r replaced).outcome = .ok out) :
    ∀ record ∈ out.1.records, Named record := by
  refine settleFields_keeps (P := fun r => ∀ record ∈ r.records, Named record) ?_ named h
  intro r p ty _ hnamed record hrecord
  obtain ⟨old, hold, rfl | rfl⟩ := mem_modify hrecord
  · exact hnamed _ hold
  · exact named_setFieldType (hnamed old hold) _ _

theorem named_of_build (built : (build doc).outcome = .ok r) :
    ∀ record ∈ r.records, Named record := by
  obtain ⟨_, entered, hentered, replaced, hsettle⟩ := build_ok_iff_passes.1 built
  exact named_of_settleFields (named_of_entered hentered) hsettle

end Registry

end OpenApi
