import OpenApi.Proofs.Document.Components
import OpenApi.Proofs.Registry.Settled

/-!
# The registry of a reordered document

The ids of the records follow the order of the component schemas. Nothing else does.
-/

namespace OpenApi

/-- The record type with other types of its fields. -/
def RecordType.mapTypes (r : RecordType) (f : DataType → DataType) : RecordType :=
  { r with fields := r.fields.map fun field => { field with type := f field.type } }

namespace Registry

open Json.Typed (toOption_eq_some_iff)
open Resolution

/-- The id of the record's name in another registry. -/
def counterpart (r r' : Registry) (id : RecordId) : RecordId :=
  ((r.record? id).bind fun record => r'.idOf? record.name).getD id

variable {doc : Document} {raw : Json} {T : Schema → DataType → Prop} {r : Registry} {name : String}
  {id : RecordId} {object : String × SchemaObject Schema}
  {objects : List (String × SchemaObject Schema)} {records : List RecordType}

/-! ## The component schemas that become records -/

theorem objects_eq_filterMap (schemas : List (String × Schema)) :
    Registry.objects schemas = schemas.filterMap fun p =>
      (p.2.inline?.filter (·.keyword? = some "object")).map (p.1, ·) := by
  induction schemas with
  | nil => rfl
  | cons p rest ih =>
    obtain ⟨name, schema⟩ := p
    rw [Registry.objects, List.filterMap_cons]
    cases hinline : schema.inline? with
    | none => exact ih
    | some o =>
      simp only [Option.filter_some, decide_eq_true_eq]
      split
      · rw [ih]
        rfl
      · exact ih

theorem mem_objectsOf {o : SchemaObject Schema} (h : (name, o) ∈ objectsOf doc) :
    ∃ c, doc.description.components = some c ∧ (name, .inline o) ∈ c.schemas ∧
      o.keyword? = some "object" := by
  unfold objectsOf at h
  cases hcomponents : doc.description.components with
  | none =>
    rw [hcomponents] at h
    cases h
  | some c =>
    rw [hcomponents] at h
    simp only [objects_eq_filterMap, List.mem_filterMap, Option.map_eq_some_iff,
      Option.filter_eq_some_iff] at h
    obtain ⟨⟨_, schema⟩, hmem, _, ⟨hinline, hobject⟩, he⟩ := h
    cases he
    cases schema with
    | reference path => cases hinline
    | inline o =>
      cases hinline
      exact ⟨c, rfl, hmem, by simpa using hobject⟩

theorem read?_of_mem_objectsOf (read : Document.ofJson raw = .ok doc)
    (h : object ∈ objectsOf doc) :
    ∃ w, w.Below raw ∧ Schema.read? w = some (.inline object.2) := by
  obtain ⟨c, hc, hmem, _⟩ := mem_objectsOf h
  exact Document.read?_of_mem read hc _ hmem

theorem objectsOf_mappingsOnce (once : raw.KeysOnce) (read : Document.ofJson raw = .ok doc) :
    ∀ object ∈ objectsOf doc, ∀ p ∈ object.2.properties, p.2.MappingsOnce := by
  intro object hobject p hp
  obtain ⟨w, hw, hread⟩ := read?_of_mem_objectsOf read hobject
  cases Schema.mappingsOnce_of_read? (once.of_below hw) hread with
  | inline _ below => exact below p.2 (SchemaObject.mem_children_of_properties hp)

theorem objectsOf_perm {raw' : Json} {doc' : Document} (reordered : Document.Reordered raw raw')
    (once : raw.KeysOnce) (read : Document.ofJson raw = .ok doc)
    (read' : Document.ofJson raw' = .ok doc') : (objectsOf doc).Perm (objectsOf doc') := by
  obtain ⟨c, c', hc, hc', hperm⟩ := reordered.schemas once read read'
  unfold objectsOf
  rw [hc, hc']
  simp only [objects_eq_filterMap]
  exact hperm.filterMap _

/-! ## Looking up by name -/

theorem get?_tableOf {sources : List String} (nodup : (sources.map typeName).Nodup) :
    OrderedMap.get? (tableOf sources) name = some id ↔
      ∃ source, sources[id.index]? = some source ∧ typeName source = name := by
  rw [← keys_tableOf] at nodup
  rw [OrderedMap.get?_eq_some_iff nodup, tableOf, List.mem_map]
  constructor
  · rintro ⟨⟨source, i⟩, hmem, he⟩
    cases he
    exact ⟨source, List.mem_zipIdx_iff_getElem?.1 hmem, rfl⟩
  · rintro ⟨source, hsource, rfl⟩
    exact ⟨(source, id.index), List.mem_zipIdx_iff_getElem?.2 hsource, rfl⟩

/-- The registry of the given component schemas and records. -/
def ofObjects (objects : List (String × SchemaObject Schema)) (records : List RecordType) :
    Registry :=
  registryOf (objects.map (·.1)) records

theorem idOf?_ofObjects (typed : List.Forall₂ (TypedBy T) objects records)
    (nodup : ((objects.map (·.1)).map typeName).Nodup) :
    (ofObjects objects records).idOf? name = some id ↔
      ∃ object record, objects[id.index]? = some object ∧ records[id.index]? = some record ∧
        TypedBy T object record ∧ typeName object.1 = name := by
  change OrderedMap.get? (tableOf _) name = some id ↔ _
  rw [get?_tableOf nodup]
  constructor
  · rintro ⟨source, hsource, hname⟩
    rw [List.getElem?_map, Option.map_eq_some_iff] at hsource
    obtain ⟨object, hobject, rfl⟩ := hsource
    obtain ⟨hlt, rfl⟩ := List.getElem?_eq_some_iff.1 hobject
    have hlt' : id.index < records.length := typed.length_eq ▸ hlt
    exact ⟨_, records[id.index], hobject, List.getElem?_eq_getElem hlt',
      typed.get hlt hlt', hname⟩
  · rintro ⟨object, _, hobject, _, _, hname⟩
    exact ⟨object.1, by rw [List.getElem?_map, hobject]; rfl, hname⟩

theorem mem_of_lookup? (typed : List.Forall₂ (TypedBy T) objects records)
    (nodup : ((objects.map (·.1)).map typeName).Nodup) {record : RecordType}
    (h : (ofObjects objects records).lookup? name = some record) :
    ∃ object ∈ objects, typeName object.1 = name ∧ TypedBy T object record := by
  obtain ⟨id, hid, hrecord⟩ := Option.bind_eq_some_iff.1 h
  obtain ⟨object, record', hobject, hrecord', htyped, hname⟩ := (idOf?_ofObjects typed nodup).1 hid
  obtain rfl := Option.some.inj (hrecord.symm.trans hrecord')
  exact ⟨object, List.mem_of_getElem? hobject, hname, htyped⟩

theorem lookup?_of_mem (typed : List.Forall₂ (TypedBy T) objects records)
    (nodup : ((objects.map (·.1)).map typeName).Nodup) (mem : object ∈ objects) :
    ∃ record, (ofObjects objects records).lookup? (typeName object.1) = some record ∧
      TypedBy T object record := by
  obtain ⟨i, hi, rfl⟩ := List.mem_iff_getElem.1 mem
  have hi' : i < records.length := typed.length_eq ▸ hi
  have htyped := typed.get hi hi'
  have hrecord : records[i]? = some records[i] := List.getElem?_eq_getElem hi'
  have hid : (ofObjects objects records).idOf? (typeName objects[i].1) = some ⟨i⟩ :=
    (idOf?_ofObjects typed nodup).2
      ⟨_, _, List.getElem?_eq_getElem hi, hrecord, htyped, rfl⟩
  refine ⟨records[i], ?_, htyped⟩
  rw [lookup?, hid]
  exact hrecord

theorem name_of_typedBy {record : RecordType} (h : TypedBy T object record) :
    record.name = typeName object.1 := by
  obtain ⟨types, _, rfl⟩ := h
  rfl

section Reordered

variable {T' : Schema → DataType → Prop} {objects' : List (String × SchemaObject Schema)}
  {records' : List RecordType}

theorem idOf?_reordered (typed : List.Forall₂ (TypedBy T) objects records)
    (typed' : List.Forall₂ (TypedBy T') objects' records') (perm : objects.Perm objects')
    (nodup : ((objects.map (·.1)).map typeName).Nodup) (name : String) :
    (ofObjects objects' records').idOf? name = ((ofObjects objects records).idOf? name).map
      (counterpart (ofObjects objects records) (ofObjects objects' records')) := by
  have nodup' : ((objects'.map (·.1)).map typeName).Nodup :=
    ((perm.map (·.1)).map typeName).nodup_iff.1 nodup
  cases hid : (ofObjects objects records).idOf? name with
  | none =>
    rw [Option.map_none, Option.eq_none_iff_forall_ne_some]
    intro id' hid'
    obtain ⟨object, _, hobject, _, _, rfl⟩ := (idOf?_ofObjects typed' nodup').1 hid'
    have hmem : object ∈ objects := perm.mem_iff.2 (List.mem_of_getElem? hobject)
    obtain ⟨record, hrecord, _⟩ := lookup?_of_mem typed nodup hmem
    rw [lookup?, hid] at hrecord
    cases hrecord
  | some id =>
    obtain ⟨object, record, hobject, hrecord, htyped, rfl⟩ := (idOf?_ofObjects typed nodup).1 hid
    have hmem : object ∈ objects' := perm.mem_iff.1 (List.mem_of_getElem? hobject)
    obtain ⟨record', hrecord', _⟩ := lookup?_of_mem typed' nodup' hmem
    obtain ⟨id', hid', _⟩ := Option.bind_eq_some_iff.1 hrecord'
    have hfound : (ofObjects objects records).record? id = some record := hrecord
    rw [hid', Option.map_some, counterpart, hfound, Option.bind_some, name_of_typedBy htyped, hid']
    rfl

theorem recordWith_map (name : String) (o : SchemaObject Schema) (types : List DataType)
    (f : DataType → DataType) :
    recordWith name o (types.map f) = (recordWith name o types).mapTypes f := by
  simp only [recordWith, RecordType.addProperties, RecordType.mapTypes, List.nil_append,
    List.zipWith_map_right, List.map_zipWith]
  rfl

theorem types_of_typed {f : DataType → DataType} (maps : ∀ s ty, T s ty → T' s (f ty))
    (unique : ∀ s a b, T' s a → T' s b → a = b) {properties : List (String × Schema)}
    {types types' : List DataType} (typed : List.Forall₂ (fun p ty => T p.2 ty) properties types)
    (typed' : List.Forall₂ (fun p ty => T' p.2 ty) properties types') : types' = types.map f := by
  induction typed generalizing types' with
  | nil =>
    cases typed'
    rfl
  | cons hty _ ih =>
    cases typed' with
    | cons hty' htypes' =>
      rw [ih htypes', unique _ _ _ hty' (maps _ _ hty), List.map_cons]

theorem lookup?_reordered {f : DataType → DataType}
    (typed : List.Forall₂ (TypedBy T) objects records)
    (typed' : List.Forall₂ (TypedBy T') objects' records') (perm : objects.Perm objects')
    (nodup : ((objects.map (·.1)).map typeName).Nodup) (maps : ∀ s ty, T s ty → T' s (f ty))
    (unique : ∀ s a b, T' s a → T' s b → a = b) (name : String) :
    (ofObjects objects' records').lookup? name =
      ((ofObjects objects records).lookup? name).map (·.mapTypes f) := by
  have nodup' : ((objects'.map (·.1)).map typeName).Nodup :=
    ((perm.map (·.1)).map typeName).nodup_iff.1 nodup
  cases hrecord : (ofObjects objects records).lookup? name with
  | none =>
    rw [Option.map_none, Option.eq_none_iff_forall_ne_some]
    intro record' hrecord'
    obtain ⟨object, hmem, rfl, _⟩ := mem_of_lookup? typed' nodup' hrecord'
    obtain ⟨record, hfound, _⟩ := lookup?_of_mem typed nodup (perm.mem_iff.2 hmem)
    rw [hrecord] at hfound
    cases hfound
  | some record =>
    obtain ⟨object, hmem, rfl, types, htypes, rfl⟩ := mem_of_lookup? typed nodup hrecord
    obtain ⟨record', hrecord', types', htypes', rfl⟩ :=
      lookup?_of_mem typed' nodup' (perm.mem_iff.1 hmem)
    rw [hrecord', Option.map_some, ← recordWith_map, types_of_typed maps unique htypes htypes']

end Reordered

/-! ## After the second pass -/

/-- The record type is the one of the object schema, and each field has the type that resolution
finds for its property with all the names known. -/
def Settled (doc : Document) (names : RecordNames) (object : String × SchemaObject Schema)
    (record : RecordType) : Prop :=
  record.name = typeName object.1 ∧
    List.Forall₂ (fun p field => field.wireName = p.1 ∧
      ∀ location, (resolve doc names p.2 location).outcome = .ok field.type)
      object.2.properties record.fields

theorem settled_of_typedBy {names : RecordNames} {record : RecordType}
    (h : TypedBy (HasType doc.raw names) object record) : Settled doc names object record := by
  obtain ⟨types, htypes, rfl⟩ := h
  refine ⟨rfl, ?_⟩
  simp only [recordWith, RecordType.addProperties, List.nil_append]
  generalize object.2.properties = properties at htypes ⊢
  induction htypes with
  | nil => exact .nil
  | cons hty _ ih => exact .cons ⟨rfl, fun _ => resolve_ok_iff.2 hty⟩ ih

theorem names_ofObjects (typed : List.Forall₂ (TypedBy T) objects records) :
    (ofObjects objects records).names =
      (ofObjects objects records).entries.map fun entry => (entry.2.name, entry.1) := by
  have hnames : records.map (·.name) = (objects.map (·.1)).map typeName := by
    induction typed with
    | nil => rfl
    | cons htyped _ ih => simp only [List.map_cons, name_of_typedBy htyped, ih]
  have htable : ∀ names : List String, names.zipIdx.map (fun p => (typeName p.1, RecordId.mk p.2)) =
      (names.map typeName).zipIdx.map fun p => (p.1, RecordId.mk p.2) := by
    intro names
    rw [List.zipIdx_map, List.map_map]
    rfl
  change (objects.map (·.1)).zipIdx.map _ = (records.zipIdx.map _).map _
  rw [htable, ← hnames, List.zipIdx_map, List.map_map, List.map_map]
  rfl

theorem build_ok (once : raw.KeysOnce) (read : Document.ofJson raw = .ok doc)
    (built : (build doc).outcome = .ok r) :
    ((sourcesOf doc).map typeName).Nodup ∧ ∃ records,
      List.Forall₂ (TypedBy (HasType raw (tableOf (sourcesOf doc)))) (objectsOf doc) records ∧
        r = ofObjects (objectsOf doc) records := by
  obtain ⟨hdiffer, _⟩ := build_ok_iff_passes.1 built
  obtain ⟨rfl, _⟩ := readDraft_of_ofJson read
  exact ⟨nodup_sourcesOf hdiffer, build_settled once (objectsOf_mappingsOnce once read) built⟩

/-- No placeholder is left when the registry of a document is built, and in another order of the
component schemas the registry is the same but for the ids. -/
theorem build_leaves_no_placeholder (once : raw.KeysOnce) (read : Document.ofJson raw = .ok doc)
    (built : (build doc).outcome = .ok r) :
    r.names = r.entries.map (fun entry => (entry.2.name, entry.1)) ∧
      (OrderedMap.keys r.names).Nodup ∧
      List.Forall₂ (Settled doc r.names) (objectsOf doc) r.records ∧
      ∀ raw' doc' r', Document.Reordered raw raw' → Document.ofJson raw' = .ok doc' →
        (build doc').outcome = .ok r' → ∀ name, r'.lookup? name =
          (r.lookup? name).map (·.mapTypes (DataType.rename (counterpart r r'))) := by
  obtain ⟨hnodup, records, htyped, rfl⟩ := build_ok once read built
  obtain ⟨rfl, _⟩ := readDraft_of_ofJson read
  refine ⟨?_, ?_, htyped.imp fun _ _ => settled_of_typedBy, ?_⟩
  · exact names_ofObjects htyped
  · change (OrderedMap.keys (tableOf _)).Nodup
    rw [keys_tableOf]
    exact hnodup
  · intro raw' doc' r' hreordered read' built' name
    have hperm := objectsOf_perm hreordered once read read'
    obtain ⟨_, records', htyped', rfl⟩ := build_ok (once.reordered hreordered.json) read' built'
    refine lookup?_reordered htyped htyped' hperm hnodup ?_ ?_ name
    · intro s ty hty
      refine HasType.rename ?_ ?_ hty
      · intro path
        unfold recordOf?
        cases componentName? path with
        | none => rfl
        | some component => exact idOf?_reordered htyped htyped' hperm hnodup (typeName component)
      · exact fun path s => leadsTo_reordered hreordered.json once
    · exact fun _ _ _ => HasType.unique

section Kennel

/-- The registry of a raw document, if there is one. -/
def ofJson? (raw : Json) : Option Registry :=
  (Document.ofJson raw).toOption.bind fun doc => (build doc).outcome.toOption

theorem ofJson?_eq_some {raw : Json} {r : Registry} (h : ofJson? raw = some r) :
    ∃ doc, Document.ofJson raw = .ok doc ∧ (build doc).outcome = .ok r := by
  obtain ⟨doc, hdoc, hbuilt⟩ := Option.bind_eq_some_iff.1 h
  exact ⟨doc, toOption_eq_some_iff.1 hdoc, toOption_eq_some_iff.1 hbuilt⟩

/-- A document with the given component schemas. -/
def documentOf (schemas : List (String × Json)) : Json :=
  .object [("openapi", .string "3.0.0"), ("info", .object []), ("paths", .object []),
    ("components", .object [("schemas", .object schemas)])]

theorem reordered_documentOf {schemas schemas' : List (String × Json)}
    (perm : schemas.Perm schemas') :
    Document.Reordered (documentOf schemas) (documentOf schemas') :=
  .components (.object perm [] [])
    [("openapi", .string "3.0.0"), ("info", .object []), ("paths", .object [])] []

def referTo (name : String) : Json :=
  .object [("$ref", .string ("#/components/schemas/" ++ name))]

/-- An owner has a pet, and friends that are owners. -/
def owner : String × Json :=
  ("Owner", .object [("type", .string "object"), ("properties", .object [("pet", referTo "Pet"),
    ("friends", .object [("type", .string "array"), ("items", referTo "Owner")])])])

def pet : String × Json :=
  ("Pet", .object [("type", .string "object"), ("properties", .object
    [("name", .object [("type", .string "string")])])])

theorem documentOf_keysOnce : (documentOf [owner, pet]).KeysOnce := by
  simp [documentOf, owner, pet, referTo, OrderedMap.keys, Json.KeysOnce.string]

theorem ofJson?_forward :
    (ofJson? (documentOf [owner, pet])).map (·.names) = some [("Owner", ⟨0⟩), ("Pet", ⟨1⟩)] := by
  decide +kernel

theorem ofJson?_backward :
    (ofJson? (documentOf [pet, owner])).map (·.names) = some [("Pet", ⟨0⟩), ("Owner", ⟨1⟩)] := by
  decide +kernel

theorem build_leaves_no_placeholder_forward :
    ∃ doc r r', Document.ofJson (documentOf [owner, pet]) = .ok doc ∧
      (build doc).outcome = .ok r ∧ r.names = [("Owner", ⟨0⟩), ("Pet", ⟨1⟩)] ∧
      List.Forall₂ (Settled doc r.names) (objectsOf doc) r.records ∧
      ofJson? (documentOf [pet, owner]) = some r' ∧ ∀ name, r'.lookup? name =
        (r.lookup? name).map (·.mapTypes (DataType.rename (counterpart r r'))) := by
  obtain ⟨r, hr, hnames⟩ := Option.map_eq_some_iff.1 ofJson?_forward
  obtain ⟨r', hr', _⟩ := Option.map_eq_some_iff.1 ofJson?_backward
  obtain ⟨doc, hread, hbuilt⟩ := ofJson?_eq_some hr
  obtain ⟨doc', hread', hbuilt'⟩ := ofJson?_eq_some hr'
  obtain ⟨_, _, hsettled, hreordered⟩ :=
    build_leaves_no_placeholder documentOf_keysOnce hread hbuilt
  refine ⟨doc, r, r', hread, hbuilt, hnames, hsettled, hr', ?_⟩
  exact hreordered _ doc' r' (reordered_documentOf (.swap _ _ _)) hread' hbuilt'

end Kennel

end Registry

end OpenApi
