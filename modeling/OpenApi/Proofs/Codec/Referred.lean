import OpenApi.Proofs.Codec.Alike
import OpenApi.Proofs.Codec.Defaults
import OpenApi.Proofs.Codec.Stable
import OpenApi.Proofs.Registry.Referred

/-!
# Values after a schema is moved

A property that was not nullable and had no default is decoded and encoded behind a reference as it
was before. A default is no longer filled in, and a null is no longer written.
-/

namespace OpenApi

variable {property : String} {record : RecordType}

/-! ## The record types -/

theorem RecordType.isNullable_referred (name : String) :
    (record.referred property).isNullable name =
      (record.isNullable name && decide (name ≠ localName property)) := by
  simp [isNullable, referred, List.contains_eq_mem, Bool.decide_and]

theorem RecordType.isOptional_referred_of_ne {name : String} (ne : name ≠ localName property) :
    (record.referred property).isOptional name = record.isOptional name := by
  rw [isOptional, isOptional, isNullable_referred, decide_eq_true ne, Bool.and_true]
  rfl

theorem RecordType.isOptional_referred_iff :
    (record.referred property).isOptional (localName property) =
        record.isOptional (localName property) ↔
      record.isNullable (localName property) = false ∨
        record.isRequired (localName property) = true := by
  have hrequired : (record.referred property).isRequired (localName property) =
      record.isRequired (localName property) := rfl
  rw [isOptional, isOptional, isNullable_referred, hrequired]
  cases record.isRequired (localName property) <;>
    cases record.isNullable (localName property) <;> simp

theorem RecordType.nullable_referred_iff :
    (record.referred property).nullable = record.nullable ↔
      record.isNullable (localName property) = false := by
  change record.nullable.filter _ = _ ↔ _
  rw [List.filter_eq_self, isNullable, ← Bool.not_eq_true, List.contains_iff_mem]
  constructor
  · exact fun h hmem => by simpa using h _ hmem
  · intro h name hname
    rw [decide_eq_true_eq]
    rintro rfl
    exact h hname

theorem RecordType.map_referred {α : Type} {part : Field → α}
    (same : ∀ f, part { f with default := none, description := none } = part f) :
    (record.referred property).fields.map part = record.fields.map part := by
  rw [referred, List.map_map]
  refine List.map_congr_left fun f _ => ?_
  dsimp only [Function.comp]
  split
  · exact same f
  · rfl

theorem RecordType.defaults_referred_iff (once : record.NamesOnce) {f : Field}
    (mem : f ∈ record.fields) (wireName : f.wireName = property) :
    (record.referred property).fields.map (·.default) = record.fields.map (·.default) ↔
      f.default = none := by
  rw [referred, List.map_map, List.map_inj_left]
  constructor
  · intro h
    have hf := h f mem
    simp only [Function.comp, if_pos wireName] at hf
    exact hf.symm
  · intro h g hg
    dsimp only [Function.comp]
    split
    · rename_i hname
      obtain rfl := List.inj_on_of_nodup_map once.2 hg mem (hname.trans wireName.symm)
      exact h.symm
    · rfl

theorem RecordType.mem_referred {f : Field} (mem : f ∈ record.fields)
    (wireName : f.wireName = property) :
    { f with default := none, description := none } ∈ (record.referred property).fields :=
  List.mem_map.2 ⟨f, mem, if_pos wireName⟩

theorem RecordType.NamesOnce.referred (once : record.NamesOnce) (property : String) :
    (record.referred property).NamesOnce := by
  have hlocal : (record.referred property).fields.map (·.localName) =
      record.fields.map (·.localName) :=
    map_referred fun _ => rfl
  have hwire : (record.referred property).fields.map (·.wireName) =
      record.fields.map (·.wireName) :=
    map_referred fun _ => rfl
  rw [NamesOnce, hlocal, hwire]
  exact once

theorem RecordType.decodesAlike_refl (record : RecordType) : record.DecodesAlike record :=
  ⟨rfl, List.forall₂_same.2 fun _ _ => ⟨rfl, rfl, rfl, rfl⟩⟩

theorem RecordType.encodesAlike_refl (record : RecordType) : record.EncodesAlike record :=
  List.forall₂_same.2 fun _ _ => ⟨rfl, rfl, rfl, rfl⟩

theorem RecordType.decodesAlike_referred
    (bare : ∀ f ∈ record.fields, f.wireName = property → f.default = none) :
    record.DecodesAlike (record.referred property) := by
  refine ⟨rfl, ?_⟩
  rw [referred, List.forall₂_map_right_iff, List.forall₂_same]
  intro f hf
  split
  · rename_i hname
    exact ⟨rfl, rfl, rfl, bare f hf hname⟩
  · exact ⟨rfl, rfl, rfl, rfl⟩

theorem RecordType.encodesAlike_referred
    (same : ∀ name, (record.referred property).isOptional name = record.isOptional name) :
    record.EncodesAlike (record.referred property) := by
  rw [EncodesAlike, referred, List.forall₂_map_right_iff, List.forall₂_same]
  intro f hf
  have hsame := (same f.localName).symm
  split
  · exact ⟨rfl, rfl, rfl, hsame⟩
  · exact ⟨rfl, rfl, rfl, hsame⟩

theorem Registry.alike_modify {R : RecordType → RecordType → Prop} (refl : ∀ a, R a a)
    {r : Registry} {id : RecordId} (found : r.record? id = some record)
    {f : RecordType → RecordType} (h : R record (f record)) : r.Alike R (r.modify id f) := by
  have hrecords : r.records.modify id.index (fun a => a) = r.records := List.modify_id _ _
  rw [Alike, ← hrecords]
  refine forall₂_modify (R := Eq) (List.forall₂_refl _) ?_ ?_
  · rintro a _ _ rfl
    exact refl a
  · rintro a _ ha rfl
    obtain rfl := Option.some.inj (found.symm.trans ha)
    exact h

namespace Codec

variable {r : Registry} {id : RecordId} {mode : NameMode} {f : Field}

theorem record?_referred (found : r.record? id = some record) :
    (r.modify id (·.referred property)).record? id = some (record.referred property) :=
  Registry.record?_modify found _

/-! ## Encoding -/

theorem exists_encode_empty (c : Codec) (found : c.registry.record? id = some record)
    (once : record.NamesOnce) :
    ∃ out, encode c (.record id record.name []) (.record id) = .ok (.object out) ∧
      ∀ f ∈ record.fields, OrderedMap.get? out (c.fieldKey f) =
        if record.isOptional f.localName then none else some .null := by
  have hencoded : ∃ out, encodeFields c record [] record.fields [] = .ok out ∧
      (∀ key, key ∉ record.fields.map c.fieldKey →
        OrderedMap.get? out key = OrderedMap.get? [] key) ∧
      ∀ f ∈ record.fields, Written record [] f (OrderedMap.get? out (c.fieldKey f)) :=
    encodeFields_ok (fieldKeys_nodup once) [] (by simp [OrderedMap.keys]) (by simp)
  obtain ⟨out, hout, _, hwritten⟩ := hencoded
  refine ⟨out, ?_, hwritten⟩
  simp only [encode, encodeParts, encodeRecordParts, record_of_found found]
  exact congrArg (Except.map Json.object) hout

theorem encode_referred_iff (found : r.record? id = some record) (once : record.NamesOnce)
    (mem : f ∈ record.fields) (wireName : f.wireName = property)
    (named : f.localName = localName property) :
    (∀ v ty, encode ⟨r.modify id (·.referred property), mode⟩ v ty = encode ⟨r, mode⟩ v ty) ↔
      record.isNullable (localName property) = false ∨
        record.isRequired (localName property) = true := by
  constructor
  · intro h
    obtain ⟨out, hout, hwritten⟩ := exists_encode_empty ⟨r, mode⟩ found once
    obtain ⟨out', hout', hwritten'⟩ :=
      exists_encode_empty ⟨r.modify id (·.referred property), mode⟩
        (record?_referred found) (once.referred property)
    have hsame : encode ⟨r.modify id (·.referred property), mode⟩ (.record id record.name [])
        (.record id) = .ok (.object out') := hout'
    rw [h, hout] at hsame
    obtain rfl := Json.object.inj (Except.ok.inj hsame)
    -- The field is left out of both or of neither.
    have hfield : fieldKey ⟨r.modify id (·.referred property), mode⟩
        { f with default := none, description := none } = fieldKey ⟨r, mode⟩ f :=
      fieldKey_congr rfl rfl
    have hentry := hwritten' _ (RecordType.mem_referred mem wireName)
    rw [hfield, hwritten f mem] at hentry
    rw [← RecordType.isOptional_referred_iff, ← named]
    cases hold : record.isOptional f.localName <;>
      cases hnew : (record.referred property).isOptional f.localName <;> simp_all
  · intro h v ty
    have halike : r.Alike RecordType.EncodesAlike (r.modify id (·.referred property)) := by
      refine Registry.alike_modify RecordType.encodesAlike_refl found ?_
      refine RecordType.encodesAlike_referred fun name => ?_
      by_cases hname : name = localName property
      · exact hname ▸ RecordType.isOptional_referred_iff.2 h
      · exact RecordType.isOptional_referred_of_ne hname
    rw [encode_congr_registry halike]

/-! ## Decoding -/

/-- An object with a null under the key of each field but the one of a property. -/
def nullsBut (c : Codec) (record : RecordType) (property : String) : List (String × Json) :=
  (record.fields.filter (·.wireName ≠ property)).map fun f => (c.fieldKey f, .null)

theorem get?_nullsBut (c : Codec) (once : record.NamesOnce) (property : String)
    (mem : f ∈ record.fields) :
    OrderedMap.get? (nullsBut c record property) (c.fieldKey f) =
      if f.wireName = property then none else some .null := by
  have hkeys : (record.fields.map c.fieldKey).Nodup := fieldKeys_nodup once
  split
  · rename_i hname
    rw [OrderedMap.get?_eq_none_iff, nullsBut, OrderedMap.keys, List.map_map, List.mem_map]
    rintro ⟨g, hg, hkey⟩
    obtain ⟨hg, hne⟩ := List.mem_filter.1 hg
    obtain rfl := List.inj_on_of_nodup_map hkeys hg mem hkey
    simp [hname] at hne
  · rename_i hname
    refine OrderedMap.get?_of_mem ?_ (List.mem_map.2 ⟨f, ?_, rfl⟩)
    · rw [nullsBut, OrderedMap.keys, List.map_map]
      exact hkeys.sublist ((List.filter_sublist).map _)
    · exact List.mem_filter.2 ⟨mem, by simpa using hname⟩

theorem exists_decode_nullsBut {c : Codec} (found : c.registry.record? id = some record)
    (once : record.NamesOnce) (bare : ∀ f ∈ record.fields, f.wireName = property → f.default = none) :
    ∃ v, (c.decode (.object (nullsBut c record property)) (.record id)).outcome = .ok v := by
  obtain ⟨fallback, hfallback⟩ := exists_fallback c
  have hfound : ∀ f ∈ record.fields, ∃ v, Found c
      (fieldParts c fallback (nullsBut c record property)) f v ∧ True := by
    intro f hf
    have hget : OrderedMap.get? (fieldParts c fallback (nullsBut c record property))
        (c.fieldKey f) = (if f.wireName = property then none else some .null).map
          (decodeWith c fallback) := by
      rw [get?_fieldParts, get?_nullsBut c once property hf]
    by_cases hname : f.wireName = property
    · rw [if_pos hname] at hget
      exact ⟨none, ⟨hget, bare f hf hname⟩, trivial⟩
    · rw [if_neg hname] at hget
      exact ⟨some .null, ⟨_, hget, by rw [decodeWith]; rfl⟩, trivial⟩
  obtain ⟨y, hy, _⟩ := decodeFields_ok (c := c) fallback once.1 ⟨id, record.name, []⟩
    (by simp [OrderedMap.keys]) (by simp [OrderedMap.keys]) hfound
  refine ⟨y.toValue, ?_⟩
  rw [hfallback, decodeWith_record found, hy]
  rfl

theorem default_eq_none_of_fieldOutcome {c : Codec} {entries : List (String × Json)}
    (lacks : OrderedMap.get? entries (c.fieldKey f) = none)
    (h : fieldOutcome c entries f = .ok none) : f.default = none := by
  rw [fieldOutcome, standsFor_of_none lacks] at h
  split at h
  · obtain ⟨_, _, he⟩ := ok_of_map h
    cases he
  · cases h
  · assumption

theorem decode_referred_iff (found : r.record? id = some record) (once : record.NamesOnce)
    (mem : f ∈ record.fields) (wireName : f.wireName = property) :
    (∀ wire ty, decode ⟨r.modify id (·.referred property), mode⟩ wire ty =
        decode ⟨r, mode⟩ wire ty) ↔ f.default = none := by
  constructor
  · intro h
    have hfound : (r.modify id (·.referred property)).record? id =
        some (record.referred property) := record?_referred found
    have honce := once.referred property
    have hmem := RecordType.mem_referred mem wireName
    have hbare : ∀ g ∈ (record.referred property).fields, g.wireName = property →
        g.default = none := by
      rintro _ hg hname
      obtain ⟨g, _, rfl⟩ := List.mem_map.1 hg
      by_cases hold : g.wireName = property
      · rw [if_pos hold]
      · rw [if_neg hold] at hname
        exact absurd hname hold
    obtain ⟨v, hv⟩ := exists_decode_nullsBut
      (c := ⟨r.modify id (·.referred property), mode⟩) hfound honce hbare
    obtain ⟨y, rfl, hy⟩ := fieldOutcome_of_decode hfound honce hv
    rw [h] at hv
    obtain ⟨y', hsame, hy'⟩ := fieldOutcome_of_decode (c := ⟨r, mode⟩) found once hv
    obtain ⟨_, _, hfields⟩ := Value.record.inj hsame
    -- Behind the reference the record holds nothing for the field.
    have hlacks := get?_nullsBut ⟨r.modify id (·.referred property), mode⟩ honce property hmem
    rw [if_pos wireName] at hlacks
    have hnone := hy _ hmem
    rw [fieldOutcome, standsFor_of_none hlacks] at hnone
    refine default_eq_none_of_fieldOutcome (c := ⟨r, mode⟩) ?_ ((hy' f mem).trans ?_)
    · exact hlacks
    · rw [← hfields]
      exact hnone.symm
  · intro h wire ty
    have hbare : ∀ g ∈ record.fields, g.wireName = property → g.default = none := by
      intro g hg hname
      obtain rfl := List.inj_on_of_nodup_map once.2 hg mem (hname.trans wireName.symm)
      exact h
    exact (decode_congr_registry (Registry.alike_modify RecordType.decodesAlike_refl found
      (RecordType.decodesAlike_referred hbare)) wire ty).symm

/-! ## The document -/

variable {component fresh : String} {v raw raw' : Json} {o : SchemaObject Schema} {doc : Document}

/-- A schema that is no object is moved from a property to a component of its own, under a new name,
and a reference stands in its place. The document still has its registry, in which the record type
has the same field types and the same required fields. The set of the fields that may be null is the
same exactly if the schema is not nullable, and the defaults exactly if it has none. So payloads are
decoded as before exactly if it has no default, and values are encoded as before exactly if it is not
nullable or the property is required. -/
theorem unchanged_behind_reference_iff (once : raw.KeysOnce) (read : Document.ofJson raw = .ok doc)
    (built : (Registry.build doc).outcome = .ok r) (source : component ∈ r.sources)
    (inline : Schema.read v = .ok (.inline o)) (plain : o.keyword? ≠ some "object")
    (extracted : Document.Extracted component property fresh v raw raw')
    (unused : ∀ c ∈ doc.description.components,
      typeName fresh ∉ (OrderedMap.keys c.schemas).map typeName)
    (apart : Document.Apart component property raw) :
    ∃ doc' r' id record, Document.ofJson raw' = .ok doc' ∧
      (Registry.build doc').outcome = .ok r' ∧ r.sources[id.index]? = some component ∧
      r.record? id = some record ∧ r' = r.modify id (·.referred property) ∧
      (record.referred property).fields.map (·.type) = record.fields.map (·.type) ∧
      (record.referred property).required = record.required ∧
      ((record.referred property).nullable = record.nullable ↔ o.isNullable = false) ∧
      ((record.referred property).fields.map (·.default) = record.fields.map (·.default) ↔
        o.default = none) ∧
      ∀ mode, ((∀ wire ty, decode ⟨r', mode⟩ wire ty = decode ⟨r, mode⟩ wire ty) ↔
          o.default = none) ∧
        ((∀ value ty, encode ⟨r', mode⟩ value ty = encode ⟨r, mode⟩ value ty) ↔
          o.isNullable = false ∨ record.isRequired (localName property) = true) := by
  obtain ⟨doc', id, hread', hproperty, hbuilt'⟩ := Registry.build_extracted
    (Schema.read?_of_read inline) once extracted apart read built plain source unused
  obtain ⟨record, f, hrecord, hmem, hwire, hlocal, hdefault, hnullable⟩ := hproperty.exists_field
  have hnames : record.NamesOnce :=
    (Registry.wellFormed_of_build built).namesOnce record (List.mem_of_getElem? hrecord)
  have hnone : f.default = none ↔ o.default = none := by
    rw [hdefault, Option.map_eq_none_iff]
    rfl
  have hnull : record.isNullable (localName property) = o.isNullable := hnullable
  refine ⟨doc', _, id, record, hread', hbuilt', hproperty.source, hrecord, rfl,
    RecordType.map_referred fun _ => rfl, rfl, ?_, ?_, fun mode => ⟨?_, ?_⟩⟩
  · rw [RecordType.nullable_referred_iff, hnull]
  · rw [RecordType.defaults_referred_iff hnames hmem hwire, hnone]
  · rw [decode_referred_iff hrecord hnames hmem hwire, hnone]
  · rw [encode_referred_iff hrecord hnames hmem hwire hlocal, hnull]

section Rex

open Registry (documentOf referTo ofJson?)

/-- A name, or none. -/
def nullableName : Json :=
  .object [("type", .array [.string "string", .string "null"]), ("default", .string "rex")]

def nullableNameSchema : SchemaObject Schema where
  types := some (.several ["string", "null"])
  default := some (.string "rex")

/-- A pet whose name has the given schema. -/
def namedPet (name : Json) : String × Json :=
  ("Pet", .object [("type", .string "object"), ("properties", .object [("name", name)])])

def inlinePets : Json :=
  documentOf [namedPet nullableName]

def referringPets : Json :=
  documentOf [namedPet (referTo "Name"), ("Name", nullableName)]

def inlinePetsDocument : Document where
  raw := inlinePets
  description := {
    openapi := "3.0.0", info := {}
    components := some { schemas := [("Pet", .inline {
      types := some (.one "object"), properties := [("name", .inline nullableNameSchema)] })] } }

/-- The registry of a pet with a name. -/
def petNames (nullable : List String) (default : Option FieldDefault) : Registry where
  records :=
    [{ name := "Pet", nullable
       fields :=
        [{ localName := "name", wireName := "name", type := .primitive .string, default }] }]
  names := [("Pet", ⟨0⟩)]
  sources := ["Pet"]

def rexNames : Registry :=
  petNames ["name"] (some (.wire (.string "rex")))

theorem inlinePets_keysOnce : inlinePets.KeysOnce := by
  simp [inlinePets, namedPet, nullableName, documentOf, OrderedMap.keys, Json.KeysOnce.string]

theorem inlinePets_extracted :
    Document.Extracted "Pet" "name" "Name" nullableName inlinePets referringPets := by
  have hreference : ownReferenceJson "Name" = referTo "Name" := by
    rw [ownReferenceJson,
      show Resolution.ownReference "Name" = "#/components/schemas/Name" by decide +kernel]
    rfl
  refine .under [("openapi", .string "3.0.0"), ("info", .object []), ("paths", .object [])] []
    (.under [] [] (.here ?_))
  refine ⟨[namedPet (referTo "Name")], [], rfl, .under [] [] ?_⟩
  exact .under [("type", .string "object")] [] (.under [] [] (.here ⟨rfl, hreference.symm⟩))

theorem inlinePets_built : (Registry.build inlinePetsDocument).outcome = .ok rexNames :=
  rfl

theorem unchanged_behind_reference_iff_rex :
    inlinePets.KeysOnce ∧ Document.ofJson inlinePets = .ok inlinePetsDocument ∧
      ∃ doc' r', Document.ofJson referringPets = .ok doc' ∧
        (Registry.build doc').outcome = .ok r' ∧
        (¬∀ wire ty, decode ⟨r', .wire⟩ wire ty = decode ⟨rexNames, .wire⟩ wire ty) ∧
        ¬∀ value ty, encode ⟨r', .wire⟩ value ty = encode ⟨rexNames, .wire⟩ value ty := by
  have hread : Document.ofJson inlinePets = .ok inlinePetsDocument := rfl
  have hunused : ∀ c ∈ inlinePetsDocument.description.components,
      typeName "Name" ∉ (OrderedMap.keys c.schemas).map typeName := by
    rintro _ ⟨⟩
    decide +kernel
  have hapart : Document.Apart "Pet" "name" inlinePets := by
    intro path hpath
    cases hpath
  have hinline : Schema.read nullableName = .ok (.inline nullableNameSchema) := rfl
  obtain ⟨doc', r', id, record, hread', hbuilt', hsource, hrecord, _, _, _, _, _, hcodec⟩ :=
    unchanged_behind_reference_iff inlinePets_keysOnce hread inlinePets_built
      (List.mem_singleton.2 rfl) hinline (by decide) inlinePets_extracted hunused hapart
  obtain ⟨hdecode, hencode⟩ := hcodec .wire
  refine ⟨inlinePets_keysOnce, hread, doc', r', hread', hbuilt', ?_, ?_⟩
  · rw [hdecode]
    simp [nullableNameSchema]
  · rw [hencode]
    obtain ⟨hlt, -⟩ := List.getElem?_eq_some_iff.1 hsource
    obtain ⟨_ | i⟩ := id
    · obtain rfl := Option.some.inj hrecord
      decide
    · simp [rexNames, petNames] at hlt

/-- Behind a reference an absent name is not rex any more, and nothing is written for it. -/
theorem nullable_lost_behind_reference :
    Document.Extracted "Pet" "name" "Name" nullableName inlinePets referringPets ∧
      ofJson? inlinePets = some rexNames ∧ ofJson? referringPets = some (petNames [] none) ∧
      ∀ mode, (decode ⟨rexNames, mode⟩ (.object []) (.record ⟨0⟩)).outcome =
          .ok (.record ⟨0⟩ "Pet" [("name", .string "rex")]) ∧
        (decode ⟨petNames [] none, mode⟩ (.object []) (.record ⟨0⟩)).outcome =
          .ok (.record ⟨0⟩ "Pet" []) ∧
        encode ⟨rexNames, mode⟩ (.record ⟨0⟩ "Pet" []) (.record ⟨0⟩) =
          .ok (.object [("name", .null)]) ∧
        encode ⟨petNames [] none, mode⟩ (.record ⟨0⟩ "Pet" []) (.record ⟨0⟩) = .ok (.object []) := by
  refine ⟨inlinePets_extracted, rfl, rfl, fun mode => ?_⟩
  cases mode with
  | wire => exact ⟨rfl, rfl, rfl, rfl⟩
  | «local» => exact ⟨rfl, rfl, rfl, rfl⟩

end Rex

end Codec

end OpenApi
