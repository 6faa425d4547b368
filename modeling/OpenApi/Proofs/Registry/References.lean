import OpenApi.Proofs.Json.Pointer
import OpenApi.Proofs.Registry.Reordered

/-!
# References by name

A reference to a component schema is looked up among the records by its type name, before its pointer
is followed. The record is the one that the pointer leads to, if the pointer is to a component schema
and leads to anything.
-/

namespace OpenApi

open Json.Typed

/-! ## Pointers to component schemas -/

namespace Json

/-- The key that a token stands for. -/
def keyOfToken (token : String) : String :=
  String.ofList (unescapeToken token.toList)

theorem pointer?_component (v : Json) {token : String} (single : '/' ∉ token.toList) :
    v.pointer? ("/components/schemas/" ++ token) =
      ((child? v "components".toList).bind (child? · "schemas".toList)).bind
        (child? · (unescapeToken token.toList)) := by
  have htext : ("/components/schemas/" ++ token).toList =
      '/' :: ("components".toList ++ '/' :: ("schemas".toList ++ '/' :: token.toList)) := by
    rw [String.toList_append]
    rfl
  have hcomponents : unescapeToken "components".toList = "components".toList := by decide
  have hschemas : unescapeToken "schemas".toList = "schemas".toList := by decide
  have htokens : splitSlashes ("components".toList ++ '/' :: ("schemas".toList ++ '/' ::
      token.toList)) = ["components".toList, "schemas".toList, token.toList] := by
    rw [splitSlashes_append (by decide), splitSlashes_append (by decide),
      splitSlashes_of_not_mem single]
  rw [pointer?, htext]
  change descend v (splitSlashes _) = _
  rw [htokens]
  simp only [descend, hcomponents, hschemas, Option.bind_assoc, Option.bind_fun_some]

theorem eq_object_of_child? {v w : Json} {key : String} (word : indexOfToken? key.toList = none)
    (h : child? v key.toList = some w) :
    ∃ fields, v = .object fields ∧ OrderedMap.get? fields key = some w := by
  cases v with
  | object fields =>
    rw [child?, String.ofList_toList] at h
    exact ⟨fields, rfl, h⟩
  | array items =>
    rw [child?, word] at h
    cases h
  | _ => cases h

end Json

theorem get?_of_map {α : Type} {read : Json → Except Json.Mismatch α} {fields : List (String × Json)}
    {m : OrderedMap String α} (h : map read (.object fields) = .ok m) {key : String} {v : Json}
    (found : OrderedMap.get? fields key = some v) :
    ∃ a, OrderedMap.get? m key = some a ∧ read v = .ok a := by
  have hall := forall₂_of_map h
  clear h
  induction hall with
  | nil => cases found
  | @cons p q fields m hp _ ih =>
    obtain ⟨k, w⟩ := p
    obtain ⟨k', a⟩ := q
    obtain ⟨rfl, hread⟩ := hp
    rw [OrderedMap.get?_cons] at found ⊢
    by_cases hkey : k' = key
    · rw [if_pos hkey] at found ⊢
      exact ⟨a, rfl, Option.some.inj found ▸ hread⟩
    · rw [if_neg hkey] at found ⊢
      exact ih found

theorem schema_of_pointer? {raw v : Json} (once : raw.KeysOnce) {doc : Document}
    (read : Document.ofJson raw = .ok doc) {token : String} (single : '/' ∉ token.toList)
    (h : raw.pointer? ("/components/schemas/" ++ token) = some v) :
    ∃ c s, doc.description.components = some c ∧
      OrderedMap.get? c.schemas (Json.keyOfToken token) = some s ∧ Schema.read v = .ok s := by
  rw [Json.pointer?_component raw single] at h
  obtain ⟨schemas, h, hv⟩ := Option.bind_eq_some_iff.1 h
  obtain ⟨components, hcomponents, hschemas⟩ := Option.bind_eq_some_iff.1 h
  obtain ⟨fields, rfl, hfound⟩ := Json.eq_object_of_child? (by decide) hcomponents
  obtain ⟨fields', rfl, hfound'⟩ := Json.eq_object_of_child? (by decide) hschemas
  obtain ⟨_, d, hd, he⟩ := readDraft_of_ofJson read
  obtain ⟨c, hc, hread⟩ := read_of_optional_ok (by simp) (components_of_readDraft once hfound hd)
  have hbelow : (Json.object fields').KeysOnce :=
    once.of_below (.field (OrderedMap.mem_of_get? hfound))
  have hmap := schemas_of_read hbelow hfound' hread
  cases schemas with
  | object entries =>
    obtain ⟨s, hs, hs'⟩ := get?_of_map hmap hv
    exact ⟨c, s, he.trans hc, hs, hs'⟩
  | _ => cases hmap

namespace Registry

open Resolution

variable {raw : Json} {doc : Document} {r : Registry} {id : RecordId} {name token : String}
  {o : SchemaObject Schema}

/-! ## Records and their components -/

/-- The record is the one of the object schema under the name in the components. -/
structure ComesFrom (doc : Document) (r : Registry) (id : RecordId) (name : String)
    (o : SchemaObject Schema) : Prop where
  component : ∃ c, doc.description.components = some c ∧ (name, .inline o) ∈ c.schemas
  object : o.keyword? = some "object"
  source : r.sources[id.index]? = some name
  settled : ∃ record, r.record? id = some record ∧ Settled doc r.names (name, o) record

theorem recordOf?_component (names : RecordNames) (token : String) :
    recordOf? names (componentSchemas ++ token) =
      OrderedMap.get? names (typeName (Json.keyOfToken token)) := by
  have hdrop : Text.dropStart? componentSchemas.toList (componentSchemas ++ token).toList =
      some token.toList := by
    rw [Text.dropStart?_eq_some_iff, String.toList_append]
  rw [recordOf?, componentName?, hdrop]
  rfl

theorem recordOf?_component_eq_some_iff (once : raw.KeysOnce)
    (read : Document.ofJson raw = .ok doc) (built : (build doc).outcome = .ok r) :
    recordOf? r.names (componentSchemas ++ token) = some id ↔
      ∃ name o, ComesFrom doc r id name o ∧
        typeName name = typeName (Json.keyOfToken token) := by
  obtain ⟨hnodup, records, htyped, rfl⟩ := build_ok once read built
  obtain ⟨rfl, _⟩ := readDraft_of_ofJson read
  rw [recordOf?_component]
  constructor
  · intro h
    obtain ⟨⟨name, o⟩, record, hobject, hrecord, hby, hname⟩ :=
      (idOf?_ofObjects htyped hnodup).1 h
    obtain ⟨c, hc, hmem, hkeyword⟩ := mem_objectsOf (List.mem_of_getElem? hobject)
    refine ⟨name, o, ⟨⟨c, hc, hmem⟩, hkeyword, ?_, record, hrecord, settled_of_typedBy hby⟩, hname⟩
    simp [ofObjects, registryOf, hobject]
  · rintro ⟨name, o, hcomes, hname⟩
    exact (get?_tableOf hnodup).2 ⟨name, hcomes.source, hname⟩

theorem eq_of_typeName (built : (build doc).outcome = .ok r) {c : Components}
    (hc : doc.description.components = some c) {s s' : Schema} {name' : String}
    (h : (name, s) ∈ c.schemas) (h' : (name', s') ∈ c.schemas)
    (same : typeName name = typeName name') : name = name' ∧ s = s' := by
  obtain ⟨hdiffer, _⟩ := build_ok_iff_passes.1 built
  have hnodup := hdiffer c hc
  have hname : name = name' := by
    refine List.inj_on_of_nodup_map hnodup ?_ ?_ same
    · exact (OrderedMap.mem_keys _ _).2 ⟨s, h⟩
    · exact (OrderedMap.mem_keys _ _).2 ⟨s', h'⟩
  subst hname
  have hfound := OrderedMap.get?_of_mem (hnodup.of_map _) h
  rw [OrderedMap.get?_of_mem (hnodup.of_map _) h'] at hfound
  exact ⟨rfl, (Option.some.inj hfound).symm⟩

theorem comesFrom_of_pointer? (once : raw.KeysOnce) (read : Document.ofJson raw = .ok doc)
    (built : (build doc).outcome = .ok r)
    (named : recordOf? r.names (componentSchemas ++ token) = some id)
    (single : '/' ∉ token.toList) {v : Json}
    (leads : raw.pointer? ("/components/schemas/" ++ token) = some v) :
    ∃ o, ComesFrom doc r id (Json.keyOfToken token) o ∧ Schema.read v = .ok (.inline o) := by
  obtain ⟨name, o, hcomes, hname⟩ := (recordOf?_component_eq_some_iff once read built).1 named
  obtain ⟨c, s, hc, hs, hread⟩ := schema_of_pointer? once read single leads
  obtain ⟨c', hc', hmem⟩ := hcomes.component
  obtain rfl := Option.some.inj (hc.symm.trans hc')
  obtain ⟨rfl, rfl⟩ := eq_of_typeName built hc hmem (OrderedMap.mem_of_get? hs) hname
  exact ⟨o, hcomes, hread⟩

/-! ## References that lead nowhere -/

theorem follow_of_lost {names : RecordNames} {pointer : String}
    (unnamed : recordOf? names ("#" ++ pointer) = none) (lost : raw.pointer? pointer = none)
    (jumps : Nat) (chain : List String) (location : String) :
    ∃ reason, (follow raw names jumps chain ("#" ++ pointer) location).outcome =
      .error (.unsupported location reason) := by
  have htarget : target raw ("#" ++ pointer) location =
      unsupported location (.targetNotFound ("#" ++ pointer)) := by
    have hdrop : Text.dropStart? ['#'] ("#" ++ pointer).toList = some pointer.toList := by
      rw [Text.dropStart?_eq_some_iff, String.toList_append]
      rfl
    rw [target, hdrop, Option.bind_some, String.ofList_toList, lost]
  have hstart : Text.startsWith ("#" ++ pointer) "#" = true :=
    Text.startsWith_iff.2 ⟨pointer.toList, String.toList_append⟩
  by_cases hmem : "#" ++ pointer ∈ chain
  · refine ⟨.circularReference ("#" ++ pointer), ?_⟩
    rw [follow.eq_def]
    simp [hstart, unnamed, hmem, unsupported]
  · have hnew : IsNew names chain ("#" ++ pointer) := ⟨hstart, unnamed, hmem⟩
    refine ⟨.targetNotFound ("#" ++ pointer), ?_⟩
    cases jumps with
    | zero =>
      rw [follow_zero hnew, htarget]
      rfl
    | succ jumps =>
      rw [follow_succ hnew, htarget]
      rfl

/-- A reference to a component schema has the record whose component shares its type name, wherever
it is met. If its pointer is to a component schema and leads to anything, it leads to the schema that
the record comes from. A reference that has no record and whose pointer leads nowhere has no type. -/
theorem references_by_name (once : raw.KeysOnce) (read : Document.ofJson raw = .ok doc)
    (built : (build doc).outcome = .ok r) (token : String) :
    (∀ id, recordOf? r.names (componentSchemas ++ token) = some id ↔
        ∃ name o, ComesFrom doc r id name o ∧
          typeName name = typeName (Json.keyOfToken token)) ∧
      (∀ id, recordOf? r.names (componentSchemas ++ token) = some id →
        (∀ jumps chain location, follow raw r.names jumps chain (componentSchemas ++ token)
          location = pure (.record id)) ∧
        ∀ v, '/' ∉ token.toList → raw.pointer? ("/components/schemas/" ++ token) = some v →
          ∃ o, ComesFrom doc r id (Json.keyOfToken token) o ∧ Schema.read v = .ok (.inline o)) ∧
      (recordOf? r.names (componentSchemas ++ token) = none →
        raw.pointer? ("/components/schemas/" ++ token) = none →
        ∀ jumps chain location, ∃ reason, (follow raw r.names jumps chain
          (componentSchemas ++ token) location).outcome =
            .error (.unsupported location reason)) := by
  refine ⟨fun _ => recordOf?_component_eq_some_iff once read built, ?_, ?_⟩
  · intro id named
    refine ⟨fun _ _ _ => follow_named named, ?_⟩
    intro v single leads
    exact comesFrom_of_pointer? once read built named single leads
  · have hpath : componentSchemas ++ token = "#" ++ ("/components/schemas/" ++ token) := by
      rw [← String.append_assoc]
      rfl
    rw [hpath]
    intro unnamed lost jumps chain location
    exact follow_of_lost unnamed lost jumps chain location

section Shelter

def toy : Json :=
  .object [("type", .string "object")]

/-- A pet, and a schema under a name that spells the way to a part of it. -/
def shelter : Json :=
  documentOf [pet, ("Pet/properties/name", toy)]

theorem shelter_keysOnce : shelter.KeysOnce := by
  simp [shelter, toy, documentOf, pet, OrderedMap.keys, Json.KeysOnce.string]

theorem shelter_built : ∃ doc r, Document.ofJson shelter = .ok doc ∧
    (build doc).outcome = .ok r ∧ r.names = [("Pet", ⟨0⟩), ("Pet/properties/name", ⟨1⟩)] ∧
      r.sources = ["Pet", "Pet/properties/name"] := by
  have hbuilt : (ofJson? shelter).map (fun r => (r.names, r.sources)) =
      some ([("Pet", ⟨0⟩), ("Pet/properties/name", ⟨1⟩)], ["Pet", "Pet/properties/name"]) := by
    decide +kernel
  obtain ⟨r, hr, he⟩ := Option.map_eq_some_iff.1 hbuilt
  obtain ⟨hnames, hsources⟩ := Prod.mk.inj he
  obtain ⟨doc, hread, hbuilt⟩ := ofJson?_eq_some hr
  exact ⟨doc, r, hread, hbuilt, hnames, hsources⟩

theorem references_by_name_shelter :
    shelter.KeysOnce ∧ ∃ doc r, Document.ofJson shelter = .ok doc ∧ (build doc).outcome = .ok r ∧
      recordOf? r.names "#/components/schemas/Pet~1properties~1name" = some ⟨1⟩ ∧
      shelter.pointer? "/components/schemas/Pet~1properties~1name" = some toy ∧
      (∃ o, ComesFrom doc r ⟨1⟩ "Pet/properties/name" o ∧ Schema.read toy = .ok (.inline o)) ∧
      recordOf? r.names "#/components/schemas/Pets" = none ∧
      shelter.pointer? "/components/schemas/Pets" = none ∧
      ∃ reason, (follow shelter r.names 0 [] "#/components/schemas/Pets" "#").outcome =
        .error (.unsupported "#" reason) := by
  obtain ⟨doc, r, hread, hbuilt, hnames, _⟩ := shelter_built
  have hnamed : recordOf? r.names "#/components/schemas/Pet~1properties~1name" = some ⟨1⟩ := by
    rw [hnames]
    decide +kernel
  have hunnamed : recordOf? r.names "#/components/schemas/Pets" = none := by
    rw [hnames]
    decide +kernel
  have hleads : shelter.pointer? "/components/schemas/Pet~1properties~1name" = some toy := rfl
  have hlost : shelter.pointer? "/components/schemas/Pets" = none := rfl
  obtain ⟨_, hagree, _⟩ :=
    references_by_name shelter_keysOnce hread hbuilt "Pet~1properties~1name"
  obtain ⟨_, _, hfails⟩ := references_by_name shelter_keysOnce hread hbuilt "Pets"
  have hkey : Json.keyOfToken "Pet~1properties~1name" = "Pet/properties/name" := by
    decide +kernel
  have hcomes := (hagree ⟨1⟩ hnamed).2 toy (by decide) hleads
  rw [hkey] at hcomes
  exact ⟨shelter_keysOnce, doc, r, hread, hbuilt, hnamed, hleads, hcomes, hunnamed, hlost,
    hfails hunnamed hlost 0 [] "#"⟩

/-- A small letter in front does not matter to a name, and slashes do not part it. -/
theorem names_outrun_pointers :
    ∃ doc r, Document.ofJson shelter = .ok doc ∧ (build doc).outcome = .ok r ∧
      shelter.pointer? "/components/schemas/pet" = none ∧
      (resolve doc r.names (.reference "#/components/schemas/pet") "#").outcome =
        .ok (.record ⟨0⟩) ∧
      shelter.pointer? "/components/schemas/Pet/properties/name" =
        some (.object [("type", .string "string")]) ∧
      (resolve doc r.names (.reference "#/components/schemas/Pet/properties/name") "#").outcome =
        .ok (.record ⟨1⟩) ∧
      r.sources[1]? = some "Pet/properties/name" ∧
      shelter.pointer? "/components/schemas/Pet~1properties~1name" = some toy := by
  obtain ⟨doc, r, hread, hbuilt, hnames, hsources⟩ := shelter_built
  have hpet : recordOf? r.names "#/components/schemas/pet" = some ⟨0⟩ := by
    rw [hnames]
    decide +kernel
  have hname : recordOf? r.names "#/components/schemas/Pet/properties/name" = some ⟨1⟩ := by
    rw [hnames]
    decide +kernel
  refine ⟨doc, r, hread, hbuilt, rfl, ?_, rfl, ?_, by rw [hsources]; rfl, rfl⟩
  · rw [resolve, resolveSchema, follow_named hpet]
    rfl
  · rw [resolve, resolveSchema, follow_named hname]
    rfl

end Shelter

end Registry

end OpenApi
