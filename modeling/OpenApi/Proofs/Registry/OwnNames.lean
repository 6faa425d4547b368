import OpenApi.Proofs.Json.Changed
import OpenApi.Proofs.Registry.References

/-!
# Components under their own names

A reference that spells the name of a component schema, its slashes and tildes escaped, leads to that
component and to no other, whatever characters the name has.
-/

namespace OpenApi

open Json.Typed

theorem Json.keyOfToken_escapeToken (name : String) :
    keyOfToken (String.ofList (escapeToken name.toList)) = name := by
  rw [keyOfToken, String.toList_ofList, unescapeToken_escapeToken, String.ofList_toList]

namespace Resolution

variable {raw : Json} {doc : Document} {names : RecordNames} {name : String} {s : Schema}
  {ty : DataType}

/-- The reference that spells the name of a component schema. -/
def ownReference (name : String) : String :=
  componentSchemas ++ String.ofList (Json.escapeToken name.toList)

theorem recordOf?_ownReference (names : RecordNames) (name : String) :
    recordOf? names (ownReference name) = OrderedMap.get? names (typeName name) := by
  rw [ownReference, Registry.recordOf?_component, Json.keyOfToken_escapeToken]

theorem pointer?_ownReference (v : Json) (name : String) :
    v.pointer? ("/components/schemas/" ++ String.ofList (Json.escapeToken name.toList)) =
      v.walk ["components", "schemas", name] := by
  have hsingle : '/' ∉ (String.ofList (Json.escapeToken name.toList)).toList := by
    rw [String.toList_ofList]
    exact Json.slash_not_mem_escapeToken _
  rw [Json.pointer?_component v hsingle, Option.bind_assoc]
  simp only [String.toList_ofList, Json.unescapeToken_escapeToken, Json.walk, Option.bind_fun_some]

theorem leadsTo_ownReference_of_walk {v : Json} (found : raw.walk ["components", "schemas", name] =
    some v) (read : Schema.read v = .ok s) : LeadsTo raw (ownReference name) s := by
  refine ⟨_, v, ?_, (pointer?_ownReference raw name).trans found, read⟩
  rw [ownReference, ← String.append_assoc]
  rfl

theorem leadsTo_ownReference (once : raw.KeysOnce) (read : Document.ofJson raw = .ok doc)
    {fields : List (String × Json)} (object : raw.field? "components" = some (.object fields))
    {c : Components} (components : doc.description.components = some c)
    (mem : (name, s) ∈ c.schemas) : LeadsTo raw (ownReference name) s := by
  obtain ⟨_, d, hd, he⟩ := readDraft_of_ofJson read
  obtain ⟨rawFields, rfl⟩ : ∃ rawFields, raw = .object rawFields := by
    cases raw with
    | object rawFields => exact ⟨rawFields, rfl⟩
    | _ => cases object
  obtain ⟨c', hc', hread⟩ :=
    read_of_optional_ok (by simp) (components_of_readDraft once object hd)
  obtain rfl := Option.some.inj (components.symm.trans (he.trans hc'))
  have honce : (Json.object fields).KeysOnce :=
    once.of_below (.field (OrderedMap.mem_of_get? object))
  obtain ⟨hfound, habsent⟩ := schemas_of_components honce hread
  cases hschemas : OrderedMap.get? fields "schemas" with
  | none =>
    rw [habsent hschemas] at mem
    cases mem
  | some schemas =>
    have hmap := hfound schemas hschemas
    cases schemas with
    | object entries =>
      obtain ⟨v, hv, hs⟩ := mem_of_map hmap mem
      have hentries : (Json.object entries).KeysOnce :=
        honce.of_below (.field (OrderedMap.mem_of_get? hschemas))
      have hentry := OrderedMap.get?_of_mem ((Json.keysOnce_object_iff _).1 hentries).1 hv
      have hobject : OrderedMap.get? rawFields "components" = some (.object fields) := object
      refine leadsTo_ownReference_of_walk ?_ hs
      rw [Json.walk_object, hobject, Option.bind_some, Json.walk_object, hschemas,
        Option.bind_some, Json.walk_object, hentry]
      rfl
    | _ => cases hmap

theorem denotes_iff_of_leadsTo {path : String} (unnamed : recordOf? names path = none)
    (leads : LeadsTo raw path s) : Denotes raw names path ty ↔ HasType raw names s ty := by
  constructor
  · intro h
    cases h with
    | named found =>
      rw [unnamed] at found
      cases found
    | followed _ leads' typed =>
      obtain rfl := leadsTo_unique leads leads'
      exact typed
  · exact .followed unnamed leads

theorem hasType_reference_iff {path : String} :
    HasType raw names (.reference path) ty ↔ Denotes raw names path ty := by
  constructor
  · intro h
    cases h with
    | reference has => exact has
  · exact .reference

end Resolution

namespace Registry

open Resolution

variable {raw : Json} {doc : Document} {r : Registry} {name : String} {s : Schema}

theorem get?_names_iff (once : raw.KeysOnce) (read : Document.ofJson raw = .ok doc)
    (built : (build doc).outcome = .ok r) {type : String} {id : RecordId} :
    OrderedMap.get? r.names type = some id ↔
      ∃ source, r.sources[id.index]? = some source ∧ typeName source = type := by
  obtain ⟨hnodup, records, _, rfl⟩ := build_ok once read built
  exact get?_tableOf hnodup

theorem mem_sources_iff (once : raw.KeysOnce) (read : Document.ofJson raw = .ok doc)
    (built : (build doc).outcome = .ok r) {c : Components}
    (components : doc.description.components = some c) (mem : (name, s) ∈ c.schemas) :
    name ∈ r.sources ↔ ∃ o, s = .inline o ∧ o.keyword? = some "object" := by
  obtain ⟨_, records, _, rfl⟩ := build_ok once read built
  change name ∈ (objectsOf doc).map (·.1) ↔ _
  constructor
  · intro h
    obtain ⟨⟨_, o⟩, hobject, rfl⟩ := List.mem_map.1 h
    obtain ⟨c', hc', hmem, hkeyword⟩ := mem_objectsOf hobject
    obtain rfl := Option.some.inj (components.symm.trans hc')
    exact ⟨o, (eq_of_typeName built components mem hmem rfl).2, hkeyword⟩
  · rintro ⟨o, rfl, hkeyword⟩
    refine List.mem_map.2 ⟨(name, o), ?_, rfl⟩
    simp only [objectsOf, components, objects_eq_filterMap, List.mem_filterMap]
    exact ⟨_, mem, by simp [Schema.inline?, hkeyword]⟩

theorem recordOf?_of_source (once : raw.KeysOnce) (read : Document.ofJson raw = .ok doc)
    (built : (build doc).outcome = .ok r) {id : RecordId} (h : r.sources[id.index]? = some name) :
    recordOf? r.names (ownReference name) = some id := by
  rw [recordOf?_ownReference]
  exact (get?_names_iff once read built).2 ⟨name, h, rfl⟩

theorem comesFrom_of_source (once : raw.KeysOnce) (read : Document.ofJson raw = .ok doc)
    (built : (build doc).outcome = .ok r) {id : RecordId} (h : r.sources[id.index]? = some name) :
    ∃ o, ComesFrom doc r id name o := by
  obtain ⟨name', o, hcomes, _⟩ :=
    (recordOf?_component_eq_some_iff once read built).1 (recordOf?_of_source once read built h)
  obtain rfl := Option.some.inj (hcomes.source.symm.trans h)
  exact ⟨o, hcomes⟩

theorem inline_of_source (once : raw.KeysOnce) (read : Document.ofJson raw = .ok doc)
    (built : (build doc).outcome = .ok r) {c : Components}
    (components : doc.description.components = some c) (mem : (name, s) ∈ c.schemas)
    {id : RecordId} (h : r.sources[id.index]? = some name) :
    ∃ o, s = .inline o ∧ ComesFrom doc r id name o := by
  obtain ⟨o, hcomes⟩ := comesFrom_of_source once read built h
  obtain ⟨c', hc', hmem⟩ := hcomes.component
  obtain rfl := Option.some.inj (components.symm.trans hc')
  exact ⟨o, (eq_of_typeName built components mem hmem rfl).2, hcomes⟩

theorem source_of_ownReference (once : raw.KeysOnce) (read : Document.ofJson raw = .ok doc)
    (built : (build doc).outcome = .ok r) {c : Components}
    (components : doc.description.components = some c) (mem : (name, s) ∈ c.schemas)
    {id : RecordId} (h : recordOf? r.names (ownReference name) = some id) :
    r.sources[id.index]? = some name := by
  rw [recordOf?_ownReference] at h
  obtain ⟨source, hsource, hname⟩ := (get?_names_iff once read built).1 h
  obtain ⟨o, hcomes⟩ := comesFrom_of_source once read built hsource
  obtain ⟨c', hc', hmem⟩ := hcomes.component
  obtain rfl := Option.some.inj (components.symm.trans hc')
  obtain ⟨rfl, _⟩ := eq_of_typeName built components hmem mem hname
  exact hsource

theorem hasType_ownReference_iff (once : raw.KeysOnce) (read : Document.ofJson raw = .ok doc)
    (built : (build doc).outcome = .ok r) {fields : List (String × Json)}
    (object : raw.field? "components" = some (.object fields)) {c : Components}
    (components : doc.description.components = some c) (mem : (name, s) ∈ c.schemas)
    (unlisted : name ∉ r.sources) {ty : DataType} :
    HasType raw r.names (.reference (ownReference name)) ty ↔ HasType raw r.names s ty := by
  have hunnamed : recordOf? r.names (ownReference name) = none := by
    rw [Option.eq_none_iff_forall_ne_some]
    intro id h
    exact unlisted (List.mem_of_getElem? (source_of_ownReference once read built components mem h))
  rw [hasType_reference_iff]
  exact denotes_iff_of_leadsTo hunnamed (leadsTo_ownReference once read object components mem)

/-- Whatever characters the name of a component schema has, the reference that spells it is the
record that was made of the component, or else has the type of the component's own schema, if that
has one. So an alias stands for the record that its target is. -/
theorem component_reached_by_name (once : raw.KeysOnce) (read : Document.ofJson raw = .ok doc)
    (built : (build doc).outcome = .ok r) {fields : List (String × Json)}
    (object : raw.field? "components" = some (.object fields)) {c : Components}
    (components : doc.description.components = some c) (mem : (name, s) ∈ c.schemas) :
    (name ∈ r.sources ↔ ∃ o, s = .inline o ∧ o.keyword? = some "object") ∧
      (∀ id, r.sources[id.index]? = some name → (∃ o, s = .inline o ∧ ComesFrom doc r id name o) ∧
        ∀ location, (resolve doc r.names (.reference (ownReference name)) location).outcome =
          .ok (.record id)) ∧
      (name ∉ r.sources → ∀ location location' ty,
        (resolve doc r.names (.reference (ownReference name)) location).outcome = .ok ty ↔
          (resolve doc r.names s location').outcome = .ok ty) ∧
      (∀ path id, s = .reference path → recordOf? r.names path = some id → ∀ location,
        (resolve doc r.names (.reference (ownReference name)) location).outcome =
          .ok (.record id)) ∧
      ∀ id, recordOf? r.names (ownReference name) = some id → r.sources[id.index]? = some name := by
  obtain ⟨hraw, _⟩ := readDraft_of_ofJson read
  have helse : name ∉ r.sources → ∀ ty,
      HasType raw r.names (.reference (ownReference name)) ty ↔ HasType raw r.names s ty :=
    fun hnot _ => hasType_ownReference_iff once read built object components mem hnot
  simp only [resolve_ok_iff, hraw]
  refine ⟨mem_sources_iff once read built components mem, ?_, fun hnot _ _ => helse hnot, ?_,
    fun id => source_of_ownReference once read built components mem⟩
  · intro id h
    exact ⟨inline_of_source once read built components mem h,
      fun _ => .reference (.named (recordOf?_of_source once read built h))⟩
  · -- An alias is a reference itself, so no record was made of it.
    rintro path id rfl hpath _
    refine (helse ?_ _).2 (.reference (.named hpath))
    intro hmem
    obtain ⟨i, hi⟩ := List.mem_iff_getElem?.1 hmem
    have hsource : r.sources[(RecordId.mk i).index]? = some name := hi
    obtain ⟨o, ho, _⟩ := inline_of_source once read built components mem hsource
    cases ho

section Garden

/-- A shed, another name of it, and a plant. The first two names cannot stand in a pointer as they
are. -/
def garden : Json :=
  documentOf [("tool shed/~1", .object [("type", .string "object")]),
    ("~", .object [("$ref", .string "#/components/schemas/tool shed~1~01")]),
    ("käse-blatt", .object [("type", .string "string")])]

def gardenSchemas : List (String × Schema) :=
  [("tool shed/~1", .inline { types := some (.one "object") }),
    ("~", .reference "#/components/schemas/tool shed~1~01"),
    ("käse-blatt", .inline { types := some (.one "string") })]

def gardenDocument : Document where
  raw := garden
  description := { openapi := "3.0.0", info := {}, components := some { schemas := gardenSchemas } }

theorem garden_keysOnce : garden.KeysOnce := by
  simp [garden, documentOf, OrderedMap.keys, Json.KeysOnce.string]

theorem garden_built : ∃ r, (build gardenDocument).outcome = .ok r ∧
    r.names = [("Toolshed/~1", ⟨0⟩)] ∧ r.sources = ["tool shed/~1"] := by
  have hbuilt : (build gardenDocument).outcome.toOption.map (fun r => (r.names, r.sources)) =
      some ([("Toolshed/~1", ⟨0⟩)], ["tool shed/~1"]) := by
    decide +kernel
  obtain ⟨r, hr, he⟩ := Option.map_eq_some_iff.1 hbuilt
  obtain ⟨hnames, hsources⟩ := Prod.mk.inj he
  exact ⟨r, toOption_eq_some_iff.1 hr, hnames, hsources⟩

theorem component_reached_by_name_garden :
    garden.KeysOnce ∧ Document.ofJson garden = .ok gardenDocument ∧
      ∃ r, (build gardenDocument).outcome = .ok r ∧
        (∀ location, (resolve gardenDocument r.names
          (.reference "#/components/schemas/tool shed~1~01") location).outcome =
            .ok (.record ⟨0⟩)) ∧
        (∀ location, (resolve gardenDocument r.names (.reference "#/components/schemas/~0")
          location).outcome = .ok (.record ⟨0⟩)) ∧
        ∀ location, (resolve gardenDocument r.names (.reference "#/components/schemas/käse-blatt")
          location).outcome = .ok (.primitive .string) := by
  obtain ⟨r, hbuilt, hnames, hsources⟩ := garden_built
  have hread : Document.ofJson garden = .ok gardenDocument := rfl
  have hobject : garden.field? "components" =
      some (.object [("schemas", .object [("tool shed/~1", .object [("type", .string "object")]),
        ("~", .object [("$ref", .string "#/components/schemas/tool shed~1~01")]),
        ("käse-blatt", .object [("type", .string "string")])])]) := rfl
  have hshed := component_reached_by_name garden_keysOnce hread hbuilt hobject rfl
    (List.mem_of_getElem? (i := 0) (l := gardenSchemas) rfl)
  have halias := component_reached_by_name garden_keysOnce hread hbuilt hobject rfl
    (List.mem_of_getElem? (i := 1) (l := gardenSchemas) rfl)
  have hplant := component_reached_by_name garden_keysOnce hread hbuilt hobject rfl
    (List.mem_of_getElem? (i := 2) (l := gardenSchemas) rfl)
  rw [show ownReference "tool shed/~1" = "#/components/schemas/tool shed~1~01" by decide +kernel]
    at hshed
  rw [show ownReference "~" = "#/components/schemas/~0" by decide +kernel] at halias
  rw [show ownReference "käse-blatt" = "#/components/schemas/käse-blatt" by decide +kernel]
    at hplant
  refine ⟨garden_keysOnce, hread, r, hbuilt, ?_, ?_, ?_⟩
  · exact (hshed.2.1 ⟨0⟩ (by rw [hsources]; rfl)).2
  · refine halias.2.2.2.1 _ ⟨0⟩ rfl ?_
    rw [hnames]
    decide +kernel
  · intro location
    refine (hplant.2.2.1 ?_ location "" _).2 rfl
    rw [hsources]
    decide

end Garden

end Registry

end OpenApi
