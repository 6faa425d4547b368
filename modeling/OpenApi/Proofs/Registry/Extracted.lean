import OpenApi.Proofs.Document.Replaced
import OpenApi.Proofs.Json.Changed
import OpenApi.Proofs.Registry.Accepted
import OpenApi.Proofs.Registry.OwnNames

/-!
# Schemas moved to the components

A schema at a property may become a component of its own, with a reference in its place. The property
keeps its type. Its default and whether it may be null are read off the place alone, so that they
are lost behind the reference.
-/

namespace OpenApi

open Json.Typed
open Resolution

/-! ## Where references lead -/

namespace Resolution

/-- The keys down which a reference leads in the document. -/
def pathKeys? (path : String) : Option (List String) :=
  (Text.dropStart? ['#'] path.toList).bind fun pointer => Json.pointerKeys? (String.ofList pointer)

theorem leadsTo_iff_walk {raw : Json} {path : String} {s : Schema} :
    LeadsTo raw path s ↔
      ∃ keys v, pathKeys? path = some keys ∧ raw.walk keys = some v ∧ Schema.read? v = some s := by
  constructor
  · rintro ⟨pointer, v, rfl, hv, hs⟩
    rw [Json.pointer?_eq_walk] at hv
    obtain ⟨keys, hkeys, hv⟩ := Option.bind_eq_some_iff.1 hv
    refine ⟨keys, v, ?_, hv, Schema.read?_of_read hs⟩
    have hdrop : Text.dropStart? ['#'] ("#" ++ pointer).toList = some pointer.toList := by
      rw [Text.dropStart?_eq_some_iff, String.toList_append]
      rfl
    rw [pathKeys?, hdrop, Option.bind_some, String.ofList_toList, hkeys]
  · rintro ⟨keys, v, hpath, hv, hs⟩
    obtain ⟨pointer, hpointer, hkeys⟩ := Option.bind_eq_some_iff.1 hpath
    refine ⟨String.ofList pointer, v, ?_, ?_, Schema.read_of_read? hs⟩
    · rw [← String.toList_inj, String.toList_append, String.toList_ofList, String.toList_ofList]
      exact Text.dropStart?_eq_some_iff.1 hpointer
    · rw [Json.pointer?_eq_walk, hkeys]
      exact hv

end Resolution

/-! ## Moving a schema -/

/-- The reference in place of a schema that has become the component `fresh`. -/
def ownReferenceJson (fresh : String) : Json :=
  .object [("$ref", .string (ownReference fresh))]

/-- The schema at a property of one of the component schemas has become the component `fresh`, and a
reference stands in its place. -/
def Components.Extracted (component property fresh : String) (v schemas schemas' : Json) : Prop :=
  ∃ left right, schemas' = .object (left ++ (fresh, v) :: right) ∧
    Json.Changed (fun w w' => w = v ∧ w' = ownReferenceJson fresh) [component, "properties", property]
      schemas (.object (left ++ right))

/-- The second document is the first with the schema `v` moved from a property of a component schema
to the component `fresh`. -/
def Document.Extracted (component property fresh : String) (v raw raw' : Json) : Prop :=
  Json.Changed (Components.Extracted component property fresh v) ["components", "schemas"] raw raw'

/-- No reference of the document takes all the component schemas or all the properties of one for a
schema, and none leads to a part of the schema at the property. -/
def Document.Apart (component property : String) (raw : Json) : Prop :=
  ∀ path ∈ raw.references, ∀ keys ∈ pathKeys? path,
    keys ≠ ["components", "schemas"] ∧ keys ≠ ["components", "schemas", component, "properties"] ∧
      ∀ part parts,
        keys ≠ "components" :: "schemas" :: component :: "properties" :: property :: part :: parts

/-- The schema with a reference at a property. -/
def SchemaObject.refer (o : SchemaObject Schema) (property path : String) : SchemaObject Schema :=
  { o with properties := OrderedMap.insert o.properties property (.reference path) }

section Extracted

variable {component property fresh : String} {v raw raw' : Json} {o : SchemaObject Schema}

/-! ## What is read -/

theorem read?_of_changed {R : Json → Json → Prop} {key : String} {keys : List String} {u u' : Json}
    (ne : key ≠ "$ref") (keyword : key ∉ SchemaObject.keywords)
    (h : Json.Changed R (key :: keys) u u') : Schema.read? u = Schema.read? u' := by
  cases h with
  | under before after _ => exact Schema.read?_under ne keyword before after _ _

theorem readMap?_of_changed (inline : Schema.read? v = some (.inline o)) {u u' : Json}
    (once : u.KeysOnce)
    (h : Json.Changed (fun w w' => w = v ∧ w' = ownReferenceJson fresh) [property] u u')
    {properties : List (String × Schema)} (read : Schema.readMap? u = some properties) :
    OrderedMap.get? properties property = some (.inline o) ∧ Schema.readMap? u' =
      some (OrderedMap.insert properties property (.reference (ownReference fresh))) := by
  cases h with
  | under before after below =>
    cases below with
    | here h =>
      obtain ⟨rfl, rfl⟩ := h
      have hnew := Json.not_mem_keys_before once
      rw [Schema.readMap?] at read ⊢
      obtain ⟨first, _, hfirst, hrest, rfl⟩ := Schema.readEntries?_append.1 read
      obtain ⟨s, last, hs, hlast, rfl⟩ := Schema.readEntries?_cons.1 hrest
      obtain rfl := Option.some.inj (hs.symm.trans inline)
      have hkeys : property ∉ OrderedMap.keys first := by
        rw [Schema.keys_readEntries? hfirst]
        exact hnew
      have href : Schema.read? (ownReferenceJson fresh) = some (.reference (ownReference fresh)) := by
        simp [ownReferenceJson, Schema.read?, OrderedMap.get?_cons]
      rw [OrderedMap.insert_append_cons hkeys, OrderedMap.get?_append, OrderedMap.get?_cons,
        if_pos rfl, (OrderedMap.get?_eq_none_iff _ _).2 hkeys]
      refine ⟨rfl, Schema.readEntries?_append.2 ⟨first, _, hfirst, ?_, rfl⟩⟩
      exact Schema.readEntries?_cons.2 ⟨_, last, href, hlast, rfl⟩

theorem read?_of_extracted (inline : Schema.read? v = some (.inline o)) {u u' : Json}
    (once : u.KeysOnce)
    (h : Json.Changed (fun w w' => w = v ∧ w' = ownReferenceJson fresh) ["properties", property] u u')
    {s : Schema} (read : Schema.read? u = some s) :
    (∃ path, s = .reference path ∧ Schema.read? u' = some s) ∨
      ∃ record, s = .inline record ∧
        OrderedMap.get? record.properties property = some (.inline o) ∧
        Schema.read? u' = some (.inline (record.refer property (ownReference fresh))) := by
  cases h with
  | @under _ _ w w' before after below =>
    cases s with
    | reference path => exact .inl ⟨path, rfl, Schema.read?_reference_replaced (by decide) _ read⟩
    | inline record =>
      have hlast : "properties" ∉ OrderedMap.keys after := Json.not_mem_keys_after once
      have hbelow : w.KeysOnce :=
        once.of_below (.field (List.mem_append_right _ List.mem_cons_self))
      obtain ⟨hfound, hmap⟩ :=
        readMap?_of_changed inline hbelow below (Schema.readMap?_of_properties hlast read)
      have hset : Schema.setKeyword? "properties" w' (Schema.belowOf w') {} = some
          { properties := OrderedMap.insert record.properties property
              (.reference (ownReference fresh)) } :=
        Option.map_eq_some_iff.2 ⟨_, hmap, rfl⟩
      exact .inr ⟨record, rfl, hfound, Schema.read?_inline_replaced (by decide) hlast hset read⟩

/-- What a reference finds after the move: the same schema as before up to its properties, or a
reference to the moved one. -/
inductive Follows (o : SchemaObject Schema) (fresh : String) : Schema → Schema → Prop where
  | core {s s' : Schema} (same : s'.core = s.core) : Follows o fresh s s'
  | moved : Follows o fresh (.inline o) (.reference (ownReference fresh))

theorem walk_fresh_of_ne {left right : List (String × Json)} {key : String} (ne : key ≠ fresh)
    (keys : List String) :
    (Json.object (left ++ (fresh, v) :: right)).walk (key :: keys) =
      (Json.object (left ++ right)).walk (key :: keys) := by
  rw [Json.walk_object, Json.walk_object, OrderedMap.get?_append, OrderedMap.get?_append,
    OrderedMap.get?_cons, if_neg (Ne.symm ne)]

theorem follows_of_components (inline : Schema.read? v = some (.inline o)) {u u' : Json}
    (once : u.KeysOnce) (extracted : Components.Extracted component property fresh v u u')
    (new : u.walk [fresh] = none) {key : String} {keys : List String}
    (properties : key :: keys ≠ [component, "properties"])
    (parts : ∀ part parts, key :: keys ≠ component :: "properties" :: property :: part :: parts)
    {w : Json} (found : u.walk (key :: keys) = some w) {s : Schema}
    (read : Schema.read? w = some s) :
    ∃ w' s', u'.walk (key :: keys) = some w' ∧ Schema.read? w' = some s' ∧
      Follows o fresh s s' := by
  obtain ⟨left, right, rfl, changed⟩ := extracted
  have hkey : key ≠ fresh := by
    rintro rfl
    rw [Json.walk] at new found
    obtain ⟨x, hx, _⟩ := Option.bind_eq_some_iff.1 found
    rw [hx] at new
    cases new
  rw [walk_fresh_of_ne hkey]
  rcases changed.walk_cases once (key :: keys) with
    ⟨rest, hkeys⟩ | ⟨next, below, x, x', hkeys, hx, hx', hchanged⟩ | hsame
  · -- At the moved schema, or else at a part of it.
    obtain ⟨_, _, ⟨rfl, rfl⟩, hx, hx'⟩ := changed.exists_walk once
    cases rest with
    | nil =>
      rw [List.append_nil] at hkeys
      rw [← hkeys, hx] at found
      cases found
      obtain rfl := Option.some.inj (read.symm.trans inline)
      refine ⟨_, _, hkeys ▸ hx', ?_, .moved⟩
      simp [ownReferenceJson, Schema.read?, OrderedMap.get?_cons]
    | cons part parts' => exact absurd hkeys.symm (parts part parts')
  · -- At the component that has the property, as the properties themselves are ruled out.
    rw [found] at hx
    cases hx
    simp only [List.cons_append, List.cons.injEq] at hkeys
    obtain ⟨rfl, hkeys⟩ := hkeys
    cases keys with
    | nil =>
      obtain ⟨rfl, rfl⟩ := List.cons.inj hkeys
      rcases read?_of_extracted inline (once.of_walk found) hchanged read with
        ⟨_, _, hread⟩ | ⟨record, rfl, _, hread⟩
      · exact ⟨x', s, hx', hread, .core rfl⟩
      · exact ⟨x', _, hx', hread, .core rfl⟩
    | cons second keys =>
      cases keys with
      | nil =>
        obtain ⟨rfl, _⟩ := List.cons.inj hkeys
        exact absurd rfl properties
      | cons third keys => simp at hkeys
  · exact ⟨w, s, hsame ▸ found, read, .core rfl⟩

theorem leadsTo_extracted (inline : Schema.read? v = some (.inline o)) (once : raw.KeysOnce)
    (extracted : Document.Extracted component property fresh v raw raw')
    (new : raw.walk ["components", "schemas", fresh] = none)
    (apart : Document.Apart component property raw) {path : String} (mem : path ∈ raw.references)
    {s : Schema} (leads : LeadsTo raw path s) :
    ∃ s', LeadsTo raw' path s' ∧ Follows o fresh s s' := by
  obtain ⟨keys, w, hpath, hw, hs⟩ := leadsTo_iff_walk.1 leads
  obtain ⟨hschemas, hproperties, hparts⟩ := apart path mem keys hpath
  rcases extracted.walk_cases once keys with
    ⟨rest, rfl⟩ | ⟨next, below, u, u', hkeys, hu, hu', hchanged⟩ | hsame
  · -- At the component schemas as a whole, which is ruled out, or below them.
    obtain ⟨u, u', hextracted, hu, hu'⟩ := extracted.exists_walk once
    have hbelow : ∀ keys, raw.walk (["components", "schemas"] ++ keys) = u.walk keys := by
      intro keys
      rw [Json.walk_append, hu, Option.bind_some]
    cases rest with
    | nil => exact absurd rfl hschemas
    | cons key rest =>
      obtain ⟨w', s', hw', hs', hfollows⟩ := follows_of_components inline (once.of_walk hu)
        hextracted ((hbelow [fresh]).symm.trans new) (fun h => hproperties (by rw [h]; rfl))
        (fun part parts h => hparts part parts (by rw [h]; rfl)) ((hbelow _).symm.trans hw) hs
      refine ⟨s', leadsTo_iff_walk.2 ⟨_, w', hpath, ?_, hs'⟩, hfollows⟩
      rw [Json.walk_append, hu', Option.bind_some, hw']
  · -- Above the component schemas, which stand under no keyword.
    rw [hw] at hu
    cases hu
    have hread : Schema.read? w = Schema.read? u' := by
      cases keys with
      | nil =>
        obtain ⟨rfl, _⟩ := List.cons.inj hkeys
        exact read?_of_changed (by decide) (by decide) hchanged
      | cons first keys =>
        obtain ⟨_, hkeys⟩ := List.cons.inj hkeys
        cases keys with
        | nil =>
          obtain ⟨rfl, _⟩ := List.cons.inj hkeys
          exact read?_of_changed (by decide) (by decide) hchanged
        | cons second keys => simp at hkeys
    exact ⟨s, leadsTo_iff_walk.2 ⟨keys, u', hpath, hu', hread ▸ hs⟩, .core rfl⟩
  · exact ⟨s, leadsTo_iff_walk.2 ⟨keys, w, hpath, hsame ▸ hw, hs⟩, .core rfl⟩

/-! ## What the types are -/

theorem walk_fresh (once : raw.KeysOnce)
    (extracted : Document.Extracted component property fresh v raw raw')
    (once' : raw'.KeysOnce) : raw'.walk ["components", "schemas", fresh] = some v := by
  obtain ⟨_, _, ⟨left, right, rfl, _⟩, _, hu'⟩ := extracted.exists_walk once
  have hschemas := once'.of_walk hu'
  have hfound := OrderedMap.get?_of_mem ((Json.keysOnce_object_iff _).1 hschemas).1
    (List.mem_append_right left (List.mem_cons_self (a := (fresh, v)) (l := right)))
  change raw'.walk (["components", "schemas"] ++ [fresh]) = some v
  rw [Json.walk_append, hu', Option.bind_some, Json.walk_object, hfound]
  rfl

theorem keysOnce_extracted (once : raw.KeysOnce)
    (extracted : Document.Extracted component property fresh v raw raw')
    (new : raw.walk ["components", "schemas", fresh] = none) : raw'.KeysOnce := by
  refine extracted.keysOnce ?_ once
  rintro u _ ⟨left, right, rfl, changed⟩ hu
  have honce := once.of_walk hu
  have hrest : (Json.object (left ++ right)).KeysOnce := by
    refine changed.keysOnce ?_ honce
    rintro _ _ ⟨rfl, rfl⟩ _
    simp [ownReferenceJson, OrderedMap.keys, Json.KeysOnce.string]
  have hfresh : fresh ∉ OrderedMap.keys (left ++ right) := by
    change raw.walk (["components", "schemas"] ++ [fresh]) = none at new
    rw [Json.walk_append, hu, Option.bind_some] at new
    generalize hfields : Json.object (left ++ right) = w at changed
    cases changed with
    | @under _ _ x x' before after _ =>
      rw [Json.walk_object] at new
      have hnone : OrderedMap.get? (before ++ (component, x) :: after) fresh = none := by
        simpa [Json.walk] using new
      have hkeys : OrderedMap.keys (left ++ right) =
          OrderedMap.keys (before ++ (component, x) :: after) := by
        rw [Json.object.inj hfields]
        simp [OrderedMap.keys]
      rw [hkeys]
      exact (OrderedMap.get?_eq_none_iff _ _).1 hnone
  have hv : v.KeysOnce := by
    obtain ⟨_, _, ⟨rfl, _⟩, hw, _⟩ := changed.exists_walk honce
    exact honce.of_walk hw
  rw [Json.keysOnce_object_iff] at hrest ⊢
  have hperm : (left ++ (fresh, v) :: right).Perm ((fresh, v) :: (left ++ right)) :=
    List.perm_middle
  refine ⟨(hperm.map Prod.fst).nodup_iff.2 (List.nodup_cons.2 ⟨hfresh, hrest.1⟩), ?_⟩
  intro p hp
  rcases List.mem_cons.1 (hperm.mem_iff.1 hp) with rfl | hp
  · exact hv
  · exact hrest.2 p hp

section Types

variable {names : RecordNames} {ty : DataType} (inline : Schema.read? v = some (.inline o))
  (once : raw.KeysOnce) (extracted : Document.Extracted component property fresh v raw raw')
  (new : raw.walk ["components", "schemas", fresh] = none)
  (apart : Document.Apart component property raw)
  (unnamed : recordOf? names (ownReference fresh) = none)
include inline once extracted new

theorem denotes_fresh (unnamed : recordOf? names (ownReference fresh) = none)
    (typed : HasType raw' names (.inline o) ty) : Denotes raw' names (ownReference fresh) ty := by
  have honce := keysOnce_extracted once extracted new
  exact .followed unnamed (leadsTo_ownReference_of_walk (walk_fresh once extracted honce)
    (Schema.read_of_read? inline)) typed

include apart unnamed

theorem denotes_extracted {path : String} (mem : path ∈ raw.references)
    (h : Denotes raw names path ty) : Denotes raw' names path ty := by
  refine Denotes.induct (P := fun path ty => path ∈ raw.references → Denotes raw' names path ty)
    ?_ ?_ h mem
  · exact fun _ _ found _ => .named found
  · intro path s ty hunnamed leads typed mem
    obtain ⟨s', hleads, hfollows⟩ := leadsTo_extracted inline once extracted new apart mem leads
    have htyped : HasType raw' names s ty := by
      refine typed.mono_of_consults fun path' hconsults _ has => has.2 ?_
      exact mem_references_of_leads ⟨hunnamed, s, leads, hconsults⟩
    cases hfollows with
    | core same => exact .followed hunnamed hleads (Document.typed_of_core same htyped)
    | moved =>
      exact .followed hunnamed hleads
        (.reference (denotes_fresh inline once extracted new unnamed htyped))

/-- The schemas of the document have the types that they had. -/
theorem hasType_extracted {w : Json} (below : w.Below raw) {s : Schema}
    (read : Schema.read? w = some s) (h : HasType raw names s ty) : HasType raw' names s ty :=
  h.mono_of_consults fun _ hconsults _ =>
    denotes_extracted inline once extracted new apart unnamed
      (Json.references_subset_of_below below (mem_references_of_consults read hconsults))

end Types

end Extracted

end OpenApi
