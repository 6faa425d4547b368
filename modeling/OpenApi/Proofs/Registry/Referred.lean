import OpenApi.Proofs.Registry.Extracted
import OpenApi.Proofs.Registry.WellFormed

/-!
# The registry after a schema is moved

The record with the property has the field types that it had. The default of the field is gone, and
the field is not among those that may be null.
-/

namespace OpenApi

open Json.Typed
open Resolution

/-- The record type with a reference at a property: the field has no default and no description, and
may not be null. -/
def RecordType.referred (r : RecordType) (property : String) : RecordType :=
  { r with
    fields := r.fields.map fun f =>
      if f.wireName = property then { f with default := none, description := none } else f
    nullable := r.nullable.filter (· ≠ localName property) }

namespace Registry

variable {properties : List (String × Schema)} {types : List DataType} {property path : String}
  {s : Schema}

/-! ## One record -/

theorem map_key_insert (mem : property ∈ OrderedMap.keys properties) (f : String → String)
    (s : Schema) :
    (OrderedMap.insert properties property s).map (f ·.1) = properties.map (f ·.1) := by
  have hkeys : ∀ l : List (String × Schema), l.map (f ·.1) = (OrderedMap.keys l).map f := by
    simp [OrderedMap.keys]
  rw [hkeys, hkeys, OrderedMap.keys_insert, if_pos mem]

theorem zipWith_fieldOf_insert (nodup : (OrderedMap.keys properties).Nodup)
    (mem : property ∈ OrderedMap.keys properties) :
    List.zipWith (fun p ty => fieldOf p.1 p.2 ty)
        (OrderedMap.insert properties property (.reference path)) types =
      (List.zipWith (fun p ty => fieldOf p.1 p.2 ty) properties types).map fun f =>
        if f.wireName = property then { f with default := none, description := none } else f := by
  induction properties generalizing types with
  | nil => cases mem
  | cons p rest ih =>
    obtain ⟨key, schema⟩ := p
    obtain ⟨hnew, hnodup⟩ := List.nodup_cons.1 nodup
    cases types with
    | nil => simp
    | cons ty types =>
      rw [OrderedMap.insert, List.zipWith_cons_cons, List.map_cons]
      by_cases hkey : key = property
      · subst hkey
        rw [if_pos rfl, List.zipWith_cons_cons]
        refine congrArg₂ List.cons (by simp [fieldOf, Schema.inline?]) ?_
        refine (List.map_id _).symm.trans (List.map_congr_left fun f hf => ?_)
        obtain ⟨p, ty', hp, rfl⟩ := mem_zipWith_fieldOf hf
        exact (if_neg fun he => hnew (List.mem_map.2 ⟨p, (List.of_mem_zip hp).1, he⟩)).symm
      · rw [if_neg hkey, List.zipWith_cons_cons,
          ih hnodup (by simpa [OrderedMap.keys, Ne.symm hkey] using mem)]
        exact congrArg (· :: _) (if_neg hkey).symm

theorem nullable_insert (nodup : (properties.map (localName ·.1)).Nodup)
    (mem : property ∈ OrderedMap.keys properties) :
    ((OrderedMap.insert properties property (.reference path)).filter
        (·.2.inline?.any (·.isNullable))).map (localName ·.1) =
      ((properties.filter (·.2.inline?.any (·.isNullable))).map (localName ·.1)).filter
        (· ≠ localName property) := by
  induction properties with
  | nil => cases mem
  | cons p rest ih =>
    obtain ⟨key, schema⟩ := p
    obtain ⟨hnew, hnodup⟩ := List.nodup_cons.1 nodup
    rw [OrderedMap.insert]
    by_cases hkey : key = property
    · subst hkey
      have hrest : ((rest.filter (·.2.inline?.any (·.isNullable))).map (localName ·.1)).filter
          (· ≠ localName key) =
            (rest.filter (·.2.inline?.any (·.isNullable))).map (localName ·.1) := by
        rw [List.filter_eq_self]
        intro name hname
        obtain ⟨q, hq, rfl⟩ := List.mem_map.1 hname
        rw [decide_eq_true_eq]
        intro he
        exact hnew (List.mem_map.2 ⟨q, List.mem_of_mem_filter hq, he⟩)
      rw [if_pos rfl, List.filter_cons_of_neg (by simp [Schema.inline?]), List.filter_cons]
      split
      · rw [List.map_cons, List.filter_cons_of_neg (by simp), hrest]
      · exact hrest.symm
    · have hmem : property ∈ OrderedMap.keys rest := by
        simpa [OrderedMap.keys, Ne.symm hkey] using mem
      have hname : localName key ≠ localName property := by
        obtain ⟨q, hq, rfl⟩ := List.mem_map.1 hmem
        intro he
        exact hnew (List.mem_map.2 ⟨q, hq, he.symm⟩)
      rw [if_neg hkey, List.filter_cons, List.filter_cons]
      split
      · rw [List.map_cons, List.map_cons, List.filter_cons_of_pos (by simpa using hname),
          ih hnodup hmem]
      · exact ih hnodup hmem

variable {name : String} {record : SchemaObject Schema}

theorem recordWith_refer (nodup : (record.properties.map (localName ·.1)).Nodup)
    (mem : property ∈ OrderedMap.keys record.properties) :
    recordWith name (record.refer property path) types =
      (recordWith name record types).referred property := by
  have hkeys : (OrderedMap.keys record.properties).Nodup := by
    rw [OrderedMap.keys]
    refine List.Nodup.of_map localName ?_
    rw [List.map_map]
    exact nodup
  have hrequired : ∀ properties : List (String × Schema),
      (properties.filter (record.required.contains ·.1)).map (localName ·.1) =
        ((properties.map (·.1)).filter (record.required.contains ·)).map localName := by
    intro properties
    rw [List.filter_map, List.map_map]
    rfl
  have hnames := map_key_insert mem id (.reference path)
  simp only [id] at hnames
  simp only [recordWith, RecordType.addProperties, RecordType.referred, SchemaObject.refer,
    List.nil_append, hrequired, hnames, zipWith_fieldOf_insert hkeys mem,
    nullable_insert nodup mem]

theorem forall₂_insert {T T' : Schema → DataType → Prop} {s' : Schema}
    (found : OrderedMap.get? properties property = some s)
    (typed : List.Forall₂ (fun p ty => T p.2 ty) properties types)
    (each : ∀ p ∈ properties, ∀ ty, T p.2 ty → T' p.2 ty) (here : ∀ ty, T s ty → T' s' ty) :
    List.Forall₂ (fun p ty => T' p.2 ty) (OrderedMap.insert properties property s') types := by
  induction typed with
  | nil => cases found
  | @cons p ty properties types hty typed ih =>
    obtain ⟨key, schema⟩ := p
    obtain ⟨hfirst, hrest⟩ := List.forall_mem_cons.1 each
    rw [OrderedMap.get?_cons] at found
    rw [OrderedMap.insert]
    by_cases hkey : key = property
    · rw [if_pos hkey] at found ⊢
      obtain rfl := Option.some.inj found
      refine .cons (here ty hty) ?_
      exact ((List.forall₂_and_left _ _).2 ⟨hrest, typed⟩).imp fun p ty h => h.1 ty h.2
    · rw [if_neg hkey] at found ⊢
      exact .cons (hfirst ty hty) (ih found hrest)

theorem forall₂_modify {α β : Type} {R S : α → β → Prop} {l : List α} {l' : List β} {k : Nat}
    {f : α → α} {g : β → β} (h : List.Forall₂ R l l') (each : ∀ a ∈ l, ∀ b, R a b → S a b)
    (here : ∀ a b, l[k]? = some a → R a b → S (f a) (g b)) :
    List.Forall₂ S (l.modify k f) (l'.modify k g) := by
  induction h generalizing k with
  | nil => simp
  | @cons a b l l' hab h ih =>
    obtain ⟨hfirst, hrest⟩ := List.forall_mem_cons.1 each
    cases k with
    | zero =>
      rw [List.modify_zero_cons, List.modify_zero_cons]
      refine .cons (here a b rfl hab) ?_
      exact ((List.forall₂_and_left _ _).2 ⟨hrest, h⟩).imp fun a b h => h.1 b h.2
    | succ k =>
      rw [List.modify_succ_cons, List.modify_succ_cons]
      exact .cons (hfirst b hab) (ih hrest here)

theorem typedBy_rightUnique {raw : Json} {names : RecordNames} :
    Relator.RightUnique (TypedBy (HasType raw names)) := by
  rintro _ _ _ ⟨types, htypes, rfl⟩ ⟨types', htypes', rfl⟩
  have hunique : Relator.RightUnique fun (p : String × Schema) ty => HasType raw names p.2 ty :=
    fun _ _ _ h h' => h.unique h'
  rw [List.right_unique_forall₂' hunique htypes htypes']

/-! ## The document -/

theorem objects_append (xs ys : List (String × Schema)) :
    objects (xs ++ ys) = objects xs ++ objects ys := by
  simp only [objects_eq_filterMap, List.filterMap_append]

theorem objects_cons_of_ne {o : SchemaObject Schema} (plain : o.keyword? ≠ some "object")
    (rest : List (String × Schema)) : objects ((name, .inline o) :: rest) = objects rest := by
  simp [objects, Schema.inline?, plain]

theorem objects_cons_of_eq {o : SchemaObject Schema} (object : o.keyword? = some "object")
    (rest : List (String × Schema)) :
    objects ((name, .inline o) :: rest) = (name, o) :: objects rest := by
  simp [objects, Schema.inline?, object]

variable {component fresh : String} {v raw raw' : Json} {o : SchemaObject Schema} {doc : Document}
  {r : Registry}

theorem names_modify (objects : List (String × SchemaObject Schema)) (k : Nat)
    (f : SchemaObject Schema → SchemaObject Schema) :
    (objects.modify k (Prod.map id f)).map (·.1) = objects.map (·.1) :=
  map_modify_of_eq (Prod.map id f) (·.1) (fun _ => rfl) objects k

/-- The component schemas with a schema moved from a property to a component of its own. -/
inductive MovesOut (component property fresh : String) (o : SchemaObject Schema) :
    List (String × Schema) → List (String × Schema) → Prop where
  | intro {before after left right : List (String × Schema)} {record : SchemaObject Schema}
      (found : OrderedMap.get? record.properties property = some (.inline o))
      (rest : left ++ right =
        before ++ (component, .inline (record.refer property (ownReference fresh))) :: after) :
      MovesOut component property fresh o (before ++ (component, .inline record) :: after)
        (left ++ (fresh, .inline o) :: right)

theorem movesOut_of_extracted (inline : Schema.read? v = some (.inline o)) {u u' : Json}
    (once : u.KeysOnce) (extracted : Components.Extracted component property fresh v u u')
    {schemas : OrderedMap String Schema} (read : map Schema.read u = .ok schemas)
    (inlines : ∀ s, (component, s) ∈ schemas → ∃ record, s = .inline record) :
    ∃ schemas', MovesOut component property fresh o schemas schemas' ∧
      map Schema.read u' = .ok schemas' := by
  obtain ⟨left, right, rfl, changed⟩ := extracted
  generalize hfields : Json.object (left ++ right) = u' at changed
  cases changed with
  | @under _ _ x x' before after below =>
    obtain ⟨first, _, hfirst, hrest, rfl⟩ := Document.map_append_ok_iff.1 read
    obtain ⟨s, last, hs, hlast, rfl⟩ := Document.map_cons_ok_iff.1 hrest
    obtain ⟨record, rfl⟩ := inlines s (List.mem_append_right _ List.mem_cons_self)
    have hx : x.KeysOnce := once.of_below (.field (List.mem_append_right _ List.mem_cons_self))
    rcases read?_of_extracted inline hx below (Schema.read?_of_read hs) with
      ⟨_, he, _⟩ | ⟨_, he, hfound, hs'⟩
    · cases he
    · cases he
      have hmap : map Schema.read (.object (left ++ right)) = .ok (first ++ (component,
          .inline (record.refer property (ownReference fresh))) :: last) := by
        rw [hfields]
        refine Document.map_append_ok_iff.2 ⟨first, _, hfirst, ?_, rfl⟩
        exact Document.map_cons_ok_iff.2 ⟨_, last, Schema.read_of_read? hs', hlast, rfl⟩
      obtain ⟨left', right', hleft, hright, he⟩ := Document.map_append_ok_iff.1 hmap
      refine ⟨_, .intro hfound he.symm, ?_⟩
      refine Document.map_append_ok_iff.2 ⟨left', _, hleft, ?_, rfl⟩
      exact Document.map_cons_ok_iff.2 ⟨_, right', Schema.read_of_read? inline, hright, rfl⟩

theorem ofJson_extracted (inline : Schema.read? v = some (.inline o)) (once : raw.KeysOnce)
    (extracted : Document.Extracted component property fresh v raw raw')
    (read : Document.ofJson raw = .ok doc)
    (inlines : ∀ c ∈ doc.description.components, ∀ s, (component, s) ∈ c.schemas →
      ∃ record, s = .inline record) :
    ∃ c schemas', doc.description.components = some c ∧
      MovesOut component property fresh o c.schemas schemas' ∧
      Document.ofJson raw' = .ok ⟨raw', { doc.description with
        components := some { c with schemas := schemas' } }⟩ := by
  cases extracted with
  | @under _ _ w w' before after below =>
    cases below with
    | @under _ _ u u' before₂ after₂ below =>
      cases below with
      | here extracted =>
        have honce := (Json.keysOnce_object_iff _).1 once
        have hw := honce.2 _ (List.mem_append_right _ List.mem_cons_self)
        have honce₂ := (Json.keysOnce_object_iff _).1 hw
        have hu := honce₂.2 _ (List.mem_append_right _ List.mem_cons_self)
        obtain ⟨_, d, hd, he⟩ := readDraft_of_ofJson read
        obtain ⟨c, hc, hcread⟩ := read_of_optional_ok (by simp) (components_of_readDraft once
          (OrderedMap.get?_of_mem honce.1 (List.mem_append_right _ List.mem_cons_self)) hd)
        have hschemas := (schemas_of_components hw hcread).1 u
          (OrderedMap.get?_of_mem honce₂.1 (List.mem_append_right _ List.mem_cons_self))
        obtain ⟨schemas', hmoves, hschemas'⟩ :=
          movesOut_of_extracted inline hu extracted hschemas (inlines c (he.trans hc))
        have hcread' :=
          Components.read_replaced (Json.not_mem_keys_after hw) hschemas' hcread
        refine ⟨c, schemas', he.trans hc, hmoves,
          Document.ofJson_replaced (Json.not_mem_keys_after once) ?_ read⟩
        rw [optional_of_ne_null (by simp), hcread']
        rfl

theorem objects_of_movesOut {schemas schemas' : List (String × Schema)}
    (moves : MovesOut component property fresh o schemas schemas')
    (plain : o.keyword? ≠ some "object")
    (object : ∀ record, (component, .inline record) ∈ schemas → record.keyword? = some "object") :
    ∃ k record, (objects schemas)[k]? = some (component, record) ∧
      OrderedMap.get? record.properties property = some (.inline o) ∧
      objects schemas' =
        (objects schemas).modify k (Prod.map id (·.refer property (ownReference fresh))) := by
  cases moves with
  | @intro before after left right record found rest =>
    have hobject := object record (List.mem_append_right _ List.mem_cons_self)
    refine ⟨(objects before).length, record, ?_, found, ?_⟩
    · rw [objects_append, objects_cons_of_eq hobject, List.getElem?_append_right (Nat.le_refl _),
        Nat.sub_self]
      rfl
    · have hrefer :
          (record.refer property (ownReference fresh)).keyword? = some "object" := hobject
      rw [objects_append left, objects_cons_of_ne plain, ← objects_append, rest, objects_append,
        objects_append, objects_cons_of_eq hobject, modify_length_append, objects_cons_of_eq hrefer]
      rfl

theorem nodup_of_movesOut {schemas schemas' : List (String × Schema)}
    (moves : MovesOut component property fresh o schemas schemas')
    (nodup : ((OrderedMap.keys schemas).map typeName).Nodup)
    (new : typeName fresh ∉ (OrderedMap.keys schemas).map typeName) :
    ((OrderedMap.keys schemas').map typeName).Nodup := by
  cases moves with
  | @intro before after left right record found rest =>
    have hperm : (left ++ (fresh, Schema.inline o) :: right).Perm
        ((fresh, .inline o) :: (left ++ right)) := List.perm_middle
    have hkeys : OrderedMap.keys (left ++ right) =
        OrderedMap.keys (before ++ (component, .inline record) :: after) := by
      rw [rest]
      simp [OrderedMap.keys]
    refine ((hperm.map Prod.fst).map typeName).nodup_iff.2 ?_
    rw [← hkeys] at nodup new
    exact List.nodup_cons.2 ⟨new, nodup⟩

/-! ## The types of the properties -/

theorem recordOf?_fresh {sources : List String} (new : typeName fresh ∉ sources.map typeName) :
    recordOf? (tableOf sources) (ownReference fresh) = none := by
  rw [recordOf?_ownReference, OrderedMap.get?_eq_none_iff, keys_tableOf]
  exact new

section Moved

variable (inline : Schema.read? v = some (.inline o)) (once : raw.KeysOnce)
  (extracted : Document.Extracted component property fresh v raw raw')
  (new : raw.walk ["components", "schemas", fresh] = none)
  (apart : Document.Apart component property raw) (read : Document.ofJson raw = .ok doc)
include inline once extracted new apart read

theorem hasType_of_mem_properties {names : RecordNames}
    (unnamed : recordOf? names (ownReference fresh) = none)
    {object : String × SchemaObject Schema} (mem : object ∈ objectsOf doc) :
    ∀ p ∈ object.2.properties, ∀ ty, HasType raw names p.2 ty → HasType raw' names p.2 ty := by
  intro p hp ty hty
  obtain ⟨w, hw, hread⟩ := read?_of_mem_objectsOf read mem
  obtain ⟨u, hu, hread⟩ :=
    Schema.read?_of_mem_children hread (SchemaObject.mem_children_of_properties hp)
  exact hasType_extracted inline once extracted new apart unnamed (hu.trans hw) hread hty

theorem typed_refer {names : RecordNames} (unnamed : recordOf? names (ownReference fresh) = none)
    (mem : (name, record) ∈ objectsOf doc)
    (found : OrderedMap.get? record.properties property = some (.inline o))
    (typed : List.Forall₂ (fun p ty => HasType raw names p.2 ty) record.properties types) :
    List.Forall₂ (fun p ty => HasType raw' names p.2 ty)
      (record.refer property (ownReference fresh)).properties types := by
  have heach := hasType_of_mem_properties inline once extracted new apart read unnamed mem
  refine forall₂_insert found typed heach ?_
  intro ty hty
  exact .reference (denotes_fresh inline once extracted new unnamed
    (heach _ (OrderedMap.mem_of_get? found) ty hty))

theorem enterable_refer (unnamed : typeName fresh ∉ (sourcesOf doc).map typeName)
    (enterable : Enterable raw [] (objectsOf doc)) {k : Nat}
    (place : (objectsOf doc)[k]? = some (component, record))
    (found : OrderedMap.get? record.properties property = some (.inline o)) :
    Enterable raw' []
      ((objectsOf doc).modify k (Prod.map id (·.refer property (ownReference fresh)))) := by
  intro i name' o' ho'
  rw [names_modify]
  have hunnamed : recordOf? (tableOf ([] ++ ((objectsOf doc).map (·.1)).take (i + 1)))
      (ownReference fresh) = none := by
    refine recordOf?_fresh fun hmem => unnamed ?_
    rw [List.nil_append, List.map_take] at hmem
    exact List.mem_of_mem_take hmem
  rw [List.getElem?_modify] at ho'
  obtain ⟨⟨name, object⟩, hobject, he⟩ := Option.map_eq_some_iff.1 ho'
  obtain ⟨hnodup, htyped⟩ := enterable i name object hobject
  have hmem := List.mem_of_getElem? hobject
  by_cases hplace : k = i
  · subst hplace
    obtain ⟨rfl, rfl⟩ := Prod.mk.inj (Option.some.inj (place.symm.trans hobject))
    rw [if_pos rfl] at he
    cases he
    obtain ⟨types, htypes⟩ := exists_forall₂_iff.2 htyped
    refine ⟨?_, exists_forall₂_iff.1 ⟨types, typed_refer inline once extracted new apart read
      hunnamed hmem found htypes⟩⟩
    have hmem := (OrderedMap.mem_keys _ _).2 ⟨_, OrderedMap.mem_of_get? found⟩
    exact (map_key_insert hmem localName _).symm ▸ hnodup
  · rw [if_neg hplace] at he
    cases he
    refine ⟨hnodup, fun p hp => ?_⟩
    obtain ⟨ty, hty⟩ := htyped p hp
    exact ⟨ty, hasType_of_mem_properties inline once extracted new apart read hunnamed hmem p hp ty
      hty⟩

theorem typedBy_refer {names : RecordNames} (unnamed : recordOf? names (ownReference fresh) = none)
    {k : Nat} (place : (objectsOf doc)[k]? = some (component, record))
    (found : OrderedMap.get? record.properties property = some (.inline o))
    (nodup : (record.properties.map (localName ·.1)).Nodup) {records : List RecordType}
    (typed : List.Forall₂ (TypedBy (HasType raw names)) (objectsOf doc) records) :
    List.Forall₂ (TypedBy (HasType raw' names))
      ((objectsOf doc).modify k (Prod.map id (·.refer property (ownReference fresh))))
      (records.modify k (·.referred property)) := by
  refine forall₂_modify typed ?_ ?_
  · rintro p hp _ ⟨types, htypes, rfl⟩
    have heach := hasType_of_mem_properties inline once extracted new apart read unnamed hp
    refine ⟨types, ((List.forall₂_and_left _ _).2 ⟨heach, htypes⟩).imp ?_, rfl⟩
    exact fun _ _ h => h.1 _ h.2
  · rintro p _ hp ⟨types, htypes, rfl⟩
    obtain rfl := Option.some.inj (place.symm.trans hp)
    have hmem := List.mem_of_getElem? place
    refine ⟨types, typed_refer inline once extracted new apart read unnamed hmem found htypes, ?_⟩
    exact (recordWith_refer nodup
      ((OrderedMap.mem_keys _ _).2 ⟨_, OrderedMap.mem_of_get? found⟩)).symm

end Moved

/-! ## Both passes -/

theorem walk_eq_none_of_unused (once : raw.KeysOnce) (read : Document.ofJson raw = .ok doc)
    (unused : ∀ c ∈ doc.description.components,
      typeName fresh ∉ (OrderedMap.keys c.schemas).map typeName) :
    raw.walk ["components", "schemas", fresh] = none := by
  rw [← pointer?_ownReference, Option.eq_none_iff_forall_ne_some]
  intro w hw
  have hsingle : '/' ∉ (String.ofList (Json.escapeToken fresh.toList)).toList := by
    rw [String.toList_ofList]
    exact Json.slash_not_mem_escapeToken _
  obtain ⟨c, s, hc, hs, _⟩ := schema_of_pointer? once read hsingle hw
  rw [Json.keyOfToken_escapeToken] at hs
  refine unused c hc (List.mem_map_of_mem ?_)
  exact (OrderedMap.mem_keys _ _).2 ⟨s, OrderedMap.mem_of_get? hs⟩

/-- The record at an id comes from a component schema with the property. -/
structure HasProperty (r : Registry) (id : RecordId) (component property : String) (s : Schema) :
    Prop where
  source : r.sources[id.index]? = some component
  record : ∃ object types, r.record? id = some (recordWith component object types) ∧
    object.properties.length = types.length ∧ (object.properties.map (localName ·.1)).Nodup ∧
    OrderedMap.get? object.properties property = some s

theorem HasProperty.exists_field {id : RecordId} (h : HasProperty r id component property s) :
    ∃ record f, r.record? id = some record ∧ f ∈ record.fields ∧ f.wireName = property ∧
      f.localName = localName property ∧ f.default = (s.inline?.bind (·.default)).map .wire ∧
      record.isNullable (localName property) = s.inline?.any (·.isNullable) := by
  obtain ⟨object, types, hrecord, hlength, hnodup, hfound⟩ := h.record
  have hmem := OrderedMap.mem_of_get? hfound
  obtain ⟨i, hi, he⟩ := List.mem_iff_getElem.1 hmem
  refine ⟨_, fieldOf property s (types.get ⟨i, hlength ▸ hi⟩), hrecord, ?_, rfl, rfl, rfl, ?_⟩
  · refine List.mem_iff_getElem.2 ⟨i, ?_, ?_⟩
    · simp [recordWith, RecordType.addProperties, ← hlength, hi]
    · simp [recordWith, RecordType.addProperties, he]
  · rw [Bool.eq_iff_iff, RecordType.isNullable, List.contains_iff_mem]
    change localName property ∈ [] ++ List.map _ _ ↔ _
    rw [List.nil_append, List.mem_map]
    constructor
    · rintro ⟨q, hq, hname⟩
      obtain ⟨hq, hnullable⟩ := List.mem_filter.1 hq
      obtain rfl := List.inj_on_of_nodup_map hnodup hq hmem hname
      exact hnullable
    · exact fun hnullable => ⟨_, List.mem_filter.2 ⟨hmem, hnullable⟩, rfl⟩

theorem hasProperty_ofObjects {T : Schema → DataType → Prop}
    {objects : List (String × SchemaObject Schema)} {records : List RecordType}
    (typed : List.Forall₂ (TypedBy T) objects records) {k : Nat}
    (place : objects[k]? = some (component, record))
    (nodup : (record.properties.map (localName ·.1)).Nodup)
    (found : OrderedMap.get? record.properties property = some s) :
    HasProperty (ofObjects objects records) ⟨k⟩ component property s := by
  obtain ⟨hlt, he⟩ := List.getElem?_eq_some_iff.1 place
  have hlt' : k < records.length := typed.length_eq ▸ hlt
  have htyped : TypedBy T objects[k] records[k] := typed.get hlt hlt'
  rw [he] at htyped
  obtain ⟨types, htypes, hrecord⟩ := htyped
  refine ⟨?_, record, types, ?_, htypes.length_eq, nodup, found⟩
  · simp [ofObjects, registryOf, place]
  · exact (List.getElem?_eq_getElem hlt').trans (congrArg some hrecord)

theorem objectsOf_extracted (inline : Schema.read? v = some (.inline o)) (once : raw.KeysOnce)
    (extracted : Document.Extracted component property fresh v raw raw')
    (read : Document.ofJson raw = .ok doc) (built : (build doc).outcome = .ok r)
    (plain : o.keyword? ≠ some "object") (source : component ∈ r.sources)
    (unused : ∀ c ∈ doc.description.components,
      typeName fresh ∉ (OrderedMap.keys c.schemas).map typeName) :
    ∃ doc' k record, Document.ofJson raw' = .ok doc' ∧ NamesDiffer doc' ∧
      typeName fresh ∉ (sourcesOf doc).map typeName ∧
      (objectsOf doc)[k]? = some (component, record) ∧
      OrderedMap.get? record.properties property = some (.inline o) ∧
      objectsOf doc' =
        (objectsOf doc).modify k (Prod.map id (·.refer property (ownReference fresh))) := by
  have hobject : ∀ c ∈ doc.description.components, ∀ s, (component, s) ∈ c.schemas →
      ∃ record, s = .inline record ∧ record.keyword? = some "object" :=
    fun c hc s hs => (mem_sources_iff once read built hc hs).1 source
  obtain ⟨c, schemas', hc, hmoves, hread'⟩ := ofJson_extracted inline once extracted read
    fun c hc s hs => (hobject c hc s hs).imp fun _ h => h.1
  obtain ⟨k, record, hplace, hfound, hobjects⟩ := objects_of_movesOut hmoves plain fun record h => by
    obtain ⟨_, he, hkeyword⟩ := hobject c hc _ h
    cases he
    exact hkeyword
  have hof : objectsOf doc = objects c.schemas := by
    rw [objectsOf, hc]
  obtain ⟨hdiffer, _⟩ := build_ok_iff_passes.1 built
  refine ⟨_, k, record, hread', ?_, ?_, hof ▸ hplace, hfound, hof ▸ hobjects⟩
  · rintro _ ⟨⟩
    exact nodup_of_movesOut hmoves (hdiffer c hc) (unused c hc)
  · rw [sourcesOf, hof]
    exact fun h => unused c hc (((objects_sublist _).map _).subset h)

theorem build_extracted (inline : Schema.read? v = some (.inline o)) (once : raw.KeysOnce)
    (extracted : Document.Extracted component property fresh v raw raw')
    (apart : Document.Apart component property raw) (read : Document.ofJson raw = .ok doc)
    (built : (build doc).outcome = .ok r) (plain : o.keyword? ≠ some "object")
    (source : component ∈ r.sources)
    (unused : ∀ c ∈ doc.description.components,
      typeName fresh ∉ (OrderedMap.keys c.schemas).map typeName) :
    ∃ doc' id, Document.ofJson raw' = .ok doc' ∧
      HasProperty r id component property (.inline o) ∧
      (build doc').outcome = .ok (r.modify id (·.referred property)) := by
  have hnew := walk_eq_none_of_unused once read unused
  obtain ⟨doc', k, record, hread', hdiffer', hunnamed, hplace, hfound, hobjects⟩ :=
    objectsOf_extracted inline once extracted read built plain source unused
  obtain ⟨hdiffer, entered, hentered, _⟩ := build_ok_iff_passes.1 built
  have henterable := (exists_entered_iff (nodup_sourcesOf hdiffer)).1 ⟨entered, hentered⟩
  have hnodup := (henterable k component record hplace).1
  obtain ⟨_, records, htyped, rfl⟩ := build_ok once read built
  obtain ⟨rfl, _⟩ := readDraft_of_ofJson read
  obtain ⟨r', hbuilt'⟩ : ∃ r', (build doc').outcome = .ok r' := by
    refine exists_build_iff.2 ⟨hdiffer', ?_⟩
    rw [hobjects, (readDraft_of_ofJson hread').1]
    exact enterable_refer inline once extracted hnew apart read hunnamed henterable hplace hfound
  -- The table of names is as it was, so that the types of the fields are.
  have hsources : sourcesOf doc' = sourcesOf doc := by
    rw [sourcesOf, hobjects, names_modify, sourcesOf]
  obtain ⟨_, records', htyped', rfl⟩ :=
    build_ok (keysOnce_extracted once extracted hnew) hread' hbuilt'
  rw [hsources, hobjects] at htyped'
  obtain rfl := List.right_unique_forall₂' typedBy_rightUnique htyped'
    (typedBy_refer inline once extracted hnew apart read (recordOf?_fresh hunnamed) hplace hfound
      hnodup htyped)
  refine ⟨doc', ⟨k⟩, hread', hasProperty_ofObjects htyped hplace hnodup hfound, ?_⟩
  rw [hbuilt', hobjects]
  simp only [ofObjects, names_modify]
  rfl

end Registry

end OpenApi
