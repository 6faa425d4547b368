import Mathlib.Data.List.Forall2
import OpenApi.Proofs.Resolution.Circles
import OpenApi.Proofs.Resolution.Growth
import OpenApi.Registry

/-!
# The passes over the component schemas

What the first pass enters, what it leaves for the second, and what the second makes of it.
-/

namespace OpenApi

/-- The record type with a field for each property, of the given types. -/
def RecordType.addProperties (r : RecordType) (required : List String)
    (properties : List (String × Schema)) (types : List DataType) : RecordType :=
  { r with
    fields := r.fields ++ List.zipWith (fun p ty => Registry.fieldOf p.1 p.2 ty) properties types
    required := r.required ++ (properties.filter (required.contains ·.1)).map (localName ·.1)
    nullable := r.nullable ++
      (properties.filter (·.2.inline?.any (·.isNullable))).map (localName ·.1) }

namespace Registry

open Resolution

/-- The component schemas that become records. -/
def objects : List (String × Schema) → List (String × SchemaObject Schema)
  | [] => []
  | (name, schema) :: rest =>
    match schema.inline? with
    | some o => if o.keyword? = some "object" then (name, o) :: objects rest else objects rest
    | none => objects rest

/-- The table of the records that come from the given components. -/
def tableOf (sources : List String) : RecordNames :=
  sources.zipIdx.map fun p => (typeName p.1, ⟨p.2⟩)

/-- The record type of an object schema whose properties have the given types. -/
def recordWith (name : String) (o : SchemaObject Schema) (types : List DataType) : RecordType :=
  RecordType.addProperties { name := typeName name, description := o.description } o.required
    o.properties types

/-- The fields of a record that the first pass leaves for the second, from a place on. -/
def pendingFields (id : RecordId) (location : String) : Nat → List (String × Schema) → List Pending
  | _, [] => []
  | place, (property, schema) :: rest =>
    ⟨id, place, schema, location ++ "/properties/" ++ property⟩ ::
      pendingFields id location (place + 1) rest

/-- The fields that the first pass leaves, for records from an id on. -/
def pendingObjects : Nat → List (String × SchemaObject Schema) → List Pending
  | _, [] => []
  | i, (name, o) :: rest =>
    pendingFields ⟨i⟩ (componentSchemas ++ name) 0 o.properties ++ pendingObjects (i + 1) rest

/-! ## The registry -/

theorem record?_modify {r : Registry} {id : RecordId} {record : RecordType}
    (h : r.record? id = some record) (f : RecordType → RecordType) :
    (r.modify id f).record? id = some (f record) := by
  unfold record? at h
  simp [record?, modify, h]

theorem modify_modify (r : Registry) (id : RecordId) (a b : RecordType) :
    (r.modify id fun _ => a).modify id (fun _ => b) = r.modify id fun _ => b := by
  simp [modify, List.modify_modify_eq, Function.comp_def]

theorem modify_of_found {r : Registry} {id : RecordId} {record : RecordType}
    (h : r.record? id = some record) (f : RecordType → RecordType) :
    r.modify id f = r.modify id fun _ => f record := by
  unfold record? at h
  have hrecords : r.records.modify id.index f = r.records.modify id.index fun _ => f record := by
    apply List.ext_getElem?
    intro i
    rw [List.getElem?_modify, List.getElem?_modify]
    by_cases hi : id.index = i
    · subst hi
      simp [h]
    · simp [hi]
  rw [modify, modify, hrecords]

theorem modify_eq_self {r : Registry} {id : RecordId} {record : RecordType}
    (h : r.record? id = some record) : (r.modify id fun _ => record) = r := by
  have hrecords : r.records.modify id.index (fun record => record) = r.records :=
    List.modify_id id.index r.records
  rw [← modify_of_found h fun record => record, modify, hrecords]

/-! ## One record -/

theorem addProperties_nil (r : RecordType) (required : List String) :
    r.addProperties required [] [] = r := by
  simp [RecordType.addProperties]

theorem addProperties_cons (r : RecordType) (required : List String) (p : String × Schema)
    (ty : DataType) (properties : List (String × Schema)) (types : List DataType) :
    (r.addProperties required [p] [ty]).addProperties required properties types =
      r.addProperties required (p :: properties) (ty :: types) := by
  simp only [RecordType.addProperties, List.zipWith_cons_cons, List.zipWith_nil_left,
    List.append_assoc, List.singleton_append, List.filter_cons]
  congr 2
  · split <;> simp
  · split <;> simp

/-- The local name of each field is the one of its wire name. -/
def Named (r : RecordType) : Prop :=
  ∀ f ∈ r.fields, f.localName = localName f.wireName

theorem clash?_eq_none_iff {r : RecordType} (named : Named r) (property : String) (schema : Schema)
    (ty : DataType) :
    r.clash? (fieldOf property schema ty) = none ↔
      localName property ∉ r.fields.map (·.localName) := by
  unfold RecordType.clash?
  rw [Option.map_eq_none_iff, List.find?_eq_none, List.mem_map]
  constructor
  · rintro h ⟨f, hf, he⟩
    apply h f hf
    simp [fieldOf, he]
  · intro h f hf hclash
    rw [Bool.or_eq_true, beq_iff_eq, beq_iff_eq] at hclash
    rcases hclash with hlocal | hwire
    · exact h ⟨f, hf, hlocal⟩
    · refine h ⟨f, hf, ?_⟩
      rw [named f hf, hwire]
      rfl

theorem addField_fieldOf_ok_iff {r r' : RecordType} (named : Named r) (required : List String)
    (property : String) (schema : Schema) (ty : DataType) :
    r.addField (fieldOf property schema ty) (required.contains property)
        (schema.inline?.any (·.isNullable)) = .ok r' ↔
      localName property ∉ r.fields.map (·.localName) ∧
        r' = r.addProperties required [(property, schema)] [ty] := by
  rw [← clash?_eq_none_iff named property schema ty, RecordType.addField]
  cases hclash : r.clash? (fieldOf property schema ty) with
  | some name => simp
  | none =>
    simp only [true_and, Except.ok.injEq, @eq_comm _ _ r', RecordType.addProperties,
      List.zipWith_cons_cons, List.zipWith_nil_left, List.filter_cons, List.filter_nil]
    have hrequired : (if required.contains property then r.required ++ [localName property]
        else r.required) = r.required ++ (if required.contains property then [(property, schema)]
          else []).map (localName ·.1) := by
      split <;> simp
    have hnullable : (if schema.inline?.any (·.isNullable) then r.nullable ++ [localName property]
        else r.nullable) = r.nullable ++ (if schema.inline?.any (·.isNullable)
          then [(property, schema)] else []).map (localName ·.1) := by
      split <;> simp
    rw [← hrequired, ← hnullable]
    rfl

theorem named_addProperties {r : RecordType} (named : Named r) (required : List String)
    (property : String) (schema : Schema) (ty : DataType) :
    Named (r.addProperties required [(property, schema)] [ty]) := by
  intro f hf
  simp only [RecordType.addProperties, List.zipWith_cons_cons, List.zipWith_nil_left,
    List.mem_append, List.mem_singleton] at hf
  rcases hf with hf | rfl
  · exact named f hf
  · rfl

theorem localNames_addProperties (r : RecordType) (required : List String) (property : String)
    (schema : Schema) (ty : DataType) :
    (r.addProperties required [(property, schema)] [ty]).fields.map (·.localName) =
      r.fields.map (·.localName) ++ [localName property] := by
  simp [RecordType.addProperties, fieldOf]

variable {doc : Document} {r : Registry} {id : RecordId} {required : List String}
  {location : String}

theorem enterFields_cons_ok_iff {property : String} {schema : Schema}
    {rest : List (String × Schema)} {place : Nat} {record : RecordType}
    (found : r.record? id = some record) (named : Named record) {out : Registry × List Pending} :
    (enterFields doc id required location ((property, schema) :: rest) place r).outcome =
        .ok out ↔
      ∃ ty, HasType doc.raw r.names schema ty ∧
        localName property ∉ record.fields.map (·.localName) ∧
        ∃ out', (enterFields doc id required location rest (place + 1) (r.modify id fun _ =>
            record.addProperties required [(property, schema)] [ty])).outcome = .ok out' ∧
          out = (out'.1,
            ⟨id, place, schema, location ++ "/properties/" ++ property⟩ :: out'.2) := by
  simp only [enterFields, Logged.outcome_bind_eq_ok_iff, resolve_ok_iff, found, Option.getD_some]
  apply exists_congr
  intro ty
  apply and_congr_right
  intro _
  constructor
  · intro h
    split at h
    · cases h
    · rename_i record' hrecord'
      obtain ⟨hfree, rfl⟩ :=
        (addField_fieldOf_ok_iff named required property schema ty).1 hrecord'
      obtain ⟨out', hrest, hout⟩ := Logged.outcome_bind_eq_ok_iff.1 h
      cases hout
      exact ⟨hfree, out', hrest, rfl⟩
  · rintro ⟨hfree, out', hrest, rfl⟩
    rw [(addField_fieldOf_ok_iff named required property schema ty).2 ⟨hfree, rfl⟩]
    simp only [Logged.outcome_bind_of_ok hrest]
    rfl

theorem enterFields_ok_iff {properties : List (String × Schema)} {place : Nat} {record : RecordType}
    (found : r.record? id = some record) (named : Named record)
    (nodup : (record.fields.map (·.localName)).Nodup) {out : Registry × List Pending} :
    (enterFields doc id required location properties place r).outcome = .ok out ↔
      ∃ types, List.Forall₂ (fun p ty => HasType doc.raw r.names p.2 ty) properties types ∧
        (record.fields.map (·.localName) ++ properties.map (localName ·.1)).Nodup ∧
        out = (r.modify id fun _ => record.addProperties required properties types,
          pendingFields id location place properties) := by
  induction properties generalizing place r record out with
  | nil =>
    simp only [enterFields, Logged.outcome_pure, Except.ok.injEq, List.forall₂_nil_left_iff,
      List.map_nil, List.append_nil, pendingFields, exists_eq_left, addProperties_nil,
      modify_eq_self found]
    constructor
    · rintro rfl
      exact ⟨nodup, rfl⟩
    · rintro ⟨_, rfl⟩
      rfl
  | cons p rest ih =>
    obtain ⟨property, schema⟩ := p
    have hfound := fun ty => record?_modify found fun _ =>
      record.addProperties required [(property, schema)] [ty]
    have hnamed := named_addProperties named required property schema
    have hnodup : ∀ ty : DataType,
        (record.fields.map (·.localName) ++
            ((property, schema) :: rest).map (localName ·.1)).Nodup ↔
          ((record.addProperties required [(property, schema)] [ty]).fields.map (·.localName) ++
            rest.map (localName ·.1)).Nodup := by
      intro ty
      rw [localNames_addProperties, List.map_cons, List.append_assoc, List.singleton_append]
    rw [enterFields_cons_ok_iff found named]
    constructor
    · rintro ⟨ty, hty, hfree, out', hrest, rfl⟩
      have hnodup' : ((record.addProperties required [(property, schema)] [ty]).fields.map
          (·.localName)).Nodup := by
        rw [localNames_addProperties, List.nodup_append]
        exact ⟨nodup, List.nodup_singleton _, by simpa using hfree⟩
      obtain ⟨types, htypes, hnames, rfl⟩ := (ih (hfound ty) (hnamed ty) hnodup').1 hrest
      refine ⟨ty :: types, .cons hty htypes, (hnodup ty).2 hnames, ?_⟩
      rw [modify_modify, addProperties_cons, pendingFields]
    · rintro ⟨_, htypes, hnames, rfl⟩
      cases htypes with
      | @cons _ ty _ types hty htypes =>
        have hfree : localName property ∉ record.fields.map (·.localName) := by
          intro hmem
          exact (List.nodup_append.1 hnames).2.2 _ hmem _ List.mem_cons_self rfl
        rw [hnodup ty] at hnames
        refine ⟨ty, hty, hfree, _, (ih (hfound ty) (hnamed ty)
          (List.nodup_append.1 hnames).1).2 ⟨types, htypes, hnames, rfl⟩, ?_⟩
        rw [modify_modify, addProperties_cons, pendingFields]

/-! ## The first pass -/

/-- The registry of the given records with the components that they come from. -/
def registryOf (sources : List String) (records : List RecordType) : Registry :=
  ⟨records, tableOf sources, sources⟩

/-- The records that the first pass enters after those from `sources`: each is typed under the table
up to itself. -/
inductive Entered (raw : Json) :
    List String → List (String × SchemaObject Schema) → List RecordType → Prop where
  | nil (sources : List String) : Entered raw sources [] []
  | cons {sources : List String} {name : String} {o : SchemaObject Schema} {types : List DataType}
      {rest : List (String × SchemaObject Schema)} {records : List RecordType}
      (new : typeName name ∉ sources.map typeName)
      (names : (o.properties.map (localName ·.1)).Nodup)
      (typed : List.Forall₂ (fun p ty => HasType raw (tableOf (sources ++ [name])) p.2 ty)
        o.properties types)
      (others : Entered raw (sources ++ [name]) rest records) :
      Entered raw sources ((name, o) :: rest) (recordWith name o types :: records)

theorem keys_tableOf (sources : List String) :
    OrderedMap.keys (tableOf sources) = sources.map typeName := by
  rw [OrderedMap.keys, tableOf, List.map_map]
  change sources.zipIdx.map (typeName ∘ Prod.fst) = _
  rw [← List.map_map, List.zipIdx_map_fst]

theorem tableOf_append (sources others : List String) :
    tableOf (sources ++ others) =
      tableOf sources ++ (others.zipIdx sources.length).map fun p => (typeName p.1, ⟨p.2⟩) := by
  rw [tableOf, List.zipIdx_append, List.map_append, Nat.zero_add]
  rfl

theorem enter_ok_iff {sources : List String} {records : List RecordType}
    (length : records.length = sources.length) {name : String} {record : RecordType}
    (named : record.name = typeName name) {out : RecordId × Registry} :
    (registryOf sources records).enter name record = .ok out ↔
      typeName name ∉ sources.map typeName ∧
        out = (⟨records.length⟩, registryOf (sources ++ [name]) (records ++ [record])) := by
  have hid : (registryOf sources records).idOf? record.name =
      OrderedMap.get? (tableOf sources) (typeName name) := by
    rw [named]
    rfl
  rw [enter, hid, ← keys_tableOf, ← OrderedMap.get?_eq_none_iff]
  cases hget : OrderedMap.get? (tableOf sources) (typeName name) with
  | some id => simp
  | none =>
    have hinsert : OrderedMap.insert (tableOf sources) record.name ⟨records.length⟩ =
        tableOf (sources ++ [name]) := by
      rw [named, OrderedMap.insert_eq_append ((OrderedMap.get?_eq_none_iff _ _).1 hget),
        tableOf_append, length]
      rfl
    simp only [registryOf, hinsert, Except.ok.injEq, true_and]
    exact eq_comm

theorem modify_length_append {α : Type} (before : List α) (a : α) (after : List α) (f : α → α) :
    (before ++ a :: after).modify before.length f = before ++ f a :: after := by
  induction before with
  | nil => rfl
  | cons b before ih =>
    rw [List.cons_append, List.length_cons, List.modify_succ_cons, ih, List.cons_append]

theorem record?_registryOf (sources : List String) (before : List RecordType) (record : RecordType)
    (after : List RecordType) :
    (registryOf sources (before ++ record :: after)).record? ⟨before.length⟩ = some record := by
  simp [record?, registryOf]

theorem modify_registryOf (sources : List String) (before : List RecordType) (record : RecordType)
    (after : List RecordType) (f : RecordType → RecordType) :
    (registryOf sources (before ++ record :: after)).modify ⟨before.length⟩ f =
      registryOf sources (before ++ f record :: after) := by
  rw [modify, registryOf, modify_length_append]
  rfl

theorem enterSchemas_object_ok_iff {name : String} {schema : Schema} {o : SchemaObject Schema}
    (inline : schema.inline? = some o) (object : o.keyword? = some "object")
    {rest : List (String × Schema)} {sources : List String} {records : List RecordType}
    (length : records.length = sources.length) {out : Registry × List Pending} :
    (enterSchemas doc ((name, schema) :: rest) (registryOf sources records)).outcome = .ok out ↔
      typeName name ∉ sources.map typeName ∧ (o.properties.map (localName ·.1)).Nodup ∧
        ∃ types, List.Forall₂ (fun p ty => HasType doc.raw (tableOf (sources ++ [name])) p.2 ty)
          o.properties types ∧
          ∃ out', (enterSchemas doc rest (registryOf (sources ++ [name])
              (records ++ [recordWith name o types]))).outcome = .ok out' ∧
            out = (out'.1, pendingFields ⟨sources.length⟩ (componentSchemas ++ name) 0
              o.properties ++ out'.2) := by
  have hfound := record?_registryOf (sources ++ [name]) records
    { name := typeName name, description := o.description } []
  rw [← length]
  simp only [enterSchemas, inline, object, if_true, Logged.outcome_bind_eq_ok_iff,
    Logged.outcome_ofExcept]
  constructor
  · rintro ⟨⟨id, r₁⟩, henter, ⟨r₂, pending⟩, hfields, out', hrest, hout⟩
    obtain ⟨hnew, he⟩ := (enter_ok_iff length rfl).1 henter
    cases he
    obtain ⟨types, htypes, hnames, he⟩ :=
      (enterFields_ok_iff hfound (by simp [Named]) List.nodup_nil).1 hfields
    cases he
    cases hout
    rw [modify_registryOf] at hrest
    exact ⟨hnew, hnames, types, htypes, out', hrest, rfl⟩
  · rintro ⟨hnew, hnames, types, htypes, out', hrest, rfl⟩
    refine ⟨_, (enter_ok_iff length rfl).2 ⟨hnew, rfl⟩, _, (enterFields_ok_iff hfound
      (by simp [Named]) List.nodup_nil).2 ⟨types, htypes, hnames, rfl⟩, out', ?_, rfl⟩
    rw [modify_registryOf]
    exact hrest

theorem enterSchemas_ok_iff {schemas : List (String × Schema)} {sources : List String}
    {records : List RecordType} (length : records.length = sources.length)
    {out : Registry × List Pending} :
    (enterSchemas doc schemas (registryOf sources records)).outcome = .ok out ↔
      ∃ entered, Entered doc.raw sources (objects schemas) entered ∧
        out = (registryOf (sources ++ (objects schemas).map (·.1)) (records ++ entered),
          pendingObjects sources.length (objects schemas)) := by
  induction schemas generalizing sources records out with
  | nil =>
    simp only [enterSchemas, objects, Logged.outcome_pure, Except.ok.injEq, List.map_nil,
      List.append_nil, pendingObjects]
    constructor
    · rintro rfl
      exact ⟨[], .nil _, by rw [List.append_nil]⟩
    · rintro ⟨_, h, rfl⟩
      cases h
      rw [List.append_nil]
  | cons p rest ih =>
    obtain ⟨name, schema⟩ := p
    cases hinline : schema.inline? with
    | none =>
      simp only [enterSchemas, objects, hinline]
      exact ih length
    | some o =>
      by_cases hobject : o.keyword? = some "object"
      · have hlength : ∀ record : RecordType,
            (records ++ [record]).length = (sources ++ [name]).length := by
          simp [length]
        have hobjects : objects ((name, schema) :: rest) = (name, o) :: objects rest := by
          simp only [objects, hinline, hobject, if_true]
        have hout : ∀ (record : RecordType) (entered : List RecordType),
            (registryOf (sources ++ [name] ++ (objects rest).map (·.1))
                (records ++ [record] ++ entered),
              pendingFields ⟨sources.length⟩ (componentSchemas ++ name) 0 o.properties ++
                pendingObjects (sources ++ [name]).length (objects rest)) =
            (registryOf (sources ++ ((name, o) :: objects rest).map (·.1))
                (records ++ record :: entered),
              pendingObjects sources.length ((name, o) :: objects rest)) := by
          simp [pendingObjects]
        rw [enterSchemas_object_ok_iff hinline hobject length, hobjects]
        constructor
        · rintro ⟨hnew, hnames, types, htypes, out', hrest, rfl⟩
          obtain ⟨entered, hentered, rfl⟩ := (ih (hlength _)).1 hrest
          exact ⟨_, .cons hnew hnames htypes hentered, hout _ _⟩
        · rintro ⟨_, hentered, rfl⟩
          cases hentered with
          | @cons _ _ _ types _ entered hnew hnames htypes hentered =>
            exact ⟨hnew, hnames, types, htypes, _, (ih (hlength _)).2 ⟨entered, hentered, rfl⟩,
              (hout _ _).symm⟩
      · simp only [enterSchemas, objects, hinline, hobject, if_false]
        exact ih length

end Registry

end OpenApi
