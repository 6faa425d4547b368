import OpenApi.Proofs.Registry.Passes

/-!
# The second pass

It finds the type of every field again with all the names known. No type of the first pass is left.
-/

namespace OpenApi

namespace Registry

open Resolution

variable {doc : Document} {names : RecordNames} {r : Registry} {id : RecordId} {replaced : Nat}

/-- Whether a field has another type than the one that is found again. -/
def isStale (r : Registry) (p : Pending) (ty : DataType) : Bool :=
  (((r.record? p.record).bind (·.fields[p.place]?)).map (·.type)).any (!·.same ty)

theorem settleFields_cons_ok_iff {p : Pending} {rest : List Pending} {out : Registry × Nat} :
    (settleFields doc names (p :: rest) r replaced).outcome = .ok out ↔
      ∃ ty, HasType doc.raw names p.schema ty ∧
        (settleFields doc names rest
          (if isStale r p ty then r.modify p.record (·.setFieldType p.place ty) else r)
          (if isStale r p ty then replaced + 1 else replaced)).outcome = .ok out := by
  simp only [settleFields, Logged.outcome_bind_eq_ok_iff, resolve_ok_iff]
  apply exists_congr
  intro ty
  apply and_congr_right
  intro _
  change (if isStale r p ty = true then _ else _ : Resolved (Registry × Nat)).outcome = _ ↔ _
  by_cases hstale : isStale r p ty = true
  · rw [if_pos hstale, if_pos hstale, if_pos hstale, Logged.outcome_bind_of_ok rfl]
  · rw [if_neg hstale, if_neg hstale, if_neg hstale]

theorem settleFields_ok_iff {pending : List Pending} :
    (∃ out, (settleFields doc names pending r replaced).outcome = .ok out) ↔
      ∀ p ∈ pending, ∃ ty, HasType doc.raw names p.schema ty := by
  induction pending generalizing r replaced with
  | nil => exact ⟨fun _ => by simp, fun _ => ⟨_, rfl⟩⟩
  | cons p rest ih =>
    rw [List.forall_mem_cons]
    constructor
    · rintro ⟨out, h⟩
      obtain ⟨ty, hty, h⟩ := settleFields_cons_ok_iff.1 h
      exact ⟨⟨ty, hty⟩, ih.1 ⟨out, h⟩⟩
    · rintro ⟨⟨ty, hty⟩, hrest⟩
      obtain ⟨out, hout⟩ := ih.2 hrest
      exact ⟨out, settleFields_cons_ok_iff.2 ⟨ty, hty, hout⟩⟩

/-- The second pass keeps what holds when one field after the other takes the type of its schema. -/
theorem settleFields_keeps {P : Registry → Prop}
    (step : ∀ r (p : Pending) ty, HasType doc.raw names p.schema ty → P r →
      P (r.modify p.record (·.setFieldType p.place ty)))
    {pending : List Pending} {out : Registry × Nat} (holds : P r)
    (h : (settleFields doc names pending r replaced).outcome = .ok out) : P out.1 := by
  induction pending generalizing r replaced with
  | nil =>
    cases h
    exact holds
  | cons p rest ih =>
    obtain ⟨ty, hty, h⟩ := settleFields_cons_ok_iff.1 h
    by_cases hstale : isStale r p ty = true
    · rw [if_pos hstale] at h
      exact ih (step r p ty hty holds) h
    · rw [if_neg hstale] at h
      exact ih holds h

/-- A type that is kept if it is the same as the one that is found again is that one. -/
def Settles (raw : Json) (names : RecordNames) (s : Schema) (old : DataType) : Prop :=
  ∀ ty, HasType raw names s ty → old.same ty = true → old = ty

theorem settled_field {p : Pending} {record : RecordType} {before after : List Field}
    {property : String} {old ty : DataType} (found : r.record? p.record = some record)
    (fields : record.fields = before ++ fieldOf property p.schema old :: after)
    (length : before.length = p.place) (kept : old.same ty = true → old = ty) :
    (if isStale r p ty then r.modify p.record (·.setFieldType p.place ty) else r) =
      r.modify p.record fun _ =>
        { record with fields := before ++ fieldOf property p.schema ty :: after } := by
  have hstale : isStale r p ty = !old.same ty := by
    rw [isStale, found, Option.bind_some, fields, ← length,
      List.getElem?_append_right (Nat.le_refl _), Nat.sub_self]
    rfl
  have hset : record.setFieldType p.place ty =
      { record with fields := before ++ fieldOf property p.schema ty :: after } := by
    rw [RecordType.setFieldType, fields, ← length, modify_length_append]
    rfl
  by_cases hsame : old.same ty = true
  · obtain rfl := kept hsame
    rw [hstale, hsame, ← fields]
    exact (modify_eq_self found).symm
  · rw [hstale, if_pos (by simpa using hsame), modify_of_found found, hset]

theorem settleFields_pendingFields {properties : List (String × Schema)} {location : String}
    {place : Nat} {record : RecordType} {before : List Field} {olds : List DataType}
    {rest : List Pending} {out : Registry × Nat} (found : r.record? id = some record)
    (fields : record.fields =
      before ++ List.zipWith (fun p ty => fieldOf p.1 p.2 ty) properties olds)
    (length : before.length = place)
    (settles : List.Forall₂ (fun p old => Settles doc.raw names p.2 old) properties olds)
    (h : (settleFields doc names (pendingFields id location place properties ++ rest) r
      replaced).outcome = .ok out) :
    ∃ types replaced', List.Forall₂ (fun p ty => HasType doc.raw names p.2 ty) properties types ∧
      (settleFields doc names rest (r.modify id fun _ => { record with
        fields := before ++ List.zipWith (fun p ty => fieldOf p.1 p.2 ty) properties types })
        replaced').outcome = .ok out := by
  induction properties generalizing r place record before olds replaced with
  | nil =>
    cases settles
    refine ⟨[], replaced, .nil, ?_⟩
    rw [List.zipWith_nil_left, ← List.zipWith_nil_left, ← fields, modify_eq_self found]
    exact h
  | cons p properties ih =>
    obtain ⟨property, schema⟩ := p
    cases settles with
    | @cons _ old _ olds hold settles =>
      rw [pendingFields, List.cons_append] at h
      obtain ⟨ty, hty, h⟩ := settleFields_cons_ok_iff.1 h
      rw [settled_field found fields length (hold ty hty)] at h
      have hfields : before ++ fieldOf property schema ty ::
            List.zipWith (fun p ty => fieldOf p.1 p.2 ty) properties olds =
          before ++ [fieldOf property schema ty] ++
            List.zipWith (fun p ty => fieldOf p.1 p.2 ty) properties olds := by
        simp
      obtain ⟨types, replaced', htypes, h⟩ :=
        ih (record?_modify found _) hfields (by simp [length]) settles h
      refine ⟨ty :: types, replaced', .cons hty htypes, ?_⟩
      rw [modify_modify] at h
      simpa using h

/-! ## All the records -/

/-- The record type of an object schema, the types of whose properties are as given. -/
def TypedBy (typed : Schema → DataType → Prop) (object : String × SchemaObject Schema)
    (record : RecordType) : Prop :=
  ∃ types, List.Forall₂ (fun p ty => typed p.2 ty) object.2.properties types ∧
    record = recordWith object.1 object.2 types

theorem settleFields_pendingObjects {objects : List (String × SchemaObject Schema)}
    {sources : List String} {before olds : List RecordType} {out : Registry × Nat}
    (settles : List.Forall₂ (TypedBy (Settles doc.raw names)) objects olds)
    (h : (settleFields doc names (pendingObjects before.length objects)
      (registryOf sources (before ++ olds)) replaced).outcome = .ok out) :
    ∃ records, List.Forall₂ (TypedBy (HasType doc.raw names)) objects records ∧
      out.1 = registryOf sources (before ++ records) := by
  induction objects generalizing before olds replaced with
  | nil =>
    cases settles
    cases h
    exact ⟨[], .nil, rfl⟩
  | cons p rest ih =>
    obtain ⟨name, o⟩ := p
    cases settles with
    | @cons _ old _ olds hold settles =>
      obtain ⟨types, htypes, rfl⟩ := hold
      have hfound := record?_registryOf sources before (recordWith name o types) olds
      have hfields : (recordWith name o types).fields =
          [] ++ List.zipWith (fun p ty => fieldOf p.1 p.2 ty) o.properties types := rfl
      rw [pendingObjects] at h
      obtain ⟨types', replaced', htypes', h⟩ :=
        settleFields_pendingFields hfound hfields rfl htypes h
      rw [modify_registryOf, List.append_cons, show before.length + 1 =
        (before ++ [recordWith name o types']).length by simp] at h
      obtain ⟨records, hrecords, hout⟩ := ih settles h
      refine ⟨recordWith name o types' :: records, .cons ⟨types', htypes', rfl⟩ hrecords, ?_⟩
      rw [hout, List.append_assoc, List.singleton_append]

theorem typedBy_of_entered {raw : Json} {sources : List String}
    {objects : List (String × SchemaObject Schema)} {records : List RecordType}
    (h : Entered raw sources objects records) :
    List.Forall₂ (TypedBy fun s ty => ∃ some others, sources ++ objects.map (·.1) = some ++ others ∧
      HasType raw (tableOf some) s ty) objects records := by
  induction h with
  | nil sources => exact .nil
  | @cons sources name o types rest records _ _ typed _ ih =>
    rw [List.map_cons, List.append_cons]
    refine .cons ⟨types, ?_, rfl⟩ ih
    exact typed.imp fun _ _ hty => ⟨_, _, rfl, hty⟩

theorem recordOf?_append {sources others : List String} {path : String} {id : RecordId}
    (h : recordOf? (tableOf sources) path = some id) :
    recordOf? (tableOf (sources ++ others)) path = some id := by
  obtain ⟨name, hname, hid⟩ := Option.bind_eq_some_iff.1 h
  rw [recordOf?, hname, Option.bind_some, tableOf_append, OrderedMap.get?_append, hid]
  rfl

theorem settles_of_hasType {raw : Json} (once : raw.KeysOnce) {table : RecordNames} {s : Schema}
    {old : DataType} (mappings : s.MappingsOnce)
    (grows : ∀ path id, recordOf? table path = some id → recordOf? names path = some id)
    (h : HasType raw table s old) : Settles raw names s old := by
  intro ty hty hsame
  obtain ⟨ty', hty', hrefines⟩ := h.grow grows
  obtain rfl := hty'.unique hty
  exact hrefines.eq_of_same (hty.tagsOnce once mappings) hsame

/-! ## The registry of a document -/

theorem checkNames_ok_iff {seen : OrderedMap String String} {names : List String} :
    checkNames seen names = .ok () ↔
      (names.map typeName).Nodup ∧ ∀ name ∈ names, typeName name ∉ OrderedMap.keys seen := by
  induction names generalizing seen with
  | nil => simp [checkNames]
  | cons name rest ih =>
    rw [checkNames, List.map_cons, List.nodup_cons, List.forall_mem_cons]
    cases hseen : OrderedMap.get? seen (typeName name) with
    | some first =>
      have hmem : typeName name ∈ OrderedMap.keys seen := by
        rw [← OrderedMap.isSome_get?_iff, hseen]
        rfl
      simp [hmem]
    | none =>
      have hnew := (OrderedMap.get?_eq_none_iff _ _).1 hseen
      simp only [ih, OrderedMap.keys_insert, if_neg hnew, List.mem_append, List.mem_singleton,
        List.mem_map]
      constructor
      · rintro ⟨hnodup, hall⟩
        refine ⟨⟨?_, hnodup⟩, hnew, fun other hother => fun hmem => hall other hother (.inl hmem)⟩
        rintro ⟨other, hother, he⟩
        exact hall other hother (.inr he)
      · rintro ⟨⟨hhead, hnodup⟩, _, hall⟩
        refine ⟨hnodup, ?_⟩
        rintro other hother (hmem | he)
        · exact hall other hother hmem
        · exact hhead ⟨other, hother, he⟩

/-- The component schemas of a document that become records. -/
def objectsOf (doc : Document) : List (String × SchemaObject Schema) :=
  match doc.description.components with
  | some components => objects components.schemas
  | none => []

/-- The names of the components that become records. -/
def sourcesOf (doc : Document) : List String :=
  (objectsOf doc).map (·.1)

/-- The component names of a document have different type names. -/
def NamesDiffer (doc : Document) : Prop :=
  ∀ components, doc.description.components = some components →
    ((OrderedMap.keys components.schemas).map typeName).Nodup

theorem objects_sublist (schemas : List (String × Schema)) :
    ((objects schemas).map (·.1)).Sublist (OrderedMap.keys schemas) := by
  induction schemas with
  | nil => exact .slnil
  | cons p rest ih =>
    obtain ⟨name, schema⟩ := p
    rw [OrderedMap.keys, List.map_cons, objects]
    split
    · split
      · exact ih.cons_cons _
      · exact ih.cons _
    · exact ih.cons _

theorem nodup_sourcesOf {doc : Document} (h : NamesDiffer doc) :
    ((sourcesOf doc).map typeName).Nodup := by
  unfold sourcesOf objectsOf
  cases hcomponents : doc.description.components with
  | none => exact List.nodup_nil
  | some components => exact (h components hcomponents).sublist ((objects_sublist _).map _)

theorem build_ok_iff_passes {r : Registry} :
    (build doc).outcome = .ok r ↔
      NamesDiffer doc ∧ ∃ entered, Entered doc.raw [] (objectsOf doc) entered ∧
        ∃ replaced, (settleFields doc (tableOf (sourcesOf doc)) (pendingObjects 0 (objectsOf doc))
          (registryOf (sourcesOf doc) entered) 0).outcome = .ok (r, replaced) := by
  unfold build NamesDiffer sourcesOf objectsOf
  cases hcomponents : doc.description.components with
  | none =>
    constructor
    · intro h
      cases h
      exact ⟨by simp, [], .nil [], 0, rfl⟩
    · rintro ⟨_, _, hentered, _, h⟩
      cases hentered
      cases h
      rfl
  | some components =>
    have hnames : checkNames [] (OrderedMap.keys components.schemas) = .ok () ↔
        ((OrderedMap.keys components.schemas).map typeName).Nodup := by
      rw [checkNames_ok_iff]
      exact ⟨fun h => h.1, fun h => ⟨h, fun _ _ => List.not_mem_nil⟩⟩
    have hempty : empty = registryOf [] [] := rfl
    simp only [Logged.outcome_bind_eq_ok_iff, Logged.outcome_ofExcept, hempty, Option.some.injEq,
      forall_eq']
    constructor
    · rintro ⟨_, hcheck, ⟨r₁, pending⟩, henter, _, _, ⟨r₂, replaced⟩, hsettle, _, _, hr⟩
      obtain ⟨entered, hentered, he⟩ := (enterSchemas_ok_iff rfl).1 henter
      cases he
      cases hr
      exact ⟨hnames.1 hcheck, entered, hentered, replaced, hsettle⟩
    · rintro ⟨hnodup, entered, hentered, replaced, hsettle⟩
      exact ⟨_, hnames.2 hnodup, _, (enterSchemas_ok_iff rfl).2 ⟨entered, hentered, rfl⟩, _, rfl,
        _, hsettle, _, rfl, rfl⟩

/-- After the second pass every property has the type that its schema has under the whole table. -/
theorem build_settled {r : Registry} (once : doc.raw.KeysOnce)
    (mappings : ∀ object ∈ objectsOf doc, ∀ p ∈ object.2.properties, p.2.MappingsOnce)
    (built : (build doc).outcome = .ok r) :
    ∃ records, List.Forall₂ (TypedBy (HasType doc.raw (tableOf (sourcesOf doc)))) (objectsOf doc)
        records ∧
      r = registryOf (sourcesOf doc) records := by
  obtain ⟨_, entered, hentered, replaced, hsettle⟩ := build_ok_iff_passes.1 built
  have hsettles : List.Forall₂ (TypedBy (Settles doc.raw (tableOf (sourcesOf doc))))
      (objectsOf doc) entered := by
    refine ((List.forall₂_and_left _ _).2 ⟨mappings, typedBy_of_entered hentered⟩).imp ?_
    rintro ⟨name, o⟩ record ⟨honce, types, htypes, rfl⟩
    refine ⟨types, ((List.forall₂_and_left _ _).2 ⟨honce, htypes⟩).imp ?_, rfl⟩
    rintro p old ⟨hp, some, others, hsources, hold⟩
    rw [List.nil_append] at hsources
    have hgrows : ∀ path id, recordOf? (tableOf some) path = .some id →
        recordOf? (tableOf (sourcesOf doc)) path = .some id := by
      intro path id h
      rw [sourcesOf, hsources]
      exact recordOf?_append h
    exact settles_of_hasType once hp hgrows hold
  have hstart : (settleFields doc (tableOf (sourcesOf doc))
      (pendingObjects ([] : List RecordType).length (objectsOf doc))
      (registryOf (sourcesOf doc) ([] ++ entered)) 0).outcome = .ok (r, replaced) := hsettle
  exact settleFields_pendingObjects hsettles hstart

end Registry

end OpenApi
