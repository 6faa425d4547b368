import OpenApi.Proofs.Registry.History

/-!
# What stays consistent

A record type has each name once and marks only fields that it has. In a registry the records, the
table of their names and the list of their sources go together.
-/

namespace OpenApi

/-! ## Record types -/

namespace RecordType

/-- Each name stands once, and what is required or nullable is a field. -/
structure Consistent (record : RecordType) : Prop where
  once : record.NamesOnce
  /-- The required names are local names of fields, each once and in their order. -/
  required : record.required.Sublist (record.fields.map (·.localName))
  nullable : record.nullable.Sublist (record.fields.map (·.localName))

variable {record record' : RecordType} {f : Field} {required nullable : Bool}

theorem consistent_new (name : String) (description : Option String) :
    ({ name, description } : RecordType).Consistent :=
  ⟨⟨List.nodup_nil, List.nodup_nil⟩, List.nil_sublist _, List.nil_sublist _⟩

theorem sublist_of_marked {marked names : List String} (h : marked.Sublist names) (mark : Bool)
    (name : String) :
    (if mark then marked ++ [name] else marked).Sublist (names ++ [name]) := by
  split
  · exact h.append (List.Sublist.refl _)
  · exact h.trans (List.sublist_append_left _ _)

theorem addField_eq_ok_iff : record.addField f required nullable = .ok record' ↔
    record.clash? f = none ∧ record' = { record with
      fields := record.fields ++ [f]
      required := if required then record.required ++ [f.localName] else record.required
      nullable := if nullable then record.nullable ++ [f.localName] else record.nullable } := by
  unfold addField
  cases record.clash? f with
  | some name => simp
  | none =>
    simp only [Except.ok.injEq, true_and]
    exact eq_comm

theorem exists_addField_iff (record : RecordType) (f : Field) (required nullable : Bool) :
    (∃ record', record.addField f required nullable = .ok record') ↔
      ∀ g ∈ record.fields, g.localName ≠ f.localName ∧ g.wireName ≠ f.wireName := by
  simp only [addField_eq_ok_iff, exists_and_left, exists_eq, and_true]
  exact clash?_eq_none_iff

theorem Consistent.addField (h : record.Consistent)
    (added : record.addField f required nullable = .ok record') : record'.Consistent := by
  have honce := namesOnce_addField h.once added
  obtain ⟨_, rfl⟩ := addField_eq_ok_iff.1 added
  refine ⟨honce, ?_, ?_⟩
  all_goals rw [List.map_append, List.map_singleton]
  · exact sublist_of_marked h.required _ _
  · exact sublist_of_marked h.nullable _ _

theorem Consistent.setFieldType (h : record.Consistent) (place : Nat) (ty : DataType) :
    (record.setFieldType place ty).Consistent := by
  have hnames : ∀ name : Field → String, (∀ f, name { f with type := ty } = name f) →
      (record.setFieldType place ty).fields.map name = record.fields.map name :=
    fun name hname => Registry.map_modify_of_eq _ name hname record.fields place
  have hlocal := hnames Field.localName fun _ => rfl
  refine ⟨⟨?_, ?_⟩, ?_, ?_⟩
  · rw [hlocal]
    exact h.once.1
  · rw [hnames Field.wireName fun _ => rfl]
    exact h.once.2
  · rw [hlocal]
    exact h.required
  · rw [hlocal]
    exact h.nullable

end RecordType

namespace Registry

/-! ## Registries -/

/-- Each name with its place in the list. -/
def placesOf (names : List String) : RecordNames :=
  names.zipIdx.map fun p => (p.1, ⟨p.2⟩)

theorem keys_placesOf (names : List String) : OrderedMap.keys (placesOf names) = names := by
  rw [OrderedMap.keys, placesOf, List.map_map]
  exact List.zipIdx_map_fst 0 names

theorem get?_placesOf {names : List String} (once : names.Nodup) {name : String} {id : RecordId} :
    OrderedMap.get? (placesOf names) name = some id ↔ names[id.index]? = some name := by
  rw [← keys_placesOf names] at once
  rw [OrderedMap.get?_eq_some_iff once, placesOf, List.mem_map]
  constructor
  · rintro ⟨⟨_, i⟩, hi, he⟩
    cases he
    exact List.mem_zipIdx_iff_getElem?.1 hi
  · intro hi
    exact ⟨(name, id.index), List.mem_zipIdx_iff_getElem?.2 hi, rfl⟩

theorem tableOf_eq_placesOf (sources : List String) :
    tableOf sources = placesOf (sources.map typeName) := by
  rw [tableOf, placesOf, List.zipIdx_map, List.map_map]
  rfl

/-- The records, the table of their names and the list of their sources go together. -/
structure Consistent (r : Registry) : Prop where
  table : r.names = placesOf (r.records.map (·.name))
  sources : r.sources.length = r.records.length
  once : (r.records.map (·.name)).Nodup
  records : ∀ record ∈ r.records, record.Consistent

theorem consistent_empty : Consistent .empty :=
  ⟨rfl, rfl, List.nodup_nil, by simp [empty]⟩

section Consistent

variable {r r' : Registry} {source : String} {record : RecordType} {id : RecordId}

theorem Consistent.names_length (h : r.Consistent) : r.names.length = r.records.length := by
  rw [h.table, placesOf, List.length_map, List.length_zipIdx, List.length_map]

theorem Consistent.idOf?_eq_some_iff (h : r.Consistent) {name : String} :
    r.idOf? name = some id ↔ ∃ record, r.record? id = some record ∧ record.name = name := by
  rw [idOf?, h.table, get?_placesOf h.once, List.getElem?_map, Option.map_eq_some_iff]
  rfl

theorem Consistent.idOf?_eq_none_iff (h : r.Consistent) {name : String} :
    r.idOf? name = none ↔ name ∉ r.records.map (·.name) := by
  rw [idOf?, OrderedMap.get?_eq_none_iff, h.table, keys_placesOf]

theorem enter_eq_ok_iff : r.enter source record = .ok (id, r') ↔
    r.idOf? record.name = none ∧ id = ⟨r.records.length⟩ ∧
      r' = ⟨r.records ++ [record], r.names ++ [(record.name, id)], r.sources ++ [source]⟩ := by
  unfold enter
  cases hname : r.idOf? record.name with
  | some other => simp
  | none =>
    have hnew := (OrderedMap.get?_eq_none_iff _ _).1 hname
    simp only [OrderedMap.insert_eq_append hnew, Except.ok.injEq, Prod.mk.injEq, true_and]
    constructor
    · rintro ⟨rfl, rfl⟩
      exact ⟨rfl, rfl⟩
    · rintro ⟨rfl, rfl⟩
      exact ⟨rfl, rfl⟩

theorem Consistent.exists_insert_iff (h : r.Consistent) (record : RecordType) :
    (∃ out, r.insert record = .ok out) ↔ record.name ∉ r.records.map (·.name) := by
  rw [← h.idOf?_eq_none_iff, insert]
  constructor
  · rintro ⟨⟨id, r'⟩, entered⟩
    exact (enter_eq_ok_iff.1 entered).1
  · exact fun new => ⟨(_, _), enter_eq_ok_iff.2 ⟨new, rfl, rfl⟩⟩

theorem Consistent.enter (h : r.Consistent) (consistent : record.Consistent)
    (entered : r.enter source record = .ok (id, r')) : r'.Consistent := by
  obtain ⟨hnew, rfl, rfl⟩ := enter_eq_ok_iff.1 entered
  have hfree := h.idOf?_eq_none_iff.1 hnew
  refine ⟨?table, ?sources, ?once, ?records⟩
  case table =>
    rw [h.table, List.map_append, placesOf, placesOf, List.zipIdx_append, List.map_append,
      List.length_map, Nat.zero_add]
    rfl
  case sources =>
    rw [List.length_append, List.length_append, h.sources, List.length_singleton,
      List.length_singleton]
  case once =>
    exact RecordType.nodup_map_concat h.once fun other mem same =>
      hfree (List.mem_map.2 ⟨other, mem, same⟩)
  case records =>
    rw [List.forall_mem_append, List.forall_mem_singleton]
    exact ⟨h.records, consistent⟩

theorem Consistent.modify (h : r.Consistent) {f : RecordType → RecordType}
    (same : ∀ record, (f record).name = record.name)
    (keeps : ∀ record, record.Consistent → (f record).Consistent) (id : RecordId) :
    (r.modify id f).Consistent := by
  have hnames : (r.records.modify id.index f).map (·.name) = r.records.map (·.name) :=
    map_modify_of_eq f _ same r.records id.index
  refine ⟨?table, ?sources, ?once, ?records⟩
  case table => exact h.table.trans (congrArg placesOf hnames.symm)
  case sources => exact h.sources.trans (List.length_modify _ _ _).symm
  case once => exact hnames.symm ▸ h.once
  case records =>
    intro record mem
    obtain ⟨old, hold, rfl | rfl⟩ := mem_modify mem
    · exact h.records _ hold
    · exact keeps old (h.records old hold)

end Consistent

/-! ## The registry of a document -/

theorem consistent_recordWith {name : String} {o : SchemaObject Schema} {types : List DataType}
    (length : o.properties.length = types.length)
    (once : (recordWith name o types).NamesOnce) : (recordWith name o types).Consistent := by
  have hlocal : (recordWith name o types).fields.map (·.localName) =
      o.properties.map (localName ·.1) := map_localName_zipWith length
  refine ⟨once, ?_, ?_⟩
  all_goals
    rw [hlocal]
    exact List.filter_sublist.map _

theorem consistent_of_entered {raw : Json} {sources : List String}
    {objects : List (String × SchemaObject Schema)} {records : List RecordType}
    (h : Entered raw sources objects records) : ∀ record ∈ records, record.Consistent := by
  have hsound := (sound_of_entered h).2
  induction h with
  | nil sources => simp
  | @cons sources name o types rest records _ _ typed others ih =>
    rw [List.forall_mem_cons] at hsound ⊢
    refine ⟨consistent_recordWith typed.length_eq hsound.1.once, ih (sound_of_entered others).2⟩

/-- The registry of any document is consistent: it is so after the first pass, and the second only
gives fields other types. -/
theorem consistent_of_build {doc : Document} {r : Registry} (built : (build doc).outcome = .ok r) :
    r.Consistent := by
  obtain ⟨hdiffer, entered, hentered, replaced, hsettle⟩ := build_ok_iff_passes.1 built
  have hnames : entered.map (·.name) = (sourcesOf doc).map typeName := by
    rw [(sound_of_entered hentered).1, sourcesOf, List.map_map]
    rfl
  have hfirst : (registryOf (sourcesOf doc) entered).Consistent := by
    refine ⟨?table, ?sources, ?once, consistent_of_entered hentered⟩
    case table => exact (tableOf_eq_placesOf _).trans (congrArg placesOf hnames.symm)
    case sources =>
      have hlength := congrArg List.length hnames
      rw [List.length_map, List.length_map] at hlength
      exact hlength.symm
    case once => exact hnames.symm ▸ nodup_sourcesOf hdiffer
  refine settleFields_keeps (P := Consistent) (fun r p ty _ h => ?_) hfirst hsettle
  exact h.modify (f := (·.setFieldType p.place ty)) (fun _ => rfl)
    (fun _ h => h.setFieldType p.place ty) p.record

end Registry

end OpenApi
