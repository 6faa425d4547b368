import OpenApi.Proofs.Registry.Reordered

/-!
# The documents that have a registry

The first pass asks more than the second: a property must have a type already when the records after
its own are not known yet.
-/

namespace OpenApi.Registry

open Json.Typed (toOption_eq_some_iff)
open Resolution

variable {doc : Document} {raw : Json} {sources : List String}
  {objects : List (String × SchemaObject Schema)}

/-- The properties of each object schema have different local names, and each has a type under the
table of the records up to its own. -/
def Enterable (raw : Json) (sources : List String) (objects : List (String × SchemaObject Schema)) :
    Prop :=
  ∀ i name o, objects[i]? = some (name, o) → (o.properties.map (localName ·.1)).Nodup ∧
    ∀ p ∈ o.properties,
      ∃ ty, HasType raw (tableOf (sources ++ (objects.map (·.1)).take (i + 1))) p.2 ty

theorem enterable_cons_iff {name : String} {o : SchemaObject Schema} :
    Enterable raw sources ((name, o) :: objects) ↔
      ((o.properties.map (localName ·.1)).Nodup ∧
        ∀ p ∈ o.properties, ∃ ty, HasType raw (tableOf (sources ++ [name])) p.2 ty) ∧
      Enterable raw (sources ++ [name]) objects := by
  unfold Enterable
  constructor
  · intro h
    refine ⟨h 0 name o rfl, ?_⟩
    intro i name' o' ho'
    have hi := h (i + 1) name' o' ho'
    rwa [List.map_cons, List.take_succ_cons, List.append_cons] at hi
  · rintro ⟨hfirst, hrest⟩ i name' o' ho'
    cases i with
    | zero =>
      cases ho'
      exact hfirst
    | succ i =>
      rw [List.map_cons, List.take_succ_cons, List.append_cons]
      exact hrest i name' o' ho'

theorem exists_forall₂_iff {α β : Type} {R : α → β → Prop} {l : List α} :
    (∃ l', List.Forall₂ R l l') ↔ ∀ a ∈ l, ∃ b, R a b := by
  induction l with
  | nil => exact ⟨fun _ => by simp, fun _ => ⟨[], .nil⟩⟩
  | cons a rest ih =>
    rw [List.forall_mem_cons, ← ih]
    constructor
    · rintro ⟨_, h⟩
      cases h with
      | cons hb hrest => exact ⟨⟨_, hb⟩, _, hrest⟩
    · rintro ⟨⟨b, hb⟩, l', hrest⟩
      exact ⟨b :: l', .cons hb hrest⟩

theorem exists_entered_iff (nodup : ((sources ++ objects.map (·.1)).map typeName).Nodup) :
    (∃ records, Entered raw sources objects records) ↔ Enterable raw sources objects := by
  induction objects generalizing sources with
  | nil =>
    refine ⟨fun _ i name o ho => ?_, fun _ => ⟨[], .nil sources⟩⟩
    cases ho
  | cons object rest ih =>
    obtain ⟨name, o⟩ := object
    have hrest : ((sources ++ [name] ++ rest.map (·.1)).map typeName).Nodup := by
      rw [← List.append_cons]
      exact nodup
    have hnew : typeName name ∉ sources.map typeName := by
      rw [List.map_append, List.nodup_append] at nodup
      intro hmem
      exact nodup.2.2 _ hmem _ List.mem_cons_self rfl
    rw [enterable_cons_iff, ← ih hrest]
    rw [← exists_forall₂_iff]
    constructor
    · rintro ⟨_, hentered⟩
      cases hentered with
      | cons _ names typed others => exact ⟨⟨names, _, typed⟩, _, others⟩
    · rintro ⟨⟨hnames, types, htypes⟩, records, hentered⟩
      exact ⟨_, .cons hnew hnames htypes hentered⟩

theorem mem_pendingFields {id : RecordId} {location : String} {place : Nat}
    {properties : List (String × Schema)} {p : Pending}
    (h : p ∈ pendingFields id location place properties) :
    ∃ property ∈ properties, property.2 = p.schema := by
  induction properties generalizing place with
  | nil => cases h
  | cons property rest ih =>
    rw [pendingFields] at h
    rcases List.mem_cons.1 h with rfl | h
    · exact ⟨property, List.mem_cons_self, rfl⟩
    · obtain ⟨property', hmem, he⟩ := ih h
      exact ⟨property', List.mem_cons_of_mem _ hmem, he⟩

theorem mem_pendingObjects {i : Nat} {p : Pending} (h : p ∈ pendingObjects i objects) :
    ∃ object ∈ objects, ∃ property ∈ object.2.properties, property.2 = p.schema := by
  induction objects generalizing i with
  | nil => cases h
  | cons object rest ih =>
    rw [pendingObjects] at h
    rcases List.mem_append.1 h with h | h
    · exact ⟨object, List.mem_cons_self, mem_pendingFields h⟩
    · obtain ⟨object', hmem, hproperty⟩ := ih h
      exact ⟨object', List.mem_cons_of_mem _ hmem, hproperty⟩

theorem hasType_of_enterable (h : Enterable raw [] objects) :
    ∀ object ∈ objects, ∀ p ∈ object.2.properties,
      ∃ ty, HasType raw (tableOf (objects.map (·.1))) p.2 ty := by
  intro object hobject p hp
  obtain ⟨i, hi⟩ := List.mem_iff_getElem?.1 hobject
  obtain ⟨ty, hty⟩ := (h i object.1 object.2 hi).2 p hp
  have hgrows : ∀ path id,
      recordOf? (tableOf ([] ++ (objects.map (·.1)).take (i + 1))) path = some id →
        recordOf? (tableOf (objects.map (·.1))) path = some id := by
    intro path id hid
    rw [← List.take_append_drop (i + 1) (objects.map (·.1))]
    exact recordOf?_append hid
  obtain ⟨ty', hty', _⟩ := hty.grow hgrows
  exact ⟨ty', hty'⟩

theorem exists_build_iff :
    (∃ r, (build doc).outcome = .ok r) ↔
      NamesDiffer doc ∧ Enterable doc.raw [] (objectsOf doc) := by
  constructor
  · rintro ⟨r, hbuilt⟩
    obtain ⟨hdiffer, entered, hentered, _⟩ := build_ok_iff_passes.1 hbuilt
    exact ⟨hdiffer, (exists_entered_iff (nodup_sourcesOf hdiffer)).1 ⟨entered, hentered⟩⟩
  · rintro ⟨hdiffer, henterable⟩
    obtain ⟨entered, hentered⟩ := (exists_entered_iff (nodup_sourcesOf hdiffer)).2 henterable
    have htyped : ∀ p ∈ pendingObjects 0 (objectsOf doc),
        ∃ ty, HasType doc.raw (tableOf (sourcesOf doc)) p.schema ty := by
      intro p hp
      obtain ⟨object, hobject, property, hproperty, he⟩ := mem_pendingObjects hp
      rw [← he]
      exact hasType_of_enterable henterable object hobject property hproperty
    obtain ⟨⟨r, replaced⟩, hsettle⟩ := settleFields_ok_iff.2 htyped
    exact ⟨r, build_ok_iff_passes.2 ⟨hdiffer, entered, hentered, replaced, hsettle⟩⟩

/-- A document has a registry exactly if its component names stay different, the properties of each
object schema have different local names, and each property resolves with the names of the records
up to its own. The names of the records after it do not help. -/
theorem build_ok_iff (doc : Document) :
    (∃ r, (build doc).outcome = .ok r) ↔
      NamesDiffer doc ∧ ∀ i name o, (objectsOf doc)[i]? = some (name, o) →
        (o.properties.map (localName ·.1)).Nodup ∧ ∀ p ∈ o.properties, ∀ location, ∃ ty,
          (resolve doc (tableOf ((sourcesOf doc).take (i + 1))) p.2 location).outcome = .ok ty := by
  simp only [resolve_ok_iff, forall_const]
  exact exists_build_iff

/-! ## A reference forward that no order may have -/

/-- The component names of a document stay different, and the properties of each object schema have
different local names and resolve with all the names known. -/
def Resolvable (doc : Document) : Prop :=
  NamesDiffer doc ∧ ∀ object ∈ objectsOf doc, (object.2.properties.map (localName ·.1)).Nodup ∧
    ∀ p ∈ object.2.properties, ∀ location, ∃ ty,
      (resolve doc (tableOf (sourcesOf doc)) p.2 location).outcome = .ok ty

theorem resolvable_iff {doc : Document} :
    Resolvable doc ↔ (∀ components ∈ doc.description.components,
        ((OrderedMap.keys components.schemas).map typeName).Nodup) ∧
      ∀ object ∈ objectsOf doc, (object.2.properties.map (localName ·.1)).Nodup ∧
        ∀ p ∈ object.2.properties,
          (resolve doc (tableOf (sourcesOf doc)) p.2 "").outcome.toOption.isSome := by
  have hsome : ∀ s, (resolve doc (tableOf (sourcesOf doc)) s "").outcome.toOption.isSome ↔
      ∃ ty, HasType doc.raw (tableOf (sourcesOf doc)) s ty := by
    intro s
    rw [Option.isSome_iff_exists]
    exact exists_congr fun _ => toOption_eq_some_iff.trans resolve_ok_iff
  simp only [Resolvable, NamesDiffer, hsome, resolve_ok_iff, forall_const, Option.mem_def]

instance (doc : Document) : Decidable (Resolvable doc) :=
  decidable_of_iff' _ resolvable_iff

/-- A keeper has a pet. -/
def keeper : String × Json :=
  ("Keeper", .object [("type", .string "object"), ("properties", .object [("pet", referTo "Pet")])])

/-- A pet has one of two fields. Nothing tells which, so that the schema itself has no type. -/
def eitherPet : String × Json :=
  ("Pet", .object [("type", .string "object"), ("oneOf", .array
    [.object [("required", .array [.string "bark"])],
      .object [("required", .array [.string "meow"])]])])

theorem keeper_resolvable :
    (Document.ofJson (documentOf [keeper, eitherPet])).toOption.map
      (fun doc => (decide (Resolvable doc), (build doc).outcome.toOption.isSome)) =
        some (true, false) := by
  decide +kernel

theorem keeper_last : (ofJson? (documentOf [eitherPet, keeper])).isSome = true := by
  decide +kernel

/-- The keeper stands before the pet: the first pass looks through the reference and finds no type.
After the pet, the keeper is entered. -/
theorem resolvable_not_built :
    ∃ doc doc', Document.ofJson (documentOf [keeper, eitherPet]) = .ok doc ∧
      Document.ofJson (documentOf [eitherPet, keeper]) = .ok doc' ∧
      Document.Reordered (documentOf [keeper, eitherPet]) (documentOf [eitherPet, keeper]) ∧
      Resolvable doc ∧ (¬∃ r, (build doc).outcome = .ok r) ∧ ∃ r, (build doc').outcome = .ok r := by
  obtain ⟨doc, hdoc, hkeeper⟩ := Option.map_eq_some_iff.1 keeper_resolvable
  obtain ⟨r', hr'⟩ := Option.isSome_iff_exists.1 keeper_last
  obtain ⟨doc', hdoc', hbuilt'⟩ := ofJson?_eq_some hr'
  rw [Prod.mk.injEq, decide_eq_true_eq] at hkeeper
  refine ⟨doc, doc', toOption_eq_some_iff.1 hdoc, hdoc', reordered_documentOf (.swap _ _ _),
    hkeeper.1, ?_, r', hbuilt'⟩
  rintro ⟨r, hr⟩
  rw [hr] at hkeeper
  exact absurd hkeeper.2 (by simp [Except.toOption])

end OpenApi.Registry
