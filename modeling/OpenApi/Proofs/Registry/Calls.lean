import Mathlib.Logic.Relation
import OpenApi.Proofs.Registry.Consistent

/-!
# Calls in place

The calls that add a field to a record type and a record type to a registry change what they are
made on, step by step. A program makes them in any order and goes on when one fails.
-/

namespace OpenApi

/-- A call on something of type `σ`. What it has changed stays changed when it fails. -/
abbrev InPlace (σ α : Type) := ExceptT SchemaError (StateM σ) α

namespace InPlace

variable {σ α β : Type}

/-- What the call answers, and what it leaves. -/
def on (call : InPlace σ α) (s : σ) : Except SchemaError α × σ :=
  (call.run.run s).run

@[simp] theorem on_pure (a : α) (s : σ) : on (pure a) s = (.ok a, s) := rfl

@[simp] theorem on_throw (e : SchemaError) (s : σ) :
    on (throw e : InPlace σ α) s = (.error e, s) := rfl

@[simp] theorem on_get (s : σ) : on get s = (.ok s, s) := rfl

@[simp] theorem on_modify (f : σ → σ) (s : σ) : on (modify f) s = (.ok (), f s) := rfl

@[simp] theorem on_bind (call : InPlace σ α) (next : α → InPlace σ β) (s : σ) :
    on (call >>= next) s =
      match on call s with
      | (.ok a, s') => on (next a) s'
      | (.error e, s') => (.error e, s') := by
  change (ExceptT.bindCont next (on call s).1 (on call s).2).run = _
  rcases on call s with ⟨_ | _, _⟩ <;> rfl

/-! ## Adding a field -/

/-- Puts a name at the end of a set of names, unless it is there. -/
def markName (names : List String) (name : String) : List String :=
  if name ∈ names then names else names ++ [name]

theorem markName_of_new {names : List String} {name : String} (new : name ∉ names) :
    markName names name = names ++ [name] :=
  if_neg new

/-- Adds a field to a record type. -/
def addField (f : Field) (required nullable : Bool) : InPlace RecordType Unit := do
  let record ← get
  if let some name := record.clash? f then
    throw (.duplicateField record.name name)
  if required then
    modify fun record => { record with required := markName record.required f.localName }
  if nullable then
    modify fun record => { record with nullable := markName record.nullable f.localName }
  modify fun record => { record with fields := record.fields ++ [f] }

variable {record : RecordType} {f : Field} {required nullable : Bool} {e : SchemaError}

theorem addField_on (consistent : record.Consistent) (f : Field) (required nullable : Bool) :
    (addField f required nullable).on record =
      match record.addField f required nullable with
      | .error name => (.error (.duplicateField record.name name), record)
      | .ok record' => (.ok (), record') := by
  simp only [addField, on_bind, on_get]
  unfold RecordType.addField
  cases hclash : record.clash? f with
  | some name => simp
  | none =>
    have hnew : f.localName ∉ record.fields.map (·.localName) := by
      intro hmem
      obtain ⟨g, hg, same⟩ := List.mem_map.1 hmem
      exact (RecordType.clash?_eq_none_iff.1 hclash g hg).1 same
    have hrequired := markName_of_new fun hmem => hnew (consistent.required.subset hmem)
    have hnullable := markName_of_new fun hmem => hnew (consistent.nullable.subset hmem)
    cases required <;> cases nullable <;> simp [hrequired, hnullable]

theorem eq_of_addField_error (failed : ((addField f required nullable).on record).1 = .error e) :
    ((addField f required nullable).on record).2 = record := by
  simp only [addField, on_bind, on_get] at failed ⊢
  cases hclash : record.clash? f with
  | some name => simp
  | none =>
    rw [hclash] at failed
    cases required <;> cases nullable <;> simp at failed

theorem consistent_addField (h : record.Consistent) (f : Field) (required nullable : Bool) :
    ((addField f required nullable).on record).2.Consistent := by
  rw [addField_on h]
  cases added : record.addField f required nullable with
  | error name => exact h
  | ok record' => exact h.addField added

/-! ## Inserting a record type -/

/-- Inserts a record type into a registry. -/
def insert (record : RecordType) : InPlace Registry RecordId := do
  let r ← get
  if let some existing := r.idOf? record.name then
    throw (.nameCollision ((r.sources[existing.index]?).getD record.name) record.name record.name)
  let id : RecordId := ⟨r.records.length⟩
  modify fun r => { r with sources := r.sources ++ [record.name] }
  modify fun r => { r with names := OrderedMap.insert r.names record.name id }
  modify fun r => { r with records := r.records ++ [record] }
  return id

variable {r : Registry}

theorem insert_on (record : RecordType) (r : Registry) :
    (insert record).on r =
      match r.insert record with
      | .error e => (.error e, r)
      | .ok (id, r') => (.ok id, r') := by
  simp only [insert, on_bind, on_get]
  unfold Registry.insert Registry.enter
  cases r.idOf? record.name with
  | some existing => simp
  | none => simp only [on_bind, on_modify, on_pure]

theorem eq_of_insert_error (failed : ((insert record).on r).1 = .error e) :
    ((insert record).on r).2 = r := by
  rw [insert_on] at failed ⊢
  cases inserted : r.insert record with
  | error e => rfl
  | ok out =>
    rw [inserted] at failed
    cases failed

theorem consistent_insert (h : r.Consistent) (consistent : record.Consistent) :
    ((insert record).on r).2.Consistent := by
  rw [insert_on]
  cases inserted : r.insert record with
  | error e => exact h
  | ok out => exact h.enter consistent inserted

theorem records_prefix_insert (record : RecordType) (r : Registry) :
    r.records <+: ((insert record).on r).2.records := by
  rw [insert_on]
  cases inserted : r.insert record with
  | error e => exact List.prefix_rfl
  | ok out =>
    have hrecords : out.2.records = r.records ++ [record] := Registry.records_insert inserted
    exact hrecords ▸ List.prefix_append _ _

theorem record?_of_insert {id : RecordId} (inserted : ((insert record).on r).1 = .ok id) :
    ((insert record).on r).2.record? id = some record := by
  rw [insert_on] at inserted ⊢
  cases hinsert : r.insert record with
  | error e =>
    rw [hinsert] at inserted
    cases inserted
  | ok out =>
    rw [hinsert] at inserted
    cases inserted
    obtain ⟨_, hid, hrest⟩ := Registry.enter_eq_ok_iff.1 hinsert
    simp [hrest, hid, Registry.record?]

end InPlace

/-! ## Histories -/

/-- What a program has at hand: a registry, and the record types that it puts together. -/
structure Workshop where
  registry : Registry
  records : List RecordType

namespace Workshop

/-- A program starts with an empty registry or with the one of a document. -/
def Fresh (w : Workshop) : Prop :=
  w.records = [] ∧ (w.registry = .empty ∨ ∃ doc, (Registry.build doc).outcome = .ok w.registry)

/-- A program makes a call, which may fail, and gets the answer. It takes copies of record types from
its own registry or from that of any document, and may keep one of a record type that it inserts. -/
inductive Step : Workshop → Except SchemaError (Option RecordId) → Workshop → Prop where
  | create (w : Workshop) (name : String) (description : Option String) :
    Step w (.ok none) { w with records := w.records ++ [{ name, description }] }
  | describe {w : Workshop} {i : Nat} {record : RecordType} (found : w.records[i]? = some record)
      (description : Option String) :
    Step w (.ok none) { w with records := w.records.set i { record with description } }
  | copy {w : Workshop} {r : Registry} {record : RecordType} (mem : record ∈ r.records)
      (known : r = w.registry ∨ ∃ doc, (Registry.build doc).outcome = .ok r) :
    Step w (.ok none) { w with records := w.records ++ [record] }
  | addField {w : Workshop} {i : Nat} {record : RecordType} (found : w.records[i]? = some record)
      (f : Field) (required nullable : Bool) :
    Step w (((InPlace.addField f required nullable).on record).1.map fun _ => none)
      { w with records := w.records.set i ((InPlace.addField f required nullable).on record).2 }
  | insert {w : Workshop} {record : RecordType} (mem : record ∈ w.records) :
    Step w (((InPlace.insert record).on w.registry).1.map some)
      { w with registry := ((InPlace.insert record).on w.registry).2 }

/-- Any calls one after the other. -/
def Reaches : Workshop → Workshop → Prop :=
  Relation.ReflTransGen fun w w' => ∃ answer, Step w answer w'

structure Consistent (w : Workshop) : Prop where
  registry : w.registry.Consistent
  records : ∀ record ∈ w.records, record.Consistent

variable {w w' : Workshop} {answer : Except SchemaError (Option RecordId)}

theorem Fresh.consistent (h : w.Fresh) : w.Consistent := by
  obtain ⟨hrecords, hregistry⟩ := h
  refine ⟨?_, by simp [hrecords]⟩
  rcases hregistry with hempty | ⟨doc, built⟩
  · exact hempty ▸ Registry.consistent_empty
  · exact Registry.consistent_of_build built

theorem Consistent.put (h : w.Consistent) {record : RecordType} (consistent : record.Consistent) :
    Consistent { w with records := w.records ++ [record] } := by
  refine ⟨h.registry, ?_⟩
  rw [List.forall_mem_append, List.forall_mem_singleton]
  exact ⟨h.records, consistent⟩

theorem Consistent.replace (h : w.Consistent) {record : RecordType} (consistent : record.Consistent)
    (i : Nat) : Consistent { w with records := w.records.set i record } := by
  refine ⟨h.registry, fun other mem => ?_⟩
  rcases List.mem_or_eq_of_mem_set mem with hold | rfl
  · exact h.records other hold
  · exact consistent

theorem Consistent.step (h : w.Consistent) (step : w.Step answer w') : w'.Consistent := by
  cases step with
  | create name description => exact h.put (RecordType.consistent_new name description)
  | @describe i record found description =>
    obtain ⟨once, required, nullable⟩ := h.records record (List.mem_of_getElem? found)
    have hdescribed : RecordType.Consistent { record with description } :=
      ⟨once, required, nullable⟩
    exact h.replace hdescribed i
  | copy mem known =>
    rcases known with rfl | ⟨doc, built⟩
    · exact h.put (h.registry.records _ mem)
    · exact h.put ((Registry.consistent_of_build built).records _ mem)
  | addField found f required nullable =>
    have hrecord := h.records _ (List.mem_of_getElem? found)
    exact h.replace (InPlace.consistent_addField hrecord f required nullable) _
  | insert mem => exact ⟨InPlace.consistent_insert h.registry (h.records _ mem), h.records⟩

theorem Consistent.reaches (h : w.Consistent) (history : w.Reaches w') : w'.Consistent := by
  induction history with
  | refl => exact h
  | tail _ step ih =>
    obtain ⟨answer, step⟩ := step
    exact ih.step step

theorem records_prefix_of_step (step : w.Step answer w') :
    w.registry.records <+: w'.registry.records := by
  cases step with
  | create | describe | copy | addField => exact List.prefix_rfl
  | insert mem => exact InPlace.records_prefix_insert _ _

theorem records_prefix_of_reaches (history : w.Reaches w') :
    w.registry.records <+: w'.registry.records := by
  induction history with
  | refl => exact List.prefix_rfl
  | tail _ step ih =>
    obtain ⟨answer, step⟩ := step
    exact ih.trans (records_prefix_of_step step)

theorem eq_error_of_map {α β : Type} {f : α → β} {a : Except SchemaError α} {e : SchemaError}
    (h : a.map f = .error e) : a = .error e := by
  cases a with
  | error e =>
    cases h
    rfl
  | ok a => cases h

theorem eq_ok_of_map {α β : Type} {f : α → β} {a : Except SchemaError α} {b : β}
    (h : a.map f = .ok b) : ∃ x, a = .ok x ∧ f x = b := by
  cases a with
  | error e => cases h
  | ok a =>
    cases h
    exact ⟨a, rfl, rfl⟩

/-- A call that fails changes nothing. -/
theorem eq_of_failed (step : w.Step answer w') {e : SchemaError} (failed : answer = .error e) :
    w' = w := by
  cases step with
  | create | describe | copy => cases failed
  | addField found f required nullable =>
    rw [InPlace.eq_of_addField_error (eq_error_of_map failed)]
    obtain ⟨_, rfl⟩ := List.getElem?_eq_some_iff.1 found
    rw [List.set_getElem_self]
  | insert mem => rw [InPlace.eq_of_insert_error (eq_error_of_map failed)]

theorem record?_of_answer (step : w.Step answer w') {id : RecordId}
    (given : answer = .ok (some id)) :
    ∃ record ∈ w.records, w'.registry.record? id = some record := by
  cases step with
  | create | describe | copy => cases given
  | addField =>
    obtain ⟨_, _, hnone⟩ := eq_ok_of_map given
    cases hnone
  | @insert record mem =>
    obtain ⟨id, hid, hsome⟩ := eq_ok_of_map given
    cases hsome
    exact ⟨record, mem, InPlace.record?_of_insert hid⟩

/-- After any calls, failed ones among them, the registry's records, names and sources go together,
and each record type has its names once and marks only its own fields. From then on a record keeps
its id, and a call that fails changes nothing. The two calls do what the functions without a state
do, and fail only where a name is taken. -/
theorem consistent_after_calls {start now : Workshop} (fresh : start.Fresh)
    (history : start.Reaches now) :
    (now.registry.names.length = now.registry.records.length ∧
      now.registry.sources.length = now.registry.records.length) ∧
    (∀ name id, now.registry.idOf? name = some id ↔
      ∃ record, now.registry.record? id = some record ∧ record.name = name) ∧
    (now.registry.records.map (·.name)).Nodup ∧
    (∀ record, record ∈ now.registry.records ∨ record ∈ now.records → record.Consistent) ∧
    (∀ later, now.Reaches later → ∀ id record, now.registry.record? id = some record →
      later.registry.record? id = some record) ∧
    (∀ answer next, now.Step answer next →
      (∀ e, answer = .error e → next = now) ∧
      ∀ id, answer = .ok (some id) →
        ∃ record ∈ now.records, next.registry.record? id = some record) ∧
    ∀ record ∈ now.records,
      ((InPlace.insert record).on now.registry =
        match now.registry.insert record with
        | .error e => (.error e, now.registry)
        | .ok (id, r) => (.ok id, r)) ∧
      ((∃ out, now.registry.insert record = .ok out) ↔
        record.name ∉ now.registry.records.map (·.name)) ∧
      ∀ f required nullable,
        ((InPlace.addField f required nullable).on record =
          match record.addField f required nullable with
          | .error name => (.error (.duplicateField record.name name), record)
          | .ok extended => (.ok (), extended)) ∧
        ((∃ extended, record.addField f required nullable = .ok extended) ↔
          ∀ g ∈ record.fields, g.localName ≠ f.localName ∧ g.wireName ≠ f.wireName) := by
  have hnow := fresh.consistent.reaches history
  have hregistry := hnow.registry
  refine ⟨⟨hregistry.names_length, hregistry.sources⟩, fun name id => hregistry.idOf?_eq_some_iff,
    hregistry.once, ?records, ?kept, ?calls, ?functions⟩
  case records =>
    rintro record (mem | mem)
    · exact hregistry.records record mem
    · exact hnow.records record mem
  case kept =>
    intro later calls id record found
    obtain ⟨others, hrecords⟩ := records_prefix_of_reaches calls
    rw [Registry.record?, ← hrecords,
      List.getElem?_append_left (List.getElem?_eq_some_iff.1 found).1]
    exact found
  case calls => exact fun answer next step =>
    ⟨fun e => eq_of_failed step, fun id => record?_of_answer step⟩
  case functions =>
    intro record mem
    refine ⟨InPlace.insert_on record now.registry, hregistry.exists_insert_iff record, ?_⟩
    exact fun f required nullable =>
      ⟨InPlace.addField_on (hnow.records record mem) f required nullable,
        record.exists_addField_iff f required nullable⟩

def tag : Field where
  localName := "tag"
  wireName := "tag"
  type := .any

def dog : RecordType where
  name := "Dog"
  fields := [tag]
  required := ["tag"]

def kennel : Workshop where
  registry := ⟨[dog], [("Dog", ⟨0⟩)], ["Dog"]⟩
  records := [dog]

theorem dog_inserted_again :
    Step kennel (.error (.nameCollision "Dog" "Dog" "Dog")) kennel :=
  @Step.insert kennel dog (List.mem_singleton_self dog)

theorem reaches_kennel : Reaches ⟨.empty, []⟩ kennel := by
  have hcreate : Step ⟨.empty, []⟩ (.ok none) ⟨.empty, [{ name := "Dog" }]⟩ := .create _ _ _
  have htag : Step ⟨.empty, [{ name := "Dog" }]⟩ (.ok none) ⟨.empty, [dog]⟩ :=
    @Step.addField ⟨.empty, [{ name := "Dog" }]⟩ 0 _ rfl tag true false
  have hagain : Step ⟨.empty, [dog]⟩ (.error (.duplicateField "Dog" "tag")) ⟨.empty, [dog]⟩ :=
    @Step.addField ⟨.empty, [dog]⟩ 0 _ rfl tag true false
  have hdog : Step ⟨.empty, [dog]⟩ (.ok (some ⟨0⟩)) kennel :=
    @Step.insert ⟨.empty, [dog]⟩ dog (List.mem_singleton_self dog)
  exact .head ⟨_, hcreate⟩ (.head ⟨_, htag⟩ (.head ⟨_, hagain⟩ (.head ⟨_, hdog⟩
    (.single ⟨_, dog_inserted_again⟩))))

theorem consistent_after_calls_kennel :
    Reaches ⟨.empty, []⟩ kennel ∧ Step kennel (.error (.nameCollision "Dog" "Dog" "Dog")) kennel ∧
    (∀ name id, kennel.registry.idOf? name = some id ↔
      ∃ record, kennel.registry.record? id = some record ∧ record.name = name) ∧
    ∀ record, record ∈ kennel.registry.records ∨ record ∈ kennel.records → record.Consistent :=
  have hfresh : Fresh ⟨.empty, []⟩ := ⟨rfl, .inl rfl⟩
  have hkennel := consistent_after_calls hfresh reaches_kennel
  ⟨reaches_kennel, dog_inserted_again, hkennel.2.1, hkennel.2.2.2.1⟩

end Workshop

end OpenApi
