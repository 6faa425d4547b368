import OpenApi.Proofs.Registry.WellFormed

/-!
# How registries come about

A registry starts empty or is built from a document, and records are inserted into it. A record type
is put together field by field, or it is a copy of one that a registry has.
-/

namespace OpenApi

/-! ## Record types -/

namespace RecordType

variable {record record' : RecordType} {f : Field} {required nullable : Bool}

theorem clash?_eq_none_iff : record.clash? f = none ↔
    ∀ g ∈ record.fields, g.localName ≠ f.localName ∧ g.wireName ≠ f.wireName := by
  unfold clash?
  rw [Option.map_eq_none_iff, List.find?_eq_none]
  simp only [Bool.or_eq_true, beq_iff_eq, not_or, ne_eq]

theorem addField_ok (h : record.addField f required nullable = .ok record') :
    record'.fields = record.fields ++ [f] ∧
      ∀ g ∈ record.fields, g.localName ≠ f.localName ∧ g.wireName ≠ f.wireName := by
  unfold addField at h
  split at h
  · cases h
  · rename_i hfree
    cases h
    exact ⟨rfl, clash?_eq_none_iff.1 hfree⟩

theorem nodup_map_concat {α β : Type} {l : List α} {a : α} {name : α → β}
    (nodup : (l.map name).Nodup) (new : ∀ b ∈ l, name b ≠ name a) :
    ((l ++ [a]).map name).Nodup := by
  rw [List.map_append, List.map_singleton, List.nodup_append]
  refine ⟨nodup, List.nodup_singleton _, fun b hb c hc => ?_⟩
  obtain ⟨b', hb', rfl⟩ := List.mem_map.1 hb
  obtain rfl := List.mem_singleton.1 hc
  exact new b' hb'

theorem namesOnce_addField (once : record.NamesOnce)
    (h : record.addField f required nullable = .ok record') : record'.NamesOnce := by
  obtain ⟨hfields, hnew⟩ := addField_ok h
  unfold NamesOnce
  rw [hfields]
  exact ⟨nodup_map_concat once.1 fun g hg => (hnew g hg).1,
    nodup_map_concat once.2 fun g hg => (hnew g hg).2⟩

end RecordType

theorem Registry.records_insert {r r' : Registry} {record : RecordType} {id : RecordId}
    (h : r.insert record = .ok (id, r')) : r'.records = r.records ++ [record] := by
  unfold insert enter at h
  split at h
  · cases h
  · cases h
    rfl

/-! ## Histories -/

mutual

/-- A record type that a program can come by. -/
inductive RecordType.Assembled : RecordType → Prop where
  | new (name : String) : RecordType.Assembled { name }
  | described {record : RecordType} (assembled : RecordType.Assembled record)
      (description : Option String) : RecordType.Assembled { record with description }
  | extended {record record' : RecordType} {f : Field} {required nullable : Bool}
      (assembled : RecordType.Assembled record)
      (added : record.addField f required nullable = .ok record') : RecordType.Assembled record'
  | copied {r : Registry} {record : RecordType} (grown : Registry.Grown r)
      (mem : record ∈ r.records) : RecordType.Assembled record

/-- A registry that a program can come by. -/
inductive Registry.Grown : Registry → Prop where
  | empty : Registry.Grown .empty
  | built {doc : Document} {r : Registry} (built : (Registry.build doc).outcome = .ok r) :
      Registry.Grown r
  | inserted {r r' : Registry} {record : RecordType} {id : RecordId} (grown : Registry.Grown r)
      (assembled : RecordType.Assembled record) (entered : r.insert record = .ok (id, r')) :
      Registry.Grown r'

end

theorem RecordType.Assembled.namesOnce {record : RecordType} (h : record.Assembled) :
    record.NamesOnce := by
  refine @RecordType.Assembled.rec (fun record _ => record.NamesOnce)
    (fun r _ => ∀ record ∈ r.records, record.NamesOnce)
    ?new ?described ?extended ?copied ?empty ?built ?inserted record h
  case new => exact fun _ => ⟨List.nodup_nil, List.nodup_nil⟩
  case described => exact fun _ _ once => once
  case extended => exact fun _ added once => RecordType.namesOnce_addField once added
  case copied => exact fun _ mem once => once _ mem
  case empty => simp [Registry.empty]
  case built => exact fun built => (Registry.wellFormed_of_build built).namesOnce
  case inserted =>
    intro r r' record id _ _ entered old new
    rw [Registry.records_insert entered, List.forall_mem_append, List.forall_mem_singleton]
    exact ⟨old, new⟩

theorem Registry.Grown.namesOnce {r : Registry} (h : r.Grown) :
    ∀ record ∈ r.records, record.NamesOnce :=
  fun _ mem => (RecordType.Assembled.copied h mem).namesOnce

end OpenApi
