import OpenApi.Proofs.Operation.Built
import OpenApi.Proofs.Registry.WellFormed

/-!
# The types of operations

What the operations of a document take and answer mentions no records but those of the table.
-/

namespace OpenApi

open Resolution

namespace Operation

/-- All the types of the operation mention records of the table. -/
structure Known (names : RecordNames) (o : Operation) : Prop where
  parameters : ∀ p ∈ o.parameters, p.type.Known names
  responses : ∀ p ∈ o.responses, p.2.Known names

variable {doc : Document} {names : RecordNames} {location : String}

theorem known_of_buildParameter {entry : ParameterEntry} {p : Parameter}
    (h : (buildParameter doc names location entry).outcome = .ok p) : p.type.Known names := by
  unfold buildParameter at h
  split at h
  · cases h
    exact .any names
  · obtain ⟨ty, hty, h⟩ := Logged.outcome_bind_eq_ok_iff.1 h
    cases h
    exact known_of_resolve hty

theorem known_of_buildParameters {declared : List ParameterEntry} {i : Nat} {ps : List Parameter}
    (h : (buildParameters doc names location declared i).outcome = .ok ps) :
    ∀ p ∈ ps, p.type.Known names := by
  induction declared generalizing i ps with
  | nil =>
    cases h
    simp
  | cons entry rest ih =>
    obtain ⟨p, hp, h⟩ := Logged.outcome_bind_eq_ok_iff.1 h
    obtain ⟨others, hothers, h⟩ := Logged.outcome_bind_eq_ok_iff.1 h
    cases h
    exact List.forall_mem_cons.2 ⟨known_of_buildParameter hp, ih hothers⟩

theorem known_of_buildBody {body : Referable RequestBody} {p : Parameter}
    (h : (buildBody doc names location body).outcome = .ok p) : p.type.Known names := by
  obtain ⟨_, _, h⟩ := Logged.outcome_bind_eq_ok_iff.1 h
  split at h
  · cases h
    exact .any names
  · obtain ⟨ty, hty, h⟩ := Logged.outcome_bind_eq_ok_iff.1 h
    cases h
    exact known_of_resolve hty

theorem known_of_buildResponses {entries : List (String × Referable ResponseEntry)}
    {types out : OrderedMap ResponseKey DataType} (known : ∀ p ∈ types, p.2.Known names)
    (h : (buildResponses doc names location entries types).outcome = .ok out) :
    ∀ p ∈ out, p.2.Known names := by
  induction entries generalizing types with
  | nil =>
    cases h
    exact known
  | cons entry rest ih =>
    obtain ⟨key, response⟩ := entry
    rw [buildResponses] at h
    split at h
    · obtain ⟨_, _, h⟩ := Logged.outcome_bind_eq_ok_iff.1 h
      exact ih known h
    · obtain ⟨response, _, h⟩ := Logged.outcome_bind_eq_ok_iff.1 h
      split at h
      · exact ih known h
      · obtain ⟨ty, hty, h⟩ := Logged.outcome_bind_eq_ok_iff.1 h
        refine ih (fun p hp => ?_) h
        rcases OrderedMap.mem_insert hp with hp | rfl
        · exact known p hp
        · exact known_of_resolve hty

theorem known_of_build {path : String} {method : Method} {entry : OperationEntry}
    {common : List (Referable ParameterEntry)} {o : Operation}
    (h : (build doc names path method entry common).outcome = .ok (some o)) : o.Known names := by
  obtain ⟨location, merged, declared, body, parts⟩ := assembled_of_build h
  refine ⟨fun p hp => ?_, known_of_buildResponses (by simp) parts.responses⟩
  rw [parts.parameters, List.mem_append] at hp
  rcases hp with hp | hp
  · exact known_of_buildParameters parts.declares p hp
  · rcases parts.bodies with ⟨_, rfl⟩ | ⟨b, q, _, hq, rfl⟩
    · cases hp
    · rw [List.mem_singleton.1 hp]
      exact known_of_buildBody hq

end Operation

namespace OperationTable

variable {doc : Document} {names : RecordNames}

theorem mem_operations_file {table : OperationTable} {o o' : Operation}
    (h : o' ∈ operations (table.file o)) : o' ∈ operations table ∨ o' = o := by
  obtain ⟨bucket, hbucket, ho'⟩ := List.mem_flatten.1 h
  obtain ⟨p, hp, rfl⟩ := List.mem_map.1 hbucket
  rcases OrderedMap.mem_insert hp with hp | rfl
  · exact .inl (List.mem_flatten.2 ⟨p.2, List.mem_map_of_mem hp, ho'⟩)
  · rcases List.mem_append.1 ho' with ho' | ho'
    · cases hget : OrderedMap.get? table o.id with
      | none =>
        rw [hget] at ho'
        cases ho'
      | some bucket =>
        rw [hget] at ho'
        have hmem : bucket ∈ OrderedMap.values table :=
          List.mem_map_of_mem (f := Prod.snd) (OrderedMap.mem_of_get? hget)
        exact .inl (List.mem_flatten.2 ⟨bucket, hmem, ho'⟩)
    · exact .inr (List.mem_singleton.1 ho')

theorem known_of_buildEntries
    {entries : List (String × Method × OperationEntry × List (Referable ParameterEntry))}
    {table out : OperationTable} (known : ∀ o ∈ operations table, o.Known names)
    (h : (buildEntries doc names entries table).outcome = .ok out) :
    ∀ o ∈ operations out, o.Known names := by
  induction entries generalizing table with
  | nil =>
    cases h
    exact known
  | cons entry rest ih =>
    obtain ⟨path, method, entry, common⟩ := entry
    obtain ⟨built, hbuilt, h⟩ := Logged.outcome_bind_eq_ok_iff.1 h
    cases built with
    | none => exact ih known h
    | some o =>
      have hfiled : ∀ o' ∈ operations (table.file o), o'.Known names := by
        intro o' ho'
        rcases mem_operations_file ho' with ho' | rfl
        · exact known o' ho'
        · exact Operation.known_of_build hbuilt
      simp only at h
      split at h
      · exact ih hfiled h
      · exact ih hfiled h

theorem known_of_build {table : OperationTable} (h : (build doc names).outcome = .ok table) :
    ∀ o ∈ operations table, o.Known names := by
  obtain ⟨out, hout, h⟩ := Logged.outcome_bind_eq_ok_iff.1 h
  cases h
  exact known_of_buildEntries (by simp [operations, OrderedMap.values]) hout

end OperationTable

end OpenApi
