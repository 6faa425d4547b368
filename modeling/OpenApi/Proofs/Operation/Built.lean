import Mathlib.Data.List.Pairwise
import OpenApi.Operation
import OpenApi.Proofs.Json.Typed
import OpenApi.Proofs.OrderedMap

/-!
# Operations from their entries

What the building of an operation keeps of its entry, and what holds of the parameters of every
operation that is built.
-/

namespace OpenApi.Operation

open Resolution

variable {doc : Document} {names : RecordNames} {location : String}

/-! ## The parts of an operation -/

/-- What an operation is put together from. -/
structure Assembled (doc : Document) (names : RecordNames) (path : String) (method : Method)
    (entry : OperationEntry) (common : List (Referable ParameterEntry)) (location : String)
    (merged : List ParameterEntry) (declared body : List Parameter) (o : Operation) : Prop where
  named : entry.operationId = some o.id
  spelled : o.name = .ofText o.id
  path_eq : o.path = path
  method_eq : o.method = method
  merges : mergeParameters doc location common entry.parameters = .ok merged
  declares : (buildParameters doc names location merged 0).outcome = .ok declared
  bodies : (entry.requestBody = none ∧ body = []) ∨ ∃ b p, entry.requestBody = some b ∧
    (buildBody doc names (location ++ "/requestBody") b).outcome = .ok p ∧ body = [p]
  parameters : o.parameters = declared ++ body
  responses : (buildResponses doc names location entry.responses []).outcome = .ok o.responses

theorem build_cases {path : String} {method : Method} {entry : OperationEntry}
    {common : List (Referable ParameterEntry)} {built : Option Operation}
    (h : (build doc names path method entry common).outcome = .ok built) :
    (entry.operationId = none ∧ built = none) ∨ ∃ o location merged declared body,
      built = some o ∧
        Assembled doc names path method entry common location merged declared body o := by
  unfold build at h
  cases hid : entry.operationId with
  | none =>
    rw [hid] at h
    cases h
    exact .inl ⟨rfl, rfl⟩
  | some id =>
    rw [hid] at h
    obtain ⟨merged, hmerged, h⟩ := Logged.outcome_bind_eq_ok_iff.1 h
    obtain ⟨declared, hdeclared, h⟩ := Logged.outcome_bind_eq_ok_iff.1 h
    cases hbody : entry.requestBody with
    | none =>
      rw [hbody] at h
      obtain ⟨_, hnil, h⟩ := Logged.outcome_bind_eq_ok_iff.1 h
      cases hnil
      obtain ⟨types, htypes, h⟩ := Logged.outcome_bind_eq_ok_iff.1 h
      obtain ⟨_, _, h⟩ := Logged.outcome_bind_eq_ok_iff.1 h
      cases h
      exact .inr ⟨_, _, merged, declared, [], rfl, hid, rfl, rfl, rfl, hmerged, hdeclared,
        .inl ⟨hbody, rfl⟩, rfl, htypes⟩
    | some b =>
      rw [hbody] at h
      obtain ⟨p, hp, h⟩ := Logged.outcome_bind_eq_ok_iff.1 h
      obtain ⟨_, hsingle, h⟩ := Logged.outcome_bind_eq_ok_iff.1 h
      cases hsingle
      obtain ⟨types, htypes, h⟩ := Logged.outcome_bind_eq_ok_iff.1 h
      obtain ⟨_, _, h⟩ := Logged.outcome_bind_eq_ok_iff.1 h
      cases h
      exact .inr ⟨_, _, merged, declared, [p], rfl, hid, rfl, rfl, rfl, hmerged, hdeclared,
        .inr ⟨b, p, hbody, hp, rfl⟩, rfl, htypes⟩

theorem assembled_of_build {path : String} {method : Method} {entry : OperationEntry}
    {common : List (Referable ParameterEntry)} {o : Operation}
    (h : (build doc names path method entry common).outcome = .ok (some o)) :
    ∃ location merged declared body,
      Assembled doc names path method entry common location merged declared body o := by
  rcases build_cases h with ⟨_, hnone⟩ | ⟨o', location, merged, declared, body, ho, parts⟩
  · cases hnone
  · cases ho
    exact ⟨location, merged, declared, body, parts⟩

/-! ## Declared parameters -/

/-- The parameter is the declared one. -/
structure Declares (entry : ParameterEntry) (p : Parameter) : Prop where
  wireName : p.wireName = entry.name
  localName : p.localName = OpenApi.localName entry.name
  location : p.location = entry.location
  required : p.required = (entry.required || entry.location == .path)

theorem declares_of_buildParameter {entry : ParameterEntry} {p : Parameter}
    (h : (buildParameter doc names location entry).outcome = .ok p) : Declares entry p := by
  unfold buildParameter at h
  split at h
  · cases h
    exact ⟨rfl, rfl, rfl, rfl⟩
  · obtain ⟨ty, _, h⟩ := Logged.outcome_bind_eq_ok_iff.1 h
    cases h
    exact ⟨rfl, rfl, rfl, rfl⟩

theorem declares_of_buildParameters {entries : List ParameterEntry} {i : Nat}
    {ps : List Parameter} (h : (buildParameters doc names location entries i).outcome = .ok ps) :
    List.Forall₂ Declares entries ps := by
  induction entries generalizing i ps with
  | nil =>
    cases h
    exact .nil
  | cons entry rest ih =>
    obtain ⟨p, hp, h⟩ := Logged.outcome_bind_eq_ok_iff.1 h
    obtain ⟨others, hothers, h⟩ := Logged.outcome_bind_eq_ok_iff.1 h
    cases h
    exact .cons (declares_of_buildParameter hp) (ih hothers)

theorem exists_of_forall₂ {α β : Type} {R : α → β → Prop} {as : List α} {bs : List β}
    (h : List.Forall₂ R as bs) : ∀ b ∈ bs, ∃ a, R a b := by
  induction h with
  | nil => simp
  | cons hab _ ih => exact List.forall_mem_cons.2 ⟨⟨_, hab⟩, ih⟩

theorem map_wireName_of_declares {entries : List ParameterEntry} {ps : List Parameter}
    (h : List.Forall₂ Declares entries ps) :
    ps.map (fun p => (p.wireName, p.location)) = entries.map fun e => (e.name, e.location) := by
  induction h with
  | nil => rfl
  | cons he _ ih => rw [List.map_cons, List.map_cons, ih, he.wireName, he.location]

theorem nodup_of_mergeParameters {common own : List (Referable ParameterEntry)}
    {merged : List ParameterEntry} (h : mergeParameters doc location common own = .ok merged) :
    (merged.map fun e => (e.name, e.location)).Nodup := by
  unfold mergeParameters at h
  obtain ⟨entries, _, h⟩ := Json.Typed.bind_eq_ok_iff.1 h
  cases h
  rw [OrderedMap.map_key_values_ofList fun e : ParameterEntry => (e.name, e.location)]
  exact OrderedMap.nodup_keys_ofList _

theorem body_of_buildBody {b : Referable RequestBody} {p : Parameter}
    (h : (buildBody doc names location b).outcome = .ok p) :
    p.wireName = bodyName ∧ p.localName = bodyName ∧ p.location = .body := by
  obtain ⟨body, _, h⟩ := Logged.outcome_bind_eq_ok_iff.1 h
  split at h
  · cases h
    exact ⟨rfl, rfl, rfl⟩
  · obtain ⟨ty, _, h⟩ := Logged.outcome_bind_eq_ok_iff.1 h
    cases h
    exact ⟨rfl, rfl, rfl⟩

/-! ## Operations of a document -/

/-- The operation comes from an entry. -/
def Built (doc : Document) (names : RecordNames) (o : Operation) : Prop :=
  ∃ path method entry common, (build doc names path method entry common).outcome = .ok (some o)

variable {o : Operation}

theorem Built.cases (built : Built doc names o) {p : Parameter} (hp : p ∈ o.parameters) :
    (∃ entry, Declares entry p) ∨
      p.wireName = bodyName ∧ p.localName = bodyName ∧ p.location = .body := by
  obtain ⟨path, method, entry, common, h⟩ := built
  obtain ⟨location, merged, declared, body, parts⟩ := assembled_of_build h
  rw [parts.parameters, List.mem_append] at hp
  rcases hp with hp | hp
  · exact .inl (exists_of_forall₂ (declares_of_buildParameters parts.declares) p hp)
  · rcases parts.bodies with ⟨_, rfl⟩ | ⟨b, q, _, hq, rfl⟩
    · cases hp
    · rw [List.mem_singleton.1 hp]
      exact .inr (body_of_buildBody hq)

theorem Built.required_of_path (built : Built doc names o) {p : Parameter}
    (hp : p ∈ o.parameters) (hpath : p.location = .path) : p.required = true := by
  rcases built.cases hp with ⟨e, he⟩ | ⟨_, _, hbody⟩
  · rw [he.required, ← he.location, hpath]
    simp
  · rw [hpath] at hbody
    cases hbody

theorem localName_bodyName : localName bodyName = bodyName := by
  decide +kernel

theorem Built.localName_eq (built : Built doc names o) {p : Parameter} (hp : p ∈ o.parameters) :
    p.localName = OpenApi.localName p.wireName := by
  rcases built.cases hp with ⟨e, he⟩ | ⟨hwire, hlocal, _⟩
  · rw [he.localName, he.wireName]
  · rw [hwire, hlocal, localName_bodyName]

theorem Built.name_eq (built : Built doc names o) : o.name = .ofText o.id := by
  obtain ⟨_, _, _, _, h⟩ := built
  obtain ⟨_, _, _, _, parts⟩ := assembled_of_build h
  exact parts.spelled

theorem Built.names_differ (built : Built doc names o) :
    o.parameters.Pairwise fun p q =>
      p.location = q.location → p.location ≠ .body → p.wireName ≠ q.wireName := by
  obtain ⟨path, method, entry, common, h⟩ := built
  obtain ⟨location, merged, declared, body, parts⟩ := assembled_of_build h
  have hnodup := nodup_of_mergeParameters parts.merges
  rw [← map_wireName_of_declares (declares_of_buildParameters parts.declares)] at hnodup
  rw [parts.parameters, List.pairwise_append]
  refine ⟨?_, ?_, ?_⟩
  · exact (List.pairwise_map.1 hnodup).imp fun hne hloc _ hwire => hne (Prod.ext hwire hloc)
  · rcases parts.bodies with ⟨_, rfl⟩ | ⟨b, q, _, _, rfl⟩
    · exact .nil
    · exact List.pairwise_singleton _ _
  · intro p _ q hq hloc hnot
    rcases parts.bodies with ⟨_, rfl⟩ | ⟨b, q', _, hq', rfl⟩
    · cases hq
    · rw [List.mem_singleton.1 hq, (body_of_buildBody hq').2.2] at hloc
      exact absurd hloc hnot

theorem Built.eq_of_wireName (built : Built doc names o) {p q : Parameter} (hp : p ∈ o.parameters)
    (hq : q ∈ o.parameters) (place : p.location = q.location) (outside : p.location ≠ .body)
    (name : p.wireName = q.wireName) : p = q := by
  by_contra hne
  have hsymm : Std.Symm fun p q : Parameter =>
      p.location = q.location → p.location ≠ .body → p.wireName ≠ q.wireName :=
    ⟨fun _ _ hab hloc hout hname => hab hloc.symm (hloc ▸ hout) hname.symm⟩
  exact built.names_differ.forall hp hq hne place outside name

end OpenApi.Operation
