import OpenApi.Proofs.Document.Faults
import OpenApi.Proofs.Operation.Table
import OpenApi.Proofs.Registry.WellFormed

/-!
# Documents with `anyOf`

A schema with `anyOf` is not supported. The check stands where a schema is typed, so that it is met
by every property of a record, by every part of an operation, and by whatever is reached from them.
A component that becomes a record is not typed itself.
-/

namespace OpenApi

open Json.Typed (toOption_eq_some_iff)
open Resolution

/-- The schemas of a document from which its records and operations have their types. -/
inductive Document.Types (doc : Document) : Schema → Prop where
  | property {object : String × SchemaObject Schema} {p : String × Schema}
      (entered : object ∈ Registry.objectsOf doc) (mem : p ∈ object.2.properties) : Types doc p.2
  | operation {e : String × Method × OperationEntry × List (Referable ParameterEntry)} {s : Schema}
      (listed : e ∈ OperationTable.entries doc) (identified : e.2.2.1.operationId.isSome)
      (uses : Operation.Uses doc e.2.2.1 e.2.2.2 s) : Types doc s

variable {doc : Document} {names : RecordNames}

namespace Operation

variable {location location' : String}

/-! ## What references settle to -/

section References

variable {α : Type}

theorem referenced_congr {read : Json → Except Json.Mismatch α} {path : String} {a : α}
    (h : referenced doc read path location = .ok a) :
    referenced doc read path location' = .ok a := by
  unfold referenced at h ⊢
  split at h
  · cases h
  · exact h

theorem settle_congr {read : Json → Except Json.Mismatch (Referable α)} {tooDeep : Unsupported}
    {fuel : Nat} {x : Referable α} {a : α} (h : settle doc read location tooDeep fuel x = .ok a) :
    settle doc read location' tooDeep fuel x = .ok a := by
  induction fuel generalizing x with
  | zero => cases h
  | succ fuel ih =>
    cases x with
    | inline value => exact h
    | reference path =>
      obtain ⟨y, hy, h⟩ := Json.Typed.bind_eq_ok_iff.1 h
      exact Json.Typed.bind_eq_ok_iff.2 ⟨y, referenced_congr hy, ih h⟩

theorem settleResponse_congr {x : Referable ResponseEntry} {response : ResponseEntry}
    (h : settleResponse doc location x = .ok response) :
    settleResponse doc location' x = .ok response := by
  cases x with
  | inline _ => exact h
  | reference path => exact referenced_congr h

theorem mergeParameters_congr {common own : List (Referable ParameterEntry)}
    {merged : List ParameterEntry} (h : mergeParameters doc location common own = .ok merged) :
    mergeParameters doc location' common own = .ok merged := by
  obtain ⟨es, hes, h⟩ := Json.Typed.bind_eq_ok_iff.1 h
  have hes' : (common ++ own).mapM (settleParameter doc location') = .ok es :=
    Json.Typed.mapM_eq_ok_iff.2 ((Json.Typed.mapM_eq_ok_iff.1 hes).imp fun _ _ => settle_congr)
  exact Json.Typed.bind_eq_ok_iff.2 ⟨es, hes', h⟩

end References

/-! ## What an operation is built from has types -/

theorem exists_hasType_of_buildParameters {entries : List ParameterEntry} {i : Nat}
    {ps : List Parameter} (h : (buildParameters doc names location entries i).outcome = .ok ps) :
    ∀ p ∈ entries, ∀ s ∈ p.schema, ∃ ty, HasType doc.raw names s ty := by
  induction entries generalizing i ps with
  | nil => simp
  | cons entry rest ih =>
    obtain ⟨p, hp, h⟩ := Logged.outcome_bind_eq_ok_iff.1 h
    obtain ⟨_, hothers, _⟩ := Logged.outcome_bind_eq_ok_iff.1 h
    refine List.forall_mem_cons.2 ⟨fun s hs => ?_, ih hothers⟩
    unfold buildParameter at hp
    rw [Option.mem_def.1 hs] at hp
    obtain ⟨ty, hty, _⟩ := Logged.outcome_bind_eq_ok_iff.1 hp
    exact ⟨ty, resolve_ok_iff.1 hty⟩

theorem exists_hasType_of_buildBody {b : Referable RequestBody} {p : Parameter} {body : RequestBody}
    (h : (buildBody doc names location b).outcome = .ok p)
    (settles : settleRequestBody doc location b = .ok body) :
    ∀ s ∈ Content.jsonSchema? body.content, ∃ ty, HasType doc.raw names s ty := by
  intro s hs
  obtain ⟨body', hbody, h⟩ := Logged.outcome_bind_eq_ok_iff.1 h
  obtain rfl := Except.ok.inj (settles.symm.trans hbody)
  rw [Option.mem_def.1 hs] at h
  obtain ⟨ty, hty, _⟩ := Logged.outcome_bind_eq_ok_iff.1 h
  exact ⟨ty, resolve_ok_iff.1 hty⟩

theorem exists_hasType_of_buildResponses {entries : List (String × Referable ResponseEntry)}
    {types out : OrderedMap ResponseKey DataType}
    (h : (buildResponses doc names location entries types).outcome = .ok out) :
    ∀ entry ∈ entries, (ResponseKey.ofText? entry.1).isSome → ∀ response,
      settleResponse doc location' entry.2 = .ok response →
        ∀ s ∈ Content.jsonSchema? response.content, ∃ ty, HasType doc.raw names s ty := by
  induction entries generalizing types with
  | nil => simp
  | cons entry rest ih =>
    obtain ⟨key, response⟩ := entry
    rw [buildResponses] at h
    cases hkey : ResponseKey.ofText? key with
    | none =>
      rw [hkey] at h
      obtain ⟨_, _, h⟩ := Logged.outcome_bind_eq_ok_iff.1 h
      exact List.forall_mem_cons.2 ⟨fun hsome => by simp [hkey] at hsome, ih h⟩
    | some responseKey =>
      rw [hkey] at h
      obtain ⟨settled, hsettled, h⟩ := Logged.outcome_bind_eq_ok_iff.1 h
      cases hjson : Content.jsonSchema? settled.content with
      | none =>
        rw [hjson] at h
        refine List.forall_mem_cons.2 ⟨fun _ response hresponse s hs => ?_, ih h⟩
        obtain rfl := Except.ok.inj (hresponse.symm.trans (settleResponse_congr hsettled))
        rw [hjson] at hs
        cases hs
      | some schema =>
        rw [hjson] at h
        obtain ⟨ty, hty, h⟩ := Logged.outcome_bind_eq_ok_iff.1 h
        refine List.forall_mem_cons.2 ⟨fun _ response hresponse s hs => ?_, ih h⟩
        obtain rfl := Except.ok.inj (hresponse.symm.trans (settleResponse_congr hsettled))
        obtain rfl := Option.some.inj (hjson.symm.trans hs)
        exact ⟨ty, resolve_ok_iff.1 hty⟩

theorem exists_hasType_of_uses {path : String} {method : Method} {entry : OperationEntry}
    {common : List (Referable ParameterEntry)} {o : Operation} {s : Schema}
    (h : (build doc names path method entry common).outcome = .ok (some o))
    (uses : Uses doc entry common s) : ∃ ty, HasType doc.raw names s ty := by
  obtain ⟨location, merged, declared, body, parts⟩ := assembled_of_build h
  cases uses with
  | parameter merges mem schema =>
    obtain rfl := Except.ok.inj ((mergeParameters_congr merges).symm.trans parts.merges)
    exact exists_hasType_of_buildParameters parts.declares _ mem s schema
  | body hdeclared settles json =>
    rcases parts.bodies with ⟨hnone, _⟩ | ⟨b, p, hb, hp, _⟩
    · rw [hdeclared] at hnone
      cases hnone
    · obtain rfl := Option.some.inj (hdeclared.symm.trans hb)
      exact exists_hasType_of_buildBody hp (settle_congr settles) s json
  | response mem status settles json =>
    exact exists_hasType_of_buildResponses parts.responses _ mem status _ settles s json

end Operation

/-! ## Accepted documents -/

theorem Registry.names_of_build {r : Registry} (built : (Registry.build doc).outcome = .ok r) :
    r.names = Registry.tableOf (Registry.sourcesOf doc) := by
  obtain ⟨_, entered, hentered, replaced, hsettle⟩ := Registry.build_ok_iff_passes.1 built
  exact (Registry.sound_of_settleFields (Registry.sound_of_entered hentered).2 hsettle).1

theorem Document.Types.exists_hasType {r : Registry} {table : OperationTable} {s : Schema}
    (built : (Registry.build doc).outcome = .ok r)
    (operations : (OperationTable.build doc r.names).outcome = .ok table) (h : doc.Types s) :
    ∃ ty, HasType doc.raw r.names s ty := by
  cases h with
  | property entered mem =>
    obtain ⟨hdiffer, records, hentered, _⟩ := Registry.build_ok_iff_passes.1 built
    have henterable : Registry.Enterable doc.raw [] (Registry.objectsOf doc) :=
      (Registry.exists_entered_iff (Registry.nodup_sourcesOf hdiffer)).1 ⟨records, hentered⟩
    rw [Registry.names_of_build built]
    exact Registry.hasType_of_enterable henterable _ entered _ mem
  | operation listed identified uses =>
    obtain ⟨ops, hops, _⟩ := OperationTable.exists_grouped_of_build operations
    obtain ⟨o, ho⟩ := Registry.exists_forall₂_iff.1 ⟨ops, hops⟩ _
      (List.mem_filter.2 ⟨listed, identified⟩)
    exact Operation.exists_hasType_of_uses ho uses

/-! ## Rejected documents -/

/-- The registry of a document and the operations with its names. -/
def Document.load (doc : Document) : Resolved (Registry × OperationTable) := do
  let r ← Registry.build doc
  return (r, ← OperationTable.build doc r.names)

theorem Document.load_ok_iff {r : Registry} {table : OperationTable} :
    doc.load.outcome = .ok (r, table) ↔ (Registry.build doc).outcome = .ok r ∧
      (OperationTable.build doc r.names).outcome = .ok table := by
  unfold Document.load
  rw [Logged.outcome_bind_eq_ok_iff]
  simp only [Logged.outcome_bind_eq_ok_iff, Logged.outcome_pure, Except.ok.injEq, Prod.mk.injEq]
  constructor
  · rintro ⟨_, built, _, operations, rfl, rfl⟩
    exact ⟨built, operations⟩
  · rintro ⟨built, operations⟩
    exact ⟨r, built, table, operations, rfl, rfl⟩

theorem Document.failsUnsupported_load (apart : Registry.NamesStayApart doc)
    (decided : ∀ s, doc.Types s → Decided doc.raw s) : FailsUnsupported doc.load := by
  refine failsUnsupported_bind (Registry.failsUnsupported_build apart fun _ hobject _ hp =>
    decided _ (.property hobject hp)) fun r _ => failsUnsupported_map ?_
  refine failsUnsupported_bind (OperationTable.failsUnsupported_buildEntries (fun e he hid s hs =>
    decided s (.operation he hid hs)) []) fun _ _ => ?_
  exact failsUnsupported_bind (failsUnsupported_of_ok rfl) fun _ _ => failsUnsupported_of_ok rfl

/-- In an accepted document no schema that types a property of a record or a part of an operation
has an `anyOf`, and none that is reached from one. A document with such a schema is rejected: as
unsupported, if its names stay apart and all its branches are decided. -/
theorem Document.anyOf_rejected (doc : Document) :
    (∀ r table, (Registry.build doc).outcome = .ok r →
      (OperationTable.build doc r.names).outcome = .ok table → ∀ s, doc.Types s → ∀ o,
        Reaches doc.raw r.names s (.inline o) → o.anyOf = []) ∧
    ∀ s o, doc.Types s →
      Reaches doc.raw (Registry.tableOf (Registry.sourcesOf doc)) s (.inline o) → o.anyOf ≠ [] →
        ∃ e, doc.load.outcome = .error e ∧
          (Registry.NamesStayApart doc → (∀ s, doc.Types s → Decided doc.raw s) →
            ∃ location reason, e = .unsupported location reason) := by
  have haccepted : ∀ r table, (Registry.build doc).outcome = .ok r →
      (OperationTable.build doc r.names).outcome = .ok table → ∀ s, doc.Types s → ∀ o,
        Reaches doc.raw r.names s (.inline o) → o.anyOf = [] := by
    intro r table built operations s hs o reaches
    obtain ⟨ty, hty⟩ := hs.exists_hasType built operations
    exact anyOf_eq_nil_of_reaches hty reaches
  refine ⟨haccepted, fun s o hs reaches hany => ?_⟩
  cases hload : doc.load.outcome with
  | ok loaded =>
    obtain ⟨built, operations⟩ := Document.load_ok_iff.1 hload
    rw [← Registry.names_of_build built] at reaches
    exact absurd (haccepted _ _ built operations s hs o reaches) hany
  | error e =>
    exact ⟨e, rfl, fun apart decided => Document.failsUnsupported_load apart decided e hload⟩

section Litter

/-- A document with pets that have a litter of the given kind. -/
def litterOf (kind : Json) : Json :=
  Registry.documentOf [("Pet", .object [("type", .string "object"), ("properties", .object
    [("litter", .object [("type", .string "array"), ("items", kind)])])])]

def textKind : Json :=
  .object [("type", .string "string")]

def anyTextKind : Json :=
  .object [("anyOf", .array [textKind])]

def litterSchema (kind : SchemaObject Schema) : Schema :=
  .inline { types := some (.one "array"), items := some (.inline kind) }

/-- What is read from a document of pets with a litter. -/
def litterDocument (raw : Json) (kind : SchemaObject Schema) : Document where
  raw := litterOf raw
  description :=
    { openapi := "3.0.0"
      info := {}
      components := some
        { schemas :=
            [("Pet", .inline { types := some (.one "object")
                               properties := [("litter", litterSchema kind)] })] } }

def textLitter : Document :=
  litterDocument textKind { types := some (.one "string") }

def anyTextLitter : Document :=
  litterDocument anyTextKind { anyOf := [.inline { types := some (.one "string") }] }

theorem types_litterDocument {raw : Json} {kind : SchemaObject Schema} {s : Schema} :
    (litterDocument raw kind).Types s ↔ s = litterSchema kind := by
  have hobjects : Registry.objectsOf (litterDocument raw kind) =
      [("Pet", { types := some (.one "object"), properties := [("litter", litterSchema kind)] })] :=
    rfl
  constructor
  · intro h
    cases h with
    | property entered mem =>
      rw [hobjects] at entered
      obtain rfl := List.mem_singleton.1 entered
      rw [List.mem_singleton.1 mem]
    | operation listed _ _ => cases listed
  · rintro rfl
    exact .property (hobjects ▸ List.mem_singleton_self _) (List.mem_singleton_self _)

theorem reaches_litterSchema (raw : Json) (names : RecordNames) (kind : SchemaObject Schema) :
    Reaches raw names (litterSchema kind) (.inline kind) :=
  .items rfl rfl rfl rfl (.refl _)

theorem anyTextLitter_decided : ∀ s, anyTextLitter.Types s → Decided anyTextLitter.raw s := by
  intro s hs o reaches
  rw [types_litterDocument.1 hs] at reaches
  have hnone : ∀ o : SchemaObject Schema, o.oneOf = [] → ¬o.Undecided := fun o hone h => by
    have hseveral := h.oneOf
    simp [hone] at hseveral
  cases reaches with
  | refl => exact hnone _ rfl
  | allOf hall _ => cases hall
  | oneOf _ hmem _ => cases hmem
  | items _ _ _ hitems reaches =>
    cases hitems
    cases reaches with
    | refl => exact hnone _ rfl
    | allOf hall _ => cases hall
    | oneOf _ hmem _ => cases hmem
    | items _ _ hkeyword _ _ => cases hkeyword

theorem anyTextLitter_namesStayApart : Registry.NamesStayApart anyTextLitter := by
  constructor
  · intro components hcomponents
    cases hcomponents
    decide
  · intro object hobject
    obtain rfl := List.mem_singleton.1 hobject
    decide

theorem textLitter_loaded : textLitter.load.outcome.toOption.isSome = true := by
  decide +kernel

theorem anyOf_rejected_litter :
    (Document.ofJson (litterOf textKind) = .ok textLitter ∧
      ∃ r table, (Registry.build textLitter).outcome = .ok r ∧
        (OperationTable.build textLitter r.names).outcome = .ok table ∧
        ∀ o, Reaches textLitter.raw r.names (litterSchema { types := some (.one "string") })
          (.inline o) → o.anyOf = []) ∧
    Document.ofJson (litterOf anyTextKind) = .ok anyTextLitter ∧
      ∃ location reason,
        anyTextLitter.load.outcome = .error (.unsupported location reason) := by
  refine ⟨⟨rfl, ?_⟩, rfl, ?_⟩
  · obtain ⟨⟨r, table⟩, hload⟩ := Option.isSome_iff_exists.1 textLitter_loaded
    obtain ⟨built, operations⟩ := Document.load_ok_iff.1 (toOption_eq_some_iff.1 hload)
    refine ⟨r, table, built, operations, ?_⟩
    exact (Document.anyOf_rejected textLitter).1 r table built operations _
      (types_litterDocument.2 rfl)
  · obtain ⟨e, he, hkind⟩ := (Document.anyOf_rejected anyTextLitter).2 _ _
      (types_litterDocument.2 rfl) (reaches_litterSchema _ _ _) (by simp)
    obtain ⟨location, reason, rfl⟩ := hkind anyTextLitter_namesStayApart anyTextLitter_decided
    exact ⟨location, reason, he⟩

end Litter

/-! ## A record with `anyOf` -/

/-- A pet is an object of the kind of one of its branches. -/
def anyPet : Json :=
  Registry.documentOf [("Pet", .object [("type", .string "object"), ("anyOf", .array [textKind])])]

theorem anyPet_loaded :
    ((Document.ofJson anyPet).toOption.bind fun doc => doc.load.outcome.toOption.map fun loaded =>
      (loaded.1.records.map (·.name),
        (Registry.objectsOf doc).map fun object => object.2.anyOf.length)) =
      some (["Pet"], [1]) := by
  decide +kernel

/-- A component of type `object` becomes a record, whatever else stands in it. -/
theorem anyOf_of_record_accepted :
    ∃ doc r table, Document.ofJson anyPet = .ok doc ∧ (Registry.build doc).outcome = .ok r ∧
      (OperationTable.build doc r.names).outcome = .ok table ∧ r.records.map (·.name) = ["Pet"] ∧
      ∃ object ∈ Registry.objectsOf doc, object.2.anyOf ≠ [] := by
  obtain ⟨doc, hdoc, h⟩ := Option.bind_eq_some_iff.1 anyPet_loaded
  obtain ⟨⟨r, table⟩, hload, h⟩ := Option.map_eq_some_iff.1 h
  obtain ⟨hrecords, hany⟩ := Prod.mk.inj h
  obtain ⟨built, operations⟩ := Document.load_ok_iff.1 (toOption_eq_some_iff.1 hload)
  refine ⟨doc, r, table, toOption_eq_some_iff.1 hdoc, built, operations, hrecords, ?_⟩
  obtain ⟨object, hobject, hlength⟩ := List.mem_map.1 (hany ▸ List.mem_singleton_self 1)
  refine ⟨object, hobject, fun hnil => ?_⟩
  rw [hnil] at hlength
  cases hlength

end OpenApi
