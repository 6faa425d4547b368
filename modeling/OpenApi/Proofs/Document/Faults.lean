import OpenApi.Operation
import OpenApi.Proofs.Registry.Accepted
import OpenApi.Proofs.Resolution.Reached

/-!
# How documents fail

Nearly everything that a document may be rejected for is a schema or a reference that is not
supported. The rest is names that become the same, and branches that are undecided.
-/

namespace OpenApi

open Resolution

variable {doc : Document}

theorem failsUnsupported_ofExcept {α : Type} {x : Except SchemaError α}
    (h : ∀ e, x = .error e → ∃ location reason, e = .unsupported location reason) :
    FailsUnsupported (Logged.ofExcept x) :=
  h

namespace Registry

/-! ## The registry -/

variable {r : Registry} {id : RecordId} {required : List String} {location : String}

theorem failsUnsupported_enterFields {properties : List (String × Schema)} {place : Nat}
    {record : RecordType} (decided : ∀ p ∈ properties, Decided doc.raw p.2)
    (found : r.record? id = some record) (named : Named record)
    (names : (record.fields.map (·.localName) ++ properties.map (localName ·.1)).Nodup) :
    FailsUnsupported (enterFields doc id required location properties place r) := by
  induction properties generalizing place r record with
  | nil => exact failsUnsupported_of_ok rfl
  | cons p rest ih =>
    obtain ⟨property, schema⟩ := p
    obtain ⟨hdecided, hrest⟩ := List.forall_mem_cons.1 decided
    rw [enterFields]
    refine failsUnsupported_bind (failsUnsupported_resolve hdecided _ _) fun ty _ => ?_
    have hfree : localName property ∉ record.fields.map (·.localName) := fun hmem =>
      (List.nodup_append.1 names).2.2 _ hmem _ List.mem_cons_self rfl
    rw [found, Option.getD_some]
    simp only [(addField_fieldOf_ok_iff named required property schema ty).2 ⟨hfree, rfl⟩]
    apply failsUnsupported_map
    refine ih hrest (record?_modify found _) (named_addProperties named required property schema ty)
      ?_
    rw [localNames_addProperties, List.append_assoc]
    exact names

theorem failsUnsupported_enterSchemas {schemas : List (String × Schema)} {sources : List String}
    {records : List RecordType} (length : records.length = sources.length)
    (decided : ∀ object ∈ objects schemas, ∀ p ∈ object.2.properties, Decided doc.raw p.2)
    (locals : ∀ object ∈ objects schemas, (object.2.properties.map (localName ·.1)).Nodup)
    (names : ((sources ++ (objects schemas).map (·.1)).map typeName).Nodup) :
    FailsUnsupported (enterSchemas doc schemas (registryOf sources records)) := by
  induction schemas generalizing sources records with
  | nil => exact failsUnsupported_of_ok rfl
  | cons p rest ih =>
    obtain ⟨name, schema⟩ := p
    cases hinline : schema.inline? with
    | none =>
      simp only [enterSchemas, objects, hinline] at decided locals names ⊢
      exact ih length decided locals names
    | some o =>
      by_cases hobject : o.keyword? = some "object"
      · have hobjects : objects ((name, schema) :: rest) = (name, o) :: objects rest := by
          simp only [objects, hinline, hobject, if_true]
        rw [hobjects] at decided locals names
        obtain ⟨hdecided, hrest⟩ := List.forall_mem_cons.1 decided
        obtain ⟨hlocals, hothers⟩ := List.forall_mem_cons.1 locals
        have hnew : typeName name ∉ sources.map typeName := by
          rw [List.map_append, List.nodup_append] at names
          exact fun hmem => names.2.2 _ hmem _ List.mem_cons_self rfl
        have hnames : ((sources ++ [name] ++ (objects rest).map (·.1)).map typeName).Nodup := by
          rw [← List.append_cons]
          exact names
        have hfound := record?_registryOf (sources ++ [name]) records
          { name := typeName name, description := o.description } []
        simp only [enterSchemas, hinline, hobject, if_true]
        refine failsUnsupported_bind (failsUnsupported_of_ok
          ((enter_ok_iff length rfl).2 ⟨hnew, rfl⟩)) fun entered hentered => ?_
        obtain ⟨_, rfl⟩ := (enter_ok_iff length rfl).1 hentered
        refine failsUnsupported_bind (failsUnsupported_enterFields hdecided hfound (by simp [Named])
          hlocals) fun out hout => ?_
        obtain ⟨types, _, _, rfl⟩ :=
          (enterFields_ok_iff hfound (by simp [Named]) List.nodup_nil).1 hout
        apply failsUnsupported_map
        rw [modify_registryOf]
        exact ih (by simp [length]) hrest hothers hnames
      · simp only [enterSchemas, objects, hinline, hobject, if_false] at decided locals names ⊢
        exact ih length decided locals names

theorem failsUnsupported_settleFields {names : RecordNames} {pending : List Pending}
    (decided : ∀ p ∈ pending, Decided doc.raw p.schema) (r : Registry) (replaced : Nat) :
    FailsUnsupported (settleFields doc names pending r replaced) := by
  induction pending generalizing r replaced with
  | nil => exact failsUnsupported_of_ok rfl
  | cons p rest ih =>
    obtain ⟨hdecided, hrest⟩ := List.forall_mem_cons.1 decided
    rw [settleFields]
    refine failsUnsupported_bind (failsUnsupported_resolve hdecided _ _) fun ty _ => ?_
    dsimp only
    split
    · exact failsUnsupported_bind (failsUnsupported_of_ok rfl) fun _ _ => ih hrest _ _
    · exact ih hrest _ _

/-- The names of a document stay different where types and fields are named after them. -/
def NamesStayApart (doc : Document) : Prop :=
  NamesDiffer doc ∧
    ∀ object ∈ objectsOf doc, (object.2.properties.map (localName ·.1)).Nodup

theorem failsUnsupported_build (apart : NamesStayApart doc)
    (decided : ∀ object ∈ objectsOf doc, ∀ p ∈ object.2.properties, Decided doc.raw p.2) :
    FailsUnsupported (build doc) := by
  obtain ⟨hdiffer, hlocals⟩ := apart
  have hsources := nodup_sourcesOf hdiffer
  unfold NamesDiffer at hdiffer
  unfold sourcesOf at hsources
  unfold objectsOf at decided hlocals hsources
  unfold build
  cases hcomponents : doc.description.components with
  | none => exact failsUnsupported_of_ok rfl
  | some components =>
    rw [hcomponents] at decided hlocals hsources
    have hcheck : checkNames [] (OrderedMap.keys components.schemas) = .ok () :=
      checkNames_ok_iff.2 ⟨hdiffer components hcomponents, fun _ _ => List.not_mem_nil⟩
    refine failsUnsupported_bind (failsUnsupported_of_ok hcheck) fun _ _ => ?_
    have hlength : ([] : List RecordType).length = ([] : List String).length := rfl
    refine failsUnsupported_bind
      (failsUnsupported_enterSchemas hlength decided hlocals hsources) fun out hout => ?_
    obtain ⟨entered, _, rfl⟩ := (enterSchemas_ok_iff hlength).1 hout
    refine failsUnsupported_bind (failsUnsupported_of_ok rfl) fun _ _ => ?_
    refine failsUnsupported_bind (failsUnsupported_settleFields (fun p hp => ?_) _ _) fun _ _ =>
      failsUnsupported_bind (failsUnsupported_of_ok rfl) fun _ _ => failsUnsupported_of_ok rfl
    obtain ⟨object, hobject, property, hproperty, he⟩ := mem_pendingObjects hp
    exact he ▸ decided object hobject property hproperty

end Registry

namespace Operation

/-! ## References to parameters, request bodies and responses -/

variable {names : RecordNames} {location : String}

section References

variable {α : Type}

theorem referenced_error {read : Json → Except Json.Mismatch α} {path : String} {e : SchemaError}
    (h : referenced doc read path location = .error e) :
    ∃ location reason, e = .unsupported location reason := by
  unfold referenced at h
  split at h
  · cases h
    exact ⟨_, _, rfl⟩
  · obtain ⟨_, _, rfl⟩ := Json.Typed.mapError_eq_error_iff.1 h
    exact ⟨_, _, rfl⟩

theorem settle_error {read : Json → Except Json.Mismatch (Referable α)} {tooDeep : Unsupported}
    {fuel : Nat} {x : Referable α} {e : SchemaError}
    (h : settle doc read location tooDeep fuel x = .error e) :
    ∃ location reason, e = .unsupported location reason := by
  induction fuel generalizing x with
  | zero =>
    cases h
    exact ⟨_, _, rfl⟩
  | succ fuel ih =>
    cases x with
    | inline value => cases h
    | reference path =>
      rcases Json.Typed.bind_eq_error_iff.1 h with h | ⟨y, _, h⟩
      · exact referenced_error h
      · exact ih h

theorem settleResponse_error {x : Referable ResponseEntry} {e : SchemaError}
    (h : settleResponse doc location x = .error e) :
    ∃ location reason, e = .unsupported location reason := by
  cases x with
  | inline response => cases h
  | reference path => exact referenced_error h

theorem mergeParameters_error {common own : List (Referable ParameterEntry)} {e : SchemaError}
    (h : mergeParameters doc location common own = .error e) :
    ∃ location reason, e = .unsupported location reason := by
  rcases Json.Typed.bind_eq_error_iff.1 h with h | ⟨_, _, h⟩
  · obtain ⟨p, _, h⟩ := Json.Typed.exists_of_mapM_error h
    exact settle_error h
  · cases h

end References

/-! ## The operation of an entry -/

/-- The schemas that an entry's operation has its types from: those of its parameters, of its
request body and of its responses. -/
inductive Uses (doc : Document) (entry : OperationEntry)
    (common : List (Referable ParameterEntry)) : Schema → Prop where
  | parameter {location : String} {merged : List ParameterEntry} {p : ParameterEntry} {s : Schema}
      (merges : mergeParameters doc location common entry.parameters = .ok merged)
      (mem : p ∈ merged) (schema : p.schema = some s) : Uses doc entry common s
  | body {location : String} {b : Referable RequestBody} {body : RequestBody} {s : Schema}
      (declared : entry.requestBody = some b)
      (settles : settleRequestBody doc location b = .ok body)
      (json : Content.jsonSchema? body.content = some s) : Uses doc entry common s
  | response {location : String} {declared : String × Referable ResponseEntry}
      {response : ResponseEntry} {s : Schema} (mem : declared ∈ entry.responses)
      (status : (ResponseKey.ofText? declared.1).isSome)
      (settles : settleResponse doc location declared.2 = .ok response)
      (json : Content.jsonSchema? response.content = some s) : Uses doc entry common s

theorem failsUnsupported_buildParameter {p : ParameterEntry}
    (decided : ∀ s ∈ p.schema, Decided doc.raw s) :
    FailsUnsupported (buildParameter doc names location p) := by
  unfold buildParameter
  cases hschema : p.schema with
  | none => exact failsUnsupported_of_ok rfl
  | some s => exact failsUnsupported_map (failsUnsupported_resolve (decided s hschema) _ _)

theorem failsUnsupported_buildParameters {ps : List ParameterEntry} {i : Nat}
    (decided : ∀ p ∈ ps, ∀ s ∈ p.schema, Decided doc.raw s) :
    FailsUnsupported (buildParameters doc names location ps i) := by
  induction ps generalizing i with
  | nil => exact failsUnsupported_of_ok rfl
  | cons p rest ih =>
    obtain ⟨hp, hrest⟩ := List.forall_mem_cons.1 decided
    exact failsUnsupported_bind (failsUnsupported_buildParameter hp) fun _ _ =>
      failsUnsupported_map (ih hrest)

theorem failsUnsupported_buildBody {b : Referable RequestBody}
    (decided : ∀ body, settleRequestBody doc location b = .ok body →
      ∀ s ∈ Content.jsonSchema? body.content, Decided doc.raw s) :
    FailsUnsupported (buildBody doc names location b) := by
  refine failsUnsupported_bind (failsUnsupported_ofExcept fun _ => settle_error) fun body hbody => ?_
  dsimp only
  cases hschema : Content.jsonSchema? body.content with
  | none => exact failsUnsupported_of_ok rfl
  | some s =>
    exact failsUnsupported_map (failsUnsupported_resolve (decided body hbody s hschema) _ _)

theorem failsUnsupported_buildResponses {entries : List (String × Referable ResponseEntry)}
    {types : OrderedMap ResponseKey DataType}
    (decided : ∀ entry ∈ entries, (ResponseKey.ofText? entry.1).isSome → ∀ response,
      settleResponse doc s!"{location}/responses/{entry.1}" entry.2 = .ok response →
        ∀ s ∈ Content.jsonSchema? response.content, Decided doc.raw s) :
    FailsUnsupported (buildResponses doc names location entries types) := by
  induction entries generalizing types with
  | nil => exact failsUnsupported_of_ok rfl
  | cons entry rest ih =>
    obtain ⟨key, response⟩ := entry
    obtain ⟨hfirst, hrest⟩ := List.forall_mem_cons.1 decided
    rw [buildResponses]
    cases hkey : ResponseKey.ofText? key with
    | none => exact failsUnsupported_bind (failsUnsupported_of_ok rfl) fun _ _ => ih hrest
    | some responseKey =>
      refine failsUnsupported_bind (failsUnsupported_ofExcept fun _ => settleResponse_error)
        fun settled hsettled => ?_
      cases hschema : Content.jsonSchema? settled.content with
      | none => exact ih hrest
      | some s =>
        have hs : Decided doc.raw s := hfirst (by rw [hkey]; rfl) settled hsettled s hschema
        exact failsUnsupported_bind (failsUnsupported_resolve hs _ _) fun _ _ => ih hrest

theorem failsUnsupported_build {entry : OperationEntry}
    {common : List (Referable ParameterEntry)}
    (decided : entry.operationId.isSome → ∀ s, Uses doc entry common s → Decided doc.raw s)
    (path : String) (method : Method) :
    FailsUnsupported (build doc names path method entry common) := by
  unfold build
  cases hid : entry.operationId with
  | none => exact failsUnsupported_bind (failsUnsupported_of_ok rfl) fun _ _ =>
      failsUnsupported_of_ok rfl
  | some id =>
    replace decided := decided (by rw [hid]; rfl)
    refine failsUnsupported_bind (failsUnsupported_ofExcept fun _ => mergeParameters_error)
      fun merged hmerged => ?_
    refine failsUnsupported_bind (failsUnsupported_buildParameters fun p hp s hs =>
      decided s (.parameter hmerged hp hs)) fun declared _ => ?_
    extract_lets rest
    have hrest : ∀ body, FailsUnsupported (rest body) := fun body =>
      failsUnsupported_bind (failsUnsupported_buildResponses fun declared hmem hkey response
        hresponse s hs => decided s (.response hmem hkey hresponse hs)) fun _ _ =>
          failsUnsupported_bind (failsUnsupported_of_ok rfl) fun _ _ => failsUnsupported_of_ok rfl
    cases hbody : entry.requestBody with
    | none => exact failsUnsupported_bind (failsUnsupported_of_ok rfl) fun body _ => hrest body
    | some b =>
      refine failsUnsupported_bind (failsUnsupported_buildBody fun body hsettled s hs =>
        decided s (.body hbody hsettled hs)) fun p _ => ?_
      exact failsUnsupported_bind (failsUnsupported_of_ok rfl) fun body _ => hrest body

end Operation

namespace OperationTable

variable {names : RecordNames}

theorem failsUnsupported_buildEntries
    {entries : List (String × Method × OperationEntry × List (Referable ParameterEntry))}
    (decided : ∀ e ∈ entries, e.2.2.1.operationId.isSome → ∀ s,
      Operation.Uses doc e.2.2.1 e.2.2.2 s → Decided doc.raw s)
    (table : OperationTable) : FailsUnsupported (buildEntries doc names entries table) := by
  induction entries generalizing table with
  | nil => exact failsUnsupported_of_ok rfl
  | cons e rest ih =>
    obtain ⟨path, method, entry, common⟩ := e
    obtain ⟨hfirst, hrest⟩ := List.forall_mem_cons.1 decided
    refine failsUnsupported_bind (Operation.failsUnsupported_build hfirst path method)
      fun built _ => ?_
    cases built with
    | none => exact ih hrest table
    | some o =>
      dsimp only
      split
      · exact failsUnsupported_bind (failsUnsupported_of_ok rfl) fun _ _ => ih hrest _
      · exact ih hrest _

end OperationTable

end OpenApi
