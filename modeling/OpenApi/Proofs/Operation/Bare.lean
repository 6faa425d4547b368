import OpenApi.Proofs.Document.BareEntries
import OpenApi.Proofs.Operation.Table
import OpenApi.Proofs.Registry.Settled

/-!
# What a document without its free texts is built into

The registry is the same, and so are the operations but for their summaries and descriptions.
-/

namespace OpenApi

open Document (Bared Place bare)

def Parameter.core (p : Parameter) : Parameter :=
  { p with description := none }

def Operation.core (o : Operation) : Operation :=
  { o with summary := none, description := none, parameters := o.parameters.map Parameter.core }

def OperationTable.core (table : OperationTable) : OperationTable :=
  table.map fun p => (p.1, p.2.map Operation.core)

variable {doc doc₁ : Document} {names : RecordNames}

/-! ## The registry -/

namespace Registry

open Resolution

theorem resolve_bare (bared : Bared doc doc₁) {s : Schema} {location : String} {ty : DataType}
    (h : (resolve doc names s location).outcome = .ok ty) :
    (resolve doc₁ names s location).outcome = .ok ty := by
  rw [resolve_ok_iff] at h ⊢
  rw [bared.raw]
  exact Document.hasType_bare h

theorem entered_bare {raw : Json} {sources : List String}
    {objects : List (String × SchemaObject Schema)} {records : List RecordType}
    (h : Entered raw sources objects records) :
    Entered (bare .document raw) sources objects records := by
  induction h with
  | nil sources => exact .nil sources
  | cons new names typed _ ih =>
    exact .cons new names (typed.imp fun _ _ hty => Document.hasType_bare hty) ih

theorem settleFields_bare (bared : Bared doc doc₁) {pending : List Pending} {r : Registry}
    {replaced : Nat} {out : Registry × Nat}
    (h : (settleFields doc names pending r replaced).outcome = .ok out) :
    (settleFields doc₁ names pending r replaced).outcome = .ok out := by
  induction pending generalizing r replaced with
  | nil => exact h
  | cons p rest ih =>
    obtain ⟨ty, hty, h⟩ := settleFields_cons_ok_iff.1 h
    refine settleFields_cons_ok_iff.2 ⟨ty, ?_, ih h⟩
    rw [bared.raw]
    exact Document.hasType_bare hty

theorem build_bare (bared : Bared doc doc₁) {r : Registry} (h : (build doc).outcome = .ok r) :
    (build doc₁).outcome = .ok r := by
  have hobjects : objectsOf doc₁ = objectsOf doc := by
    rw [objectsOf, objectsOf, bared.components]
  obtain ⟨hdiffer, entered, hentered, replaced, hsettled⟩ := build_ok_iff_passes.1 h
  refine build_ok_iff_passes.2 ⟨?_, entered, ?_, replaced, ?_⟩
  · rw [NamesDiffer, bared.components]
    exact hdiffer
  · rw [bared.raw, hobjects]
    exact entered_bare hentered
  · rw [sourcesOf, hobjects]
    exact settleFields_bare bared hsettled

end Registry

/-! ## Operations -/

namespace Operation

open Resolution

variable {location : String}

section References

variable {α β : Type} {core : α → β} {read : Json → Except Json.Mismatch α}

theorem referenced_bare (bared : Bared doc doc₁)
    (notText : ∀ v a, read v = .ok a → v.isText = false)
    (each : ∀ place v a, read v = .ok a → ∃ a₁, read (bare place v) = .ok a₁ ∧ core a₁ = core a)
    {path : String} {a : α} (h : referenced doc read path location = .ok a) :
    ∃ a₁, referenced doc₁ read path location = .ok a₁ ∧ core a₁ = core a := by
  unfold referenced at h ⊢
  split at h
  · cases h
  · rename_i v hv
    obtain ⟨pointer, hpointer, hv⟩ := Option.bind_eq_some_iff.1 hv
    cases hread : read v with
    | error m =>
      rw [hread] at h
      cases h
    | ok a' =>
      rw [hread] at h
      cases h
      obtain ⟨place, hplace⟩ :=
        Document.pointer?_bare .document hv (notText v a hread)
      obtain ⟨a₁, ha₁, hcore⟩ := each place v a hread
      refine ⟨a₁, ?_, hcore⟩
      rw [hpointer, Option.bind_some, Document.pointer?, bared.raw, hplace]
      simp only [ha₁]
      rfl

end References

theorem settle_bare {α β : Type} {core : α → β} {read : Json → Except Json.Mismatch (Referable α)}
    (bared : Bared doc doc₁) (notText : ∀ v a, read v = .ok a → v.isText = false)
    (each : ∀ place v r, read v = .ok r →
      ∃ r₁, read (bare place v) = .ok r₁ ∧ r₁.map core = r.map core)
    {tooDeep : Unsupported} {fuel : Nat} {r r₁ : Referable α} (same : r₁.map core = r.map core)
    {a : α} (h : settle doc read location tooDeep fuel r = .ok a) :
    ∃ a₁, settle doc₁ read location tooDeep fuel r₁ = .ok a₁ ∧ core a₁ = core a := by
  induction fuel generalizing r r₁ with
  | zero => cases h
  | succ fuel ih =>
    cases r with
    | inline value =>
      cases r₁ with
      | reference path => cases same
      | inline value₁ =>
        cases h
        exact ⟨value₁, rfl, Referable.inline.inj same⟩
    | reference path =>
      cases r₁ with
      | inline value₁ => cases same
      | reference path₁ =>
        obtain rfl : path₁ = path := Referable.reference.inj same
        obtain ⟨next, hnext, h⟩ := Json.Typed.bind_eq_ok_iff.1 h
        obtain ⟨next₁, hnext₁, hsame⟩ := referenced_bare bared notText each hnext
        obtain ⟨a₁, ha₁, hcore⟩ := ih hsame h
        exact ⟨a₁, Json.Typed.bind_eq_ok_iff.2 ⟨next₁, hnext₁, ha₁⟩, hcore⟩

/-! ## Nothing but objects and arrays is read by reference -/

theorem notText_of_record {σ : Type} {layout : Json.Typed.Layout σ} {start r : σ} {v : Json}
    (h : Json.Typed.record layout start v = .ok r) : v.isText = false := by
  cases v with
  | null | string _ => cases h
  | _ => rfl

theorem notText_of_parameter {v : Json} {e : ParameterEntry} (h : ParameterEntry.read v = .ok e) :
    v.isText = false := by
  obtain ⟨_, hdraft, _⟩ := Json.Typed.bind_eq_ok_iff.1 h
  exact notText_of_record hdraft

theorem notText_of_referable {α : Type} {name : String} {read : Json → Except Json.Mismatch α}
    (notText : ∀ v a, read v = .ok a → v.isText = false) (v : Json) (r : Referable α)
    (h : Referable.read name read v = .ok r) : v.isText = false := by
  have hinline : ∀ a, read v = .ok a → v.isText = false := notText v
  cases v with
  | null | string _ =>
    rw [Referable.read, Json.Typed.choice, Referable.read?] at h
    cases hread : read _ with
    | ok a => exact hinline a hread
    | error m =>
      rw [hread] at h
      cases h
  | _ => rfl

theorem settleParameter_bare (bared : Bared doc doc₁) {p : Referable ParameterEntry}
    {e : ParameterEntry} (h : settleParameter doc location p = .ok e) :
    ∃ e₁, settleParameter doc₁ location p = .ok e₁ ∧ e₁.core = e.core :=
  settle_bare bared (notText_of_referable fun _ _ => notText_of_parameter)
    (fun place _ _ => Document.referable_bare (fun _ _ _ => Document.parameterEntry_bare _) place)
    rfl h

theorem settleRequestBody_bare (bared : Bared doc doc₁) {b : Referable RequestBody}
    {body : RequestBody} (h : settleRequestBody doc location b = .ok body) :
    ∃ body₁, settleRequestBody doc₁ location b = .ok body₁ ∧ body₁.core = body.core :=
  settle_bare bared (notText_of_referable fun _ _ => notText_of_record)
    (fun place _ _ => Document.referable_bare (fun _ _ _ => Document.requestBody_bare _) place)
    rfl h

theorem settleResponse_bare (bared : Bared doc doc₁) {r : Referable ResponseEntry}
    {response : ResponseEntry} (h : settleResponse doc location r = .ok response) :
    ∃ response₁, settleResponse doc₁ location r = .ok response₁ ∧
      response₁.core = response.core := by
  cases r with
  | inline value => exact ⟨response, h, rfl⟩
  | reference path =>
    exact referenced_bare bared (fun _ _ => notText_of_record)
      (fun place _ _ => Document.responseEntry_bare place) h

/-! ## Building -/

theorem mapM_settleParameter_bare (bared : Bared doc doc₁) {ps : List (Referable ParameterEntry)}
    {entries : List ParameterEntry} (h : ps.mapM (settleParameter doc location) = .ok entries) :
    ∃ entries₁, ps.mapM (settleParameter doc₁ location) = .ok entries₁ ∧
      entries₁.map ParameterEntry.core = entries.map ParameterEntry.core := by
  induction ps generalizing entries with
  | nil =>
    cases h
    exact ⟨[], rfl, rfl⟩
  | cons p rest ih =>
    rw [List.mapM_cons] at h
    obtain ⟨e, he, h⟩ := Json.Typed.bind_eq_ok_iff.1 h
    obtain ⟨others, hothers, h⟩ := Json.Typed.bind_eq_ok_iff.1 h
    cases h
    obtain ⟨e₁, he₁, hcore⟩ := settleParameter_bare bared he
    obtain ⟨others₁, hothers₁, hcores⟩ := ih hothers
    refine ⟨e₁ :: others₁, ?_, by rw [List.map_cons, List.map_cons, hcore, hcores]⟩
    rw [List.mapM_cons, he₁, hothers₁]
    rfl

theorem core_merged (entries : List ParameterEntry) :
    (OrderedMap.values (OrderedMap.ofList
        (entries.map fun p => ((p.name, p.location), p)))).map ParameterEntry.core =
      OrderedMap.values (OrderedMap.ofList
        ((entries.map ParameterEntry.core).map fun p => ((p.name, p.location), p))) := by
  have hfold : ∀ m : OrderedMap (String × Location) ParameterEntry,
      (OrderedMap.insertAll m (entries.map fun p => ((p.name, p.location), p))).map
          (fun q => (q.1, q.2.core)) =
        OrderedMap.insertAll (m.map fun q => (q.1, q.2.core))
          ((entries.map ParameterEntry.core).map fun p => ((p.name, p.location), p)) := by
    induction entries with
    | nil => exact fun _ => rfl
    | cons e rest ih =>
      intro m
      have hinsert := OrderedMap.insert_map m ParameterEntry.core (e.name, e.location) e
      change (OrderedMap.insertAll (OrderedMap.insert m (e.name, e.location) e) _).map _ =
        OrderedMap.insertAll (OrderedMap.insert _ (e.name, e.location) e.core) _
      rw [ih, hinsert]
  have hempty := hfold []
  rw [OrderedMap.values, OrderedMap.values, OrderedMap.ofList, OrderedMap.ofList,
    List.map_map, ← List.map_nil, ← hempty, List.map_map]
  rfl

theorem mergeParameters_bare (bared : Bared doc doc₁) {common own : List (Referable ParameterEntry)}
    {merged : List ParameterEntry} (h : mergeParameters doc location common own = .ok merged) :
    ∃ merged₁, mergeParameters doc₁ location common own = .ok merged₁ ∧
      merged₁.map ParameterEntry.core = merged.map ParameterEntry.core := by
  obtain ⟨entries, hentries, h⟩ := Json.Typed.bind_eq_ok_iff.1 h
  cases h
  obtain ⟨entries₁, hentries₁, hcore⟩ := mapM_settleParameter_bare bared hentries
  refine ⟨_, Json.Typed.bind_eq_ok_iff.2 ⟨entries₁, hentries₁, rfl⟩, ?_⟩
  rw [core_merged, core_merged, hcore]

theorem buildParameter_bare (bared : Bared doc doc₁) {e e₁ : ParameterEntry}
    (same : e₁.core = e.core) {p : Parameter}
    (h : (buildParameter doc names location e).outcome = .ok p) :
    ∃ p₁, (buildParameter doc₁ names location e₁).outcome = .ok p₁ ∧ p₁.core = p.core := by
  obtain ⟨_, _, _, _, _⟩ := e
  obtain ⟨name, place, description, required, schema⟩ := e₁
  simp only [ParameterEntry.core, ParameterEntry.mk.injEq, true_and] at same
  obtain ⟨rfl, rfl, rfl, rfl⟩ := same
  unfold buildParameter at h ⊢
  cases schema with
  | none =>
    cases h
    exact ⟨_, rfl, rfl⟩
  | some schema =>
    obtain ⟨ty, hty, h⟩ := Logged.outcome_bind_eq_ok_iff.1 h
    cases h
    exact ⟨_, Logged.outcome_bind_eq_ok_iff.2 ⟨ty, Registry.resolve_bare bared hty, rfl⟩, rfl⟩

theorem buildParameters_bare (bared : Bared doc doc₁) {es es₁ : List ParameterEntry}
    (same : es₁.map ParameterEntry.core = es.map ParameterEntry.core) {i : Nat}
    {ps : List Parameter} (h : (buildParameters doc names location es i).outcome = .ok ps) :
    ∃ ps₁, (buildParameters doc₁ names location es₁ i).outcome = .ok ps₁ ∧
      ps₁.map Parameter.core = ps.map Parameter.core := by
  induction es generalizing es₁ i ps with
  | nil =>
    obtain rfl := List.map_eq_nil_iff.1 same
    cases h
    exact ⟨[], rfl, rfl⟩
  | cons e rest ih =>
    obtain ⟨e₁, rest₁, rfl, hcore, hrest⟩ := List.map_eq_cons_iff.1 same
    obtain ⟨p, hp, h⟩ := Logged.outcome_bind_eq_ok_iff.1 h
    obtain ⟨others, hothers, h⟩ := Logged.outcome_bind_eq_ok_iff.1 h
    cases h
    obtain ⟨p₁, hp₁, hp⟩ := buildParameter_bare bared hcore hp
    obtain ⟨others₁, hothers₁, hothers⟩ := ih hrest hothers
    refine ⟨p₁ :: others₁, ?_, by rw [List.map_cons, List.map_cons, hp, hothers]⟩
    exact Logged.outcome_bind_eq_ok_iff.2 ⟨p₁, hp₁,
      Logged.outcome_bind_eq_ok_iff.2 ⟨others₁, hothers₁, rfl⟩⟩

theorem buildBody_bare (bared : Bared doc doc₁) {b : Referable RequestBody} {p : Parameter}
    (h : (buildBody doc names location b).outcome = .ok p) :
    ∃ p₁, (buildBody doc₁ names location b).outcome = .ok p₁ ∧ p₁.core = p.core := by
  obtain ⟨body, hbody, h⟩ := Logged.outcome_bind_eq_ok_iff.1 h
  obtain ⟨⟨_, content, required⟩, hbody₁, hcore⟩ := settleRequestBody_bare bared hbody
  simp only [RequestBody.core, RequestBody.mk.injEq, true_and] at hcore
  obtain ⟨rfl, rfl⟩ := hcore
  unfold buildBody
  rw [Logged.outcome_bind_of_ok hbody₁]
  dsimp only at h ⊢
  split at h
  · cases h
    exact ⟨_, rfl, rfl⟩
  · obtain ⟨ty, hty, h⟩ := Logged.outcome_bind_eq_ok_iff.1 h
    cases h
    exact ⟨_, Logged.outcome_bind_eq_ok_iff.2 ⟨ty, Registry.resolve_bare bared hty, rfl⟩, rfl⟩

theorem buildResponses_bare (bared : Bared doc doc₁)
    {entries : List (String × Referable ResponseEntry)}
    {types out : OrderedMap ResponseKey DataType}
    (h : (buildResponses doc names location entries types).outcome = .ok out) :
    (buildResponses doc₁ names location entries types).outcome = .ok out := by
  induction entries generalizing types with
  | nil => exact h
  | cons entry rest ih =>
    obtain ⟨key, response⟩ := entry
    rw [buildResponses] at h ⊢
    split at h
    · obtain ⟨_, _, h⟩ := Logged.outcome_bind_eq_ok_iff.1 h
      exact Logged.outcome_bind_eq_ok_iff.2 ⟨(), rfl, ih h⟩
    · obtain ⟨entry, hentry, h⟩ := Logged.outcome_bind_eq_ok_iff.1 h
      obtain ⟨⟨_, content⟩, hentry₁, hcore⟩ := settleResponse_bare bared hentry
      simp only [ResponseEntry.core, ResponseEntry.mk.injEq, true_and] at hcore
      obtain rfl := hcore
      refine Logged.outcome_bind_eq_ok_iff.2 ⟨_, hentry₁, ?_⟩
      dsimp only at h ⊢
      split at h
      · exact ih h
      · obtain ⟨ty, hty, h⟩ := Logged.outcome_bind_eq_ok_iff.1 h
        exact Logged.outcome_bind_eq_ok_iff.2 ⟨ty, Registry.resolve_bare bared hty, ih h⟩

theorem build_bare (bared : Bared doc doc₁) {path : String} {method : Method}
    {entry entry₁ : OperationEntry} (same : entry₁.core = entry.core)
    {common : List (Referable ParameterEntry)} {built : Option Operation}
    (h : (build doc names path method entry common).outcome = .ok built) :
    ∃ built₁, (build doc₁ names path method entry₁ common).outcome = .ok built₁ ∧
      built₁.map Operation.core = built.map Operation.core := by
  obtain ⟨_, _, _, _, _, _, _, _⟩ := entry
  obtain ⟨id, summary, description, tags, parameters, requestBody, responses, deprecated⟩ := entry₁
  simp only [OperationEntry.core, OperationEntry.mk.injEq, true_and] at same
  obtain ⟨rfl, rfl, rfl, rfl, rfl, rfl⟩ := same
  unfold build at h ⊢
  cases id with
  | none =>
    cases h
    exact ⟨none, rfl, rfl⟩
  | some id =>
    obtain ⟨merged, hmerged, h⟩ := Logged.outcome_bind_eq_ok_iff.1 h
    obtain ⟨declared, hdeclared, h⟩ := Logged.outcome_bind_eq_ok_iff.1 h
    obtain ⟨merged₁, hmerged₁, hcore⟩ := mergeParameters_bare bared hmerged
    obtain ⟨declared₁, hdeclared₁, hparameters⟩ := buildParameters_bare bared hcore hdeclared
    rw [Logged.outcome_bind_of_ok (Logged.outcome_ofExcept _ |>.trans hmerged₁),
      Logged.outcome_bind_of_ok hdeclared₁]
    cases requestBody with
    | none =>
      obtain ⟨body, hbody, h⟩ := Logged.outcome_bind_eq_ok_iff.1 h
      cases hbody
      obtain ⟨types, htypes, h⟩ := Logged.outcome_bind_eq_ok_iff.1 h
      obtain ⟨_, _, h⟩ := Logged.outcome_bind_eq_ok_iff.1 h
      cases h
      refine ⟨_, Logged.outcome_bind_eq_ok_iff.2 ⟨[], rfl, Logged.outcome_bind_eq_ok_iff.2
        ⟨types, buildResponses_bare bared htypes, rfl⟩⟩, ?_⟩
      simp [Operation.core, hparameters]
    | some b =>
      obtain ⟨p, hp, h⟩ := Logged.outcome_bind_eq_ok_iff.1 h
      obtain ⟨body, hbody, h⟩ := Logged.outcome_bind_eq_ok_iff.1 h
      cases hbody
      obtain ⟨types, htypes, h⟩ := Logged.outcome_bind_eq_ok_iff.1 h
      obtain ⟨_, _, h⟩ := Logged.outcome_bind_eq_ok_iff.1 h
      cases h
      obtain ⟨p₁, hp₁, hcore⟩ := buildBody_bare bared hp
      refine ⟨_, Logged.outcome_bind_eq_ok_iff.2 ⟨p₁, hp₁, Logged.outcome_bind_eq_ok_iff.2
        ⟨[p₁], rfl, Logged.outcome_bind_eq_ok_iff.2
          ⟨types, buildResponses_bare bared htypes, rfl⟩⟩⟩, ?_⟩
      simp [Operation.core, hparameters, hcore]

end Operation

/-! ## The table -/

namespace OperationTable

/-- An entry of a document, but for its free texts. -/
def entryCore (e : String × Method × OperationEntry × List (Referable ParameterEntry)) :
    String × Method × OperationEntry × List (Referable ParameterEntry) :=
  (e.1, e.2.1, e.2.2.1.core, e.2.2.2)

theorem listed_core (item : PathItem) :
    item.core.listed = item.listed.map fun p => (p.1, p.2.core) := by
  rw [PathItem.listed, PathItem.listed, List.map_filterMap]
  refine List.filterMap_congr fun m _ => ?_
  rw [PathItem.operation?, PathItem.core, OrderedMap.get?_map, Option.map_map, Option.map_map,
    PathItem.operation?]
  rfl

theorem entries_core (doc : Document) :
    (entries doc).map entryCore =
      (doc.description.paths.map fun p => (p.1, p.2.core)).flatMap fun p =>
        p.2.listed.map fun q => (p.1, q.1, q.2, p.2.parameters) := by
  rw [entries, List.map_flatMap, List.flatMap_map]
  refine List.flatMap_congr fun p _ => ?_
  dsimp only
  rw [listed_core, List.map_map, List.map_map]
  rfl

theorem entries_bare (bared : Bared doc doc₁) :
    (entries doc₁).map entryCore = (entries doc).map entryCore := by
  rw [entries_core, entries_core, bared.paths]

theorem bucket_core (table : OperationTable) (id : String) :
    ((OrderedMap.get? table id).getD []).map Operation.core =
      (OrderedMap.get? table.core id).getD [] := by
  rw [core, OrderedMap.get?_map]
  cases OrderedMap.get? table id <;> rfl

theorem operations_core (table : OperationTable) :
    table.core.operations = table.operations.map Operation.core := by
  rw [operations, operations, OrderedMap.values, OrderedMap.values, core, List.map_flatten,
    List.map_map, List.map_map]
  rfl

theorem core_file (table : OperationTable) (o : Operation) :
    (table.file o).core = table.core.file o.core := by
  rw [file, file, core, ← OrderedMap.insert_map, List.map_append, bucket_core]
  rfl

theorem buildEntries_bare (bared : Bared doc doc₁)
    {es es₁ : List (String × Method × OperationEntry × List (Referable ParameterEntry))}
    (sameEntries : es₁.map entryCore = es.map entryCore) {table table₁ out : OperationTable}
    (same : table₁.core = table.core) (h : (buildEntries doc names es table).outcome = .ok out) :
    ∃ out₁, (buildEntries doc₁ names es₁ table₁).outcome = .ok out₁ ∧ out₁.core = out.core := by
  induction es generalizing es₁ table table₁ with
  | nil =>
    obtain rfl := List.map_eq_nil_iff.1 sameEntries
    cases h
    exact ⟨table₁, rfl, same⟩
  | cons e rest ih =>
    obtain ⟨e₁, rest₁, rfl, hentry, hrest⟩ := List.map_eq_cons_iff.1 sameEntries
    obtain ⟨path, method, entry, common⟩ := e
    obtain ⟨_, _, entry₁, _⟩ := e₁
    simp only [entryCore, Prod.mk.injEq] at hentry
    obtain ⟨rfl, rfl, hcore, rfl⟩ := hentry
    obtain ⟨built, hbuilt, h⟩ := Logged.outcome_bind_eq_ok_iff.1 h
    obtain ⟨built₁, hbuilt₁, hsame⟩ := Operation.build_bare bared hcore hbuilt
    rw [buildEntries, Logged.outcome_bind_of_ok hbuilt₁]
    cases built with
    | none =>
      obtain rfl := Option.map_eq_none_iff.1 hsame
      exact ih hrest same h
    | some o =>
      obtain ⟨o₁, rfl, ho⟩ := Option.map_eq_some_iff.1 hsame
      have hothers : (buildEntries doc names rest (table.file o)).outcome = .ok out := by
        simp only at h
        split at h <;> exact h
      have hfiled : (table₁.file o₁).core = (table.file o).core := by
        rw [core_file, core_file, same, ho]
      obtain ⟨out₁, hout₁, hcore⟩ := ih hrest hfiled hothers
      refine ⟨out₁, ?_, hcore⟩
      simp only
      split <;> exact hout₁

theorem build_bare (bared : Bared doc doc₁) {table : OperationTable}
    (h : (build doc names).outcome = .ok table) :
    ∃ table₁, (build doc₁ names).outcome = .ok table₁ ∧ table₁.core = table.core := by
  obtain ⟨out, hout, h⟩ := Logged.outcome_bind_eq_ok_iff.1 h
  cases h
  obtain ⟨out₁, hout₁, hcore⟩ := buildEntries_bare bared (entries_bare bared) rfl hout
  exact ⟨out₁, Logged.outcome_bind_eq_ok_iff.2 ⟨out₁, hout₁, rfl⟩, hcore⟩

end OperationTable

end OpenApi
