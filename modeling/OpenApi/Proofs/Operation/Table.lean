import Mathlib.Data.List.Induction
import OpenApi.Client
import OpenApi.Proofs.Operation.Built

/-!
# The table of operations

The table holds one operation for each entry with an id, in buckets by their ids. A client answers
with the operation of an id that stands alone in its bucket.
-/

namespace OpenApi.OperationTable

/-! ## Buckets -/

variable {doc : Document} {names : RecordNames}

theorem eraseDups_concat {α : Type} [DecidableEq α] (l : List α) (a : α) :
    (l ++ [a]).eraseDups = if a ∈ l then l.eraseDups else l.eraseDups ++ [a] := by
  rw [List.eraseDups_append]
  by_cases h : a ∈ l
  · simp [List.removeAll, h]
  · simp [List.removeAll, h, List.eraseDups_cons]

theorem nodup_eraseDups {α : Type} [DecidableEq α] (l : List α) : l.eraseDups.Nodup := by
  induction l using List.reverseRecOn with
  | nil => simp
  | append_singleton l a ih =>
    rw [eraseDups_concat]
    by_cases h : a ∈ l
    · rw [if_pos h]
      exact ih
    · rw [if_neg h, List.nodup_append]
      refine ⟨ih, List.nodup_singleton a, ?_⟩
      intro b hb c hc e
      rw [List.mem_singleton] at hc
      rw [List.mem_eraseDups] at hb
      exact h (hc ▸ e ▸ hb)

/-- Operations in buckets by their ids, in the order of each id's first use. -/
def grouped (ops : List Operation) : OperationTable :=
  (ops.map (·.id)).eraseDups.map fun id => (id, ops.filter (·.id == id))

theorem bucket_grouped (ops : List Operation) (id : String) :
    (OrderedMap.get? (grouped ops) id).getD [] = ops.filter (·.id == id) := by
  unfold grouped
  rw [OrderedMap.get?_map_keys]
  by_cases h : id ∈ (ops.map (·.id)).eraseDups
  · rw [if_pos h, Option.getD_some]
  · rw [if_neg h, Option.getD_none, eq_comm, List.filter_eq_nil_iff]
    intro o ho he
    rw [List.mem_eraseDups] at h
    exact h (List.mem_map.2 ⟨o, ho, by simpa using he⟩)

theorem file_grouped (ops : List Operation) (o : Operation) :
    (grouped ops).file o = grouped (ops ++ [o]) := by
  have hkeys : (ops ++ [o]).map (·.id) = ops.map (·.id) ++ [o.id] := by simp
  unfold file
  rw [bucket_grouped]
  unfold grouped
  rw [OrderedMap.insert_map_keys (nodup_eraseDups _), hkeys, eraseDups_concat]
  simp only [List.mem_eraseDups]
  refine List.map_congr_left fun id _ => ?_
  by_cases h : id = o.id
  · rw [if_pos h, h]
    simp [List.filter_append]
  · rw [if_neg h]
    simp [List.filter_append, Ne.symm h]

theorem foldl_file (before ops : List Operation) :
    ops.foldl file (grouped before) = grouped (before ++ ops) := by
  induction ops generalizing before with
  | nil => simp
  | cons o rest ih =>
    rw [List.foldl_cons, file_grouped, ih, List.append_assoc, List.singleton_append]

/-! ## Entries -/

/-- The operation is that of the entry. -/
def BuiltFrom (doc : Document) (names : RecordNames)
    (e : String × Method × OperationEntry × List (Referable ParameterEntry)) (o : Operation) :
    Prop :=
  (Operation.build doc names e.1 e.2.1 e.2.2.1 e.2.2.2).outcome = .ok (some o)

theorem exists_ops_of_buildEntries
    {entries : List (String × Method × OperationEntry × List (Referable ParameterEntry))}
    {table out : OperationTable} (h : (buildEntries doc names entries table).outcome = .ok out) :
    ∃ ops, List.Forall₂ (BuiltFrom doc names) (entries.filter (·.2.2.1.operationId.isSome)) ops ∧
      out = ops.foldl file table := by
  induction entries generalizing table with
  | nil =>
    cases h
    exact ⟨[], .nil, rfl⟩
  | cons entry rest ih =>
    obtain ⟨path, method, entry, common⟩ := entry
    obtain ⟨built, hbuilt, h⟩ := Logged.outcome_bind_eq_ok_iff.1 h
    rcases Operation.build_cases hbuilt with ⟨hid, rfl⟩ | ⟨o, _, _, _, _, rfl, parts⟩
    · obtain ⟨ops, hops, hout⟩ := ih h
      refine ⟨ops, ?_, hout⟩
      rw [List.filter_cons_of_neg (by simp [hid])]
      exact hops
    · have hrest : (buildEntries doc names rest (table.file o)).outcome = .ok out := by
        simp only at h
        split at h
        · exact h
        · exact h
      obtain ⟨ops, hops, hout⟩ := ih hrest
      refine ⟨o :: ops, ?_, hout⟩
      rw [List.filter_cons_of_pos (by simp [parts.named])]
      exact .cons hbuilt hops

/-- Path, method and id of each entry with an id, path by path and each path's methods in their
order. -/
def identified (doc : Document) : List (String × Method × String) :=
  doc.description.paths.flatMap fun (path, item) =>
    Method.listed.filterMap fun m =>
      (item.operation? m).bind fun entry => entry.operationId.map fun id => (path, m, id)

theorem identified_eq (doc : Document) :
    identified doc = (entries doc).filterMap fun e =>
      e.2.2.1.operationId.map fun id => (e.1, e.2.1, id) := by
  unfold identified entries PathItem.listed
  rw [List.filterMap_flatMap]
  refine List.flatMap_congr ?_
  rintro ⟨path, item⟩ _
  simp only [List.map_filterMap, List.filterMap_filterMap]
  refine List.filterMap_congr fun m _ => ?_
  cases item.operation? m <;> rfl

theorem map_of_builtFrom
    {entries : List (String × Method × OperationEntry × List (Referable ParameterEntry))}
    {ops : List Operation}
    (h : List.Forall₂ (BuiltFrom doc names) (entries.filter (·.2.2.1.operationId.isSome)) ops) :
    ops.map (fun o => (o.path, o.method, o.id)) =
      entries.filterMap fun e => e.2.2.1.operationId.map fun id => (e.1, e.2.1, id) := by
  induction entries generalizing ops with
  | nil =>
    cases h
    rfl
  | cons e rest ih =>
    cases hid : e.2.2.1.operationId with
    | none =>
      rw [List.filter_cons_of_neg (by simp [hid])] at h
      rw [List.filterMap_cons_none (by simp [hid])]
      exact ih h
    | some id =>
      rw [List.filter_cons_of_pos (by simp [hid])] at h
      obtain _ | ⟨hbuilt, hrest⟩ := h
      obtain ⟨_, _, _, _, parts⟩ := Operation.assembled_of_build hbuilt
      have hsame : id = _ := Option.some.inj (hid.symm.trans parts.named)
      rw [List.filterMap_cons_some (by rw [hid]; rfl), List.map_cons, ih hrest, parts.path_eq,
        parts.method_eq, hsame]

/-- A table that is built is made of one operation for each entry with an id. -/
theorem exists_grouped_of_build {table : OperationTable}
    (h : (build doc names).outcome = .ok table) :
    ∃ ops, List.Forall₂ (BuiltFrom doc names)
        ((entries doc).filter (·.2.2.1.operationId.isSome)) ops ∧
      ops.map (fun o => (o.path, o.method, o.id)) = identified doc ∧ table = grouped ops := by
  obtain ⟨out, hout, h⟩ := Logged.outcome_bind_eq_ok_iff.1 h
  cases h
  obtain ⟨ops, hops, rfl⟩ := exists_ops_of_buildEntries hout
  refine ⟨ops, hops, ?_, foldl_file [] ops⟩
  rw [map_of_builtFrom hops, identified_eq]

theorem mem_of_mem_grouped {ops : List Operation} {o : Operation}
    (h : o ∈ operations (grouped ops)) : o ∈ ops := by
  unfold operations grouped at h
  simp only [OrderedMap.values, List.map_map, List.mem_flatten, List.mem_map] at h
  obtain ⟨_, ⟨id, _, rfl⟩, ho⟩ := h
  exact (List.mem_filter.1 ho).1

theorem built_of_mem {table : OperationTable} (h : (build doc names).outcome = .ok table)
    {o : Operation} (ho : o ∈ table.operations) : Operation.Built doc names o := by
  obtain ⟨ops, hops, _, rfl⟩ := exists_grouped_of_build h
  obtain ⟨e, he⟩ := Operation.exists_of_forall₂ hops o (mem_of_mem_grouped ho)
  exact ⟨e.1, e.2.1, e.2.2.1, e.2.2.2, he⟩

/-! ## Operations of a raw document -/

/-- The raw document has the operation and the registry. -/
structure Offered (raw : Json) (doc : Document) (r : Registry) (o : Operation) : Prop where
  read : Document.ofJson raw = .ok doc
  registered : (Registry.build doc).outcome = .ok r
  listed : ∃ table, (build doc r.names).outcome = .ok table ∧ o ∈ table.operations

theorem Offered.built {raw : Json} {r : Registry} {o : Operation} (h : Offered raw doc r o) :
    Operation.Built doc r.names o := by
  obtain ⟨table, htable, ho⟩ := h.listed
  exact built_of_mem htable ho

/-- The first operation of a raw document, with the registry. -/
def firstOffered? (raw : Json) : Option (Registry × Operation) :=
  (Document.ofJson raw).toOption.bind fun doc =>
    (Registry.build doc).outcome.toOption.bind fun r =>
      (build doc r.names).outcome.toOption.bind fun table =>
        table.operations.head?.map fun o => (r, o)

theorem exists_offered {raw : Json} {α : Type} {f : Registry × Operation → α} {a : α}
    (h : (firstOffered? raw).map f = some a) : ∃ doc r o, Offered raw doc r o ∧ f (r, o) = a := by
  obtain ⟨_, hfirst, hf⟩ := Option.map_eq_some_iff.1 h
  obtain ⟨doc, hdoc, hfirst⟩ := Option.bind_eq_some_iff.1 hfirst
  obtain ⟨r, hr, hfirst⟩ := Option.bind_eq_some_iff.1 hfirst
  obtain ⟨table, htable, hfirst⟩ := Option.bind_eq_some_iff.1 hfirst
  obtain ⟨o, ho, rfl⟩ := Option.map_eq_some_iff.1 hfirst
  rw [Json.Typed.toOption_eq_some_iff] at hdoc hr htable
  exact ⟨doc, r, o, ⟨hdoc, hr, table, htable, List.mem_of_head? ho⟩, hf⟩

/-! ## Looking operations up -/

/-- The entries with the id. -/
def sharing (doc : Document) (id : String) : List (String × Method × String) :=
  (identified doc).filter (·.2.2 == id)

theorem map_bucket {ops : List Operation}
    (h : ops.map (fun o => (o.path, o.method, o.id)) = identified doc) (id : String) :
    (ops.filter (·.id == id)).map (fun o => (o.path, o.method, o.id)) = sharing doc id := by
  unfold sharing
  rw [← h, List.filter_map]
  rfl

end OpenApi.OperationTable

namespace OpenApi.Client

open OperationTable (grouped sharing)

theorem build_parts {doc : Document} {options : ClientOptions} {c : Client}
    (h : (build doc options).outcome = .ok c) :
    ∃ r, (Registry.build doc).outcome = .ok r ∧
      (OperationTable.build doc r.names).outcome = .ok c.operations := by
  obtain ⟨r, hr, h⟩ := Logged.outcome_bind_eq_ok_iff.1 h
  obtain ⟨table, htable, h⟩ := Logged.outcome_bind_eq_ok_iff.1 h
  obtain ⟨groups, _, h⟩ := Logged.outcome_bind_eq_ok_iff.1 h
  obtain ⟨server, _, h⟩ := Logged.outcome_bind_eq_ok_iff.1 h
  obtain ⟨_, _, h⟩ := Logged.outcome_bind_eq_ok_iff.1 h
  cases h
  exact ⟨r, hr, htable⟩

theorem operation_of_grouped {c : Client} {ops : List Operation} (h : c.operations = grouped ops)
    (id : String) :
    c.operation id = match ops.filter (·.id == id) with
      | [] => .error (.unknownOperation id)
      | [o] => .ok o
      | bucket => .error (.ambiguousOperation id bucket.length) := by
  have hbucket : (c.operations.get? id).getD [] = ops.filter (·.id == id) := by
    rw [h, OperationTable.bucket_grouped]
  rcases hops : ops.filter (·.id == id) with _ | ⟨o, _ | ⟨o', rest⟩⟩ <;>
    simp [operation, hbucket, hops]

/-- Every entry of a document with an id has one operation in the table, and no other has one. The
buckets come in the order in which the ids are first used, each in the order of the document. A
client finds the operation of an id that one entry has. -/
theorem table_holds_entries_once {doc : Document} {names : RecordNames}
    {table : OperationTable} (h : (OperationTable.build doc names).outcome = .ok table) :
    (∃ ops, ops.map (fun o : Operation => (o.path, o.method, o.id)) =
        OperationTable.identified doc ∧ table = grouped ops) ∧
      ∀ options c, (build doc options).outcome = .ok c → ∀ id,
        ((∃ o, c.operation id = .ok o) ↔ (sharing doc id).length = 1) ∧
        (∀ o, c.operation id = .ok o → (o.path, o.method, o.id) ∈ sharing doc id) ∧
        (sharing doc id = [] → c.operation id = .error (.unknownOperation id)) ∧
        (1 < (sharing doc id).length →
          c.operation id = .error (.ambiguousOperation id (sharing doc id).length)) := by
  obtain ⟨ops, _, hops, htable⟩ := OperationTable.exists_grouped_of_build h
  refine ⟨⟨ops, hops, htable⟩, fun options c hc id => ?_⟩
  obtain ⟨r, _, htable'⟩ := build_parts hc
  obtain ⟨ops', _, hops', hgrouped⟩ := OperationTable.exists_grouped_of_build htable'
  rw [operation_of_grouped hgrouped, ← OperationTable.map_bucket hops' id]
  cases ops'.filter (·.id == id) with
  | nil => simp
  | cons o rest =>
    cases rest with
    | nil => simp
    | cons o' rest => simp

section Library

open Json.Typed (toOption_eq_some_iff)

/-- Two entries have one id, one entry has none. -/
def library : Json :=
  .object [("openapi", .string "3.0.0"), ("info", .object []), ("paths", .object
    [("/books", .object
      [("post", .object [("operationId", .string "addBook")]),
        ("get", .object [("operationId", .string "fetch")]), ("delete", .object [])]),
      ("/loans", .object [("get", .object [("operationId", .string "fetch")])])])]

theorem library_built :
    ((Document.ofJson library).toOption.bind fun doc =>
      (Registry.build doc).outcome.toOption.bind fun r =>
        (OperationTable.build doc r.names).outcome.toOption.bind fun table =>
          (build doc {}).outcome.toOption.map fun _ =>
            (OperationTable.identified doc, OrderedMap.keys table)) =
      some ([("/books", .get, "fetch"), ("/books", .post, "addBook"), ("/loans", .get, "fetch")],
        ["fetch", "addBook"]) := by
  decide +kernel

theorem table_holds_entries_once_library :
    ∃ doc r table c, Document.ofJson library = .ok doc ∧ (Registry.build doc).outcome = .ok r ∧
      (OperationTable.build doc r.names).outcome = .ok table ∧ (build doc {}).outcome = .ok c ∧
      OrderedMap.keys table = ["fetch", "addBook"] ∧
      (∃ ops, ops.map (fun o : Operation => (o.path, o.method, o.id)) =
          [("/books", .get, "fetch"), ("/books", .post, "addBook"), ("/loans", .get, "fetch")] ∧
        table = grouped ops) ∧
      c.operation "fetch" = .error (.ambiguousOperation "fetch" 2) ∧
      (∃ o, c.operation "addBook" = .ok o) ∧
      c.operation "lend" = .error (.unknownOperation "lend") := by
  obtain ⟨doc, hdoc, h⟩ := Option.bind_eq_some_iff.1 library_built
  obtain ⟨r, hr, h⟩ := Option.bind_eq_some_iff.1 h
  obtain ⟨table, htable, h⟩ := Option.bind_eq_some_iff.1 h
  obtain ⟨c, hc, h⟩ := Option.map_eq_some_iff.1 h
  obtain ⟨hentries, hkeys⟩ := Prod.mk.inj h
  rw [toOption_eq_some_iff] at hdoc hr htable hc
  obtain ⟨⟨ops, hops, hgrouped⟩, hanswers⟩ := table_holds_entries_once htable
  have hshared : ∀ id, sharing doc id = [("/books", Method.get, "fetch"),
      ("/books", .post, "addBook"), ("/loans", .get, "fetch")].filter (·.2.2 == id) := by
    intro id
    rw [sharing, hentries]
  have hfetch := (hanswers {} c hc "fetch").2.2.2
  have hadd := (hanswers {} c hc "addBook").1
  have hlend := (hanswers {} c hc "lend").2.2.1
  rw [hshared] at hfetch hadd hlend
  exact ⟨doc, r, table, c, hdoc, hr, htable, hc, hkeys, ⟨ops, hops.trans hentries, hgrouped⟩,
    hfetch (by decide), hadd.2 (by decide), hlend (by decide)⟩

end Library

end OpenApi.Client
