import OpenApi.Proofs.Wrapper.Code

/-!
# Free texts and the code of a wrapper

The wrappers of two documents that differ in their free texts have the same code, but for what
titles and versions spill.
-/

namespace OpenApi

/-! ## Clients -/

theorem Groups.ofOperations_core (ops : List Operation) :
    ofOperations (ops.map Operation.core) = ofOperations ops := by
  rw [ofOperations, List.foldl_map]
  rfl

namespace Client

/-- The clients offer the same operations, but for texts that are for readers. -/
structure SameCore (c c' : Client) : Prop where
  registry : c'.registry = c.registry
  operations : c'.operations.core = c.operations.core
  groups : c'.groups = c.groups

theorem sameCore_of_bare {raw raw' : Json} {doc doc' : Document} {options options' : ClientOptions}
    {c c' : Client} (same : Document.bare .document raw' = Document.bare .document raw)
    (read : Document.ofJson raw = .ok doc) (read' : Document.ofJson raw' = .ok doc')
    (built : (build doc options).outcome = .ok c)
    (built' : (build doc' options').outcome = .ok c') : SameCore c c' := by
  obtain ⟨hregistry, htable, hgroups, _, _⟩ := assembled_of_build built
  obtain ⟨hregistry', htable', hgroups', _, _⟩ := assembled_of_build built'
  -- Both documents are without their free texts the same, and build as it does.
  obtain ⟨doc₀, hdoc₀, bared⟩ := Document.ofJson_bare read
  obtain ⟨_, hdoc', bared'⟩ := Document.ofJson_bare read'
  rw [same, hdoc₀] at hdoc'
  cases hdoc'
  have hregistries : c'.registry = c.registry := by
    have hbare := Registry.build_bare bared hregistry
    rw [Registry.build_bare bared' hregistry'] at hbare
    exact Except.ok.inj hbare
  obtain ⟨table, hbare, hcore⟩ := OperationTable.build_bare bared htable
  obtain ⟨table', hbare', hcore'⟩ := OperationTable.build_bare bared' htable'
  rw [hregistries, hbare] at hbare'
  cases hbare'
  have hoperations : c'.operations.core = c.operations.core := hcore'.symm.trans hcore
  refine ⟨hregistries, hoperations, ?_⟩
  rw [hgroups, hgroups', ← Groups.ofOperations_core, ← OperationTable.operations_core, hoperations,
    OperationTable.operations_core, Groups.ofOperations_core]

theorem SameCore.operation {c c' : Client} (same : SameCore c c') (id : String) :
    (c'.operation id).toOption.map Operation.core =
      (c.operation id).toOption.map Operation.core := by
  have hbucket : ((OrderedMap.get? c'.operations id).getD []).map Operation.core =
      ((OrderedMap.get? c.operations id).getD []).map Operation.core := by
    rw [OperationTable.bucket_core, OperationTable.bucket_core, same.operations]
  unfold Client.operation
  generalize (OrderedMap.get? c.operations id).getD [] = bucket at hbucket
  generalize (OrderedMap.get? c'.operations id).getD [] = bucket' at hbucket
  match bucket, bucket' with
  | [], [] => rfl
  | [_], [_] => exact congrArg some (List.cons.inj hbucket).1
  | _ :: _ :: _, _ :: _ :: _ => rfl
  | [], _ :: _ | _ :: _, [] | [_], _ :: _ :: _ | _ :: _ :: _, [_] => simp at hbucket

end Client

/-! ## Wrappers -/

namespace Wrapper

open Client (SameCore)

variable {c c' : Client}

theorem methodFor?_of_core (same : SameCore c c') (id : String) :
    (methodFor? c' id).map methodCode = (methodFor? c id).map methodCode := by
  have hoperation := same.operation id
  rw [methodFor?, methodFor?, same.registry]
  cases hc : (c.operation id).toOption with
  | none =>
    rw [hc, Option.map_none, Option.map_eq_none_iff] at hoperation
    rw [hoperation]
  | some o =>
    rw [hc, Option.map_some, Option.map_eq_some_iff] at hoperation
    obtain ⟨o', ho', hcore⟩ := hoperation
    rw [ho', Option.bind_some, Option.bind_some]
    exact methodCode_of_core _ hcore

theorem methodsFor_of_core (same : SameCore c c') (ids : List String) :
    (ids.filterMap (methodFor? c')).map methodCode =
      (ids.filterMap (methodFor? c)).map methodCode := by
  rw [List.map_filterMap, List.map_filterMap]
  exact List.filterMap_congr fun id _ => methodFor?_of_core same id

theorem code_intersperse (parts : List (List String)) :
    (List.intersperse [""] parts).flatten.flatMap lineCode =
      (List.intersperse (lineCode "") (parts.map (·.flatMap lineCode))).flatten := by
  cases parts with
  | nil => rfl
  | cons part rest =>
    rw [List.map_cons, flatten_intersperse_cons, flatten_intersperse_cons, List.flatMap_append,
      List.flatMap_assoc, List.flatMap_map]
    rfl

theorem code_sectionLines (s : Section) :
    (sectionLines s).flatMap lineCode =
      ("" :: structLines s.typeName).flatMap lineCode
        ++ (List.intersperse (lineCode "") (s.methods.map methodCode)).flatten
        ++ lineCode "\x7d" := by
  have hmethods : (s.methods.map methodLines).map (·.flatMap lineCode) =
      s.methods.map methodCode := by
    rw [List.map_map]
    rfl
  rw [sectionLines, List.flatMap_append, List.flatMap_append, code_intersperse, hmethods,
    List.flatMap_singleton]

theorem code_sectionFor (same : SameCore c c') (g : Group) :
    (sectionLines (sectionFor c' g)).flatMap lineCode =
      (sectionLines (sectionFor c g)).flatMap lineCode := by
  rw [code_sectionLines, code_sectionLines, sectionFor, sectionFor]
  dsimp only
  rw [methodsFor_of_core same]

theorem accessorLines_sectionFor (c c' : Client) (g : Group) :
    accessorLines (sectionFor c' g) = accessorLines (sectionFor c g) := by
  simp only [accessorLines, sectionFor]

theorem code_methods_of_core (same : SameCore c c') (ids : List String) :
    ((ids.filterMap (methodFor? c')).flatMap fun m => "" :: methodLines m).flatMap lineCode =
      ((ids.filterMap (methodFor? c)).flatMap fun m => "" :: methodLines m).flatMap lineCode := by
  have hmethods : ∀ methods : List Method,
      (methods.flatMap fun m => "" :: methodLines m).flatMap lineCode =
        (methods.map methodCode).flatMap (lineCode "" ++ ·) := by
    intro methods
    rw [List.flatMap_assoc, List.flatMap_map]
    rfl
  rw [hmethods, hmethods, methodsFor_of_core same]

/-- Below its first line the wrapper has the same code. -/
theorem code_tail_of_core (same : SameCore c c') (typeName : String) :
    (forClient c' typeName).lines.tail.flatMap lineCode =
      (forClient c typeName).lines.tail.flatMap lineCode := by
  have haccessors : (forClient c' typeName).sections.flatMap accessorLines =
      (forClient c typeName).sections.flatMap accessorLines := by
    rw [forClient, forClient, same.groups, List.flatMap_map, List.flatMap_map]
    exact List.flatMap_congr fun g _ => accessorLines_sectionFor c c' g
  have hmethods :
      ((forClient c' typeName).methods.flatMap fun m => "" :: methodLines m).flatMap lineCode =
        ((forClient c typeName).methods.flatMap fun m => "" :: methodLines m).flatMap lineCode := by
    rw [forClient, forClient, same.groups]
    exact code_methods_of_core same _
  have hsections : ((forClient c' typeName).sections.flatMap sectionLines).flatMap lineCode =
      ((forClient c typeName).sections.flatMap sectionLines).flatMap lineCode := by
    rw [forClient, forClient, same.groups, List.flatMap_map, List.flatMap_map, List.flatMap_assoc,
      List.flatMap_assoc]
    exact List.flatMap_congr fun g _ => code_sectionFor same g
  have hname : (forClient c' typeName).typeName = (forClient c typeName).typeName := rfl
  simp only [lines, List.flatMap_append, List.cons_append, List.tail_cons, List.flatMap_cons,
    haccessors, hmethods, hsections, hname]

/-- The code of two wrappers whose documents differ in free texts only is the same but for what
titles and versions spill, which is nothing if they are of one line. -/
theorem code_of_free_texts {raw raw' : Json} {doc doc' : Document}
    {options options' : ClientOptions} {c c' : Client}
    (same : Document.bare .document raw' = Document.bare .document raw)
    (read : Document.ofJson raw = .ok doc) (read' : Document.ofJson raw' = .ok doc')
    (built : (Client.build doc options).outcome = .ok c)
    (built' : (Client.build doc' options').outcome = .ok c') (typeName : String) :
    ∃ w w' : Wrapper, (ofClient c typeName : Logged WrapperError Wrapper).outcome = .ok w ∧
      (ofClient c' typeName : Logged WrapperError Wrapper).outcome = .ok w' ∧
      (∃ code, codeLines w.render = spilled c.title c.version ++ code ∧
        codeLines w'.render = spilled c'.title c'.version ++ code) ∧
      (codeLines w'.render = codeLines w.render ↔
        spilled c'.title c'.version = spilled c.title c.version) ∧
      ('\n' ∉ c.title.toList → '\n' ∉ c.version.toList →
        '\n' ∉ c'.title.toList → '\n' ∉ c'.version.toList →
        codeLines w'.render = codeLines w.render) := by
  have hcore := Client.sameCore_of_bare same read read' built built'
  have hcode := codeLines_render_eq_spilled_append (forClient c typeName)
  have hcode' := codeLines_render_eq_spilled_append (forClient c' typeName)
  rw [code_tail_of_core hcore] at hcode'
  have hiff : codeLines (forClient c' typeName).render = codeLines (forClient c typeName).render ↔
      spilled c'.title c'.version = spilled c.title c.version := by
    rw [hcode, hcode']
    exact List.append_left_inj _
  refine ⟨_, _, outcome_ofClient c typeName, outcome_ofClient c' typeName,
    ⟨_, hcode, hcode'⟩, hiff, fun htitle hversion htitle' hversion' => hiff.2 ?_⟩
  rw [spilled_of_one_line htitle hversion, spilled_of_one_line htitle' hversion']

section Clinic

/-- A document with one operation. -/
def clinic (title summary : String) : Json :=
  .object [("openapi", .string "3.0.0"),
    ("info", .object [("title", .string title), ("version", .string "1.0")]),
    ("paths", .object [("/health", .object [("get", .object
      [("operationId", .string "getHealth"), ("summary", .string summary)])])])]

theorem bare_clinic (title title' summary summary' : String) :
    Document.bare .document (clinic title' summary') =
      Document.bare .document (clinic title summary) :=
  rfl

theorem clinic_built :
    ((Document.ofJson (clinic "Clinic" "Health")).toOption.bind fun doc =>
        (Client.build doc {}).outcome.toOption.map fun c => (c.title, c.version)) =
      some ("Clinic", "1.0") ∧
    ((Document.ofJson (clinic "Clinic\nmod a;" "Is it\nup?")).toOption.bind fun doc =>
        (Client.build doc {}).outcome.toOption.map fun c => (c.title, c.version)) =
      some ("Clinic\nmod a;", "1.0") := by
  decide +kernel

theorem exists_clinics :
    ∃ doc doc' c c', Document.ofJson (clinic "Clinic" "Health") = .ok doc ∧
      Document.ofJson (clinic "Clinic\nmod a;" "Is it\nup?") = .ok doc' ∧
      (Client.build doc {}).outcome = .ok c ∧ (Client.build doc' {}).outcome = .ok c' ∧
      spilled c.title c.version = [] ∧ spilled c'.title c'.version = ["mod a; 1.0.".toList] := by
  obtain ⟨doc, hdoc, h⟩ := Option.bind_eq_some_iff.1 clinic_built.1
  obtain ⟨c, hc, h⟩ := Option.map_eq_some_iff.1 h
  obtain ⟨doc', hdoc', h'⟩ := Option.bind_eq_some_iff.1 clinic_built.2
  obtain ⟨c', hc', h'⟩ := Option.map_eq_some_iff.1 h'
  rw [Json.Typed.toOption_eq_some_iff] at hdoc hc hdoc' hc'
  simp only [Prod.mk.injEq] at h h'
  refine ⟨doc, doc', c, c', hdoc, hdoc', hc, hc', ?_, ?_⟩
  · rw [h.1, h.2]
    decide
  · rw [h'.1, h'.2]
    decide

theorem code_of_free_texts_clinic :
    ∃ doc doc' c c' w w', Document.ofJson (clinic "Clinic" "Health") = .ok doc ∧
      Document.ofJson (clinic "Clinic\nmod a;" "Is it\nup?") = .ok doc' ∧
      (Client.build doc {}).outcome = .ok c ∧ (Client.build doc' {}).outcome = .ok c' ∧
      (ofClient c "Clinic" : Logged WrapperError Wrapper).outcome = .ok w ∧
      (ofClient c' "Clinic" : Logged WrapperError Wrapper).outcome = .ok w' ∧
      codeLines w'.render = "mod a; 1.0.".toList :: codeLines w.render := by
  obtain ⟨doc, doc', c, c', hdoc, hdoc', hc, hc', hplain, hspilled⟩ := exists_clinics
  obtain ⟨w, w', hw, hw', ⟨code, hcode, hcode'⟩, _⟩ :=
    code_of_free_texts (bare_clinic _ _ _ _) hdoc hdoc' hc hc' "Clinic"
  refine ⟨doc, doc', c, c', w, w', hdoc, hdoc', hc, hc', hw, hw', ?_⟩
  rw [hcode, hcode', hplain, hspilled]
  rfl

/-- The second line of a title is code. -/
theorem title_spills :
    ∃ doc doc' c c' w w', Document.bare .document (clinic "Clinic\nmod a;" "Is it\nup?") =
        Document.bare .document (clinic "Clinic" "Health") ∧
      Document.ofJson (clinic "Clinic" "Health") = .ok doc ∧
      Document.ofJson (clinic "Clinic\nmod a;" "Is it\nup?") = .ok doc' ∧
      (Client.build doc {}).outcome = .ok c ∧ (Client.build doc' {}).outcome = .ok c' ∧
      (ofClient c "Clinic" : Logged WrapperError Wrapper).outcome = .ok w ∧
      (ofClient c' "Clinic" : Logged WrapperError Wrapper).outcome = .ok w' ∧
      codeLines w'.render ≠ codeLines w.render := by
  obtain ⟨doc, doc', c, c', hdoc, hdoc', hc, hc', hplain, hspilled⟩ := exists_clinics
  have hcore := Client.sameCore_of_bare (bare_clinic _ _ _ _) hdoc hdoc' hc hc'
  refine ⟨doc, doc', c, c', _, _, bare_clinic _ _ _ _, hdoc, hdoc', hc, hc',
    outcome_ofClient c "Clinic", outcome_ofClient c' "Clinic", ?_⟩
  rw [codeLines_render_eq_spilled_append, codeLines_render_eq_spilled_append,
    code_tail_of_core hcore]
  change spilled c'.title c'.version ++ _ ≠ spilled c.title c.version ++ _
  rw [hplain, hspilled, List.nil_append, List.singleton_append]
  exact List.cons_ne_self _ _

end Clinic

end Wrapper

end OpenApi
