import Mathlib.Data.List.Forall2
import OpenApi.Proofs.Operation.Chains
import OpenApi.Proofs.Operation.Table

/-!
# References in place of entries

A parameter or a request body may stand behind a chain of references. A response may stand behind
one reference only: a second one is read as a response without content, so that a type is lost.
-/

namespace OpenApi

open Resolution

/-- The reference leads to the value through so many references, itself counted. Those on the way
hold nothing else. -/
inductive Document.Chain (doc : Document) (v : Json) : Nat → String → Prop where
  | last {pointer : String} (leads : doc.pointer? pointer = some v) : Chain doc v 1 ("#" ++ pointer)
  | step {n : Nat} {pointer path : String}
      (leads : doc.pointer? pointer = some (.object [("$ref", .string path)]))
      (chain : Chain doc v n path) : Chain doc v (n + 1) ("#" ++ pointer)

theorem Document.Chain.pos {doc : Document} {v : Json} {n : Nat} {path : String}
    (chain : doc.Chain v n path) : 0 < n := by
  cases chain <;> omega

theorem Document.Chain.leadsTo {α : Type} {doc : Document}
    {read : Json → Except Json.Mismatch (Referable α)}
    (references : ∀ path, read (.object [("$ref", .string path)]) = .ok (.reference path))
    {v : Json} {a : α} (holds : read v = .ok (.inline a)) {n : Nat} {path : String}
    (chain : doc.Chain v n path) : Referable.LeadsTo doc read n (.reference path) (.inline a) := by
  induction chain with
  | last leads => exact .step (.target leads holds) (.here _)
  | step leads _ ih => exact .step (.target leads (references _)) ih

/-- An entry, or in place of an inline one a reference that leads to it through at most so many
references. -/
inductive Referable.Behind {α : Type} (doc : Document)
    (read : Json → Except Json.Mismatch (Referable α)) (most : Nat) :
    Referable α → Referable α → Prop where
  | same (x : Referable α) : Behind doc read most x x
  | chain {a : α} {v : Json} {n : Nat} {path : String} (holds : read v = .ok (.inline a))
      (chain : doc.Chain v n path) (within : n ≤ most) :
      Behind doc read most (.inline a) (.reference path)

/-- A response under its key, or in place of an inline one a reference that leads to it. There is
more than one reference only where there is no type to lose. -/
inductive ResponseEntry.Behind (doc : Document) :
    String × Referable ResponseEntry → String × Referable ResponseEntry → Prop where
  | same (declared : String × Referable ResponseEntry) : Behind doc declared declared
  | direct {key path : String} {response : ResponseEntry} {v : Json}
      (holds : readResponse v = .ok (.inline response)) (chain : doc.Chain v 1 path) :
      Behind doc (key, .inline response) (key, .reference path)
  | untyped {key path : String} {response : ResponseEntry} {v : Json} {n : Nat}
      (holds : readResponse v = .ok (.inline response)) (chain : doc.Chain v n path)
      (untyped : Content.jsonSchema? response.content = none) :
      Behind doc (key, .inline response) (key, .reference path)
  | skipped {key : String} (response response' : Referable ResponseEntry)
      (skipped : ResponseKey.ofText? key = none) : Behind doc (key, response) (key, response')

namespace Operation

variable {doc : Document} {names : RecordNames} {location : String}

/-! ## Following a chain -/

section Following

variable {α : Type}

theorem settle_of_chain {read : Json → Except Json.Mismatch (Referable α)}
    (references : ∀ path, read (.object [("$ref", .string path)]) = .ok (.reference path))
    {tooDeep : Unsupported} {v : Json} {a : α} (holds : read v = .ok (.inline a)) {n : Nat}
    {path : String} (chain : doc.Chain v n path) (location : String) {fuel : Nat}
    (enough : n < fuel) :
    settle doc read location tooDeep fuel (.reference path) = .ok a :=
  settle_of_ends (chain.leadsTo references holds) enough

/-- The most references that are followed to a parameter or a request body. -/
def longestChain : Nat := 15

theorem settle_behind {read : Json → Except Json.Mismatch (Referable α)}
    (references : ∀ path, read (.object [("$ref", .string path)]) = .ok (.reference path))
    {tooDeep : Unsupported} {x y : Referable α} (behind : x.Behind doc read longestChain y)
    (location : String) :
    settle doc read location tooDeep referenceDepth x =
      settle doc read location tooDeep referenceDepth y := by
  cases behind with
  | same => rfl
  | chain holds chain within =>
    rw [settle_of_chain references holds chain location
      (Nat.lt_of_le_of_lt within (by decide))]
    rfl

end Following

theorem settleParameter_behind {p q : Referable ParameterEntry}
    (behind : p.Behind doc readParameter longestChain q) (location : String) :
    settleParameter doc location p = settleParameter doc location q :=
  settle_behind (fun _ => rfl) behind location

theorem settleRequestBody_behind {b b' : Referable RequestBody}
    (behind : b.Behind doc readRequestBody longestChain b') (location : String) :
    settleRequestBody doc location b = settleRequestBody doc location b' :=
  settle_behind (fun _ => rfl) behind location

theorem read_of_readResponse {v : Json} {response : ResponseEntry}
    (h : readResponse v = .ok (.inline response)) : ResponseEntry.read v = .ok response := by
  rcases Referable.read_cases h with ⟨_, _, he⟩ | ⟨_, hread, he⟩
  · cases he
  · obtain rfl := Referable.inline.inj he
    exact hread

theorem settleResponse_inline (response : ResponseEntry) (location : String) :
    settleResponse doc location (.inline response) = .ok response :=
  rfl

theorem settleResponse_direct {v : Json} {path : String} {response : ResponseEntry}
    (holds : readResponse v = .ok (.inline response)) (chain : doc.Chain v 1 path)
    (location : String) : settleResponse doc location (.reference path) = .ok response := by
  cases chain with
  | last leads =>
    rw [settleResponse, referenced_append leads, read_of_readResponse holds]
    rfl
  | step _ chain => cases chain

theorem settleResponse_of_chain {v : Json} {n : Nat} {path : String} (chain : doc.Chain v n path)
    (several : 2 ≤ n) (location : String) :
    settleResponse doc location (.reference path) = .ok {} := by
  cases chain with
  | last => omega
  | step leads _ =>
    rw [settleResponse, referenced_append leads]
    rfl

/-! ## Operations from entries behind references -/

/-- An entry in which references may stand in place of parameters, of the request body and of
responses. All else is the same. -/
structure Rewritten (doc : Document) (entry entry' : OperationEntry) : Prop where
  parameters : List.Forall₂ (Referable.Behind doc readParameter longestChain) entry.parameters
    entry'.parameters
  requestBody : Option.Rel (Referable.Behind doc readRequestBody longestChain) entry.requestBody
    entry'.requestBody
  responses : List.Forall₂ (ResponseEntry.Behind doc) entry.responses entry'.responses
  others : entry' = { entry with
    parameters := entry'.parameters
    requestBody := entry'.requestBody
    responses := entry'.responses }

theorem mergeParameters_behind {common common' own own' : List (Referable ParameterEntry)}
    (hcommon : List.Forall₂ (Referable.Behind doc readParameter longestChain) common common')
    (hown : List.Forall₂ (Referable.Behind doc readParameter longestChain) own own')
    (location : String) :
    mergeParameters doc location common own = mergeParameters doc location common' own' := by
  have hmap : ∀ {ps qs : List (Referable ParameterEntry)},
      List.Forall₂ (Referable.Behind doc readParameter longestChain) ps qs →
        ps.mapM (settleParameter doc location) = qs.mapM (settleParameter doc location) := by
    intro ps qs h
    induction h with
    | nil => rfl
    | cons hp _ ih => rw [List.mapM_cons, List.mapM_cons, settleParameter_behind hp, ih]
  rw [mergeParameters, mergeParameters, hmap (List.rel_append hcommon hown)]

theorem buildBody_behind {b b' : Referable RequestBody}
    (behind : b.Behind doc readRequestBody longestChain b') (names : RecordNames)
    (location : String) : buildBody doc names location b = buildBody doc names location b' := by
  rw [buildBody, buildBody, settleRequestBody_behind behind]

theorem map_buildBody_behind {b b' : Option (Referable RequestBody)}
    (behind : Option.Rel (Referable.Behind doc readRequestBody longestChain) b b')
    (names : RecordNames) (location : String) :
    b.map (buildBody doc names location) = b'.map (buildBody doc names location) := by
  cases behind with
  | none => rfl
  | some behind => exact congrArg some (buildBody_behind behind names location)

theorem exists_settleResponse_untyped {v : Json} {n : Nat} {path : String}
    {response : ResponseEntry} (holds : readResponse v = .ok (.inline response))
    (chain : doc.Chain v n path) (untyped : Content.jsonSchema? response.content = none)
    (location : String) :
    ∃ response', settleResponse doc location (.reference path) = .ok response' ∧
      Content.jsonSchema? response'.content = none := by
  by_cases hn : 2 ≤ n
  · exact ⟨{}, settleResponse_of_chain chain hn location, rfl⟩
  · obtain rfl : n = 1 := by
      have hpos := chain.pos
      omega
    exact ⟨response, settleResponse_direct holds chain location, untyped⟩

theorem buildResponses_untyped {key : String} {responseKey : ResponseKey}
    {declared : Referable ResponseEntry} {response : ResponseEntry}
    {rest : List (String × Referable ResponseEntry)} {types : OrderedMap ResponseKey DataType}
    (status : ResponseKey.ofText? key = some responseKey)
    (settles : settleResponse doc s!"{location}/responses/{key}" declared = .ok response)
    (untyped : Content.jsonSchema? response.content = none) :
    buildResponses doc names location ((key, declared) :: rest) types =
      buildResponses doc names location rest types := by
  rw [buildResponses, status]
  simp only [settles, Logged.ofExcept_ok_bind, untyped]

theorem buildResponses_cons_behind {declared declared' : String × Referable ResponseEntry}
    {rest rest' : List (String × Referable ResponseEntry)}
    (behind : ResponseEntry.Behind doc declared declared')
    (others : ∀ types, buildResponses doc names location rest types =
      buildResponses doc names location rest' types) (types : OrderedMap ResponseKey DataType) :
    buildResponses doc names location (declared :: rest) types =
      buildResponses doc names location (declared' :: rest') types := by
  cases behind with
  | same => simp only [buildResponses, others]
  | direct holds chain =>
    simp only [buildResponses, settleResponse_inline, settleResponse_direct holds chain, others]
  | @untyped key _ response _ _ holds chain untyped =>
    cases hkey : ResponseKey.ofText? key with
    | none => simp only [buildResponses, hkey, others]
    | some responseKey =>
      obtain ⟨response', settles, untyped'⟩ := exists_settleResponse_untyped holds chain untyped
        s!"{location}/responses/{key}"
      rw [buildResponses_untyped hkey (settleResponse_inline response _) untyped,
        buildResponses_untyped hkey settles untyped', others]
  | skipped response response' skipped => simp only [buildResponses, skipped, others]

theorem buildResponses_behind {entries entries' : List (String × Referable ResponseEntry)}
    (behind : List.Forall₂ (ResponseEntry.Behind doc) entries entries') (names : RecordNames)
    (location : String) (types : OrderedMap ResponseKey DataType) :
    buildResponses doc names location entries types =
      buildResponses doc names location entries' types := by
  induction behind generalizing types with
  | nil => rfl
  | cons hfirst _ ih => exact buildResponses_cons_behind hfirst ih types

theorem buildResponses_of_chain {key path : String} {v : Json} {n : Nat}
    (status : (ResponseKey.ofText? key).isSome) (chain : doc.Chain v n path) (several : 2 ≤ n)
    (before after : List (String × Referable ResponseEntry)) (names : RecordNames)
    (location : String) (types : OrderedMap ResponseKey DataType) :
    buildResponses doc names location (before ++ (key, .reference path) :: after) types =
      buildResponses doc names location (before ++ after) types := by
  induction before generalizing types with
  | nil =>
    obtain ⟨responseKey, hkey⟩ := Option.isSome_iff_exists.1 status
    exact buildResponses_untyped hkey (settleResponse_of_chain chain several _) rfl
  | cons p before ih =>
    obtain ⟨key', response⟩ := p
    simp only [List.cons_append, buildResponses, ih]

theorem build_congr {entry : OperationEntry} {common common' own : List (Referable ParameterEntry)}
    {body : Option (Referable RequestBody)}
    {responses : OrderedMap String (Referable ResponseEntry)}
    (merges : ∀ location, mergeParameters doc location common entry.parameters =
      mergeParameters doc location common' own)
    (bodies : ∀ location, entry.requestBody.map (buildBody doc names location) =
      body.map (buildBody doc names location))
    (builds : ∀ location types, buildResponses doc names location entry.responses types =
      buildResponses doc names location responses types) (path : String) (method : Method) :
    build doc names path method entry common =
      build doc names path method
        { entry with parameters := own, requestBody := body, responses } common' := by
  unfold build
  dsimp only
  cases entry.operationId with
  | none => rfl
  | some id =>
    simp only [merges, builds]
    cases hbody : entry.requestBody with
    | none =>
      rw [hbody] at bodies
      cases body with
      | none => rfl
      | some b' => cases bodies ""
    | some b =>
      rw [hbody] at bodies
      cases body with
      | none => cases bodies ""
      | some b' => simp only [Option.some.inj (bodies _)]

theorem build_rewritten {entry entry' : OperationEntry}
    {common common' : List (Referable ParameterEntry)} (rewritten : Rewritten doc entry entry')
    (hcommon : List.Forall₂ (Referable.Behind doc readParameter longestChain) common common')
    (names : RecordNames) (path : String) (method : Method) :
    build doc names path method entry common = build doc names path method entry' common' := by
  rw [rewritten.others]
  exact build_congr (mergeParameters_behind hcommon rewritten.parameters)
    (map_buildBody_behind rewritten.requestBody names)
    (buildResponses_behind rewritten.responses names) path method

/-- Parameters and request bodies behind at most fifteen references are as good as in place, and so
are responses behind one, or behind any number of them if they have no JSON content. A response
behind more references than one is as good as none, whatever there is at their end. -/
theorem references_followed (doc : Document) (names : RecordNames) (path : String)
    (method : Method) :
    (∀ entry entry' common common', Rewritten doc entry entry' →
        List.Forall₂ (Referable.Behind doc readParameter longestChain) common common' →
        build doc names path method entry common = build doc names path method entry' common') ∧
      ∀ (entry : OperationEntry) common key reference v n before after,
        entry.responses = before ++ (key, .reference reference) :: after →
        doc.Chain v n reference → 2 ≤ n → (ResponseKey.ofText? key).isSome →
        build doc names path method entry common =
          build doc names path method { entry with responses := before ++ after } common := by
  refine ⟨fun entry entry' common common' rewritten hcommon =>
    build_rewritten rewritten hcommon names path method, ?_⟩
  intro entry common key reference v n before after hresponses chain several status
  refine build_congr (fun _ => rfl) (fun _ => rfl) (fun location types => ?_) path method
  rw [hresponses]
  exact buildResponses_of_chain status chain several before after names location types

section Desk

def textContent : Json :=
  .object [("content", .object
    [("application/json", .object [("schema", .object [("type", .string "string")])])])]

def readTextContent : Content :=
  [("application/json", { schema := some (.inline { types := some (.one "string") }) })]

def referenceTo (path : String) : Json :=
  .object [("$ref", .string path)]

def days : ParameterEntry where
  name := "days"
  location := .query

def wish : RequestBody where
  content := readTextContent

def receipt : ResponseEntry where
  content := readTextContent

/-- A loan is asked for with a number of days and a text, and answered with a text. -/
def lend (term : Referable ParameterEntry) (order : Referable RequestBody)
    (answer : Referable ResponseEntry) : OperationEntry where
  operationId := some "lend"
  parameters := [term]
  requestBody := some order
  responses := [("201", answer)]

/-- A document in which everything of a loan is behind references. -/
def deskJson : Json :=
  .object [("openapi", .string "3.0.0"), ("info", .object []),
    ("paths", .object [("/loans", .object [("post", .object
      [("operationId", .string "lend"),
        ("parameters", .array [referenceTo "#/components/parameters/Term"]),
        ("requestBody", referenceTo "#/components/requestBodies/Order"),
        ("responses", .object [("201", referenceTo "#/components/responses/Receipt")])])])]),
    ("components", .object
      [("parameters", .object
        [("Days", .object [("name", .string "days"), ("in", .string "query")]),
          ("Term", referenceTo "#/components/parameters/Days")]),
      ("requestBodies", .object
        [("Wish", textContent), ("Order", referenceTo "#/components/requestBodies/Wish")]),
      ("responses", .object
        [("Receipt", textContent), ("Slip", referenceTo "#/components/responses/Receipt")])])]

def desk : Document where
  raw := deskJson
  description :=
    { openapi := "3.0.0"
      info := {}
      paths := [("/loans", { operations := [(.post,
        lend (.reference "#/components/parameters/Term")
          (.reference "#/components/requestBodies/Order")
          (.reference "#/components/responses/Receipt"))] })]
      components := some
        { parameters :=
            [("Days", .inline days),
              ("Term", .reference "#/components/parameters/Days")]
          requestBodies :=
            [("Wish", .inline wish),
              ("Order", .reference "#/components/requestBodies/Wish")]
          responses :=
            [("Receipt", .inline receipt),
              ("Slip", .reference "#/components/responses/Receipt")] } }

theorem chain_receipt : desk.Chain textContent 1 "#/components/responses/Receipt" :=
  .last (show desk.pointer? "/components/responses/Receipt" = _ from rfl)

theorem chain_slip : desk.Chain textContent 2 "#/components/responses/Slip" :=
  .step (show desk.pointer? "/components/responses/Slip" = _ from rfl) chain_receipt

theorem lend_rewritten :
    Rewritten desk (lend (.inline days) (.inline wish) (.inline receipt))
      (lend (.reference "#/components/parameters/Term")
        (.reference "#/components/requestBodies/Order")
        (.reference "#/components/responses/Receipt")) where
  parameters := by
    have chain : desk.Chain (.object [("name", .string "days"), ("in", .string "query")]) 1
        "#/components/parameters/Days" :=
      .last (show desk.pointer? "/components/parameters/Days" = _ from rfl)
    exact .cons (.chain rfl
      (.step (show desk.pointer? "/components/parameters/Term" = _ from rfl) chain) (by decide))
      .nil
  requestBody := by
    have chain : desk.Chain textContent 1 "#/components/requestBodies/Wish" :=
      .last (show desk.pointer? "/components/requestBodies/Wish" = _ from rfl)
    exact .some (.chain rfl
      (.step (show desk.pointer? "/components/requestBodies/Order" = _ from rfl) chain)
      (by decide))
  responses := .cons (.direct rfl chain_receipt) .nil
  others := rfl

theorem references_followed_lend :
    Document.ofJson deskJson = .ok desk ∧
      build desk [] "/loans" .post (lend (.inline days) (.inline wish) (.inline receipt)) [] =
        build desk [] "/loans" .post
          (lend (.reference "#/components/parameters/Term")
            (.reference "#/components/requestBodies/Order")
            (.reference "#/components/responses/Receipt")) [] ∧
      build desk [] "/loans" .post
          (lend (.inline days) (.inline wish) (.reference "#/components/responses/Slip")) [] =
        build desk [] "/loans" .post
          { operationId := some "lend", parameters := [.inline days],
            requestBody := some (.inline wish), responses := [] } [] := by
  obtain ⟨followed, lost⟩ := references_followed desk [] "/loans" .post
  exact ⟨rfl, followed _ _ _ _ lend_rewritten .nil,
    lost _ _ _ _ _ _ [] [] rfl chain_slip (by decide) rfl⟩

/-- The types of the answers to a loan. -/
def lendTypes (answer : Referable ResponseEntry) : Option (List (String × String)) :=
  (build desk [] "/loans" .post (lend (.inline days) (.inline wish) answer) []).outcome.toOption.bind
    fun o => o.map fun o => o.responses.map fun (key, type) => (key.render, type.render)

/-- The type of a response is lost behind two references. -/
theorem response_lost_behind_two :
    Document.ofJson deskJson = .ok desk ∧ readResponse textContent = .ok (.inline receipt) ∧
      desk.Chain textContent 2 "#/components/responses/Slip" ∧
      lendTypes (.inline receipt) = some [("201", "string")] ∧
      lendTypes (.reference "#/components/responses/Slip") = some [] :=
  ⟨rfl, rfl, chain_slip, by decide +kernel, by decide +kernel⟩

end Desk

end Operation

end OpenApi
