import Mathlib.Tactic.IntervalCases
import OpenApi.Proofs.Operation.References

/-!
# How far references are followed

References to parameters and request bodies are followed a fixed number of times. The entry at the
end of a shorter chain is found, and longer chains and those that come around are too deep. So is a
chain of just as many references: the entry that the last one leads to is read and never looked at.
-/

namespace OpenApi

/-- The entry at the end of a chain is found if and only if the chain has fewer references than
`depth`. Chains with as many or more end with the error, those that come around among them, and no
others do. -/
structure Referable.FollowedBelow {α : Type} (doc : Document)
    (read : Json → Except Json.Mismatch (Referable α)) (depth : Nat) (tooDeep : SchemaError)
    (settle : Referable α → Except SchemaError α) : Prop where
  ends {n : Nat} {x : Referable α} {a : α} (chain : LeadsTo doc read n x (.inline a)) :
    settle x = .ok a ↔ n < depth
  long {n : Nat} {x : Referable α} {a : α} (chain : LeadsTo doc read n x (.inline a))
    (long : depth ≤ n) : settle x = .error tooDeep
  circles {x : Referable α} (circles : Circles doc read x) : settle x = .error tooDeep
  only {x : Referable α} (fails : settle x = .error tooDeep) :
    (∃ n a, depth ≤ n ∧ LeadsTo doc read n x (.inline a)) ∨
      (∃ n, depth ≤ n ∧ BreaksOff doc read n x) ∨ Circles doc read x

namespace Operation

open Referable

variable {doc : Document} {names : RecordNames} {location : String}

theorem followedBelow_settle {α : Type} {tooDeep : Unsupported}
    (apart : ∀ path, ¬TellsTarget location path (.unsupported location tooDeep)) (doc : Document)
    (choice : String) (readInline : Json → Except Json.Mismatch α) (depth : Nat) :
    FollowedBelow doc (Referable.read choice readInline) depth (.unsupported location tooDeep)
      (settle doc (Referable.read choice readInline) location tooDeep depth) where
  ends chain := by
    rw [settle_eq_ok_iff]
    refine ⟨fun ⟨m, within, hm⟩ => ?_, fun within => ⟨_, within, chain⟩⟩
    have := hm.le_of_stops (not_follows_inline _) chain
    omega
  long chain long := (settle_eq_tooDeep_iff apart).2 (chain.cut long)
  circles circles := (settle_eq_tooDeep_iff apart).2 (circles.endless depth)
  only fails := by
    obtain ⟨y, deep⟩ := (settle_eq_tooDeep_iff apart).1 fails
    rcases chain_cases doc choice readInline _ with
      ⟨n, a, chain⟩ | ⟨n, path, chain, stops⟩ | circles
    · exact .inl ⟨n, a, chain.le_of_stops (not_follows_inline a) deep, chain⟩
    · exact .inr (.inl ⟨n, chain.le_of_stops stops deep, path, chain, stops⟩)
    · exact .inr (.inr circles)

theorem leadsTo_of_build {path : String} {method : Method} {entry : OperationEntry}
    {common : List (Referable ParameterEntry)} {o : Operation}
    (h : (build doc names path method entry common).outcome = .ok (some o)) :
    (∀ p ∈ common ++ entry.parameters, ∃ n < referenceDepth, ∃ declared,
        LeadsTo doc readParameter n p (.inline declared)) ∧
      ∀ b ∈ entry.requestBody, ∃ n < referenceDepth, ∃ body,
        LeadsTo doc readRequestBody n b (.inline body) := by
  obtain ⟨location, merged, declared, body, parts⟩ := assembled_of_build h
  refine ⟨fun p hp => ?_, fun b hb => ?_⟩
  · obtain ⟨entries, hentries, _⟩ := Json.Typed.bind_eq_ok_iff.1 parts.merges
    have settles := (Json.Typed.mapM_eq_ok_iff.1 hentries).flip
    obtain ⟨e, he⟩ := exists_of_forall₂ settles p hp
    obtain ⟨n, within, chain⟩ := settle_eq_ok_iff.1 he
    exact ⟨n, within, e, chain⟩
  · rcases parts.bodies with ⟨hnone, _⟩ | ⟨b', q, hb', hq, _⟩
    · rw [hnone] at hb
      cases hb
    · obtain rfl := Option.some.inj (hb'.symm.trans hb)
      obtain ⟨e, he, _⟩ := Logged.outcome_bind_eq_ok_iff.1 hq
      obtain ⟨n, within, chain⟩ := settle_eq_ok_iff.1 he
      exact ⟨n, within, e, chain⟩

theorem buildBody_eq_settled (doc : Document) (names : RecordNames) (location : String)
    (b : Referable RequestBody) :
    buildBody doc names location b =
      Logged.ofExcept (settleRequestBody doc location b) >>= fun body =>
        buildBody doc names location (.inline body) := by
  unfold buildBody
  cases settleRequestBody doc location b with
  | ok body => rfl
  | error e => rfl

/-- Parameters and request bodies are found at the end of chains with fewer references than the
depth. Longer chains and those that come around are too deep, and no others are. -/
theorem followed_below_depth (doc : Document) (names : RecordNames) (location : String) :
    FollowedBelow doc readParameter referenceDepth (.unsupported location .parameterTooDeep)
        (settleParameter doc location) ∧
      FollowedBelow doc readRequestBody referenceDepth (.unsupported location .requestBodyTooDeep)
        (settleRequestBody doc location) ∧
      ∀ b, buildBody doc names location b =
        Logged.ofExcept (settleRequestBody doc location b) >>= fun body =>
          buildBody doc names location (.inline body) := by
  refine ⟨followedBelow_settle ?_ doc _ _ _, followedBelow_settle ?_ doc _ _ _,
    buildBody_eq_settled doc names location⟩
  · rintro path (h | ⟨m, h⟩) <;> cases h
  · rintro path (h | ⟨m, h⟩) <;> cases h

section Stairs

/-- The pointer to a component of a kind. -/
def partAt (kind name : String) : String :=
  "/components/" ++ kind ++ "/" ++ name

def stepName (i : Nat) : String :=
  "S" ++ toString i

/-- Components of a kind: each of sixteen but the last one refers to the next, and behind a door two
refer to each other. -/
def steps {α : Type} (kind : String) (refer : String → α) (last : α) : List (String × α) :=
  (List.range' 1 15).map (fun i => (stepName i, refer ("#" ++ partAt kind (stepName (i + 1))))) ++
    [("S16", last), ("Door", refer ("#" ++ partAt kind "Left")),
      ("Left", refer ("#" ++ partAt kind "Right")), ("Right", refer ("#" ++ partAt kind "Left"))]

def daysJson : Json :=
  .object [("name", .string "days"), ("in", .string "query")]

/-- A document with the days of a loan, and the wish for one, at the top of the stairs. -/
def stairsJson : Json :=
  .object [("openapi", .string "3.0.0"), ("info", .object []),
    ("paths", .object [("/loans", .object [("post", .object
      [("operationId", .string "lend"),
        ("parameters", .array [referenceTo "#/components/parameters/S1"])])])]),
    ("components", .object
      [("parameters", .object (steps "parameters" referenceTo daysJson)),
        ("requestBodies", .object (steps "requestBodies" referenceTo textContent))])]

/-- A loan for the days at the end of a chain. -/
def lendFor (path : String) : OperationEntry where
  operationId := some "lend"
  parameters := [.reference path]

def stairs : Document where
  raw := stairsJson
  description :=
    { openapi := "3.0.0"
      info := {}
      paths := [("/loans", { operations := [(.post, lendFor "#/components/parameters/S1")] })]
      components := some
        { parameters := steps "parameters" .reference (.inline days)
          requestBodies := steps "requestBodies" .reference (.inline wish) } }

theorem chain_of_steps {doc : Document} {kind : String} {last : Json} {top : Nat}
    (next : ∀ i, 0 < i → i < top →
      doc.pointer? (partAt kind (stepName i)) =
        some (referenceTo ("#" ++ partAt kind (stepName (i + 1)))))
    (ends : doc.pointer? (partAt kind (stepName top)) = some last) {n : Nat} (within : n < top) :
    doc.Chain last (n + 1) ("#" ++ partAt kind (stepName (top - n))) := by
  induction n with
  | zero => exact .last ends
  | succ n ih =>
    have hnext := next (top - (n + 1)) (by omega) (by omega)
    rw [show top - (n + 1) + 1 = top - n by omega] at hnext
    exact .step hnext (ih (by omega))

theorem leadsTo_days {n : Nat} (within : n < 16) :
    LeadsTo stairs readParameter (n + 1)
      (.reference ("#" ++ partAt "parameters" (stepName (16 - n)))) (.inline days) := by
  refine Document.Chain.leadsTo (v := daysJson) (fun _ => rfl) rfl (chain_of_steps ?_ rfl within)
  intro i pos below
  interval_cases i <;> rfl

theorem leadsTo_wish {n : Nat} (within : n < 16) :
    LeadsTo stairs readRequestBody (n + 1)
      (.reference ("#" ++ partAt "requestBodies" (stepName (16 - n)))) (.inline wish) := by
  refine Document.Chain.leadsTo (v := textContent) (fun _ => rfl) rfl (chain_of_steps ?_ rfl within)
  intro i pos below
  interval_cases i <;> rfl

theorem circles_of_door {α : Type} {doc : Document} (kind : String)
    {read : Json → Except Json.Mismatch (Referable α)}
    (references : ∀ path, read (referenceTo path) = .ok (.reference path))
    (door : doc.pointer? (partAt kind "Door") = some (referenceTo ("#" ++ partAt kind "Left")))
    (left : doc.pointer? (partAt kind "Left") = some (referenceTo ("#" ++ partAt kind "Right")))
    (right : doc.pointer? (partAt kind "Right") = some (referenceTo ("#" ++ partAt kind "Left"))) :
    Circles doc read (.reference ("#" ++ partAt kind "Door")) :=
  have around : LeadsTo doc read 2 (.reference ("#" ++ partAt kind "Left"))
      (.reference ("#" ++ partAt kind "Left")) :=
    .step (.target left (references _)) (.step (.target right (references _)) (.here _))
  ⟨_, 1, 2, .step (.target door (references _)) (.here _), Nat.two_pos, around⟩

theorem followed_below_depth_stairs :
    Document.ofJson stairsJson = .ok stairs ∧
      LeadsTo stairs readParameter 15 (.reference "#/components/parameters/S2") (.inline days) ∧
      settleParameter stairs "lend" (.reference "#/components/parameters/S2") = .ok days ∧
      LeadsTo stairs readParameter 16 (.reference "#/components/parameters/S1") (.inline days) ∧
      settleParameter stairs "lend" (.reference "#/components/parameters/S1") =
        .error (.unsupported "lend" .parameterTooDeep) ∧
      Circles stairs readParameter (.reference "#/components/parameters/Door") ∧
      settleParameter stairs "lend" (.reference "#/components/parameters/Door") =
        .error (.unsupported "lend" .parameterTooDeep) ∧
      LeadsTo stairs readRequestBody 15 (.reference "#/components/requestBodies/S2")
        (.inline wish) ∧
      buildBody stairs [] "lend" (.reference "#/components/requestBodies/S2") =
        buildBody stairs [] "lend" (.inline wish) ∧
      Circles stairs readRequestBody (.reference "#/components/requestBodies/Door") ∧
      buildBody stairs [] "lend" (.reference "#/components/requestBodies/Door") =
        throw (.unsupported "lend" .requestBodyTooDeep) := by
  obtain ⟨parameters, bodies, built⟩ := followed_below_depth stairs [] "lend"
  have short : LeadsTo stairs readParameter 15 (.reference "#/components/parameters/S2")
      (.inline days) := leadsTo_days (n := 14) (by decide)
  have long : LeadsTo stairs readParameter 16 (.reference "#/components/parameters/S1")
      (.inline days) := leadsTo_days (n := 15) (by decide)
  have around : Circles stairs readParameter (.reference "#/components/parameters/Door") :=
    circles_of_door "parameters" (fun _ => rfl) rfl rfl rfl
  have shortBody : LeadsTo stairs readRequestBody 15 (.reference "#/components/requestBodies/S2")
      (.inline wish) := leadsTo_wish (n := 14) (by decide)
  have aroundBody : Circles stairs readRequestBody
      (.reference "#/components/requestBodies/Door") :=
    circles_of_door "requestBodies" (fun _ => rfl) rfl rfl rfl
  refine ⟨rfl, short, (parameters.ends short).2 (by decide), long,
    parameters.long long (by decide), around, parameters.circles around, shortBody, ?_, aroundBody,
    ?_⟩
  · rw [built, (bodies.ends shortBody).2 (by decide)]
    rfl
  · rw [built, bodies.circles aroundBody]
    rfl

/-- A chain has no more references than the depth and is too deep all the same. -/
theorem sixteen_references_too_deep :
    Document.ofJson stairsJson = .ok stairs ∧ 16 ≤ referenceDepth ∧
      LeadsTo stairs readParameter 16 (.reference "#/components/parameters/S1") (.inline days) ∧
      settleParameter stairs "lend" (.reference "#/components/parameters/S1") =
        .error (.unsupported "lend" .parameterTooDeep) ∧
      (∀ o, (build stairs [] "/loans" .post (lendFor "#/components/parameters/S1") []).outcome ≠
        .ok (some o)) ∧
      LeadsTo stairs readRequestBody 16 (.reference "#/components/requestBodies/S1")
        (.inline wish) ∧
      settleRequestBody stairs "lend" (.reference "#/components/requestBodies/S1") =
        .error (.unsupported "lend" .requestBodyTooDeep) := by
  have long : LeadsTo stairs readParameter 16 (.reference "#/components/parameters/S1")
      (.inline days) := leadsTo_days (n := 15) (by decide)
  have longBody : LeadsTo stairs readRequestBody 16 (.reference "#/components/requestBodies/S1")
      (.inline wish) := leadsTo_wish (n := 15) (by decide)
  refine ⟨rfl, by decide, long, settle_of_tooDeep long, fun o h => ?_, longBody,
    settle_of_tooDeep longBody⟩
  -- The only chain from the first step to an entry in place is the one of sixteen references.
  obtain ⟨n, within, declared, chain⟩ := (leadsTo_of_build h).1 _ List.mem_cons_self
  have := chain.le_of_stops (not_follows_inline _) long
  have : referenceDepth = 16 := rfl
  omega

end Stairs

end Operation

end OpenApi
