import OpenApi.Proofs.Invocation.Placeholders
import OpenApi.Proofs.Operation.Table

/-!
# When a request is sent

A request goes out once, or the call is refused. It is refused for the first parameter at fault, and
for a placeholder only when no parameter is.
-/

namespace OpenApi.Invocation

open Json.Typed (bind_eq_error_iff mapError_eq_error_iff)

variable {s : Setting} {codec : Codec} {o : Operation} {args : Arguments}
  {options : RequestOptions} {p : Parameter} {doc : Document} {names : RecordNames}

/-! ## Requests that can be built -/

/-- One of the path parameters has the name. -/
def PathNamed (o : Operation) (name : String) : Prop :=
  ∃ p ∈ o.parameters, p.location = .path ∧ p.wireName = name

/-- The arguments make a request of the operation. -/
structure Sendable (codec : Codec) (args : Arguments) (o : Operation) : Prop where
  given : ∀ p ∈ o.parameters, p.required = true ∨ p.location = .path → ∃ v, Supplied args p v
  encoded : ∀ p ∈ o.parameters, ∀ v, Supplied args p v → ∃ wire, codec.encode v p.type = .ok wire
  named : ∀ name ∈ placeholders o.path, PathNamed o name

/-- Why a request is refused. -/
inductive Refusal (codec : Codec) (args : Arguments) (o : Operation) : InvokeError → Prop
  | parameter {e : InvokeError} (first : FirstFault (ParameterFault codec args) o.parameters e) :
      Refusal codec args o e
  | placeholder {e : InvokeError}
      (faultless : ∀ p ∈ o.parameters, ∀ e', ¬ParameterFault codec args p e')
      (first : FirstFault
        (fun name e => ¬PathNamed o name ∧ e = .unresolvedPlaceholder o.path name)
        (placeholders o.path) e) : Refusal codec args o e

theorem mem_path_iff (built : Operation.Built doc names o) {c : Collected}
    (h : collect codec args o.parameters {} = .ok c) {name : String} :
    name ∈ OrderedMap.keys c.path ↔ PathNamed o name := by
  rw [collect_eq_ok h, mem_path_foldl]
  simp only [OrderedMap.keys, List.map_nil, List.not_mem_nil, false_or]
  constructor
  · rintro ⟨w, hw, hpath, hname⟩
    exact ⟨w.1, (mem_sent.1 hw).1, hpath, hname⟩
  · rintro ⟨p, hp, hpath, hname⟩
    have hfaultless := faultless_iff.1 (exists_collect_iff.1 ⟨c, h⟩ p hp)
    -- A path parameter is required whatever its document says, so it has a value.
    obtain ⟨v, hv⟩ := hfaultless.1 (built.required_of_path hp hpath)
    obtain ⟨wire, hsent⟩ := exists_sent h hp hv
    exact ⟨(p, wire), hsent, hpath, hname⟩

theorem buildRequest_cases {e : InvokeError} :
    buildRequest s o args options = .error e ↔
      collect s.codec args o.parameters {} = .error e ∨
        ∃ c, collect s.codec args o.parameters {} = .ok c ∧ fillPath o.path c.path = .error e := by
  unfold buildRequest
  rw [bind_eq_error_iff]
  simp only [bind_eq_error_iff, pure, Except.pure, reduceCtorEq, and_false, exists_false, or_false]

theorem buildRequest_eq_error_iff (built : Operation.Built doc names o) {e : InvokeError} :
    buildRequest s o args options = .error e ↔ Refusal s.codec args o e := by
  have hplaceholders : ∀ c, collect s.codec args o.parameters {} = .ok c →
      (fillPath o.path c.path = .error e ↔ FirstFault
        (fun name e => ¬PathNamed o name ∧ e = .unresolvedPlaceholder o.path name)
        (placeholders o.path) e) := by
    intro c hc
    rw [fillPath_eq_error_iff]
    unfold PlaceholderFault
    simp only [mem_path_iff built hc]
  rw [buildRequest_cases]
  constructor
  · rintro (hfirst | ⟨c, hc, hpath⟩)
    · exact .parameter (collect_eq_error_iff.1 hfirst)
    · exact .placeholder (exists_collect_iff.1 ⟨c, hc⟩) ((hplaceholders c hc).1 hpath)
  · rintro (hfirst | ⟨hfaultless, hfirst⟩)
    · exact .inl (collect_eq_error_iff.2 hfirst)
    · obtain ⟨c, hc⟩ := exists_collect_iff.2 hfaultless
      exact .inr ⟨c, hc, (hplaceholders c hc).2 hfirst⟩

theorem sendable_iff (built : Operation.Built doc names o) :
    Sendable codec args o ↔ ∀ e, ¬Refusal codec args o e := by
  constructor
  · rintro ⟨hgiven, hencoded, hnamed⟩ e (hfirst | ⟨-, hfirst⟩)
    · obtain ⟨p, hp, e', hfault⟩ := exists_firstFault_iff.1 ⟨e, hfirst⟩
      exact faultless_iff.2 ⟨fun hrequired => hgiven p hp (.inl hrequired), hencoded p hp⟩ e' hfault
    · obtain ⟨name, hname, e', hunknown, _⟩ := exists_firstFault_iff.1 ⟨e, hfirst⟩
      exact hunknown (hnamed name hname)
  · intro h
    have hfaultless : ∀ p ∈ o.parameters, ∀ e, ¬ParameterFault codec args p e := by
      intro p hp e hfault
      obtain ⟨e', hfirst⟩ := exists_firstFault_iff.2 ⟨p, hp, e, hfault⟩
      exact h e' (.parameter hfirst)
    refine ⟨fun p hp hrequired => ?_, fun p hp => (faultless_iff.1 (hfaultless p hp)).2, ?_⟩
    · refine (faultless_iff.1 (hfaultless p hp)).1 ?_
      rcases hrequired with hrequired | hpath
      · exact hrequired
      · exact built.required_of_path hp hpath
    · intro name hname
      by_contra hunknown
      have hfault : ∃ name ∈ placeholders o.path, ∃ e : InvokeError,
          ¬PathNamed o name ∧ e = .unresolvedPlaceholder o.path name :=
        ⟨name, hname, _, hunknown, rfl⟩
      obtain ⟨e, hfirst⟩ := exists_firstFault_iff.2 hfault
      exact h e (.placeholder hfaultless hfirst)

theorem exists_buildRequest_iff (built : Operation.Built doc names o) :
    (∃ request, buildRequest s o args options = .ok request) ↔ Sendable s.codec args o := by
  rw [sendable_iff built]
  have hrefused : ∀ e, buildRequest s o args options = .error e ↔ Refusal s.codec args o e :=
    fun e => buildRequest_eq_error_iff built
  simp only [← hrefused]
  cases buildRequest s o args options <;> simp

/-! ## Sending -/

section Sending

variable {m : Type → Type} [Monad m]

/-- The transport, with a record of the requests that went through it. -/
def recorded (transport : Transport m) : Transport (StateT (List Request) m) := fun request => do
  modify (· ++ [request])
  monadLift (transport request)

/-- What comes of a request that was answered. -/
def answered (s : Setting) (o : Operation) (request : Request)
    (answer : Except TransportError Response) : Logged InvokeError (Option Value) := do
  Logged.notice (.requestSent request.method request.fullUrl)
  let response ← Logged.ofExcept (answer.mapError .transport)
  Logged.notice (.responseReceived o.id response.status)
  decodeResponse s o response

theorem run_invoke [LawfulMonad m] (transport : Transport m) (log : List Request) :
    (invoke s (recorded transport) o args options).run log =
      match buildRequest s o args options with
      | .error e => pure (throw e, log)
      | .ok request => (do
        let answer ← transport request
        return (answered s o request answer, log ++ [request])) := by
  unfold invoke
  cases buildRequest s o args options with
  | error e => rfl
  | ok request =>
    simp [recorded, answered]

/-- Errors of an answer. -/
inductive AnswerError : InvokeError → Prop
  | transport (e : TransportError) : AnswerError (.transport e)
  | status (code : Nat) (body : Option Json) : AnswerError (.status code body)
  | invalidJson (e : Json.TextError) : AnswerError (.invalidJson e)
  | codec (e : CodecError) : AnswerError (.codec e)

theorem answerError_of_decodeResponse {r : Response} {e : InvokeError}
    (h : (decodeResponse s o r).outcome = .error e) : AnswerError e := by
  unfold decodeResponse at h
  cases hsuccess : r.isSuccess with
  | false =>
    rw [hsuccess] at h
    cases h
    exact .status _ _
  | true =>
    cases hempty : r.isEmpty with
    | true =>
      rw [hsuccess, hempty] at h
      cases h
    | false =>
      simp only [hsuccess, hempty, Bool.not_true, Bool.false_eq_true, if_false] at h
      rcases Logged.outcome_bind_eq_error_iff.1 h with hjson | ⟨json, _, h⟩
      · obtain ⟨e', _, rfl⟩ := mapError_eq_error_iff.1 hjson
        exact .invalidJson e'
      · split at h
        · cases h
        · rcases Logged.outcome_bind_eq_error_iff.1 h with hdecode | ⟨v, _, h⟩
          · obtain ⟨e', _, rfl⟩ := mapError_eq_error_iff.1 hdecode
            exact .codec e'
          · cases h

theorem answerError_of_answered {request : Request} {answer : Except TransportError Response}
    {e : InvokeError} (h : (answered s o request answer).outcome = .error e) : AnswerError e := by
  rcases Logged.outcome_bind_eq_error_iff.1 h with h | ⟨_, _, h⟩
  · cases h
  rcases Logged.outcome_bind_eq_error_iff.1 h with hanswer | ⟨response, _, h⟩
  · obtain ⟨e', _, rfl⟩ := mapError_eq_error_iff.1 hanswer
    exact .transport e'
  rcases Logged.outcome_bind_eq_error_iff.1 h with h | ⟨_, _, h⟩
  · cases h
  exact answerError_of_decodeResponse h

/-- A request goes out, once, exactly when the arguments make one, and a refusal is for the first
fault. No placeholder stays open when each is the name of a path parameter. -/
theorem invoke_sends_iff (built : Operation.Built doc names o) (s : Setting) (args : Arguments)
    (options : RequestOptions) :
    ((∃ request, buildRequest s o args options = .ok request) ↔ Sendable s.codec args o) ∧
      (∀ e, buildRequest s o args options = .error e ↔ Refusal s.codec args o e) ∧
      (∀ (m : Type → Type) [Monad m] [LawfulMonad m] (transport : Transport m)
          (log : List Request),
        (invoke s (recorded transport) o args options).run log =
          match buildRequest s o args options with
          | .error e => pure (throw e, log)
          | .ok request => (do
            let answer ← transport request
            return (answered s o request answer, log ++ [request]))) ∧
      ((∀ name ∈ placeholders o.path, PathNamed o name) → ∀ path name,
        buildRequest s o args options ≠ .error (.unresolvedPlaceholder path name) ∧
          ∀ request answer, (answered s o request answer).outcome ≠
            .error (.unresolvedPlaceholder path name)) := by
  refine ⟨exists_buildRequest_iff built, fun e => buildRequest_eq_error_iff built,
    fun m _ _ transport log => run_invoke transport log, fun hnamed path name => ⟨?_, ?_⟩⟩
  · intro h
    rcases (buildRequest_eq_error_iff built).1 h with hfirst | ⟨_, hfirst⟩
    · obtain ⟨_, _, _, _, _, hfault⟩ := hfirst
      cases hfault
    · obtain ⟨name, hname, e', hunknown, _⟩ := exists_firstFault_iff.1 ⟨_, hfirst⟩
      exact hunknown (hnamed name hname)
  · intro request answer h
    cases answerError_of_answered h

end Sending

section Kennel

/-- A path parameter and a header, neither of which a document has to call required. -/
def kennel : Json :=
  .object [("openapi", .string "3.0.0"), ("info", .object []), ("paths", .object
    [("/dogs/{dogId}", .object [("get", .object [("operationId", .string "fetchDog"),
      ("parameters", .array
        [.object [("name", .string "dogId"), ("in", .string "path"),
            ("schema", .object [("type", .string "string")])],
          .object [("name", .string "X-Trace"), ("in", .string "header")]])])])])]

/-- The address of a request, or what is wrong with it. -/
def report (x : Except InvokeError Request) : Except String String :=
  (x.mapError (·.message)).map (·.fullUrl)

theorem report_eq_ok_iff {x : Except InvokeError Request} {url : String} :
    report x = .ok url ↔ ∃ request, x = .ok request ∧ request.fullUrl = url := by
  cases x <;> simp [report, Except.map, Except.mapError]

theorem report_eq_error_iff {x : Except InvokeError Request} {text : String} :
    report x = .error text ↔ ∃ e, x = .error e ∧ e.message = text := by
  cases x <;> simp [report, Except.map, Except.mapError]

theorem kennel_requests :
    ((OperationTable.firstOffered? kennel).map fun (r, o) =>
      (report (buildRequest ⟨⟨r, .wire⟩, "http://kennel/", {}⟩ o
          [("dog_id", .string "rex"), ("X-Trace", .bool true)] {}),
        report (buildRequest ⟨⟨r, .wire⟩, "http://kennel/", {}⟩ o
          [("dog_id", .null), ("dogId", .string "rex")] {}))) =
      some (.ok "http://kennel/dogs/rex", .error "'dogId' is required") := by
  decide +kernel

theorem invoke_sends_iff_kennel :
    ∃ doc r o, OperationTable.Offered kennel doc r o ∧ Operation.Built doc r.names o ∧
      Sendable ⟨r, .wire⟩ [("dog_id", .string "rex"), ("X-Trace", .bool true)] o ∧
      (∃ request : Request, request.fullUrl = "http://kennel/dogs/rex" ∧
        ∀ transport : Transport Id, ∃ out,
          (invoke ⟨⟨r, .wire⟩, "http://kennel/", {}⟩ (recorded transport) o
            [("dog_id", .string "rex"), ("X-Trace", .bool true)] {}).run [] = (out, [request])) ∧
      ∃ e, Refusal ⟨r, .wire⟩ [("dog_id", .null), ("dogId", .string "rex")] o e ∧
        e.message = "'dogId' is required" := by
  obtain ⟨doc, r, o, hoffered, h⟩ := OperationTable.exists_offered kennel_requests
  obtain ⟨hsent, hrefused⟩ := Prod.mk.inj h
  obtain ⟨hsendable, _, hrun, _⟩ := invoke_sends_iff hoffered.built
    ⟨⟨r, .wire⟩, "http://kennel/", {}⟩ [("dog_id", .string "rex"), ("X-Trace", .bool true)] {}
  obtain ⟨_, hrefusal, _⟩ := invoke_sends_iff hoffered.built
    ⟨⟨r, .wire⟩, "http://kennel/", {}⟩ [("dog_id", .null), ("dogId", .string "rex")] {}
  obtain ⟨request, hrequest, hurl⟩ := report_eq_ok_iff.1 hsent
  obtain ⟨e, he, htext⟩ := report_eq_error_iff.1 hrefused
  refine ⟨doc, r, o, hoffered, hoffered.built, hsendable.1 ⟨request, hrequest⟩,
    ⟨request, hurl, fun transport => ?_⟩, e, (hrefusal e).1 he, htext⟩
  rw [hrun Id transport, hrequest]
  exact ⟨_, rfl⟩

end Kennel

end OpenApi.Invocation
