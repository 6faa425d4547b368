import OpenApi.Proofs.Invocation.Sending

/-!
# Null arguments

A null argument is not there, with one exception: under the local name of a parameter it hides a
value that stands under the wire name. Everything else about a call is as if the nulls were gone.
-/

namespace OpenApi.Invocation

variable {s : Setting} {codec : Codec} {o : Operation} {args : Arguments}
  {options : RequestOptions} {p : Parameter} {ps : List Parameter}

/-! ## Arguments without nulls -/

def withoutNulls (args : Arguments) : Arguments :=
  args.filter (!·.2.isNull)

theorem get?_withoutNulls (once : (OrderedMap.keys args).Nodup) (name : String) :
    (withoutNulls args).get? name = (args.get? name).filter (!·.isNull) := by
  have hkept : (OrderedMap.keys (withoutNulls args)).Nodup :=
    once.sublist (List.filter_sublist.map _)
  apply Option.ext
  intro v
  rw [OrderedMap.get?_eq_some_iff hkept, Option.filter_eq_some_iff,
    OrderedMap.get?_eq_some_iff once, withoutNulls, List.mem_filter]

/-- A null under the local name stands before a value under the wire name. -/
def Hidden (args : Arguments) (p : Parameter) : Prop :=
  (args.get? p.localName).any (·.isNull) ∧ (args.get? p.wireName).any (!·.isNull)

instance : Decidable (Hidden args p) :=
  inferInstanceAs (Decidable (_ ∧ _))

theorem argument?_withoutNulls_iff (once : (OrderedMap.keys args).Nodup) (p : Parameter) :
    argument? (withoutNulls args) p = argument? args p ↔ ¬Hidden args p := by
  unfold argument? Hidden
  rw [get?_withoutNulls once, get?_withoutNulls once]
  cases args.get? p.localName with
  | none => cases args.get? p.wireName <;> simp
  | some v =>
    cases hv : v.isNull with
    | false => simp [hv, Option.filter_some]
    | true =>
      cases args.get? p.wireName with
      | none => simp [hv, Option.filter_some]
      | some w => cases hw : w.isNull <;> simp [hv, hw, Option.filter_some]

theorem argument?_of_hidden (hidden : Hidden args p) : argument? args p = none := by
  obtain ⟨hlocal, _⟩ := hidden
  unfold argument?
  cases hv : args.get? p.localName with
  | none => simp [hv] at hlocal
  | some v => simpa [hv] using hlocal

/-! ## Collecting -/

theorem wireValue?_congr {args' : Arguments} (same : argument? args p = argument? args' p) :
    wireValue? codec args p = wireValue? codec args' p := by
  unfold wireValue?
  rw [same]

theorem wireValue?_of_hidden (hidden : Hidden args p) (optional : p.required = false) :
    wireValue? codec args p = .ok none := by
  unfold wireValue?
  rw [argument?_of_hidden hidden]
  simp [optional]

theorem collect_withoutNulls (once : (OrderedMap.keys args).Nodup)
    (optional : ∀ p ∈ ps, Hidden args p → p.required = false) (c : Collected) :
    collect codec args ps c =
      collect codec (withoutNulls args) (ps.filter fun p => ¬Hidden args p) c := by
  induction ps generalizing c with
  | nil => rfl
  | cons p rest ih =>
    obtain ⟨hp, hrest⟩ := List.forall_mem_cons.1 optional
    rw [collect_cons]
    by_cases h : Hidden args p
    · rw [wireValue?_of_hidden h (hp h), List.filter_cons_of_neg (by simpa using h)]
      exact ih hrest c
    · have hsame : argument? args p = argument? (withoutNulls args) p :=
        ((argument?_withoutNulls_iff once p).2 h).symm
      rw [List.filter_cons_of_pos (by simpa using h), collect_cons, wireValue?_congr hsame]
      cases wireValue? codec (withoutNulls args) p with
      | error e => rfl
      | ok wire? => cases wire? <;> exact ih hrest _

/-! ## Requests -/

/-- The operation without the parameters whose values are hidden. -/
def withoutHidden (o : Operation) (args : Arguments) : Operation :=
  { o with parameters := o.parameters.filter fun p => ¬Hidden args p }

theorem buildRequest_withoutNulls (once : (OrderedMap.keys args).Nodup)
    (optional : ∀ p ∈ o.parameters, Hidden args p → p.required = false) :
    buildRequest s o args options =
      buildRequest s (withoutHidden o args) (withoutNulls args) options := by
  unfold buildRequest
  rw [collect_withoutNulls once optional]
  rfl

theorem withoutHidden_eq_self (shown : ∀ p ∈ o.parameters, ¬Hidden args p) :
    withoutHidden o args = o := by
  unfold withoutHidden
  rw [List.filter_eq_self.2 fun p hp => by simpa using shown p hp]

theorem refused_of_hidden (hp : p ∈ o.parameters) (hidden : Hidden args p)
    (required : p.required = true) :
    ∃ e, FirstFault (ParameterFault s.codec args) o.parameters e ∧
      buildRequest s o args options = .error e := by
  have hfault : ParameterFault s.codec args p (.missingParameter p.wireName) :=
    .missing required (argument?_eq_none_iff.1 (argument?_of_hidden hidden))
  obtain ⟨e, hfirst⟩ := exists_firstFault_iff.2 ⟨p, hp, _, hfault⟩
  exact ⟨e, hfirst, buildRequest_cases.2 (.inl (collect_eq_error_iff.2 hfirst))⟩

/-- Nulls count as missing where no value is hidden. A hidden value is missing too: its parameter
sends nothing, and if it is required the call is refused. -/
theorem nulls_missing_unless_hiding (args : Arguments)
    (once : (OrderedMap.keys args).Nodup) (s : Setting) (o : Operation)
    (options : RequestOptions) :
    ((∀ p ∈ o.parameters, ¬Hidden args p) →
      buildRequest s o args options = buildRequest s o (withoutNulls args) options) ∧
    ((∀ p ∈ o.parameters, Hidden args p → p.required = false) →
      buildRequest s o args options =
        buildRequest s (withoutHidden o args) (withoutNulls args) options) ∧
    ∀ p ∈ o.parameters, Hidden args p →
      (argument? args p = none ∧ ∃ v, argument? (withoutNulls args) p = some v) ∧
      (p.required = true → ∃ e, FirstFault (ParameterFault s.codec args) o.parameters e ∧
        buildRequest s o args options = .error e) := by
  refine ⟨fun hshown => ?_, buildRequest_withoutNulls once, fun p hp hidden => ⟨?_, ?_⟩⟩
  · rw [buildRequest_withoutNulls once fun p hp h => absurd h (hshown p hp),
      withoutHidden_eq_self hshown]
  · have hnone := argument?_of_hidden hidden
    refine ⟨hnone, Option.ne_none_iff_exists'.1 fun h => ?_⟩
    exact (argument?_withoutNulls_iff once p).1 (h.trans hnone.symm) hidden
  · exact refused_of_hidden hp hidden

section Kennel

/-- The id of the dog is under its wire name, and null under its local name. -/
def hiddenDog : Arguments :=
  [("dog_id", .null), ("dogId", .string "rex")]

/-- A null header hides nothing. -/
def plainDog : Arguments :=
  [("dog_id", .string "rex"), ("X-Trace", .null)]

/-- The trace is hidden, and optional. -/
def hiddenTrace : Arguments :=
  [("dog_id", .string "rex"), ("x_trace", .null), ("X-Trace", .string "7")]

def kennelSetting (r : Registry) : Setting :=
  ⟨⟨r, .wire⟩, "http://kennel/", {}⟩

theorem kennel_nulls :
    ((OperationTable.firstOffered? kennel).map fun (r, o) =>
      (decide (∀ p ∈ o.parameters, ¬Hidden plainDog p),
        decide (∀ p ∈ o.parameters, Hidden hiddenTrace p → p.required = false),
        decide (∃ p ∈ o.parameters, Hidden hiddenDog p ∧ p.required = true),
        report (buildRequest (kennelSetting r) o plainDog {}),
        report (buildRequest (kennelSetting r) o (withoutNulls hiddenDog) {}))) =
      some (true, true, true, .ok "http://kennel/dogs/rex", .ok "http://kennel/dogs/rex") := by
  decide +kernel

theorem nulls_missing_unless_hiding_kennel :
    ∃ doc r o, OperationTable.Offered kennel doc r o ∧
      (∃ request : Request, request.fullUrl = "http://kennel/dogs/rex" ∧
        buildRequest (kennelSetting r) o (withoutNulls plainDog) {} = .ok request) ∧
      buildRequest (kennelSetting r) o hiddenTrace {} =
        buildRequest (kennelSetting r) (withoutHidden o hiddenTrace) (withoutNulls hiddenTrace) {} ∧
      ∃ p ∈ o.parameters, argument? hiddenDog p = none ∧
        (∃ v, argument? (withoutNulls hiddenDog) p = some v) ∧
        ∃ e, buildRequest (kennelSetting r) o hiddenDog {} = .error e := by
  obtain ⟨doc, r, o, hoffered, h⟩ := OperationTable.exists_offered kennel_nulls
  simp only [Prod.mk.injEq, decide_eq_true_eq] at h
  obtain ⟨hplain, htrace, ⟨p, hp, hdog, hrequired⟩, hsent, _⟩ := h
  have hkept := (nulls_missing_unless_hiding plainDog (by decide) (kennelSetting r) o {}).1 hplain
  have hleft := (nulls_missing_unless_hiding hiddenTrace (by decide) (kennelSetting r) o
    {}).2.1 htrace
  obtain ⟨⟨hnone, hshown⟩, hrefused⟩ := (nulls_missing_unless_hiding hiddenDog (by decide)
    (kennelSetting r) o {}).2.2 p hp hdog
  obtain ⟨request, hrequest, hurl⟩ := report_eq_ok_iff.1 hsent
  obtain ⟨e, _, he⟩ := hrefused hrequired
  exact ⟨doc, r, o, hoffered, ⟨request, hurl, hkept ▸ hrequest⟩, hleft, p, hp, hnone, hshown, e, he⟩

/-- The call is refused with the null and goes out without it. -/
theorem null_hides_the_dog :
    ∃ doc r o, OperationTable.Offered kennel doc r o ∧
      (∃ e, buildRequest (kennelSetting r) o hiddenDog {} = .error e) ∧
      ∃ request, buildRequest (kennelSetting r) o (withoutNulls hiddenDog) {} = .ok request := by
  obtain ⟨doc, r, o, hoffered, h⟩ := OperationTable.exists_offered kennel_nulls
  simp only [Prod.mk.injEq, decide_eq_true_eq] at h
  obtain ⟨_, _, ⟨p, hp, hdog, hrequired⟩, _, hsent⟩ := h
  obtain ⟨request, hrequest, _⟩ := report_eq_ok_iff.1 hsent
  obtain ⟨e, _, he⟩ := refused_of_hidden hp hdog hrequired
  exact ⟨doc, r, o, hoffered, ⟨e, he⟩, request, hrequest⟩

end Kennel

end OpenApi.Invocation
