import OpenApi.Proofs.Invocation.Collected
import OpenApi.Proofs.Operation.Table

/-!
# Values of one's own

Arguments go by name, the local one before the wire one. Two parameters with one local name can be
told apart by their wire names only, and only when these are no local names themselves.
-/

namespace OpenApi.Invocation

variable {codec : Codec} {args : Arguments} {o : Operation} {ps : List Parameter}
  {p q : Parameter} {values : List Value} {doc : Document} {names : RecordNames}

/-! ## Handing values out -/

/-- Collects the values that stand beside their parameters. -/
def collectGiven (codec : Codec) :
    List (Parameter × Value) → Collected → Except InvokeError Collected
  | [], c => .ok c
  | (p, v) :: rest, c => do
    let wire ← (codec.encode v p.type).mapError .codec
    collectGiven codec rest (c.put p wire)

/-- The arguments hand each parameter the value beside it. -/
structure HandOut (args : Arguments) (ps : List Parameter) (values : List Value) : Prop where
  nodup : (OrderedMap.keys args).Nodup
  supplied : List.Forall₂ (Supplied args) ps values

theorem collect_of_supplied (h : List.Forall₂ (Supplied args) ps values) (c : Collected) :
    collect codec args ps c = collectGiven codec (ps.zip values) c := by
  induction h generalizing c with
  | nil => rfl
  | cons hv _ ih =>
    rw [collect, argument?_eq_some_iff.2 hv]
    simp only [List.zip_cons_cons, collectGiven, ih]

/-! ## Parameters apart -/

/-- The local names differ, or the wire names do and are no local names. -/
def Apart (ps : List Parameter) (p q : Parameter) : Prop :=
  p.localName = q.localName → p.wireName ≠ q.wireName ∧
    ∀ r ∈ ps, r.localName ≠ p.wireName ∧ r.localName ≠ q.wireName

instance (ps : List Parameter) : DecidableRel (Apart ps) := fun p q =>
  inferInstanceAs (Decidable (p.localName = q.localName → p.wireName ≠ q.wireName ∧
    ∀ r ∈ ps, r.localName ≠ p.wireName ∧ r.localName ≠ q.wireName))

/-- Any two parameters can be told apart. -/
def Separable (ps : List Parameter) : Prop :=
  ps.Pairwise (Apart ps)

instance (ps : List Parameter) : Decidable (Separable ps) :=
  inferInstanceAs (Decidable (ps.Pairwise (Apart ps)))

/-! ## Values are handed out only to parameters apart -/

theorem eq_of_local {v w : Value} (h : Supplied args p v) (hw : args.get? p.localName = some w) :
    v = w := by
  obtain ⟨hv | ⟨habsent, _⟩, _⟩ := h
  · rw [hw] at hv
    exact (Option.some.inj hv).symm
  · rw [hw] at habsent
    cases habsent

theorem wire_of_no_local {v : Value} (h : Supplied args p v)
    (absent : args.get? p.localName = none) : args.get? p.wireName = some v := by
  obtain ⟨hv | ⟨_, hv⟩, _⟩ := h
  · rw [absent] at hv
    cases hv
  · exact hv

section Given

variable {pairs : List (Parameter × Value)} (supplied : ∀ w ∈ pairs, Supplied args w.1 w.2)
  (distinct : (pairs.map Prod.snd).Nodup)
include supplied distinct

theorem local_ne_wire {a b : Parameter × Value} (ha : a ∈ pairs) (hb : b ∈ pairs)
    (absent : args.get? a.1.localName = none) : b.1.localName ≠ a.1.wireName := by
  intro hname
  have hwire := wire_of_no_local (supplied a ha) absent
  rw [← hname] at hwire
  have hvalue := eq_of_local (supplied b hb) hwire
  have hsame := List.inj_on_of_nodup_map distinct hb ha hvalue
  rw [hsame, absent] at hwire
  cases hwire

theorem separable_of_supplied : Separable (pairs.map Prod.fst) := by
  unfold Separable
  rw [List.pairwise_map]
  refine (List.pairwise_map.1 distinct).imp_of_mem ?_
  intro a b ha hb hdiffer hlocal
  -- An entry under the common local name would go to both.
  have habsent : args.get? a.1.localName = none := by
    rw [Option.eq_none_iff_forall_ne_some]
    intro v hv
    refine hdiffer ((eq_of_local (supplied a ha) hv).trans ?_)
    rw [hlocal] at hv
    exact (eq_of_local (supplied b hb) hv).symm
  have hwire := wire_of_no_local (supplied a ha) habsent
  have habsent' := hlocal ▸ habsent
  refine ⟨fun hsame => ?_, fun r hr => ?_⟩
  · rw [hsame, wire_of_no_local (supplied b hb) habsent'] at hwire
    exact hdiffer (Option.some.inj hwire).symm
  · obtain ⟨c, hc, rfl⟩ := List.mem_map.1 hr
    exact ⟨local_ne_wire supplied distinct ha hc habsent,
      local_ne_wire supplied distinct hb hc habsent'⟩

end Given

/-- As many values as parameters, no two of them the same. -/
def marks (n : Nat) : List Value :=
  (List.range n).map fun k => .array (List.replicate k .null)

theorem nodup_marks (n : Nat) : (marks n).Nodup := by
  refine List.nodup_range.map ?_
  intro k l h
  injection h with hitems
  simpa using congrArg List.length hitems

theorem separable_of_handOut (h : HandOut args ps values) (distinct : values.Nodup) :
    Separable ps := by
  obtain ⟨hlength, hsupplied⟩ := List.forall₂_iff_zip.1 h.supplied
  have hfst : (ps.zip values).map Prod.fst = ps := List.map_fst_zip (Nat.le_of_eq hlength)
  have hsnd : (ps.zip values).map Prod.snd = values := List.map_snd_zip (Nat.le_of_eq hlength.symm)
  rw [← hfst]
  refine separable_of_supplied (fun w hw => hsupplied hw) ?_
  rw [hsnd]
  exact distinct

/-! ## Parameters apart are given their values -/

/-- No other parameter has the local name. -/
def Alone (ps : List Parameter) (p : Parameter) : Prop :=
  ps.countP (·.localName == p.localName) = 1

instance (ps : List Parameter) (p : Parameter) : Decidable (Alone ps p) :=
  inferInstanceAs (Decidable (ps.countP (·.localName == p.localName) = 1))

/-- The name that only one parameter answers to. -/
def ownName (ps : List Parameter) (p : Parameter) : String :=
  if Alone ps p then p.localName else p.wireName

theorem ownName_of_alone (h : Alone ps p) : ownName ps p = p.localName :=
  if_pos h

theorem ownName_of_shared (h : ¬Alone ps p) : ownName ps p = p.wireName :=
  if_neg h

theorem eq_of_alone (h : Alone ps p) (hp : p ∈ ps) (hq : q ∈ ps)
    (same : q.localName = p.localName) : q = p := by
  unfold Alone at h
  rw [List.countP_eq_length_filter, List.length_eq_one_iff] at h
  obtain ⟨r, hr⟩ := h
  have hp' : p ∈ ps.filter (·.localName == p.localName) := List.mem_filter.2 ⟨hp, by simp⟩
  have hq' : q ∈ ps.filter (·.localName == p.localName) := List.mem_filter.2 ⟨hq, by simp [same]⟩
  rw [hr, List.mem_singleton] at hp' hq'
  rw [hp', hq']

theorem exists_other {before after : List Parameter} (h : ¬Alone (before ++ p :: after) p) :
    (∃ q ∈ before, q.localName = p.localName) ∨ ∃ q ∈ after, q.localName = p.localName := by
  by_contra hnone
  obtain ⟨hbefore, hafter⟩ := not_or.1 hnone
  simp only [not_exists, not_and] at hbefore hafter
  refine h ?_
  unfold Alone
  rw [List.countP_append, List.countP_cons_of_pos (by simp),
    List.countP_eq_zero.2 (by simpa using hbefore), List.countP_eq_zero.2 (by simpa using hafter)]

section Separable

variable (h : Separable ps)
include h

theorem Separable.local_ne_wire (hp : p ∈ ps) (shared : ¬Alone ps p) :
    ∀ r ∈ ps, r.localName ≠ p.wireName := by
  obtain ⟨before, after, rfl⟩ := List.append_of_mem hp
  obtain ⟨_, hafter, hacross⟩ := List.pairwise_append.1 h
  intro r hr
  rcases exists_other shared with ⟨q, hq, hlocal⟩ | ⟨q, hq, hlocal⟩
  · exact ((hacross q hq p List.mem_cons_self hlocal).2 r hr).2
  · exact ((List.rel_of_pairwise_cons hafter hq hlocal.symm).2 r hr).1

theorem Separable.local_not_mem_ownNames (hp : p ∈ ps) (shared : ¬Alone ps p) :
    p.localName ∉ ps.map (ownName ps) := by
  intro hmem
  obtain ⟨q, hq, hname⟩ := List.mem_map.1 hmem
  by_cases hq1 : Alone ps q
  · rw [ownName_of_alone hq1] at hname
    obtain rfl := eq_of_alone hq1 hq hp hname.symm
    exact shared hq1
  · rw [ownName_of_shared hq1] at hname
    exact h.local_ne_wire hq hq1 p hp hname.symm

variable (named : ∀ p ∈ ps, p.localName = OpenApi.localName p.wireName)
include named

theorem Separable.nodup_ownNames : (ps.map (ownName ps)).Nodup := by
  rw [List.Nodup, List.pairwise_map]
  refine List.Pairwise.imp_of_mem ?_ h
  intro p q hp hq hapart hname
  by_cases hp1 : Alone ps p
  · rw [ownName_of_alone hp1] at hname
    by_cases hq1 : Alone ps q
    · rw [ownName_of_alone hq1] at hname
      exact (hapart hname).1 (congrArg _ (eq_of_alone hq1 hq hp hname))
    · rw [ownName_of_shared hq1] at hname
      exact h.local_ne_wire hq hq1 p hp hname
  · rw [ownName_of_shared hp1] at hname
    by_cases hq1 : Alone ps q
    · rw [ownName_of_alone hq1] at hname
      exact h.local_ne_wire hp hp1 q hq hname.symm
    · rw [ownName_of_shared hq1] at hname
      refine (hapart ?_).1 hname
      rw [named p hp, named q hq, hname]

theorem Separable.handOut (length : values.length = ps.length)
    (present : ∀ v ∈ values, v.isNull = false) :
    HandOut ((ps.map (ownName ps)).zip values) ps values := by
  have hkeys : OrderedMap.keys ((ps.map (ownName ps)).zip values) = ps.map (ownName ps) :=
    List.map_fst_zip (by simp [length])
  have hnodup := h.nodup_ownNames named
  rw [← hkeys] at hnodup
  refine ⟨hnodup, List.forall₂_iff_zip.2 ⟨length.symm, ?_⟩⟩
  intro p v hpv
  obtain ⟨hp, hv⟩ := List.of_mem_zip hpv
  have hentry : (ownName ps p, v) ∈ (ps.map (ownName ps)).zip values := by
    rw [List.zip_map_left]
    exact List.mem_map.2 ⟨(p, v), hpv, rfl⟩
  have hget := OrderedMap.get?_of_mem hnodup hentry
  refine ⟨?_, present v hv⟩
  by_cases hp1 : Alone ps p
  · rw [ownName_of_alone hp1] at hget
    exact .inl hget
  · rw [ownName_of_shared hp1] at hget
    refine .inr ⟨?_, hget⟩
    rw [OrderedMap.get?_eq_none_iff, hkeys]
    exact h.local_not_mem_ownNames hp hp1

end Separable

/-- Every parameter of an operation can be given a value of its own exactly when any two of them can
be told apart by their names. -/
theorem own_values_iff_separable (built : Operation.Built doc names o) :
    (∀ values : List Value, values.length = o.parameters.length →
      (∀ v ∈ values, v.isNull = false) → ∃ args, HandOut args o.parameters values ∧
        ∀ codec, collect codec args o.parameters {} =
          collectGiven codec (o.parameters.zip values) {}) ↔ Separable o.parameters := by
  constructor
  · intro hgiven
    obtain ⟨args, hargs, _⟩ := hgiven (marks o.parameters.length) (by simp [marks])
      (by simp [marks, Value.isNull])
    exact separable_of_handOut hargs (nodup_marks _)
  · intro h values length present
    have hargs := h.handOut (fun p hp => built.localName_eq hp) length present
    exact ⟨_, hargs, fun codec => collect_of_supplied hargs.supplied {}⟩

section Things

/-- An operation with two parameters. -/
def things (first second : String) : Json :=
  .object [("openapi", .string "3.0.0"), ("info", .object []), ("paths", .object
    [("/things", .object [("get", .object [("operationId", .string "getThing"),
      ("parameters", .array
        [.object [("name", .string first), ("in", .string "query")],
          .object [("name", .string second), ("in", .string "header")]])])])])]

theorem things_separable :
    ((OperationTable.firstOffered? (things "xId" "X-Id")).map fun (_, o) =>
      (o.parameters.map (·.localName), decide (Separable o.parameters))) =
      some (["x_id", "x_id"], true) := by
  decide +kernel

theorem own_values_iff_separable_things :
    ∃ doc r o args, OperationTable.Offered (things "xId" "X-Id") doc r o ∧
      o.parameters.map (·.localName) = ["x_id", "x_id"] ∧
      HandOut args o.parameters [.string "a", .string "b"] := by
  obtain ⟨doc, r, o, hoffered, h⟩ := OperationTable.exists_offered things_separable
  obtain ⟨hlocals, hseparable⟩ := Prod.mk.inj h
  have hlength : o.parameters.length = 2 := by simpa using congrArg List.length hlocals
  obtain ⟨args, hargs, _⟩ := (own_values_iff_separable hoffered.built).2
    (of_decide_eq_true hseparable) [.string "a", .string "b"] (by simp [hlength])
    (by simp [Value.isNull])
  exact ⟨doc, r, o, args, hoffered, hlocals, hargs⟩

theorem things_shared :
    ((OperationTable.firstOffered? (things "x_id" "X-Id")).map fun (_, o) =>
      (o.parameters.length, decide (Separable o.parameters))) = some (2, false) := by
  decide +kernel

/-- The header takes what is meant for the query. -/
theorem things_share_a_value :
    ∃ doc r o, OperationTable.Offered (things "x_id" "X-Id") doc r o ∧
      Operation.Built doc r.names o ∧ o.parameters.length = 2 ∧
      ¬∃ args, HandOut args o.parameters [.string "a", .string "b"] := by
  obtain ⟨doc, r, o, hoffered, h⟩ := OperationTable.exists_offered things_shared
  obtain ⟨hlength, hseparable⟩ := Prod.mk.inj h
  refine ⟨doc, r, o, hoffered, hoffered.built, hlength, ?_⟩
  rintro ⟨args, hargs⟩
  exact of_decide_eq_false hseparable (separable_of_handOut hargs (by simp))

end Things

end OpenApi.Invocation
