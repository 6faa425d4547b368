import OpenApi.Invocation
import OpenApi.Proofs.Json.Typed
import OpenApi.Proofs.OrderedMap

/-!
# Collected arguments

Arguments are collected parameter by parameter. The first parameter at fault stops the collection;
without a fault, every supplied argument is encoded and goes to its place.
-/

namespace OpenApi.Invocation

open Json.Typed (bind_eq_ok_iff toOption_eq_some_iff)

variable {codec : Codec} {args : Arguments} {p : Parameter} {ps : List Parameter}

/-! ## Supplied arguments -/

/-- The value stands under the local name of the parameter, or under its wire name when nothing
stands under the local one, and it is not null. -/
def Supplied (args : Arguments) (p : Parameter) (v : Value) : Prop :=
  (args.get? p.localName = some v ∨
    args.get? p.localName = none ∧ args.get? p.wireName = some v) ∧ v.isNull = false

theorem argument?_eq_some_iff {v : Value} : argument? args p = some v ↔ Supplied args p v := by
  unfold argument? Supplied
  rw [Option.filter_eq_some_iff]
  cases args.get? p.localName <;> simp

theorem Supplied.unique {v w : Value} (hv : Supplied args p v) (hw : Supplied args p w) :
    v = w := by
  rw [← argument?_eq_some_iff] at hv hw
  exact Option.some.inj (hv.symm.trans hw)

theorem argument?_eq_none_iff : argument? args p = none ↔ ∀ v, ¬Supplied args p v := by
  rw [Option.eq_none_iff_forall_ne_some]
  simp only [ne_eq, argument?_eq_some_iff]

/-! ## Faults -/

/-- What is wrong with the argument of a parameter. -/
inductive ParameterFault (codec : Codec) (args : Arguments) (p : Parameter) : InvokeError → Prop
  | missing (required : p.required = true) (absent : ∀ v, ¬Supplied args p v) :
      ParameterFault codec args p (.missingParameter p.wireName)
  | refused {v : Value} {e : CodecError} (supplied : Supplied args p v)
      (encoded : codec.encode v p.type = .error e) : ParameterFault codec args p (.codec e)

/-- The first of a list with a fault, and what its fault is. -/
def FirstFault {α ε : Type} (fault : α → ε → Prop) (l : List α) (e : ε) : Prop :=
  ∃ before a after, l = before ++ a :: after ∧ (∀ b ∈ before, ∀ e', ¬fault b e') ∧ fault a e

section FirstFault

variable {α ε : Type} {fault : α → ε → Prop}

theorem firstFault_nil {e : ε} : ¬FirstFault fault [] e := by
  rintro ⟨before, a, after, h, _⟩
  simp at h

theorem firstFault_cons {a : α} {l : List α} {e : ε} :
    FirstFault fault (a :: l) e ↔ fault a e ∨ (∀ e', ¬fault a e') ∧ FirstFault fault l e := by
  constructor
  · rintro ⟨before, b, after, h, hbefore, hb⟩
    cases before with
    | nil =>
      cases h
      exact .inl hb
    | cons c before =>
      cases h
      obtain ⟨hc, hbefore⟩ := List.forall_mem_cons.1 hbefore
      exact .inr ⟨hc, before, b, after, rfl, hbefore, hb⟩
  · rintro (ha | ⟨ha, before, b, after, rfl, hbefore, hb⟩)
    · exact ⟨[], a, l, rfl, by simp, ha⟩
    · exact ⟨a :: before, b, after, rfl, List.forall_mem_cons.2 ⟨ha, hbefore⟩, hb⟩

theorem exists_firstFault_iff {l : List α} :
    (∃ e, FirstFault fault l e) ↔ ∃ a ∈ l, ∃ e, fault a e := by
  induction l with
  | nil => simp [firstFault_nil]
  | cons a l ih =>
    simp only [firstFault_cons, exists_or, exists_and_left, ih, List.exists_mem_cons_iff]
    by_cases h : ∃ e, fault a e
    · simp [h]
    · simp [not_exists.1 h]

end FirstFault

/-- The wire value that a parameter sends, if it sends any. -/
def wireValue? (codec : Codec) (args : Arguments) (p : Parameter) :
    Except InvokeError (Option Json) :=
  match argument? args p with
  | none => if p.required then .error (.missingParameter p.wireName) else .ok none
  | some v =>
    match codec.encode v p.type with
    | .error e => .error (.codec e)
    | .ok wire => .ok (some wire)

theorem wireValue?_eq_error_iff {e : InvokeError} :
    wireValue? codec args p = .error e ↔ ParameterFault codec args p e := by
  unfold wireValue?
  cases h : argument? args p with
  | none =>
    have habsent := argument?_eq_none_iff.1 h
    constructor
    · intro he
      by_cases hrequired : p.required = true
      · rw [if_pos hrequired] at he
        cases he
        exact .missing hrequired habsent
      · simp [hrequired] at he
    · rintro (⟨hrequired, _⟩ | ⟨hsupplied, _⟩)
      · simp [hrequired]
      · exact absurd hsupplied (habsent _)
  | some v =>
    have hv := argument?_eq_some_iff.1 h
    constructor
    · intro he
      cases henc : codec.encode v p.type with
      | ok wire => simp [henc] at he
      | error e' =>
        simp only [henc, Except.error.injEq] at he
        exact he ▸ .refused hv henc
    · rintro (⟨_, habsent⟩ | ⟨hsupplied, henc⟩)
      · exact absurd hv (habsent v)
      · rw [← argument?_eq_some_iff, h] at hsupplied
        cases hsupplied
        simp [henc]

theorem wireValue?_eq_some_iff {wire : Json} :
    wireValue? codec args p = .ok (some wire) ↔
      ∃ v, Supplied args p v ∧ codec.encode v p.type = .ok wire := by
  simp only [← argument?_eq_some_iff]
  unfold wireValue?
  cases argument? args p with
  | none => cases p.required <;> simp
  | some v => cases h : codec.encode v p.type <;> simp [h]

theorem collect_cons (codec : Codec) (args : Arguments) (p : Parameter) (ps : List Parameter)
    (c : Collected) :
    collect codec args (p :: ps) c = match wireValue? codec args p with
      | .error e => .error e
      | .ok none => collect codec args ps c
      | .ok (some wire) => collect codec args ps (c.put p wire) := by
  rw [collect]
  unfold wireValue?
  cases argument? args p with
  | none => cases p.required <;> rfl
  | some v => cases h : codec.encode v p.type <;> simp only [h] <;> rfl

theorem collect_eq_error_iff {c : Collected} {e : InvokeError} :
    collect codec args ps c = .error e ↔ FirstFault (ParameterFault codec args) ps e := by
  induction ps generalizing c with
  | nil => simp [collect, firstFault_nil]
  | cons p rest ih =>
    rw [firstFault_cons, collect_cons]
    simp only [← wireValue?_eq_error_iff]
    cases wireValue? codec args p with
    | error e' => simp
    | ok wire? => cases wire? <;> simp [ih]

theorem faultless_iff : (∀ e, ¬ParameterFault codec args p e) ↔
    (p.required = true → ∃ v, Supplied args p v) ∧
      ∀ v, Supplied args p v → ∃ wire, codec.encode v p.type = .ok wire := by
  constructor
  · intro h
    refine ⟨fun hrequired => ?_, fun v hv => ?_⟩
    · by_contra habsent
      exact h _ (.missing hrequired (not_exists.1 habsent))
    · cases hwire : codec.encode v p.type with
      | ok wire => exact ⟨wire, rfl⟩
      | error e => exact absurd (.refused hv hwire) (h _)
  · rintro ⟨hgiven, hencoded⟩ e (⟨hrequired, habsent⟩ | ⟨hv, hwire⟩)
    · obtain ⟨v, hv⟩ := hgiven hrequired
      exact habsent v hv
    · obtain ⟨wire, hok⟩ := hencoded _ hv
      rw [hwire] at hok
      cases hok

theorem exists_collect_iff :
    (∃ c, collect codec args ps {} = .ok c) ↔
      ∀ p ∈ ps, ∀ e, ¬ParameterFault codec args p e := by
  have hfirst : (∃ e, FirstFault (ParameterFault codec args) ps e) ↔ _ :=
    exists_firstFault_iff
  simp only [← collect_eq_error_iff (c := {})] at hfirst
  cases hc : collect codec args ps {} with
  | ok c => simpa [hc] using hfirst
  | error e => simpa [hc] using hfirst

/-! ## What is sent -/

/-- The parameters that send something, with their wire values. -/
def sent (codec : Codec) (args : Arguments) (ps : List Parameter) : List (Parameter × Json) :=
  ps.filterMap fun p => (wireValue? codec args p).toOption.join.map (p, ·)

theorem mem_sent {w : Parameter × Json} : w ∈ sent codec args ps ↔
    w.1 ∈ ps ∧ ∃ v, Supplied args w.1 v ∧ codec.encode v w.1.type = .ok w.2 := by
  rw [← wireValue?_eq_some_iff, sent, List.mem_filterMap]
  constructor
  · rintro ⟨p, hp, hw⟩
    obtain ⟨wire, hwire, rfl⟩ := Option.map_eq_some_iff.1 hw
    rw [Option.join_eq_some_iff, toOption_eq_some_iff] at hwire
    exact ⟨hp, hwire⟩
  · rintro ⟨hp, hwire⟩
    refine ⟨w.1, hp, ?_⟩
    rw [hwire]
    rfl

theorem exists_sent {c : Collected} (h : collect codec args ps {} = .ok c) (hp : p ∈ ps) {v : Value}
    (hv : Supplied args p v) : ∃ wire, (p, wire) ∈ sent codec args ps := by
  obtain ⟨wire, hwire⟩ := (faultless_iff.1 (exists_collect_iff.1 ⟨c, h⟩ p hp)).2 v hv
  exact ⟨wire, mem_sent.2 ⟨hp, v, hv, hwire⟩⟩

theorem collect_eq_ok {c c' : Collected} (h : collect codec args ps c = .ok c') :
    c' = (sent codec args ps).foldl (fun c w => c.put w.1 w.2) c := by
  induction ps generalizing c with
  | nil =>
    cases h
    rfl
  | cons p rest ih =>
    rw [collect_cons] at h
    unfold sent
    cases hwire : wireValue? codec args p with
    | error e =>
      rw [hwire] at h
      cases h
    | ok wire? =>
      rw [hwire] at h
      cases wire? with
      | none =>
        rw [List.filterMap_cons_none (by rw [hwire]; rfl)]
        exact ih h
      | some wire =>
        rw [List.filterMap_cons_some (by rw [hwire]; rfl), List.foldl_cons]
        exact ih h

/-! ## The path -/

theorem mem_path_put {c : Collected} {wire : Json} {name : String} :
    name ∈ OrderedMap.keys (c.put p wire).path ↔
      name ∈ OrderedMap.keys c.path ∨ p.location = .path ∧ p.wireName = name := by
  unfold Collected.put
  split <;> simp_all [OrderedMap.mem_keys_insert]

theorem mem_path_foldl {ws : List (Parameter × Json)} {c : Collected} {name : String} :
    name ∈ OrderedMap.keys (ws.foldl (fun c w => c.put w.1 w.2) c).path ↔
      name ∈ OrderedMap.keys c.path ∨
        ∃ w ∈ ws, w.1.location = .path ∧ w.1.wireName = name := by
  induction ws generalizing c with
  | nil => simp
  | cons w rest ih =>
    rw [List.foldl_cons, ih, mem_path_put, List.exists_mem_cons_iff, or_assoc]

end OpenApi.Invocation
