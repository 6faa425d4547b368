import OpenApi.Proofs.Resolution.Circles

/-!
# The schemas behind a type

To type a schema is to type every schema that is reached from it, through references, branches and
items. Any of them may be at fault: nearly always it is one that is not supported.
-/

namespace OpenApi

/-- Several branches, of which the discriminator does not give one for each of its values. -/
structure SchemaObject.Undecided (o : SchemaObject Schema) : Prop where
  allOf : o.allOf = []
  oneOf : 2 ≤ o.oneOf.length
  undecided : ¬∃ d, o.discriminator = some d ∧ d.propertyName ≠ "" ∧ d.mapping ≠ [] ∧
    ∀ p ∈ d.mapping, .reference p.2 ∈ o.oneOf

namespace Schema.Typed

variable {refers : String → DataType → Prop} {o : SchemaObject Schema} {s : Schema} {ty : DataType}

/-! ## Right below a typed schema -/

theorem anyOf_eq_nil (typed : (Schema.inline o).Typed refers ty) : o.anyOf = [] := by
  cases typed with
  | branch stands _ => cases stands <;> assumption
  | allOf anyOf _ => exact anyOf
  | union told _ _ => exact told.anyOf
  | array plain _ _ | arrayOfAny plain _ | dateTime plain _ | primitive plain _ =>
    exact plain.anyOf

theorem of_allOf (typed : (Schema.inline o).Typed refers ty) (allOf : o.allOf = [s]) :
    ∃ ty', s.Typed refers ty' := by
  cases typed with
  | branch stands typed =>
    cases stands with
    | allOf _ hall =>
      obtain rfl := List.singleton_inj.1 (allOf.symm.trans hall)
      exact ⟨_, typed⟩
    | oneOf _ hall _ => simp [allOf] at hall
  | allOf _ several => simp [allOf] at several
  | union told _ _ =>
    have hall := told.allOf
    simp [allOf] at hall
  | array plain _ _ | arrayOfAny plain _ | dateTime plain _ | primitive plain _ =>
    have hall := plain.allOf
    simp [allOf] at hall

theorem of_oneOf (typed : (Schema.inline o).Typed refers ty) (allOf : o.allOf = [])
    (mem : s ∈ o.oneOf) : ∃ ty', s.Typed refers ty' := by
  cases typed with
  | branch stands typed =>
    cases stands with
    | allOf _ hall => simp [allOf] at hall
    | oneOf _ _ hone =>
      rw [hone, List.mem_singleton] at mem
      exact ⟨_, mem ▸ typed⟩
  | allOf _ several => simp [allOf] at several
  | union told typed _ => exact ⟨_, typed s mem⟩
  | array plain _ _ | arrayOfAny plain _ | dateTime plain _ | primitive plain _ =>
    rw [plain.oneOf] at mem
    cases mem

theorem of_items (typed : (Schema.inline o).Typed refers ty) (allOf : o.allOf = [])
    (oneOf : o.oneOf = []) (keyword : o.keyword? = some "array") (items : o.items = some s) :
    ∃ ty', s.Typed refers ty' := by
  cases typed with
  | branch stands _ =>
    cases stands with
    | allOf _ hall => simp [allOf] at hall
    | oneOf _ _ hone => simp [oneOf] at hone
  | allOf _ several => simp [allOf] at several
  | union told _ _ =>
    have hone := told.oneOf
    simp [oneOf] at hone
  | array plain hitems typed =>
    obtain rfl := Option.some.inj (items.symm.trans hitems)
    exact ⟨_, typed⟩
  | arrayOfAny plain hitems =>
    rw [items] at hitems
    cases hitems
  | dateTime plain _ =>
    have hkeyword := keyword.symm.trans plain.keyword
    simp at hkeyword
  | @primitive _ kind plain _ =>
    have hkeyword := keyword.symm.trans plain.keyword
    cases kind <;> simp [Primitive.keyword] at hkeyword

end Schema.Typed

namespace Resolution

/-- The second schema is reached from the first one, through references that name no record, a
single `allOf` branch, `oneOf` branches and the items of arrays. -/
inductive Reaches (raw : Json) (names : RecordNames) : Schema → Schema → Prop where
  | refl (s : Schema) : Reaches raw names s s
  | reference {path : String} {s t : Schema} (unnamed : recordOf? names path = none)
      (leads : LeadsTo raw path s) (reaches : Reaches raw names s t) :
      Reaches raw names (.reference path) t
  | allOf {o : SchemaObject Schema} {s t : Schema} (allOf : o.allOf = [s])
      (reaches : Reaches raw names s t) : Reaches raw names (.inline o) t
  | oneOf {o : SchemaObject Schema} {s t : Schema} (allOf : o.allOf = []) (mem : s ∈ o.oneOf)
      (reaches : Reaches raw names s t) : Reaches raw names (.inline o) t
  | items {o : SchemaObject Schema} {s t : Schema} (allOf : o.allOf = []) (oneOf : o.oneOf = [])
      (keyword : o.keyword? = some "array") (items : o.items = some s)
      (reaches : Reaches raw names s t) : Reaches raw names (.inline o) t

variable {doc : Document} {raw : Json} {names : RecordNames} {s t u : Schema}

theorem recordOf?_nil (path : String) : recordOf? [] path = none := by
  simp [recordOf?]

theorem Reaches.trans (h : Reaches raw names s t) (h' : Reaches raw names t u) :
    Reaches raw names s u := by
  induction h with
  | refl s => exact h'
  | reference unnamed leads _ ih => exact .reference unnamed leads (ih h')
  | allOf allOf _ ih => exact .allOf allOf (ih h')
  | oneOf allOf mem _ ih => exact .oneOf allOf mem (ih h')
  | items allOf oneOf keyword items _ ih => exact .items allOf oneOf keyword items (ih h')

theorem exists_hasType_of_reaches (h : Reaches raw names s t)
    (typed : ∃ ty, HasType raw names s ty) : ∃ ty, HasType raw names t ty := by
  induction h with
  | refl s => exact typed
  | reference unnamed leads _ ih =>
    obtain ⟨_, typed⟩ := typed
    obtain ⟨has⟩ | _ := typed
    cases has with
    | named found =>
      rw [unnamed] at found
      cases found
    | followed _ leads' typed =>
      obtain rfl := leadsTo_unique leads leads'
      exact ih ⟨_, typed⟩
  | allOf allOf _ ih =>
    obtain ⟨_, typed⟩ := typed
    exact ih (typed.of_allOf allOf)
  | oneOf allOf mem _ ih =>
    obtain ⟨_, typed⟩ := typed
    exact ih (typed.of_oneOf allOf mem)
  | items allOf oneOf keyword items _ ih =>
    obtain ⟨_, typed⟩ := typed
    exact ih (typed.of_items allOf oneOf keyword items)

theorem anyOf_eq_nil_of_reaches {o : SchemaObject Schema} {ty : DataType}
    (typed : HasType raw names s ty) (h : Reaches raw names s (.inline o)) : o.anyOf = [] := by
  obtain ⟨_, typed⟩ := exists_hasType_of_reaches h ⟨_, typed⟩
  exact typed.anyOf_eq_nil

/-! ## Faults -/

/-- If the computation fails, it tells of a schema or a reference that is not supported. -/
def FailsUnsupported {α : Type} (x : Resolved α) : Prop :=
  ∀ e, x.outcome = .error e → ∃ location reason, e = .unsupported location reason

section Rules

variable {α β : Type}

theorem failsUnsupported_of_ok {x : Resolved α} {a : α} (h : x.outcome = .ok a) :
    FailsUnsupported x := by
  intro e he
  rw [h] at he
  cases he

theorem failsUnsupported_unsupported (location : String) (reason : Unsupported) :
    FailsUnsupported (unsupported location reason : Resolved α) := by
  intro e he
  cases he
  exact ⟨location, reason, rfl⟩

theorem failsUnsupported_bind {x : Resolved α} {f : α → Resolved β} (hx : FailsUnsupported x)
    (hf : ∀ a, x.outcome = .ok a → FailsUnsupported (f a)) : FailsUnsupported (x >>= f) := by
  intro e he
  rcases Logged.outcome_bind_eq_error_iff.1 he with he | ⟨a, ha, he⟩
  · exact hx e he
  · exact hf a ha e he

theorem failsUnsupported_map {x : Resolved α} {f : α → β} (hx : FailsUnsupported x) :
    FailsUnsupported (x >>= fun a => pure (f a)) :=
  failsUnsupported_bind hx fun _ _ => failsUnsupported_of_ok rfl

end Rules

/-- Through references of every kind the schema reaches none with undecided branches. -/
def Decided (raw : Json) (s : Schema) : Prop :=
  ∀ o, Reaches raw [] s (.inline o) → ¬o.Undecided

theorem Decided.of_reaches (h : Decided raw s) (reaches : Reaches raw [] s t) : Decided raw t :=
  fun o ho => h o (reaches.trans ho)

theorem failsUnsupported_target (raw : Json) (path location : String) :
    FailsUnsupported (target raw path location) := by
  unfold target
  split
  · exact failsUnsupported_unsupported _ _
  · intro e he
    rw [Logged.outcome_ofExcept, Json.Typed.mapError_eq_error_iff] at he
    obtain ⟨m, _, rfl⟩ := he
    exact ⟨_, _, rfl⟩

theorem failsUnsupported_scalarType (keyword : String) (format : Option String)
    (location : String) : FailsUnsupported (scalarType keyword format location) := by
  unfold scalarType
  split
  · exact failsUnsupported_of_ok rfl
  · split
    · exact failsUnsupported_of_ok rfl
    · exact failsUnsupported_unsupported _ _

section Shapes

variable {follow : String → String → Resolved DataType}

theorem failsUnsupported_resolveBranches {schemas : List Schema}
    (each : ∀ s ∈ schemas, ∀ location, FailsUnsupported (resolveSchema follow s location))
    (location : String) (i : Nat) :
    FailsUnsupported (resolveBranches follow schemas location i) := by
  intro e he
  obtain ⟨s, hs, below, he⟩ := resolveBranches_error he
  exact each s hs below e he

theorem taggedMembers_of_decided {o : SchemaObject Schema} {d : Discriminator}
    {branches : List (Option String × DataType)} {below location : String} (told : o.Told d)
    (decided : ¬o.Undecided)
    (resolved : (resolveBranches follow o.oneOf below 0).outcome = .ok branches) :
    ∃ members, (taggedMembers location branches d.mapping).outcome = .ok members := by
  have hlisted : ∀ p ∈ d.mapping, .reference p.2 ∈ o.oneOf := by
    by_contra hnot
    refine decided ⟨told.allOf, told.oneOf, ?_⟩
    rintro ⟨d', hd', _, _, hmem⟩
    obtain rfl := Option.some.inj (told.discriminator.symm.trans hd')
    exact hnot hmem
  refine ⟨_, (taggedMembers_ok_iff _ _ _ _).2 ⟨fun p hp => ?_, rfl⟩⟩
  obtain ⟨ty, hty, _⟩ := (resolveBranches_ok resolved).1 _ (hlisted p hp)
  obtain ⟨ty', hty'⟩ := memberOf?_isSome hty
  rw [hty']
  rfl

theorem failsUnsupported_of_anyOf {o : SchemaObject Schema} (anyOf : o.anyOf ≠ [])
    (location : String) : FailsUnsupported (resolveObject follow o location) := by
  obtain ⟨types, format, _, _, _, _, _, items, allOf, oneOf, anyOf', discriminator⟩ := o
  match anyOf', anyOf with
  | _ :: _, _ => exact failsUnsupported_unsupported location .anyOf

theorem failsUnsupported_of_untyped {o : SchemaObject Schema} (anyOf : o.anyOf = [])
    (allOf : o.allOf = []) (oneOf : o.oneOf = []) (keyword : o.keyword? = none)
    (location : String) : FailsUnsupported (resolveObject follow o location) := by
  obtain ⟨types, format, _, _, _, _, _, items, allOf', oneOf', anyOf', discriminator⟩ := o
  obtain rfl : anyOf' = [] := anyOf
  obtain rfl : allOf' = [] := allOf
  obtain rfl : oneOf' = [] := oneOf
  unfold SchemaObject.keyword? at keyword
  change FailsUnsupported
    (plainType types format (fun _ => resolveElement follow items location) location)
  rw [plainType, keyword]
  exact failsUnsupported_unsupported _ _

theorem failsUnsupported_of_plain {o : SchemaObject Schema} {keyword : String}
    (plain : o.Plain keyword)
    (items : keyword = "array" → ∀ s, o.items = some s → ∀ location,
      FailsUnsupported (resolveSchema follow s location)) (location : String) :
    FailsUnsupported (resolveObject follow o location) := by
  by_cases harray : keyword = "array"
  · subst harray
    rw [resolveObject_of_array plain]
    apply failsUnsupported_map
    cases hitems : o.items with
    | none => exact failsUnsupported_of_ok rfl
    | some s => exact items rfl s hitems _
  · rw [resolveObject_of_scalar plain harray]
    exact failsUnsupported_scalarType keyword o.format location

theorem failsUnsupported_of_told {o : SchemaObject Schema} {d : Discriminator} (told : o.Told d)
    (decided : ¬o.Undecided)
    (each : ∀ s ∈ o.oneOf, ∀ location, FailsUnsupported (resolveSchema follow s location))
    (location : String) : FailsUnsupported (resolveObject follow o location) := by
  rw [resolveObject_of_told told]
  refine failsUnsupported_bind (failsUnsupported_resolveBranches each location 0) ?_
  intro branches hbranches
  obtain ⟨members, hmembers⟩ := taggedMembers_of_decided told decided hbranches
  exact failsUnsupported_map (failsUnsupported_of_ok hmembers)

theorem failsUnsupported_resolveSchema (decided : Decided raw s)
    (refers : ∀ path, Reaches raw [] s (.reference path) → ∀ below,
      FailsUnsupported (follow path below)) (location : String) :
    FailsUnsupported (resolveSchema follow s location) := by
  induction s using Schema.induct generalizing location with
  | reference path => exact refers path (.refl _) location
  | inline o ih =>
    -- A schema right below is decided too, and so are the references behind it.
    have hbelow : ∀ s ∈ o.children, (∀ t, Reaches raw [] s t → Reaches raw [] (.inline o) t) →
        ∀ location, FailsUnsupported (resolveSchema follow s location) := fun s hs hreaches =>
      ih s hs (fun o' ho' => decided o' (hreaches _ ho'))
        fun path hpath => refers path (hreaches _ hpath)
    have hdecided := decided o (.refl _)
    rw [resolveSchema]
    by_cases hany : o.anyOf = []
    · rcases hall : o.allOf with _ | ⟨only, _ | ⟨second, others⟩⟩
      · rcases hone : o.oneOf with _ | ⟨only, _ | ⟨second, others⟩⟩
        · cases hkeyword : o.keyword? with
          | none => exact failsUnsupported_of_untyped hany hall hone hkeyword location
          | some keyword =>
            refine failsUnsupported_of_plain ⟨hany, hall, hone, hkeyword⟩ ?_ location
            rintro rfl s hitems
            exact hbelow s (SchemaObject.mem_children_of_items hitems)
              fun _ => .items hall hone hkeyword hitems
        · have hstands : o.StandsFor only := .oneOf hany hall hone
          obtain ⟨below, hresolve⟩ := resolveObject_of_standsFor hstands location
          rw [hresolve]
          exact hbelow only hstands.mem_children
            (fun _ => .oneOf hall (by simp [hone])) below
        · have hseveral : 2 ≤ o.oneOf.length := by simp [hone]
          by_cases htold : ∃ d, o.Told d
          · obtain ⟨d, htold⟩ := htold
            refine failsUnsupported_of_told htold hdecided (fun s hs => ?_) location
            exact hbelow s (SchemaObject.mem_children_of_oneOf hs) fun _ => .oneOf hall hs
          · refine absurd ⟨hall, hseveral, ?_⟩ hdecided
            rintro ⟨d, hd, hname, hmapping, _⟩
            exact htold ⟨d, hany, hall, hseveral, hd, hname, hmapping⟩
      · have hstands : o.StandsFor only := .allOf hany hall
        obtain ⟨below, hresolve⟩ := resolveObject_of_standsFor hstands location
        rw [hresolve]
        exact hbelow only hstands.mem_children (fun _ => .allOf hall) below
      · rw [resolveObject_of_allOf hany (by simp [hall])]
        exact failsUnsupported_of_ok rfl
    · exact failsUnsupported_of_anyOf hany location

end Shapes

theorem failsUnsupported_follow_of_target {jumps : Nat} {chain : List String} {path : String}
    (followed : ∀ s, LeadsTo raw path s → ∀ fewer, jumps = fewer + 1 →
      FailsUnsupported (resolveSchema (follow raw names fewer (path :: chain)) s path))
    (location : String) : FailsUnsupported (follow raw names jumps chain path location) := by
  rw [follow.eq_def]
  dsimp only
  by_cases hforeign : (!Text.startsWith path "#") = true
  · rw [if_pos hforeign]
    exact failsUnsupported_unsupported _ _
  · rw [if_neg hforeign]
    cases hnamed : recordOf? names path with
    | some id => exact failsUnsupported_of_ok rfl
    | none =>
      by_cases hchain : path ∈ chain
      · simp only [if_pos hchain]
        exact failsUnsupported_unsupported _ _
      · simp only [if_neg hchain]
        refine failsUnsupported_bind (failsUnsupported_target _ _ _) fun s hs => ?_
        cases jumps with
        | zero => exact failsUnsupported_unsupported _ _
        | succ fewer => exact followed s (target_ok_iff.1 hs) fewer rfl

theorem failsUnsupported_follow {path : String} (decided : Decided raw (.reference path))
    (names : RecordNames) (jumps : Nat) (chain : List String) (location : String) :
    FailsUnsupported (follow raw names jumps chain path location) := by
  induction jumps generalizing path chain location with
  | zero => exact failsUnsupported_follow_of_target (fun _ _ fewer h => by cases h) location
  | succ jumps ih =>
    refine failsUnsupported_follow_of_target (fun s hs fewer h => ?_) location
    obtain rfl := Nat.succ.inj h
    have hdecided : ∀ t, Reaches raw [] s t → Decided raw t := fun _ ht =>
      decided.of_reaches (.reference (recordOf?_nil path) hs ht)
    exact failsUnsupported_resolveSchema (hdecided s (.refl s))
      (fun _ hpath below => ih (hdecided _ hpath) _ below) path

/-- Unless a schema behind it has undecided branches, a schema without a type is told of as one that
is not supported. -/
theorem failsUnsupported_resolve (decided : Decided doc.raw s) (names : RecordNames)
    (location : String) : FailsUnsupported (resolve doc names s location) :=
  failsUnsupported_resolveSchema decided
    (fun _ hpath below => failsUnsupported_follow (decided.of_reaches hpath) _ _ _ below) location

end Resolution

end OpenApi
