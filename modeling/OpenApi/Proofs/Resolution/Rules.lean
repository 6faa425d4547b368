import Mathlib.Tactic.Choose
import OpenApi.Resolution

/-!
# The rules for the types of schemas

What type a schema has, given the types of its references, and what the resolution makes of each
shape of schema.
-/

namespace OpenApi

namespace SchemaObject

variable {σ : Type}

/-- The schemas right below a schema. -/
def children (o : SchemaObject σ) : List σ :=
  o.properties.map (·.2) ++ (o.items.toList ++ (o.allOf ++ (o.oneOf ++ o.anyOf)))

theorem mem_children_of_properties {o : SchemaObject σ} {p : String × σ} (h : p ∈ o.properties) :
    p.2 ∈ o.children :=
  List.mem_append_left _ (List.mem_map_of_mem h)

theorem mem_children_of_allOf {o : SchemaObject σ} {s : σ} (h : s ∈ o.allOf) :
    s ∈ o.children := by
  simp [children, h]

theorem mem_children_of_oneOf {o : SchemaObject σ} {s : σ} (h : s ∈ o.oneOf) :
    s ∈ o.children := by
  simp [children, h]

theorem mem_children_of_items {o : SchemaObject σ} {s : σ} (h : o.items = some s) :
    s ∈ o.children := by
  simp [children, h]

/-- A schema with one branch stands for it. -/
inductive StandsFor (o : SchemaObject σ) (s : σ) : Prop where
  | allOf (anyOf : o.anyOf = []) (allOf : o.allOf = [s])
  | oneOf (anyOf : o.anyOf = []) (allOf : o.allOf = []) (oneOf : o.oneOf = [s])

theorem StandsFor.mem_children {o : SchemaObject σ} {s : σ} (h : o.StandsFor s) :
    s ∈ o.children := by
  cases h with
  | allOf _ hall => exact mem_children_of_allOf (by simp [hall])
  | oneOf _ _ hone => exact mem_children_of_oneOf (by simp [hone])

/-- Several branches, with a discriminator that tells them apart. -/
structure Told (o : SchemaObject σ) (d : Discriminator) : Prop where
  anyOf : o.anyOf = []
  allOf : o.allOf = []
  oneOf : 2 ≤ o.oneOf.length
  discriminator : o.discriminator = some d
  propertyName : d.propertyName ≠ ""
  mapping : d.mapping ≠ []

/-- No branches and one keyword. -/
structure Plain (o : SchemaObject σ) (keyword : String) : Prop where
  anyOf : o.anyOf = []
  allOf : o.allOf = []
  oneOf : o.oneOf = []
  keyword : o.keyword? = some keyword

end SchemaObject

/-- The types that a schema's keywords give it where `refers` has the types of its references. -/
inductive Schema.Typed (refers : String → DataType → Prop) : Schema → DataType → Prop where
  | reference {path : String} {ty : DataType} (has : refers path ty) :
      Typed refers (.reference path) ty
  | branch {o : SchemaObject Schema} {s : Schema} {ty : DataType} (stands : o.StandsFor s)
      (typed : Typed refers s ty) : Typed refers (.inline o) ty
  | allOf {o : SchemaObject Schema} (anyOf : o.anyOf = []) (several : 2 ≤ o.allOf.length) :
      Typed refers (.inline o) .any
  | union {o : SchemaObject Schema} {d : Discriminator} {member : Schema → DataType}
      (told : o.Told d) (typed : ∀ s ∈ o.oneOf, Typed refers s (member s))
      (listed : ∀ p ∈ d.mapping, .reference p.2 ∈ o.oneOf) :
      Typed refers (.inline o)
        (.union d.propertyName (d.mapping.map fun p => (p.1, member (.reference p.2))))
  | array {o : SchemaObject Schema} {s : Schema} {ty : DataType} (plain : o.Plain "array")
      (items : o.items = some s) (typed : Typed refers s ty) :
      Typed refers (.inline o) (.array ty)
  | arrayOfAny {o : SchemaObject Schema} (plain : o.Plain "array") (items : o.items = none) :
      Typed refers (.inline o) (.array .any)
  | dateTime {o : SchemaObject Schema} (plain : o.Plain "string")
      (format : o.format = some "date-time") : Typed refers (.inline o) .dateTime
  | primitive {o : SchemaObject Schema} {kind : Primitive} (plain : o.Plain kind.keyword)
      (format : kind = .string → o.format ≠ some "date-time") :
      Typed refers (.inline o) (.primitive kind)

/-- The references on which the type of a schema depends. -/
inductive Schema.Consults : Schema → String → Prop where
  | reference (path : String) : Consults (.reference path) path
  | branch {o : SchemaObject Schema} {s : Schema} {path : String} (stands : o.StandsFor s)
      (consults : Consults s path) : Consults (.inline o) path
  | member {o : SchemaObject Schema} {d : Discriminator} {s : Schema} {path : String}
      (told : o.Told d) (mem : s ∈ o.oneOf) (consults : Consults s path) :
      Consults (.inline o) path
  | items {o : SchemaObject Schema} {s : Schema} {path : String} (plain : o.Plain "array")
      (items : o.items = some s) (consults : Consults s path) : Consults (.inline o) path

theorem Schema.sizeOf_lt_of_mem_children {o : SchemaObject Schema} {s : Schema}
    (h : s ∈ o.children) : sizeOf s < sizeOf (Schema.inline o) := by
  obtain ⟨types, format, description, default, nullable, properties, required, items, allOf, oneOf,
    anyOf, discriminator⟩ := o
  simp only [SchemaObject.children, List.mem_append, Option.mem_toList] at h
  simp only [Schema.inline.sizeOf_spec, SchemaObject.mk.sizeOf_spec]
  rcases h with h | rfl | h | h | h
  · obtain ⟨⟨key, s'⟩, hmem, rfl⟩ := List.mem_map.1 h
    have := List.sizeOf_lt_of_mem hmem
    simp only [Prod.mk.sizeOf_spec] at this ⊢
    omega
  · simp only [Option.some.sizeOf_spec]
    omega
  · have := List.sizeOf_lt_of_mem h
    omega
  · have := List.sizeOf_lt_of_mem h
    omega
  · have := List.sizeOf_lt_of_mem h
    omega

theorem Schema.induct {P : Schema → Prop} (reference : ∀ path, P (.reference path))
    (inline : ∀ o : SchemaObject Schema, (∀ s ∈ o.children, P s) → P (.inline o)) (s : Schema) :
    P s := by
  match s with
  | .reference path => exact reference path
  | .inline o =>
    apply inline o
    intro s h
    exact Schema.induct reference inline s
termination_by sizeOf s
decreasing_by exact Schema.sizeOf_lt_of_mem_children h

theorem Primitive.ofKeyword?_eq_some_iff (s : String) (kind : Primitive) :
    ofKeyword? s = some kind ↔ kind.keyword = s := by
  constructor
  · intro h
    unfold ofKeyword? at h
    have hs := List.find?_some h
    exact beq_iff_eq.1 hs
  · rintro rfl
    cases kind <;> rfl

theorem Primitive.keyword_injective {a b : Primitive} (h : a.keyword = b.keyword) : a = b := by
  have ha := (ofKeyword?_eq_some_iff b.keyword a).2 h
  have hb := (ofKeyword?_eq_some_iff b.keyword b).2 rfl
  exact Option.some.inj (ha.symm.trans hb)

namespace Resolution

/-- An error about references in a row: they lead back to one of them, or are too many. -/
inductive TellsChain : SchemaError → Prop where
  | circle (location path : String) : TellsChain (.unsupported location (.circularReference path))
  | tooMany (location path : String) : TellsChain (.unsupported location (.tooManyReferences path))

/-- A schema that has no type whatever its references have. -/
def Faulty (o : SchemaObject Schema) : Prop :=
  ∀ location, ∃ e, ¬TellsChain e ∧
    ∀ follow : String → String → Resolved DataType, resolveObject follow o location = throw e

variable {follow : String → String → Resolved DataType} {o : SchemaObject Schema}

theorem resolveObject_of_standsFor {s : Schema} (h : o.StandsFor s) (location : String) :
    ∃ below, ∀ follow : String → String → Resolved DataType,
      resolveObject follow o location = resolveSchema follow s below := by
  obtain ⟨types, format, _, _, _, _, _, items, allOf, oneOf, anyOf, discriminator⟩ := o
  cases h with
  | allOf hany hall =>
    obtain rfl : anyOf = [] := hany
    obtain rfl : allOf = [s] := hall
    exact ⟨_, fun _ => rfl⟩
  | oneOf hany hall hone =>
    obtain rfl : anyOf = [] := hany
    obtain rfl : allOf = [] := hall
    obtain rfl : oneOf = [s] := hone
    exact ⟨_, fun _ => rfl⟩

theorem resolveObject_of_allOf (anyOf : o.anyOf = []) (several : 2 ≤ o.allOf.length)
    (location : String) :
    resolveObject follow o location = (do
      Logged.notice (.branchesIgnored location o.allOf.length)
      return .any) := by
  obtain ⟨types, format, _, _, _, _, _, items, allOf, oneOf, anyOf', discriminator⟩ := o
  obtain rfl : anyOf' = [] := anyOf
  match allOf, several with
  | _ :: _ :: _, _ => rfl

theorem resolveObject_of_told {d : Discriminator} (h : o.Told d) (location : String) :
    resolveObject follow o location = (do
      let branches ← resolveBranches follow o.oneOf location 0
      return .union d.propertyName (← taggedMembers location branches d.mapping)) := by
  obtain ⟨types, format, _, _, _, _, _, items, allOf, oneOf, anyOf, discriminator⟩ := o
  obtain ⟨hany, hall, hone, hdisc, hname, hmapping⟩ := h
  obtain rfl : anyOf = [] := hany
  obtain rfl : allOf = [] := hall
  obtain rfl : discriminator = some d := hdisc
  have htold : ¬(d.propertyName.isEmpty || d.mapping.isEmpty) = true := by
    simp [hname, hmapping]
  match oneOf, hone with
  | _ :: _ :: _, _ => exact if_neg htold

theorem resolveObject_of_array (h : o.Plain "array") (location : String) :
    resolveObject follow o location = (do
      return .array (← resolveElement follow o.items location)) := by
  obtain ⟨types, format, _, _, _, _, _, items, allOf, oneOf, anyOf, discriminator⟩ := o
  obtain ⟨hany, hall, hone, hkeyword⟩ := h
  obtain rfl : anyOf = [] := hany
  obtain rfl : allOf = [] := hall
  obtain rfl : oneOf = [] := hone
  unfold SchemaObject.keyword? at hkeyword
  change plainType types format (fun _ => resolveElement follow items location) location = _
  rw [plainType, hkeyword]
  rfl

theorem resolveObject_of_scalar {keyword : String} (h : o.Plain keyword)
    (scalar : keyword ≠ "array") (location : String) :
    resolveObject follow o location = scalarType keyword o.format location := by
  obtain ⟨types, format, _, _, _, _, _, items, allOf, oneOf, anyOf, discriminator⟩ := o
  obtain ⟨hany, hall, hone, hkeyword⟩ := h
  obtain rfl : anyOf = [] := hany
  obtain rfl : allOf = [] := hall
  obtain rfl : oneOf = [] := hone
  unfold SchemaObject.keyword? at hkeyword
  change plainType types format (fun _ => resolveElement follow items location) location = _
  rw [plainType, hkeyword]
  exact if_neg scalar

theorem faulty_of_anyOf (h : o.anyOf ≠ []) : Faulty o := by
  intro location
  obtain ⟨types, format, _, _, _, _, _, items, allOf, oneOf, anyOf, discriminator⟩ := o
  match anyOf, h with
  | _ :: _, _ =>
    exact ⟨.unsupported location .anyOf, nofun, fun _ => rfl⟩

theorem faulty_of_untold (anyOf : o.anyOf = []) (allOf : o.allOf = [])
    (several : 2 ≤ o.oneOf.length) (h : ¬∃ d, o.Told d) : Faulty o := by
  intro location
  obtain ⟨types, format, _, _, _, _, _, items, allOf', oneOf, anyOf', discriminator⟩ := o
  obtain rfl : anyOf' = [] := anyOf
  obtain rfl : allOf' = [] := allOf
  match oneOf, several, discriminator with
  | _ :: _ :: _, _, none =>
    exact ⟨.ambiguous location .noDiscriminator, nofun, fun _ => rfl⟩
  | _ :: _ :: _, several, some d =>
    by_cases hempty : (d.propertyName.isEmpty || d.mapping.isEmpty) = true
    · exact ⟨.ambiguous location .emptyDiscriminator, nofun, fun _ => if_pos hempty⟩
    · simp only [Bool.or_eq_true, String.isEmpty_iff, List.isEmpty_iff, not_or] at hempty
      exact absurd ⟨d, rfl, rfl, several, rfl, hempty.1, hempty.2⟩ h

theorem faulty_of_untyped (anyOf : o.anyOf = []) (allOf : o.allOf = []) (oneOf : o.oneOf = [])
    (keyword : o.keyword? = none) : Faulty o := by
  intro location
  obtain ⟨types, format, _, _, _, _, _, items, allOf', oneOf', anyOf', discriminator⟩ := o
  obtain rfl : anyOf' = [] := anyOf
  obtain rfl : allOf' = [] := allOf
  obtain rfl : oneOf' = [] := oneOf
  unfold SchemaObject.keyword? at keyword
  refine ⟨.unsupported location (if types.isSome then .severalTypes else .noType), ?_, ?_⟩
  · split <;> nofun
  · intro follow
    change plainType types format (fun _ => resolveElement follow items location) location = _
    rw [plainType, keyword]
    rfl

theorem shape (o : SchemaObject Schema) :
    Faulty o ∨ (∃ s, o.StandsFor s) ∨ (o.anyOf = [] ∧ 2 ≤ o.allOf.length) ∨
      (∃ d, o.Told d) ∨ ∃ keyword, o.Plain keyword := by
  by_cases hany : o.anyOf = []
  · cases hall : o.allOf with
    | cons first others =>
      cases others with
      | nil => exact .inr (.inl ⟨first, .allOf hany hall⟩)
      | cons second others => exact .inr (.inr (.inl ⟨hany, by simp⟩))
    | nil =>
      cases hone : o.oneOf with
      | cons first others =>
        cases others with
        | nil => exact .inr (.inl ⟨first, .oneOf hany hall hone⟩)
        | cons second others =>
          by_cases htold : ∃ d, o.Told d
          · exact .inr (.inr (.inr (.inl htold)))
          · exact .inl (faulty_of_untold hany hall (by simp [hone]) htold)
      | nil =>
        cases hkeyword : o.keyword? with
        | none => exact .inl (faulty_of_untyped hany hall hone hkeyword)
        | some keyword => exact .inr (.inr (.inr (.inr ⟨keyword, hany, hall, hone, hkeyword⟩)))
  · exact .inl (faulty_of_anyOf hany)

/-! ## Branches and their tags -/

/-- The type of the first branch that is the given reference. -/
def memberOf? (branches : List (Option String × DataType)) (target : String) : Option DataType :=
  (branches.find? (·.1 == some target)).map (·.2)

theorem mem_of_memberOf? {branches : List (Option String × DataType)} {target : String}
    {ty : DataType} (h : memberOf? branches target = some ty) : (some target, ty) ∈ branches := by
  obtain ⟨b, hb, rfl⟩ := Option.map_eq_some_iff.1 h
  have hfst : b.1 = some target := by simpa using List.find?_some hb
  rw [← hfst]
  exact List.mem_of_find?_eq_some hb

theorem memberOf?_isSome {branches : List (Option String × DataType)} {target : String}
    {ty : DataType} (h : (some target, ty) ∈ branches) :
    ∃ ty', memberOf? branches target = some ty' := by
  have hfound : (branches.find? (·.1 == some target)).isSome := by
    rw [List.find?_isSome]
    exact ⟨_, h, beq_self_eq_true _⟩
  obtain ⟨b, hb⟩ := Option.isSome_iff_exists.1 hfound
  exact ⟨b.2, by rw [memberOf?, hb, Option.map_some]⟩

theorem taggedMembers_ok_iff (location : String) (branches : List (Option String × DataType))
    (mapping : List (String × String)) (members : List (String × DataType)) :
    (taggedMembers location branches mapping).outcome = .ok members ↔
      (∀ p ∈ mapping, (memberOf? branches p.2).isSome) ∧
        members = mapping.map fun p => (p.1, (memberOf? branches p.2).getD .any) := by
  induction mapping generalizing members with
  | nil =>
    simp only [taggedMembers, Logged.outcome_pure, Except.ok.injEq, List.not_mem_nil,
      false_implies, implies_true, List.map_nil, true_and]
    exact eq_comm
  | cons p rest ih =>
    obtain ⟨tag, target⟩ := p
    rw [taggedMembers, List.forall_mem_cons, List.map_cons, memberOf?]
    cases hfind : branches.find? (·.1 == some target) with
    | none => simp [ambiguous]
    | some b =>
      simp only [Logged.outcome_bind_eq_ok_iff, ih, Option.map_some, Option.isSome_some, true_and,
        Logged.outcome_pure, Except.ok.injEq, Option.getD_some]
      constructor
      · rintro ⟨others, ⟨hall, rfl⟩, rfl⟩
        exact ⟨hall, rfl⟩
      · rintro ⟨hall, rfl⟩
        exact ⟨_, ⟨hall, rfl⟩, rfl⟩

theorem taggedMembers_error {location : String} {branches : List (Option String × DataType)}
    {mapping : List (String × String)} {e : SchemaError}
    (h : (taggedMembers location branches mapping).outcome = .error e) : ¬TellsChain e := by
  induction mapping with
  | nil => cases h
  | cons p rest ih =>
    obtain ⟨tag, target⟩ := p
    rw [taggedMembers] at h
    cases hfind : branches.find? (·.1 == some target) with
    | none =>
      rw [hfind] at h
      cases h
      nofun
    | some b =>
      rw [hfind] at h
      rcases Logged.outcome_bind_eq_error_iff.1 h with h | ⟨_, _, h⟩
      · exact ih h
      · cases h

theorem resolveBranches_ok {schemas : List Schema} {location : String} {i : Nat}
    {branches : List (Option String × DataType)}
    (h : (resolveBranches follow schemas location i).outcome = .ok branches) :
    (∀ s ∈ schemas, ∃ ty, (referencePath? s, ty) ∈ branches ∧
        ∃ below, (resolveSchema follow s below).outcome = .ok ty) ∧
      ∀ b ∈ branches, ∃ s ∈ schemas, referencePath? s = b.1 ∧
        ∃ below, (resolveSchema follow s below).outcome = .ok b.2 := by
  induction schemas generalizing i branches with
  | nil =>
    cases h
    simp
  | cons s rest ih =>
    rw [resolveBranches] at h
    simp only [Logged.outcome_bind_eq_ok_iff, Logged.outcome_pure, Except.ok.injEq] at h
    obtain ⟨ty, hty, others, hothers, rfl⟩ := h
    obtain ⟨hleft, hright⟩ := ih hothers
    constructor
    · rw [List.forall_mem_cons]
      refine ⟨⟨ty, List.mem_cons_self, _, hty⟩, ?_⟩
      intro s' hs'
      obtain ⟨ty', hmem, hty'⟩ := hleft s' hs'
      exact ⟨ty', List.mem_cons_of_mem _ hmem, hty'⟩
    · rw [List.forall_mem_cons]
      refine ⟨⟨s, List.mem_cons_self, rfl, _, hty⟩, ?_⟩
      intro b hb
      obtain ⟨s', hmem, hs'⟩ := hright b hb
      exact ⟨s', List.mem_cons_of_mem _ hmem, hs'⟩

theorem reference_of_memberOf? {schemas : List Schema} {location : String} {i : Nat}
    {branches : List (Option String × DataType)}
    (h : (resolveBranches follow schemas location i).outcome = .ok branches) {target : String}
    {ty : DataType} (found : memberOf? branches target = some ty) :
    .reference target ∈ schemas ∧
      ∃ below, (resolveSchema follow (.reference target) below).outcome = .ok ty := by
  obtain ⟨s, hs, hpath, hty⟩ := (resolveBranches_ok h).2 _ (mem_of_memberOf? found)
  cases s with
  | reference path =>
    obtain rfl := Option.some.inj hpath
    exact ⟨hs, hty⟩
  | inline o => cases hpath

theorem resolveBranches_of_ok {schemas : List Schema} {member : Schema → DataType}
    (h : ∀ s ∈ schemas, ∀ below, (resolveSchema follow s below).outcome = .ok (member s))
    (location : String) (i : Nat) :
    (resolveBranches follow schemas location i).outcome =
      .ok (schemas.map fun s => (referencePath? s, member s)) := by
  induction schemas generalizing i with
  | nil => rfl
  | cons s rest ih =>
    rw [List.forall_mem_cons] at h
    rw [resolveBranches, Logged.outcome_bind_of_ok (h.1 _), Logged.outcome_bind_of_ok (ih h.2 _)]
    rfl

theorem resolveBranches_error {schemas : List Schema} {location : String} {i : Nat}
    {e : SchemaError} (h : (resolveBranches follow schemas location i).outcome = .error e) :
    ∃ s ∈ schemas, ∃ below, (resolveSchema follow s below).outcome = .error e := by
  induction schemas generalizing i with
  | nil => cases h
  | cons s rest ih =>
    rw [resolveBranches] at h
    rcases Logged.outcome_bind_eq_error_iff.1 h with h | ⟨ty, _, h⟩
    · exact ⟨s, List.mem_cons_self, _, h⟩
    · rcases Logged.outcome_bind_eq_error_iff.1 h with h | ⟨_, _, h⟩
      · obtain ⟨s', hmem, hs'⟩ := ih h
        exact ⟨s', List.mem_cons_of_mem _ hmem, hs'⟩
      · cases h

theorem resolveBranches_congr {follow' : String → String → Resolved DataType}
    {schemas : List Schema}
    (h : ∀ s ∈ schemas, ∀ below, resolveSchema follow s below = resolveSchema follow' s below)
    (location : String) (i : Nat) :
    resolveBranches follow schemas location i = resolveBranches follow' schemas location i := by
  induction schemas generalizing i with
  | nil => rfl
  | cons s rest ih =>
    rw [List.forall_mem_cons] at h
    rw [resolveBranches, resolveBranches, h.1, ih h.2]

theorem memberOf?_map {schemas : List Schema} (member : Schema → DataType) {target : String}
    (h : .reference target ∈ schemas) :
    memberOf? (schemas.map fun s => (referencePath? s, member s)) target =
      some (member (.reference target)) := by
  induction schemas with
  | nil => cases h
  | cons s rest ih =>
    rw [List.map_cons, memberOf?]
    by_cases hs : referencePath? s = some target
    · cases s with
      | reference path =>
        obtain rfl := Option.some.inj hs
        simp [referencePath?]
      | inline o => cases hs
    · have hne : s ≠ .reference target := by
        rintro rfl
        exact hs rfl
      rw [List.find?_cons_of_neg (by simpa using hs)]
      rcases List.mem_cons.1 h with h | h
      · exact absurd h.symm hne
      · exact ih h

/-! ## The types of schemas -/

theorem scalarType_ok_iff (keyword : String) (format : Option String) (location : String)
    (ty : DataType) :
    (scalarType keyword format location).outcome = .ok ty ↔
      (keyword = "string" ∧ format = some "date-time" ∧ ty = .dateTime) ∨
        ∃ kind : Primitive, kind.keyword = keyword ∧
          (kind = .string → format ≠ some "date-time") ∧ ty = .primitive kind := by
  unfold scalarType
  by_cases h : keyword = "string" ∧ format = some "date-time"
  · rw [if_pos h]
    obtain ⟨rfl, rfl⟩ := h
    constructor
    · intro hty
      cases hty
      exact .inl ⟨rfl, rfl, rfl⟩
    · rintro (⟨_, _, rfl⟩ | ⟨kind, hkind, hformat, rfl⟩)
      · rfl
      · obtain rfl : kind = .string := Primitive.keyword_injective hkind
        exact absurd rfl (hformat rfl)
  · rw [if_neg h]
    cases hkind : Primitive.ofKeyword? keyword with
    | none =>
      constructor
      · intro hty
        cases hty
      · rintro (⟨hs, hformat, _⟩ | ⟨kind, hkeyword, _⟩)
        · exact absurd ⟨hs, hformat⟩ h
        · rw [(Primitive.ofKeyword?_eq_some_iff _ _).2 hkeyword] at hkind
          cases hkind
    | some kind =>
      have hkeyword := (Primitive.ofKeyword?_eq_some_iff _ _).1 hkind
      constructor
      · intro hty
        cases hty
        refine .inr ⟨kind, hkeyword, ?_, rfl⟩
        rintro rfl hformat
        exact h ⟨hkeyword.symm, hformat⟩
      · rintro (⟨hs, hformat, _⟩ | ⟨kind', hkeyword', _, rfl⟩)
        · exact absurd ⟨hs, hformat⟩ h
        · rw [(Primitive.ofKeyword?_eq_some_iff _ _).2 hkeyword'] at hkind
          cases hkind
          rfl

theorem scalarType_error {keyword : String} {format : Option String} {location : String}
    {e : SchemaError} (h : (scalarType keyword format location).outcome = .error e) :
    ¬TellsChain e := by
  unfold scalarType at h
  split at h
  · cases h
  · split at h
    · cases h
    · cases h
      nofun

theorem typed_of_told {refers : String → DataType → Prop} {d : Discriminator} {location : String}
    {ty : DataType} (told : o.Told d)
    (each : ∀ s ∈ o.oneOf, ∀ below ty, (resolveSchema follow s below).outcome = .ok ty →
      s.Typed refers ty)
    (resolved : (resolveObject follow o location).outcome = .ok ty) :
    (Schema.inline o).Typed refers ty := by
  rw [resolveObject_of_told told] at resolved
  simp only [Logged.outcome_bind_eq_ok_iff, Logged.outcome_pure, Except.ok.injEq,
    taggedMembers_ok_iff] at resolved
  obtain ⟨branches, hbranches, members, ⟨hlisted, rfl⟩, rfl⟩ := resolved
  have hall : ∀ s ∈ o.oneOf, ∃ ty, s.Typed refers ty ∧
      ∀ path, s = .reference path → memberOf? branches path = some ty := by
    intro s hs
    obtain ⟨ty, hty, below, hbelow⟩ := (resolveBranches_ok hbranches).1 s hs
    cases s with
    | inline o => exact ⟨ty, each _ hs below ty hbelow, by simp⟩
    | reference path =>
      obtain ⟨ty', hty'⟩ := memberOf?_isSome hty
      obtain ⟨_, below', hbelow'⟩ := reference_of_memberOf? hbranches hty'
      refine ⟨ty', each _ hs below' ty' hbelow', ?_⟩
      intro path' hpath'
      obtain rfl := Schema.reference.inj hpath'
      exact hty'
  choose! member hmember using hall
  have hreference : ∀ p ∈ d.mapping, .reference p.2 ∈ o.oneOf := by
    intro p hp
    obtain ⟨ty, hty⟩ := Option.isSome_iff_exists.1 (hlisted p hp)
    exact (reference_of_memberOf? hbranches hty).1
  have hmapping : d.mapping.map (fun p => (p.1, (memberOf? branches p.2).getD .any)) =
      d.mapping.map fun p => (p.1, member (.reference p.2)) := by
    apply List.map_congr_left
    intro p hp
    rw [(hmember _ (hreference p hp)).2 _ rfl, Option.getD_some]
  rw [hmapping]
  exact .union told (fun s hs => (hmember s hs).1) hreference

theorem typed_of_resolveSchema {refers : String → DataType → Prop}
    (h : ∀ path location ty, (follow path location).outcome = .ok ty → refers path ty)
    {s : Schema} {location : String} {ty : DataType}
    (resolved : (resolveSchema follow s location).outcome = .ok ty) : s.Typed refers ty := by
  induction s using Schema.induct generalizing location ty with
  | reference path => exact .reference (h path location ty resolved)
  | inline o ih =>
    rw [resolveSchema] at resolved
    rcases shape o with hfaulty | ⟨s, hs⟩ | ⟨hany, hall⟩ | ⟨d, hd⟩ | ⟨keyword, hplain⟩
    · obtain ⟨e, _, he⟩ := hfaulty location
      rw [he] at resolved
      cases resolved
    · obtain ⟨below, hbelow⟩ := resolveObject_of_standsFor hs location
      rw [hbelow] at resolved
      exact .branch hs (ih s hs.mem_children resolved)
    · rw [resolveObject_of_allOf hany hall] at resolved
      cases resolved
      exact .allOf hany hall
    · refine typed_of_told hd ?_ resolved
      intro s hs below ty' h'
      exact ih s (SchemaObject.mem_children_of_oneOf hs) h'
    · by_cases harray : keyword = "array"
      · subst harray
        rw [resolveObject_of_array hplain] at resolved
        obtain ⟨element, helement, hty⟩ := Logged.outcome_bind_eq_ok_iff.1 resolved
        cases hty
        cases hitems : o.items with
        | none =>
          rw [hitems] at helement
          cases helement
          exact .arrayOfAny hplain hitems
        | some s =>
          rw [hitems] at helement
          have hs := SchemaObject.mem_children_of_items hitems
          exact .array hplain hitems (ih s hs helement)
      · rw [resolveObject_of_scalar hplain harray, scalarType_ok_iff] at resolved
        rcases resolved with ⟨rfl, hformat, rfl⟩ | ⟨kind, rfl, hformat, rfl⟩
        · exact .dateTime hplain hformat
        · exact .primitive hplain hformat

theorem resolveSchema_of_typed {refers : String → DataType → Prop}
    (h : ∀ path location ty, refers path ty → (follow path location).outcome = .ok ty)
    {s : Schema} {ty : DataType} (typed : s.Typed refers ty) (location : String) :
    (resolveSchema follow s location).outcome = .ok ty := by
  induction typed generalizing location with
  | reference has => exact h _ location _ has
  | branch stands _ ih =>
    obtain ⟨below, hbelow⟩ := resolveObject_of_standsFor stands location
    rw [resolveSchema, hbelow]
    exact ih below
  | allOf anyOf several =>
    rw [resolveSchema, resolveObject_of_allOf anyOf several]
    rfl
  | @union o d member told _ listed ih =>
    rw [resolveSchema, resolveObject_of_told told,
      Logged.outcome_bind_of_ok (resolveBranches_of_ok ih location 0),
      Logged.outcome_bind_eq_ok_iff]
    have hmember : ∀ p ∈ d.mapping,
        memberOf? (o.oneOf.map fun s => (referencePath? s, member s)) p.2 =
          some (member (.reference p.2)) :=
      fun p hp => memberOf?_map member (listed p hp)
    refine ⟨_, (taggedMembers_ok_iff _ _ _ _).2 ⟨?_, rfl⟩, ?_⟩
    · intro p hp
      rw [hmember p hp]
      rfl
    · rw [Logged.outcome_pure]
      congr 2
      apply List.map_congr_left
      intro p hp
      rw [hmember p hp, Option.getD_some]
  | array plain items _ ih =>
    rw [resolveSchema, resolveObject_of_array plain, items, resolveElement,
      Logged.outcome_bind_of_ok (ih _)]
    rfl
  | arrayOfAny plain items =>
    rw [resolveSchema, resolveObject_of_array plain, items]
    rfl
  | dateTime plain format =>
    rw [resolveSchema, resolveObject_of_scalar plain (by decide), scalarType_ok_iff]
    exact .inl ⟨rfl, format, rfl⟩
  | @primitive o kind plain format =>
    have hkeyword : kind.keyword ≠ "array" := by cases kind <;> decide
    rw [resolveSchema, resolveObject_of_scalar plain hkeyword, scalarType_ok_iff]
    exact .inr ⟨kind, rfl, format, rfl⟩

theorem resolveSchema_congr {follow' : String → String → Resolved DataType} {s : Schema}
    (h : ∀ path, s.Consults path → ∀ location, follow path location = follow' path location)
    (location : String) : resolveSchema follow s location = resolveSchema follow' s location := by
  induction s using Schema.induct generalizing location with
  | reference path => exact h path (.reference path) location
  | inline o ih =>
    rw [resolveSchema, resolveSchema]
    rcases shape o with hfaulty | ⟨s, hs⟩ | ⟨hany, hall⟩ | ⟨d, hd⟩ | ⟨keyword, hplain⟩
    · obtain ⟨e, _, he⟩ := hfaulty location
      rw [he, he]
    · obtain ⟨below, hbelow⟩ := resolveObject_of_standsFor hs location
      rw [hbelow, hbelow]
      exact ih s hs.mem_children (fun path hpath => h path (.branch hs hpath)) below
    · rw [resolveObject_of_allOf hany hall, resolveObject_of_allOf hany hall]
    · rw [resolveObject_of_told hd, resolveObject_of_told hd]
      rw [resolveBranches_congr]
      intro s hs below
      have hmem := SchemaObject.mem_children_of_oneOf hs
      exact ih s hmem (fun path hpath => h path (.member hd hs hpath)) below
    · by_cases harray : keyword = "array"
      · subst harray
        rw [resolveObject_of_array hplain, resolveObject_of_array hplain]
        cases hitems : o.items with
        | none => rfl
        | some s =>
          have hs := SchemaObject.mem_children_of_items hitems
          rw [resolveElement, resolveElement,
            ih s hs fun path hpath => h path (.items hplain hitems hpath)]
      · rw [resolveObject_of_scalar hplain harray, resolveObject_of_scalar hplain harray]

theorem consults_of_error {s : Schema} {location : String} {e : SchemaError}
    (h : (resolveSchema follow s location).outcome = .error e) (chain : TellsChain e) :
    ∃ path', s.Consults path' ∧ ∃ below, (follow path' below).outcome = .error e := by
  induction s using Schema.induct generalizing location with
  | reference path' => exact ⟨path', .reference path', location, h⟩
  | inline o ih =>
    rw [resolveSchema] at h
    rcases shape o with hfaulty | ⟨s, hs⟩ | ⟨hany, hall⟩ | ⟨d, hd⟩ | ⟨keyword, hplain⟩
    · obtain ⟨e', hchain, he'⟩ := hfaulty location
      rw [he'] at h
      cases h
      exact absurd chain hchain
    · obtain ⟨below, hbelow⟩ := resolveObject_of_standsFor hs location
      rw [hbelow] at h
      obtain ⟨path', hpath', hfollow⟩ := ih s hs.mem_children h
      exact ⟨path', .branch hs hpath', hfollow⟩
    · rw [resolveObject_of_allOf hany hall] at h
      cases h
    · rw [resolveObject_of_told hd] at h
      rcases Logged.outcome_bind_eq_error_iff.1 h with h | ⟨branches, _, h⟩
      · obtain ⟨s, hs, below, hbelow⟩ := resolveBranches_error h
        have hmem := SchemaObject.mem_children_of_oneOf hs
        obtain ⟨path', hpath', hfollow⟩ := ih s hmem hbelow
        exact ⟨path', .member hd hs hpath', hfollow⟩
      · rcases Logged.outcome_bind_eq_error_iff.1 h with h | ⟨_, _, h⟩
        · exact absurd chain (taggedMembers_error h)
        · cases h
    · by_cases harray : keyword = "array"
      · subst harray
        rw [resolveObject_of_array hplain] at h
        rcases Logged.outcome_bind_eq_error_iff.1 h with h | ⟨_, _, h⟩
        · cases hitems : o.items with
          | none =>
            rw [hitems] at h
            cases h
          | some s =>
            rw [hitems] at h
            have hs := SchemaObject.mem_children_of_items hitems
            obtain ⟨path', hpath', hfollow⟩ := ih s hs h
            exact ⟨path', .items hplain hitems hpath', hfollow⟩
        · cases h
      · rw [resolveObject_of_scalar hplain harray] at h
        exact absurd chain (scalarType_error h)

end Resolution

end OpenApi
