import OpenApi.Proofs.Document.FreeTexts

/-!
# What is read of a document without its free texts

Parameters, bodies and responses, wherever references find them, and operations, paths and the
document itself are read as before, but for the descriptions that are gone.
-/

namespace OpenApi

open Json.Typed

def ParameterEntry.core (e : ParameterEntry) : ParameterEntry :=
  { e with description := none }

def RequestBody.core (b : RequestBody) : RequestBody :=
  { b with description := none }

def ResponseEntry.core (r : ResponseEntry) : ResponseEntry :=
  { r with description := "" }

def OperationEntry.core (o : OperationEntry) : OperationEntry :=
  { o with summary := none, description := none }

def PathItem.core (item : PathItem) : PathItem :=
  { item with operations := item.operations.map fun p => (p.1, p.2.core) }

def Referable.map {α β : Type} (f : α → β) : Referable α → Referable β
  | .reference path => .reference path
  | .inline value => .inline (f value)

namespace Document

variable {place : Place}

/-- The keys that lead to places of their own. -/
def Place.steps : List String :=
  "info" :: "paths" :: Method.declared.map Method.key

theorem Place.below_of_not_step {key : String} (h : key ∉ steps) :
    place.below key = .other ∨ place.below key = .path := by
  simp only [steps, List.mem_cons, not_or] at h
  cases place with
  | document => simp [below, h]
  | path =>
    have hkey : Method.ofKey? key = none := by
      rw [Method.ofKey?, List.find?_eq_none]
      intro m hm he
      exact h.2.2 (List.mem_map.2 ⟨m, hm, beq_iff_eq.1 he⟩)
    simp [below, hkey]
  | _ => simp [below]

/-- The keys of all free texts. -/
def Place.textKeys : List String :=
  ["title", "version", "summary", "description"]

theorem Place.mem_textKeys {key : String} (h : key ∈ place.texts) : key ∈ textKeys := by
  cases place with
  | info | operation =>
    simp only [texts, List.mem_cons, List.not_mem_nil, or_false] at h
    rcases h with rfl | rfl <;> decide
  | _ => cases h

theorem Place.eq_description {key : String} {fields : List String} (h : key ∈ place.texts)
    (field : key ∈ fields) (only : ∀ key ∈ textKeys, key ∈ fields → key = "description") :
    key = "description" :=
  only key (mem_textKeys h) field

/-! ## Values that are read as before -/

/-- What is read of a value without free texts right at it is read as before. -/
def Steady {α : Type} (read : Json → Except Json.Mismatch α) : Prop :=
  ∀ v a, read v = .ok a → read (bare .path v) = .ok a

theorem Steady.below {α : Type} {read : Json → Except Json.Mismatch α} (steady : Steady read)
    {key : String} (h : key ∉ Place.steps) {v : Json} {a : α} (ok : read v = .ok a) :
    read (bare (place.below key) v) = .ok a := by
  rcases Place.below_of_not_step h with he | he
  · rw [he, bare_other]
    exact ok
  · rw [he]
    exact steady v a ok

theorem steady_text : Steady text := by
  intro v a h
  cases v <;> first | exact h | cases h

theorem steady_flag : Steady flag := by
  intro v a h
  cases v <;> first | exact h | cases h

theorem Steady.optional {α : Type} {read : Json → Except Json.Mismatch α} (steady : Steady read) :
    Steady (optional read) := by
  intro v a h
  cases v with
  | object fields =>
    obtain ⟨b, hb, rfl⟩ := map_eq_ok_iff.1 h
    exact map_eq_ok_iff.2 ⟨b, steady _ b hb, rfl⟩
  | _ => exact h

theorem steady_schema : Steady Schema.read := by
  intro v a h
  rw [Schema.read, choice, read?_bare_of_clear (by decide)]
  exact h

theorem steady_location : Steady (choice "ParameterLocation" Location.read?) := by
  intro v a h
  cases v with
  | object fields =>
    match fields with
    | [(s, .null)] =>
      have hsame : bare .path (.object [(s, .null)]) = .object [(s, .null)] := by
        rw [bare, bareFields_of_kept (by simp [Place.texts]), bareFields]
        rfl
      rw [hsame]
      exact h
    | [] | [(_, .bool _)] | [(_, .number _)] | [(_, .string _)] | [(_, .array _)]
    | [(_, .object _)] => cases h
    | p :: q :: rest => simp [choice, Location.read?] at h
  | _ => exact h

theorem steady_content : Steady (Json.Typed.map MediaType.read) := by
  intro v m h
  obtain ⟨m₁, hm₁, hsame⟩ := map_bare id (show Place.path.texts = [] from rfl)
    (fun key v a ha => ⟨a, by
      rw [Place.below]
      split
      · exact record_bare_of_clear (by decide) ha
      · rw [bare_other]
        exact ha, rfl⟩) h
  have heq : m₁ = m := by simpa using hsame
  rw [← heq]
  exact hm₁

/-! ## Parameters, bodies and responses -/

theorem parameterDraft_bare (place : Place) {v : Json} {d : ParameterEntry.Draft}
    (h : ParameterEntry.readDraft v = .ok d) :
    ∃ d₁, ParameterEntry.readDraft (bare place v) = .ok d₁ ∧
      { d₁ with description := none } = { d with description := none } := by
  refine record_bare (fun d : ParameterEntry.Draft => { d with description := none })
    (fun key hkey htext v s s' h => ?_) (fun key hkey v _ s s₁ s' same h => ?_) h
  · obtain rfl := Place.eq_description htext hkey (by decide)
    obtain ⟨_, _, h⟩ := bind_eq_ok_iff.1 h
    cases h
    rfl
  · simp only [List.mem_cons, List.not_mem_nil, or_false] at hkey
    rcases hkey with rfl | rfl | rfl | rfl | rfl
    all_goals
      obtain ⟨a, ha, h⟩ := bind_eq_ok_iff.1 h
      cases h
    · exact ⟨_, bind_eq_ok_iff.2 ⟨a, steady_text.below (by decide) ha, rfl⟩, by simp_all⟩
    · exact ⟨_, bind_eq_ok_iff.2 ⟨a, steady_location.below (by decide) ha, rfl⟩, by simp_all⟩
    · exact ⟨_, bind_eq_ok_iff.2 ⟨a, steady_text.optional.below (by decide) ha, rfl⟩, same⟩
    · exact ⟨_, bind_eq_ok_iff.2 ⟨a, steady_flag.below (by decide) ha, rfl⟩, by simp_all⟩
    · exact ⟨_, bind_eq_ok_iff.2 ⟨a, steady_schema.optional.below (by decide) ha, rfl⟩, by simp_all⟩

theorem parameterEntry_bare (place : Place) {v : Json} {e : ParameterEntry}
    (h : ParameterEntry.read v = .ok e) :
    ∃ e₁, ParameterEntry.read (bare place v) = .ok e₁ ∧ e₁.core = e.core := by
  obtain ⟨d, hd, h⟩ := bind_eq_ok_iff.1 h
  obtain ⟨name, hname, h⟩ := bind_eq_ok_iff.1 h
  obtain ⟨location, hlocation, h⟩ := bind_eq_ok_iff.1 h
  cases h
  obtain ⟨⟨_, _, description, _, _⟩, hd₁, hsame⟩ := parameterDraft_bare place hd
  simp only [ParameterEntry.Draft.mk.injEq, true_and] at hsame
  obtain ⟨rfl, rfl, rfl, rfl⟩ := hsame
  refine ⟨⟨name, location, description, d.required, d.schema⟩, ?_, rfl⟩
  exact bind_eq_ok_iff.2 ⟨_, hd₁, bind_eq_ok_iff.2 ⟨name, hname,
    bind_eq_ok_iff.2 ⟨location, hlocation, rfl⟩⟩⟩

theorem requestBody_bare (place : Place) {v : Json} {b : RequestBody}
    (h : RequestBody.read v = .ok b) :
    ∃ b₁, RequestBody.read (bare place v) = .ok b₁ ∧ b₁.core = b.core := by
  refine record_bare RequestBody.core
    (fun key hkey htext v s s' h => ?_) (fun key hkey v _ s s₁ s' same h => ?_) h
  · obtain rfl := Place.eq_description htext hkey (by decide)
    obtain ⟨_, _, h⟩ := bind_eq_ok_iff.1 h
    cases h
    rfl
  · simp only [List.mem_cons, List.not_mem_nil, or_false] at hkey
    simp only [RequestBody.core, RequestBody.mk.injEq, true_and] at same
    rcases hkey with rfl | rfl | rfl
    all_goals
      obtain ⟨a, ha, h⟩ := bind_eq_ok_iff.1 h
      cases h
    · exact ⟨_, bind_eq_ok_iff.2 ⟨a, steady_text.optional.below (by decide) ha, rfl⟩,
        by simp [RequestBody.core, same]⟩
    · exact ⟨_, bind_eq_ok_iff.2 ⟨a, steady_content.below (by decide) ha, rfl⟩,
        by simp [RequestBody.core, same]⟩
    · exact ⟨_, bind_eq_ok_iff.2 ⟨a, steady_flag.below (by decide) ha, rfl⟩,
        by simp [RequestBody.core, same]⟩

theorem responseEntry_bare (place : Place) {v : Json} {r : ResponseEntry}
    (h : ResponseEntry.read v = .ok r) :
    ∃ r₁, ResponseEntry.read (bare place v) = .ok r₁ ∧ r₁.core = r.core := by
  refine record_bare ResponseEntry.core
    (fun key hkey htext v s s' h => ?_) (fun key hkey v _ s s₁ s' same h => ?_) h
  · obtain rfl := Place.eq_description htext hkey (by decide)
    obtain ⟨_, _, h⟩ := bind_eq_ok_iff.1 h
    cases h
    rfl
  · simp only [List.mem_cons, List.not_mem_nil, or_false] at hkey
    simp only [ResponseEntry.core, ResponseEntry.mk.injEq, true_and] at same
    rcases hkey with rfl | rfl
    all_goals
      obtain ⟨a, ha, h⟩ := bind_eq_ok_iff.1 h
      cases h
    · exact ⟨_, bind_eq_ok_iff.2 ⟨a, steady_text.below (by decide) ha, rfl⟩,
        by simp [ResponseEntry.core, same]⟩
    · exact ⟨_, bind_eq_ok_iff.2 ⟨a, steady_content.below (by decide) ha, rfl⟩,
        by simp [ResponseEntry.core]⟩

theorem field?_bare {key : String} (h : key ∉ place.texts) (v : Json) :
    (bare place v).field? key = (v.field? key).map (bare (place.below key)) := by
  cases v with
  | object fields => exact get?_bareFields h fields
  | _ => rfl

theorem reference_not_text : "$ref" ∉ place.texts :=
  fun h => absurd (Place.mem_textKeys h) (by decide)

theorem referable_bare {α β : Type} {name : String} {read : Json → Except Json.Mismatch α}
    {core : α → β}
    (each : ∀ place v a, read v = .ok a → ∃ a₁, read (bare place v) = .ok a₁ ∧ core a₁ = core a)
    (place : Place) {v : Json} {r : Referable α} (h : Referable.read name read v = .ok r) :
    ∃ r₁, Referable.read name read (bare place v) = .ok r₁ ∧ r₁.map core = r.map core := by
  have hsome : Referable.read? (fun v => (read v).toOption) v = some r := by
    unfold Referable.read choice at h
    split at h
    · cases h
      assumption
    · cases h
  have hread : ∀ r₁, Referable.read? (fun v => (read v).toOption) (bare place v) = some r₁ →
      Referable.read name read (bare place v) = .ok r₁ := by
    intro r₁ hr₁
    rw [Referable.read, choice, hr₁]
  have hfield : (bare place v).field? "$ref" = _ := field?_bare reference_not_text v
  unfold Referable.read? at hsome hread
  split at hsome
  · rename_i path hpath
    cases hsome
    rw [hpath] at hfield
    rw [hfield] at hread
    exact ⟨_, hread _ rfl, rfl⟩
  · rename_i hnot
    obtain ⟨a, ha, rfl⟩ := Option.map_eq_some_iff.1 hsome
    obtain ⟨a₁, ha₁, hcore⟩ := each place v a (toOption_eq_some_iff.1 ha)
    refine ⟨.inline a₁, hread _ ?_, congrArg Referable.inline hcore⟩
    split
    · rename_i path hpath
      rw [hfield] at hpath
      obtain ⟨w, hw, he⟩ := Option.map_eq_some_iff.1 hpath
      cases w with
      | string path' => exact absurd hw (hnot path')
      | _ => cases he
    · dsimp only
      rw [toOption_eq_some_iff.2 ha₁]
      rfl

/-! ## Operations and paths -/

theorem operationEntry_bare {v : Json} {e : OperationEntry} (h : OperationEntry.read v = .ok e) :
    ∃ e₁, OperationEntry.read (bare .operation v) = .ok e₁ ∧ e₁.core = e.core := by
  refine record_bare OperationEntry.core
    (fun key hkey htext v s s' h => ?_) (fun key hkey v _ s s₁ s' same h => ?_) h
  · simp only [Place.texts, List.mem_cons, List.not_mem_nil, or_false] at htext
    rcases htext with rfl | rfl
    all_goals
      obtain ⟨_, _, h⟩ := bind_eq_ok_iff.1 h
      cases h
      rfl
  · rw [show (Place.operation).below key = .other from rfl, bare_other]
    simp only [List.mem_cons, List.not_mem_nil, or_false] at hkey
    simp only [OperationEntry.core, OperationEntry.mk.injEq, true_and] at same
    rcases hkey with rfl | rfl | rfl | rfl | rfl | rfl | rfl | rfl
    all_goals
      obtain ⟨a, ha, h⟩ := bind_eq_ok_iff.1 h
      cases h
      exact ⟨_, bind_eq_ok_iff.2 ⟨a, ha, rfl⟩, by simp [OperationEntry.core, same]⟩

theorem optional_bare {α τ : Type} {read : Json → Except Json.Mismatch α} {part : α → τ} {v : Json}
    (each : ∀ a, read v = .ok a → ∃ a₁, read (bare place v) = .ok a₁ ∧ part a₁ = part a)
    {a? : Option α} (h : optional read v = .ok a?) :
    ∃ a₁?, optional read (bare place v) = .ok a₁? ∧ a₁?.map part = a?.map part := by
  by_cases hnull : v = .null
  · subst hnull
    exact ⟨a?, h, rfl⟩
  · have hbare : bare place v ≠ .null := by
      cases v <;> first | exact absurd rfl hnull | exact Json.noConfusion
    rw [optional_of_ne_null hnull] at h
    obtain ⟨a, ha, rfl⟩ := map_eq_ok_iff.1 h
    obtain ⟨a₁, ha₁, hpart⟩ := each a ha
    refine ⟨some a₁, ?_, congrArg some hpart⟩
    rw [optional_of_ne_null hbare, ha₁]
    rfl

theorem pathItem_bare {v : Json} {item : PathItem} (h : PathItem.read v = .ok item) :
    ∃ item₁, PathItem.read (bare .path v) = .ok item₁ ∧ item₁.core = item.core := by
  refine record_bare PathItem.core
    (fun key _ htext => absurd htext (by simp [Place.texts]))
    (fun key _ v _ s s₁ s' same h => ?_) h
  simp only [PathItem.core, PathItem.mk.injEq] at same
  rw [Place.below]
  dsimp only at h ⊢
  split at h
  · rename_i hkey
    obtain ⟨parameters, hparameters, h⟩ := bind_eq_ok_iff.1 h
    cases h
    rw [hkey, if_neg (by simp), bare_other]
    exact ⟨_, bind_eq_ok_iff.2 ⟨parameters, hparameters, rfl⟩, by simp [PathItem.core, same]⟩
  · rename_i m hkey
    rw [hkey, if_pos (by simp)]
    obtain ⟨given, hentry, h⟩ := bind_eq_ok_iff.1 h
    obtain ⟨entry₁?, hentry₁, hcore⟩ :=
      optional_bare (fun _ h => operationEntry_bare h) hentry
    cases given with
    | none =>
      obtain rfl := Option.map_eq_none_iff.1 hcore
      cases h
      exact ⟨_, bind_eq_ok_iff.2 ⟨none, hentry₁, rfl⟩, by simp [PathItem.core, same]⟩
    | some entry =>
      obtain ⟨entry₁, rfl, hentry⟩ := Option.map_eq_some_iff.1 hcore
      cases h
      refine ⟨_, bind_eq_ok_iff.2 ⟨some entry₁, hentry₁, rfl⟩, ?_⟩
      simp only [PathItem.core, PathItem.mk.injEq, same.1, true_and]
      rw [← OrderedMap.insert_map, ← OrderedMap.insert_map, same.2, hentry]

/-! ## Documents -/

theorem info_bare {v : Json} {i : Info} (h : Info.read v = .ok i) :
    ∃ i₁, Info.read (bare .info v) = .ok i₁ := by
  suffices hbare : ∃ i₁, Info.read (bare .info v) = .ok i₁ ∧ () = () by
    obtain ⟨i₁, hi₁, _⟩ := hbare
    exact ⟨i₁, hi₁⟩
  refine record_bare (fun _ => ()) (fun _ _ _ _ _ _ _ => rfl)
    (fun key hkey v hkept s s₁ s' _ h => ?_) h
  -- What is kept under a title's or a version's key is no text, and is not read as one.
  have htext : key ∈ (Place.info).texts := by simpa [Place.texts] using hkey
  exfalso
  simp only [List.mem_cons, List.not_mem_nil, or_false] at hkey
  rcases hkey with rfl | rfl
  all_goals
    obtain ⟨_, hread, _⟩ := bind_eq_ok_iff.1 h
    cases v with
    | string => exact hkept ⟨htext, rfl⟩
    | _ => cases hread

/-- What a description says, its free texts apart. -/
def draftCore (d : Description.Draft) :=
  (d.openapi, d.info.isSome, d.servers, d.paths.map fun p => (p.1, p.2.core), d.components)

theorem descriptionDraft_bare {v : Json} {d : Description.Draft}
    (h : Description.readDraft v = .ok d) :
    ∃ d₁, Description.readDraft (bare .document v) = .ok d₁ ∧ draftCore d₁ = draftCore d := by
  refine record_bare draftCore (fun key _ htext => absurd htext (by simp [Place.texts]))
    (fun key hkey v _ s s₁ s' same h => ?_) h
  simp only [draftCore, Prod.mk.injEq] at same
  simp only [List.mem_cons, List.not_mem_nil, or_false] at hkey
  rcases hkey with rfl | rfl | rfl | rfl | rfl
  · obtain ⟨openapi, ha, h⟩ := bind_eq_ok_iff.1 h
    cases h
    exact ⟨_, bind_eq_ok_iff.2 ⟨openapi, (bare_other v).symm ▸ ha, rfl⟩, by simp [draftCore, same]⟩
  · obtain ⟨info, hinfo, h⟩ := bind_eq_ok_iff.1 h
    cases h
    obtain ⟨info₁, hinfo₁⟩ := info_bare hinfo
    exact ⟨_, bind_eq_ok_iff.2 ⟨info₁, hinfo₁, rfl⟩, by simp [draftCore, same]⟩
  · obtain ⟨servers, hservers, h⟩ := bind_eq_ok_iff.1 h
    cases h
    exact ⟨_, bind_eq_ok_iff.2 ⟨servers, (bare_other v).symm ▸ hservers, rfl⟩,
      by simp [draftCore, same]⟩
  · obtain ⟨paths, hpaths, h⟩ := bind_eq_ok_iff.1 h
    cases h
    obtain ⟨paths₁, hpaths₁, hcore⟩ := map_bare PathItem.core (show Place.paths.texts = [] from rfl)
      (fun _ _ _ hitem => pathItem_bare hitem) hpaths
    exact ⟨_, bind_eq_ok_iff.2 ⟨paths₁, hpaths₁, rfl⟩, by simp [draftCore, same, hcore]⟩
  · obtain ⟨components, hcomponents, h⟩ := bind_eq_ok_iff.1 h
    cases h
    exact ⟨_, bind_eq_ok_iff.2 ⟨components, (bare_other v).symm ▸ hcomponents, rfl⟩,
      by simp [draftCore, same]⟩

theorem description_bare {v : Json} {d : Description} (h : Description.read v = .ok d) :
    ∃ d₁, Description.read (bare .document v) = .ok d₁ ∧ d₁.openapi = d.openapi ∧
      d₁.components = d.components ∧
      d₁.paths.map (fun p => (p.1, p.2.core)) = d.paths.map fun p => (p.1, p.2.core) := by
  obtain ⟨draft, hdraft, h⟩ := bind_eq_ok_iff.1 h
  obtain ⟨openapi, hopenapi, h⟩ := bind_eq_ok_iff.1 h
  obtain ⟨info, hinfo, h⟩ := bind_eq_ok_iff.1 h
  cases h
  obtain ⟨draft₁, hdraft₁, hcore⟩ := descriptionDraft_bare hdraft
  simp only [draftCore, Prod.mk.injEq] at hcore
  obtain ⟨hsame, hsome, _, hpaths, hcomponents⟩ := hcore
  have hdraftInfo : draft.info.isSome = true := by
    cases hnone : draft.info with
    | none =>
      rw [hnone] at hinfo
      cases hinfo
    | some _ => rfl
  obtain ⟨info₁, hinfo₁⟩ := Option.isSome_iff_exists.1 (hsome.trans hdraftInfo)
  refine ⟨⟨openapi, info₁, draft₁.servers, draft₁.paths, draft₁.components⟩, ?_, rfl, hcomponents,
    hpaths⟩
  refine bind_eq_ok_iff.2 ⟨draft₁, hdraft₁, bind_eq_ok_iff.2 ⟨openapi, hsame ▸ hopenapi,
    bind_eq_ok_iff.2 ⟨info₁, ?_, rfl⟩⟩⟩
  rw [hinfo₁]
  rfl

/-- The second document is the first one without its free texts. -/
structure Bared (doc doc₁ : Document) : Prop where
  raw : doc₁.raw = bare .document doc.raw
  components : doc₁.description.components = doc.description.components
  paths : doc₁.description.paths.map (fun p => (p.1, p.2.core)) =
    doc.description.paths.map fun p => (p.1, p.2.core)

theorem ofJson_bare {raw : Json} {doc : Document} (h : ofJson raw = .ok doc) :
    ∃ doc₁, ofJson (bare .document raw) = .ok doc₁ ∧ Bared doc doc₁ := by
  have hkeys : ∀ key, ((bare .document raw).field? key).isNone = (raw.field? key).isNone := by
    intro key
    rw [field?_bare (by simp [Place.texts]), Option.isNone_map]
  unfold ofJson at h ⊢
  simp only [hkeys]
  split at h
  · cases h
  · obtain ⟨description, hdescription, h⟩ := bind_eq_ok_iff.1 h
    split at h
    · cases h
    · rename_i hversion
      cases h
      have hread : Description.read raw = .ok description := by
        cases hread : Description.read raw with
        | error m =>
          rw [hread] at hdescription
          cases hdescription
        | ok d =>
          rw [hread] at hdescription
          cases hdescription
          rfl
      obtain ⟨d₁, hd₁, hopenapi, hcomponents, hpaths⟩ := description_bare hread
      refine ⟨⟨bare .document raw, d₁⟩, ?_, ⟨rfl, hcomponents, hpaths⟩⟩
      rw [hd₁]
      rw [← hopenapi] at hversion
      exact if_neg hversion

end Document

end OpenApi
