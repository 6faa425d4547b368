import OpenApi.Proofs.Json.Typed
import OpenApi.Proofs.Resolution.Rules

/-!
# What a schema is read from

Every schema within a schema that was read stands somewhere in the value that it was read from, and
so does every reference.
-/

namespace OpenApi

namespace Json

theorem below_of_child? {v w : Json} {token : List Char} (h : child? v token = some w) :
    w.Below v := by
  cases v with
  | array items =>
    obtain ⟨i, _, hw⟩ := Option.bind_eq_some_iff.1 h
    exact .item (List.mem_of_getElem? hw)
  | object fields => exact .field (OrderedMap.mem_of_get? h)
  | _ => cases h

theorem below_of_descend {v w : Json} {tokens : List (List Char)} (h : descend v tokens = some w) :
    w = v ∨ w.Below v := by
  induction tokens generalizing v with
  | nil =>
    rw [descend] at h
    exact .inl (Option.some.inj h).symm
  | cons token rest ih =>
    rw [descend] at h
    obtain ⟨u, hu, hw⟩ := Option.bind_eq_some_iff.1 h
    rcases ih hw with rfl | hw
    · exact .inr (below_of_child? hu)
    · exact .inr (hw.trans (below_of_child? hu))

theorem below_of_pointer? {v w : Json} {pointer : String} (h : v.pointer? pointer = some w) :
    w = v ∨ w.Below v := by
  unfold pointer? at h
  split at h
  · exact .inl (Option.some.inj h).symm
  · exact below_of_descend h
  · cases h

/-- The text under the key `$ref`. -/
def referenceAt? (key : String) : Json → Option String
  | .string path => if key = "$ref" then some path else none
  | _ => none

theorem length_referenceAt?_le (key : String) (v : Json) :
    (referenceAt? key v).toList.length ≤ if key = "$ref" then 1 else 0 := by
  unfold referenceAt?
  split
  · split <;> simp
  · simp

mutual

/-- The texts under `$ref` at any depth. -/
def references : Json → List String
  | .array items => itemReferences items
  | .object fields => fieldReferences fields
  | _ => []

def itemReferences : List Json → List String
  | [] => []
  | v :: rest => references v ++ itemReferences rest

def fieldReferences : List (String × Json) → List String
  | [] => []
  | (key, v) :: rest => (referenceAt? key v).toList ++ (references v ++ fieldReferences rest)

end

theorem mem_itemReferences {items : List Json} {v : Json} {path : String} (mem : v ∈ items)
    (h : path ∈ references v) : path ∈ itemReferences items := by
  induction items with
  | nil => cases mem
  | cons w rest ih =>
    rw [itemReferences, List.mem_append]
    rcases List.mem_cons.1 mem with rfl | mem
    · exact .inl h
    · exact .inr (ih mem)

theorem mem_fieldReferences {fields : List (String × Json)} {key : String} {v : Json}
    {path : String} (mem : (key, v) ∈ fields)
    (h : referenceAt? key v = some path ∨ path ∈ references v) :
    path ∈ fieldReferences fields := by
  induction fields with
  | nil => cases mem
  | cons p rest ih =>
    obtain ⟨key', w⟩ := p
    rw [fieldReferences, List.mem_append, List.mem_append, Option.mem_toList]
    rcases List.mem_cons.1 mem with e | mem
    · obtain ⟨rfl, rfl⟩ := Prod.mk.inj e
      rcases h with h | h
      · exact .inl h
      · exact .inr (.inl h)
    · exact .inr (.inr (ih mem))

theorem references_subset_of_below {v w : Json} (h : Below v w) :
    references v ⊆ references w := by
  induction h with
  | item mem =>
    intro path hpath
    rw [references]
    exact mem_itemReferences mem hpath
  | field mem =>
    intro path hpath
    rw [references]
    exact mem_fieldReferences mem (.inr hpath)
  | trans _ _ ihleft ihright => exact List.Subset.trans ihleft ihright

end Json

namespace Resolution

open Json

mutual

theorem length_references_le (v : Json) : (references v).length ≤ countReferences v := by
  match v with
  | .array items => exact length_itemReferences_le items
  | .object fields => exact length_fieldReferences_le fields
  | .null | .bool _ | .number _ | .string _ => exact Nat.le_refl 0

theorem length_itemReferences_le (items : List Json) :
    (itemReferences items).length ≤ countInItems items := by
  match items with
  | [] => exact Nat.le_refl 0
  | v :: rest =>
    have hv := length_references_le v
    have hrest := length_itemReferences_le rest
    rw [itemReferences, countInItems, List.length_append]
    omega

theorem length_fieldReferences_le (fields : List (String × Json)) :
    (fieldReferences fields).length ≤ countInFields fields := by
  match fields with
  | [] => exact Nat.le_refl 0
  | (key, v) :: rest =>
    have hv := length_references_le v
    have hrest := length_fieldReferences_le rest
    have hkey := length_referenceAt?_le key v
    rw [fieldReferences, countInFields, List.length_append, List.length_append]
    omega

end

end Resolution

namespace Schema

/-- The schemas that may be read below a keyword's value. -/
inductive Below.Has (below : Below) (s : Schema) : Prop where
  | schema (h : below.schema () = some s)
  | list {schemas : List Schema} (h : below.list () = some schemas) (mem : s ∈ schemas)
  | map {entries : List (String × Schema)} (h : below.map () = some entries)
      (mem : s ∈ entries.map (·.2))

theorem children_of_setKeyword? {key : String} {v : Json} {below : Below}
    {o o' : SchemaObject Schema} (h : setKeyword? key v below o = some o') {s : Schema}
    (hs : s ∈ o'.children) : s ∈ o.children ∨ below.Has s := by
  unfold setKeyword? at h
  simp only [SchemaObject.children, List.mem_append, Option.mem_toList] at hs ⊢
  split at h
  -- The keywords without schemas below them leave the children as they are.
  all_goals try
    obtain ⟨_, _, rfl⟩ := Option.map_eq_some_iff.1 h
    exact .inl hs
  · split at h
    · cases h
      exact .inl hs
    · obtain ⟨_, _, rfl⟩ := Option.map_eq_some_iff.1 h
      exact .inl hs
  · cases h
    exact .inl hs
  · obtain ⟨_, hbelow, rfl⟩ := Option.map_eq_some_iff.1 h
    rcases hs with hs | hs
    · exact .inr (.map hbelow hs)
    · exact .inl (.inr hs)
  · split at h
    · cases h
      simp only [reduceCtorEq, false_or] at hs
      tauto
    · obtain ⟨_, hbelow, rfl⟩ := Option.map_eq_some_iff.1 h
      rcases hs with hs | hs | hs
      · exact .inl (.inl hs)
      · obtain rfl := Option.some.inj hs
        exact .inr (.schema hbelow)
      · exact .inl (.inr (.inr hs))
  · obtain ⟨_, hbelow, rfl⟩ := Option.map_eq_some_iff.1 h
    rcases hs with hs | hs | hs | hs
    · exact .inl (.inl hs)
    · exact .inl (.inr (.inl hs))
    · exact .inr (.list hbelow hs)
    · exact .inl (.inr (.inr (.inr hs)))
  · obtain ⟨_, hbelow, rfl⟩ := Option.map_eq_some_iff.1 h
    rcases hs with hs | hs | hs | hs | hs
    · exact .inl (.inl hs)
    · exact .inl (.inr (.inl hs))
    · exact .inl (.inr (.inr (.inl hs)))
    · exact .inr (.list hbelow hs)
    · exact .inl (.inr (.inr (.inr (.inr hs))))
  · obtain ⟨_, hbelow, rfl⟩ := Option.map_eq_some_iff.1 h
    rcases hs with hs | hs | hs | hs | hs
    · exact .inl (.inl hs)
    · exact .inl (.inr (.inl hs))
    · exact .inl (.inr (.inr (.inl hs)))
    · exact .inl (.inr (.inr (.inr (.inl hs))))
    · exact .inr (.list hbelow hs)
  · cases h
    exact .inl hs

theorem read?_of_read {v : Json} {s : Schema} (h : read v = .ok s) : read? v = some s := by
  unfold read Json.Typed.choice at h
  split at h
  · cases h
    assumption
  · cases h

theorem read_of_read? {v : Json} {s : Schema} (h : read? v = some s) : read v = .ok s := by
  rw [read, Json.Typed.choice, h]

/-- The schemas that the reader finds below a value. -/
def belowOf (v : Json) : Below :=
  ⟨fun _ => read? v, fun _ => readList? v, fun _ => readMap? v⟩

theorem mem_readItems? {items : List Json} {schemas : List Schema}
    (h : readItems? items = some schemas) {s : Schema} (mem : s ∈ schemas) :
    ∃ v ∈ items, read? v = some s := by
  induction items generalizing schemas with
  | nil =>
    cases h
    cases mem
  | cons v rest ih =>
    simp only [readItems?, Option.bind_eq_bind, Option.bind_eq_some_iff, Option.pure_def,
      Option.some.injEq] at h
    obtain ⟨first, hfirst, others, hothers, rfl⟩ := h
    rcases List.mem_cons.1 mem with rfl | mem
    · exact ⟨v, List.mem_cons_self, hfirst⟩
    · obtain ⟨w, hw, hread⟩ := ih hothers mem
      exact ⟨w, List.mem_cons_of_mem _ hw, hread⟩

theorem mem_readEntries? {fields : List (String × Json)} {entries : List (String × Schema)}
    (h : readEntries? fields = some entries) {key : String} {s : Schema}
    (mem : (key, s) ∈ entries) : ∃ v, (key, v) ∈ fields ∧ read? v = some s := by
  induction fields generalizing entries with
  | nil =>
    cases h
    cases mem
  | cons p rest ih =>
    obtain ⟨key', v⟩ := p
    simp only [readEntries?, Option.bind_eq_bind, Option.bind_eq_some_iff, Option.pure_def,
      Option.some.injEq] at h
    obtain ⟨first, hfirst, others, hothers, rfl⟩ := h
    rcases List.mem_cons.1 mem with e | mem
    · obtain ⟨rfl, rfl⟩ := Prod.mk.inj e
      exact ⟨v, List.mem_cons_self, hfirst⟩
    · obtain ⟨w, hw, hread⟩ := ih hothers mem
      exact ⟨w, List.mem_cons_of_mem _ hw, hread⟩

theorem read?_of_has {v : Json} {s : Schema} (h : (belowOf v).Has s) :
    ∃ w, (w = v ∨ w.Below v) ∧ read? w = some s := by
  cases h with
  | schema h => exact ⟨v, .inl rfl, h⟩
  | @list schemas h mem =>
    cases v with
    | array items =>
      obtain ⟨w, hw, hread⟩ := mem_readItems? h mem
      exact ⟨w, .inr (.item hw), hread⟩
    | _ => cases h
  | @map entries h mem =>
    cases v with
    | object fields =>
      obtain ⟨⟨key, _⟩, hmem, rfl⟩ := List.mem_map.1 mem
      obtain ⟨w, hw, hread⟩ := mem_readEntries? h hmem
      exact ⟨w, .inr (.field hw), hread⟩
    | _ => cases h

theorem readKeywords?_induct {P : SchemaObject Schema → Prop} {fields : List (String × Json)}
    {o o' : SchemaObject Schema} (h : readKeywords? fields o = some o') (init : P o)
    (step : ∀ key w o o', (key, w) ∈ fields → P o → setKeyword? key w (belowOf w) o = some o' →
      P o') : P o' := by
  induction fields generalizing o with
  | nil =>
    cases h
    exact init
  | cons p rest ih =>
    obtain ⟨key, w⟩ := p
    rw [readKeywords?] at h
    obtain ⟨o₁, ho₁, h⟩ := Option.bind_eq_some_iff.1 h
    refine ih h (step key w o o₁ List.mem_cons_self init ho₁) ?_
    intro key' w' o o' hmem
    exact step key' w' o o' (List.mem_cons_of_mem _ hmem)

theorem readInOrder?_induct {P : SchemaObject Schema → Prop} {keys : List String}
    {items : List Json} {o o' : SchemaObject Schema} (h : readInOrder? keys items o = some o')
    (init : P o) (step : ∀ key w o o', w ∈ items → P o →
      setKeyword? key w (belowOf w) o = some o' → P o') : P o' := by
  induction items generalizing keys o with
  | nil =>
    rw [readInOrder?] at h
    cases h
    exact init
  | cons w rest ih =>
    cases keys with
    | nil => cases h
    | cons key keys =>
      rw [readInOrder?] at h
      obtain ⟨o₁, ho₁, h⟩ := Option.bind_eq_some_iff.1 h
      refine ih h (step key w o o₁ List.mem_cons_self init ho₁) ?_
      intro key' w' o o' hmem
      exact step key' w' o o' (List.mem_cons_of_mem _ hmem)

theorem read?_induct {v : Json} {o : SchemaObject Schema} {P : SchemaObject Schema → Prop}
    (h : read? v = some (.inline o)) (init : P {})
    (step : ∀ key w o o', w.Below v → P o → setKeyword? key w (belowOf w) o = some o' → P o') :
    P o := by
  cases v with
  | array items =>
    rw [read?] at h
    obtain ⟨o', ho', e⟩ := Option.map_eq_some_iff.1 h
    obtain rfl := Schema.inline.inj e
    exact readInOrder?_induct ho' init fun key w o o' hw => step key w o o' (.item hw)
  | object fields =>
    rw [read?] at h
    split at h
    · cases h
    · obtain ⟨o', ho', e⟩ := Option.map_eq_some_iff.1 h
      obtain rfl := Schema.inline.inj e
      exact readKeywords?_induct ho' init fun key w o o' hw => step key w o o' (.field hw)
  | _ => cases h

theorem read?_of_mem_children {v : Json} {o : SchemaObject Schema}
    (h : read? v = some (.inline o)) {s : Schema} (hs : s ∈ o.children) :
    ∃ w, w.Below v ∧ read? w = some s := by
  have hall : ∀ s ∈ o.children, ∃ w, w.Below v ∧ read? w = some s := by
    refine read?_induct (P := fun o => ∀ s ∈ o.children, ∃ w, w.Below v ∧ read? w = some s) h ?_ ?_
    · intro s hs
      cases hs
    · intro key w o o' hw ho ho' s hs
      rcases children_of_setKeyword? ho' hs with hs | hhas
      · exact ho s hs
      · obtain ⟨u, rfl | hu, hread⟩ := read?_of_has hhas
        · exact ⟨u, hw, hread⟩
        · exact ⟨u, hu.trans hw, hread⟩
  exact hall s hs

theorem mem_references_of_read? {v : Json} {path : String}
    (h : read? v = some (.reference path)) : path ∈ v.references := by
  cases v with
  | array items =>
    rw [read?] at h
    obtain ⟨o, _, e⟩ := Option.map_eq_some_iff.1 h
    cases e
  | object fields =>
    rw [read?] at h
    split at h
    · rename_i path' hpath
      obtain rfl := Schema.reference.inj (Option.some.inj h)
      rw [Json.references]
      exact Json.mem_fieldReferences (OrderedMap.mem_of_get? hpath) (.inl rfl)
    · obtain ⟨o, _, e⟩ := Option.map_eq_some_iff.1 h
      cases e
  | _ => cases h

/-! ## Discriminators -/

/-- In each discriminator of the schema, at every depth, a tag stands once. -/
inductive MappingsOnce : Schema → Prop where
  | reference (path : String) : MappingsOnce (.reference path)
  | inline {o : SchemaObject Schema}
      (own : ∀ d, o.discriminator = some d → (OrderedMap.keys d.mapping).Nodup)
      (below : ∀ s ∈ o.children, MappingsOnce s) : MappingsOnce (.inline o)

theorem nodup_of_readDiscriminator {v : Json} (once : v.KeysOnce) {d : Discriminator}
    (h : readDiscriminator v = .ok d) : (OrderedMap.keys d.mapping).Nodup := by
  refine Json.Typed.record_induct (P := fun d => (OrderedMap.keys d.mapping).Nodup) h ?_ ?_
  · exact List.nodup_nil
  intro key w d d' hw hd hd'
  simp only at hd'
  split at hd'
  · obtain ⟨_, _, hd'⟩ := Json.Typed.bind_eq_ok_iff.1 hd'
    cases hd'
    exact hd
  · obtain ⟨mapping, hmapping, hd'⟩ := Json.Typed.bind_eq_ok_iff.1 hd'
    cases hd'
    cases w with
    | object fields =>
      rw [Json.Typed.keys_of_map hmapping]
      exact ((Json.keysOnce_object_iff _).1 (once.of_below hw)).1
    | _ => cases hmapping

theorem discriminator_of_setKeyword? {key : String} {v : Json} {below : Below}
    {o o' : SchemaObject Schema} (h : setKeyword? key v below o = some o') :
    o'.discriminator = o.discriminator ∨
      ∀ d, o'.discriminator = some d → readDiscriminator v = .ok d := by
  unfold setKeyword? at h
  split at h
  all_goals try
    obtain ⟨_, _, rfl⟩ := Option.map_eq_some_iff.1 h
    exact .inl rfl
  · split at h
    · cases h
      exact .inl rfl
    · obtain ⟨_, _, rfl⟩ := Option.map_eq_some_iff.1 h
      exact .inl rfl
  · cases h
    exact .inl rfl
  · split at h
    · cases h
      exact .inl rfl
    · obtain ⟨_, _, rfl⟩ := Option.map_eq_some_iff.1 h
      exact .inl rfl
  · obtain ⟨d?, hd?, rfl⟩ := Option.map_eq_some_iff.1 h
    refine .inr ?_
    rintro d rfl
    exact Json.Typed.read_of_optional (Json.Typed.toOption_eq_some_iff.1 hd?)
  · cases h
    exact .inl rfl

theorem readDiscriminator_of_read? {v : Json} {o : SchemaObject Schema}
    (h : read? v = some (.inline o)) {d : Discriminator} (hd : o.discriminator = some d) :
    ∃ w, w.Below v ∧ readDiscriminator w = .ok d := by
  have hall : ∀ d, o.discriminator = some d → ∃ w, w.Below v ∧ readDiscriminator w = .ok d := by
    refine read?_induct (P := fun o => ∀ d, o.discriminator = some d →
      ∃ w, w.Below v ∧ readDiscriminator w = .ok d) h ?_ ?_
    · intro d hd
      cases hd
    · intro key w o o' hw ho ho' d hd
      rcases discriminator_of_setKeyword? ho' with he | hread
      · exact ho d (he ▸ hd)
      · exact ⟨w, hw, hread d hd⟩
  exact hall d hd

theorem mappingsOnce_of_read? {v : Json} (once : v.KeysOnce) {s : Schema}
    (h : read? v = some s) : s.MappingsOnce := by
  induction s using Schema.induct generalizing v with
  | reference path => exact .reference path
  | inline o ih =>
    refine .inline ?_ ?_
    · intro d hd
      obtain ⟨w, hw, hread⟩ := readDiscriminator_of_read? h hd
      exact nodup_of_readDiscriminator (once.of_below hw) hread
    · intro s hs
      obtain ⟨w, hw, hread⟩ := read?_of_mem_children h hs
      exact ih s hs (once.of_below hw) hread

end Schema

end OpenApi
