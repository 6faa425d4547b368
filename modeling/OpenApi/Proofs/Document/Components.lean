import OpenApi.Proofs.Document.Reordered

/-!
# The component schemas of a document

They are read one by one from the entries of `components.schemas`, in the order of the entries.
-/

namespace OpenApi

open Json.Typed

/-- The second value is the first with its schemas in another order. -/
inductive Components.Reordered : Json → Json → Prop where
  | object {schemas schemas' : List (String × Json)} (perm : schemas.Perm schemas')
      (before after : List (String × Json)) :
      Reordered (.object (before ++ ("schemas", .object schemas) :: after))
        (.object (before ++ ("schemas", .object schemas') :: after))
  | array {schemas schemas' : List (String × Json)} (perm : schemas.Perm schemas')
      (others : List Json) :
      Reordered (.array (.object schemas :: others)) (.array (.object schemas' :: others))

/-- The second document is the first with its component schemas in another order. -/
inductive Document.Reordered : Json → Json → Prop where
  | components {v v' : Json} (components : Components.Reordered v v')
      (before after : List (String × Json)) :
      Reordered (.object (before ++ ("components", v) :: after))
        (.object (before ++ ("components", v') :: after))

theorem Document.Reordered.json {raw raw' : Json} (h : Document.Reordered raw raw') :
    Json.Reordered raw raw' := by
  cases h with
  | components hcomponents before after =>
    refine .under (by decide) (by decide) before after ?_
    cases hcomponents with
    | object perm before after =>
      exact .under (by decide) (by decide) before after (.fields perm)
    | array perm others => exact .first perm others

theorem get?_middle {before after : List (String × Json)} {key : String} {v : Json}
    (nodup : (OrderedMap.keys (before ++ (key, v) :: after)).Nodup) :
    OrderedMap.get? (before ++ (key, v) :: after) key = some v :=
  OrderedMap.get?_of_mem nodup (by simp)

/-! ## What is read -/

theorem components_of_readDraft {v w : Json} (once : v.KeysOnce)
    (found : valueAt? ["openapi", "info", "servers", "paths", "components"] "components" v = some w)
    {d : Description.Draft} (h : Description.readDraft v = .ok d) :
    optional Components.read w = .ok d.components := by
  obtain ⟨s, s', hs', hpart⟩ : ∃ s s' : Description.Draft,
      (return { s with components := ← optional Components.read w }) = Except.ok s' ∧
        d.components = s'.components := by
    refine (part_of_record ?_ (by decide) (by decide) once h).1 w found
    intro key hkey hne w s s' hs'
    simp only [List.mem_cons, List.not_mem_nil, or_false] at hkey
    rcases hkey with rfl | rfl | rfl | rfl | rfl
    all_goals first
      | exact absurd rfl hne
      | obtain ⟨_, _, hs'⟩ := bind_eq_ok_iff.1 hs'
        cases hs'
        rfl
  obtain ⟨components, hcomponents, hs'⟩ := bind_eq_ok_iff.1 hs'
  cases hs'
  rw [hpart]
  exact hcomponents

theorem schemas_of_components {v : Json} (once : v.KeysOnce) {c : Components}
    (h : Components.read v = .ok c) :
    (∀ w, valueAt? ["schemas", "parameters", "requestBodies", "responses"] "schemas" v = some w →
        map Schema.read w = .ok c.schemas) ∧
      (valueAt? ["schemas", "parameters", "requestBodies", "responses"] "schemas" v = none →
        c.schemas = []) := by
  obtain ⟨hfound, habsent⟩ :
      (∀ w, valueAt? ["schemas", "parameters", "requestBodies", "responses"] "schemas" v = some w →
        ∃ s s' : Components, (return { s with schemas := ← map Schema.read w }) = Except.ok s' ∧
          c.schemas = s'.schemas) ∧
      (valueAt? ["schemas", "parameters", "requestBodies", "responses"] "schemas" v = none →
        c.schemas = ({} : Components).schemas) := by
    refine part_of_record ?_ (by decide) (by decide) once h
    intro key hkey hne w s s' hs'
    simp only [List.mem_cons, List.not_mem_nil, or_false] at hkey
    rcases hkey with rfl | rfl | rfl | rfl
    all_goals first
      | exact absurd rfl hne
      | obtain ⟨_, _, hs'⟩ := bind_eq_ok_iff.1 hs'
        cases hs'
        rfl
  refine ⟨?_, habsent⟩
  intro w found
  obtain ⟨s, s', hs', hpart⟩ := hfound w found
  obtain ⟨schemas, hschemas, hs'⟩ := bind_eq_ok_iff.1 hs'
  cases hs'
  rw [hpart]
  exact hschemas

theorem schemas_of_read {v w : Json} (once : v.KeysOnce)
    (found : valueAt? ["schemas", "parameters", "requestBodies", "responses"] "schemas" v = some w)
    {c : Components} (h : Components.read v = .ok c) : map Schema.read w = .ok c.schemas :=
  (schemas_of_components once h).1 w found

theorem Document.ofJson_ok_iff {raw : Json} {doc : Document} :
    Document.ofJson raw = .ok doc ↔ (∀ key ∈ requiredKeys, (raw.field? key).isSome) ∧
      Description.read raw = .ok doc.description ∧
      Text.startsWith doc.description.openapi "3." = true ∧ doc.raw = raw := by
  unfold Document.ofJson
  split
  · rename_i key hkey
    have hmissing := List.find?_some hkey
    constructor
    · intro h
      cases h
    · rintro ⟨hkeys, _⟩
      have hpresent := hkeys key (List.mem_of_find?_eq_some hkey)
      rw [Option.isNone_iff_eq_none] at hmissing
      rw [hmissing] at hpresent
      cases hpresent
  · rename_i hnone
    have hkeys : ∀ key ∈ requiredKeys, (raw.field? key).isSome := by
      have hfind := Option.eq_none_iff_forall_ne_some.2 hnone
      simpa [Option.isSome_iff_ne_none] using hfind
    constructor
    · intro h
      obtain ⟨description, hread, h⟩ := bind_eq_ok_iff.1 h
      rw [mapError_eq_ok_iff] at hread
      split at h
      · cases h
      · rename_i hversion
        cases h
        exact ⟨hkeys, hread, by simpa using hversion, rfl⟩
    · rintro ⟨_, hread, hversion, rfl⟩
      refine bind_eq_ok_iff.2 ⟨_, mapError_eq_ok_iff.2 hread, ?_⟩
      rw [hversion]
      rfl

theorem readDraft_of_ofJson {raw : Json} {doc : Document} (h : Document.ofJson raw = .ok doc) :
    doc.raw = raw ∧ ∃ d, Description.readDraft raw = .ok d ∧
      doc.description.components = d.components := by
  obtain ⟨_, hread, _, hraw⟩ := Document.ofJson_ok_iff.1 h
  obtain ⟨d, hd, hrest⟩ := bind_eq_ok_iff.1 hread
  obtain ⟨openapi, _, hrest⟩ := bind_eq_ok_iff.1 hrest
  obtain ⟨info, _, hrest⟩ := bind_eq_ok_iff.1 hrest
  refine ⟨hraw, d, hd, ?_⟩
  rw [← Except.ok.inj hrest]

theorem Components.read?_of_mem {v : Json} {c : Components} (h : Components.read v = .ok c) :
    ∀ p ∈ c.schemas, ∃ w, w.Below v ∧ Schema.read? w = some p.2 := by
  refine record_induct (P := fun c => ∀ p ∈ c.schemas, ∃ w, w.Below v ∧ Schema.read? w = some p.2)
    h (by simp) ?_
  intro key w c c' hw hc hc'
  simp only at hc'
  split at hc'
  · obtain ⟨schemas, hschemas, hc'⟩ := bind_eq_ok_iff.1 hc'
    cases hc'
    intro p hp
    cases w with
    | object fields =>
      obtain ⟨u, hu, hread⟩ := mem_of_map hschemas hp
      exact ⟨u, (Json.Below.field hu).trans hw, Schema.read?_of_read hread⟩
    | _ => cases hschemas
  all_goals
    obtain ⟨_, _, hc'⟩ := bind_eq_ok_iff.1 hc'
    cases hc'
    exact hc

theorem Document.read?_of_mem {raw : Json} {doc : Document} (h : Document.ofJson raw = .ok doc)
    {c : Components} (hc : doc.description.components = some c) :
    ∀ p ∈ c.schemas, ∃ w, w.Below raw ∧ Schema.read? w = some p.2 := by
  obtain ⟨_, d, hd, he⟩ := readDraft_of_ofJson h
  rw [he] at hc
  have hall : ∀ c, d.components = some c →
      ∀ p ∈ c.schemas, ∃ w, w.Below raw ∧ Schema.read? w = some p.2 := by
    refine record_induct (P := fun d => ∀ c, d.components = some c →
      ∀ p ∈ c.schemas, ∃ w, w.Below raw ∧ Schema.read? w = some p.2) hd ?_ ?_
    · intro c hc
      cases hc
    intro key w d d' hw hd hd'
    simp only at hd'
    split at hd'
    all_goals
      obtain ⟨components, hcomponents, hd'⟩ := bind_eq_ok_iff.1 hd'
      cases hd'
    case h_5 =>
      rintro c rfl p hp
      obtain ⟨u, hu, hread⟩ := Components.read?_of_mem (read_of_optional hcomponents) p hp
      exact ⟨u, hu.trans hw, hread⟩
    all_goals exact hd
  exact hall c hc

theorem Components.Reordered.schemas {v v' : Json} (h : Components.Reordered v v')
    (once : v.KeysOnce) (once' : v'.KeysOnce) {c? c?' : Option Components}
    (hc : optional Components.read v = .ok c?) (hc' : optional Components.read v' = .ok c?') :
    ∃ c c', c? = some c ∧ c?' = some c' ∧ c.schemas.Perm c'.schemas := by
  cases h with
  | object perm before after =>
    obtain ⟨c, rfl, hread⟩ := read_of_optional_ok (by simp) hc
    obtain ⟨c', rfl, hread'⟩ := read_of_optional_ok (by simp) hc'
    have hfound := get?_middle ((Json.keysOnce_object_iff _).1 once).1
    have hfound' := get?_middle ((Json.keysOnce_object_iff _).1 once').1
    have hschemas := schemas_of_read once hfound hread
    exact ⟨c, c', rfl, rfl, perm_of_map perm hschemas (schemas_of_read once' hfound' hread')⟩
  | array perm others =>
    obtain ⟨c, rfl, hread⟩ := read_of_optional_ok (by simp) hc
    obtain ⟨c', rfl, hread'⟩ := read_of_optional_ok (by simp) hc'
    have hschemas := schemas_of_read once rfl hread
    exact ⟨c, c', rfl, rfl, perm_of_map perm hschemas (schemas_of_read once' rfl hread')⟩

theorem Document.Reordered.schemas {raw raw' : Json} (h : Document.Reordered raw raw')
    (once : raw.KeysOnce) {doc doc' : Document} (hdoc : Document.ofJson raw = .ok doc)
    (hdoc' : Document.ofJson raw' = .ok doc') :
    ∃ c c', doc.description.components = some c ∧ doc'.description.components = some c' ∧
      c.schemas.Perm c'.schemas := by
  have once' : raw'.KeysOnce := once.reordered h.json
  obtain ⟨_, d, hd, he⟩ := readDraft_of_ofJson hdoc
  obtain ⟨_, d', hd', he'⟩ := readDraft_of_ofJson hdoc'
  cases h with
  | @components v v' hreordered before after =>
    have hv : optional Components.read v = .ok d.components :=
      components_of_readDraft once (get?_middle ((Json.keysOnce_object_iff _).1 once).1) hd
    have hv' : optional Components.read v' = .ok d'.components :=
      components_of_readDraft once' (get?_middle ((Json.keysOnce_object_iff _).1 once').1) hd'
    rw [he, he']
    refine hreordered.schemas (once.of_below ?_) (once'.of_below ?_) hv hv'
    · exact .field (List.mem_append_right _ List.mem_cons_self)
    · exact .field (List.mem_append_right _ List.mem_cons_self)

end OpenApi
