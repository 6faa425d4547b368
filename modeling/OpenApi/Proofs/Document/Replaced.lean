import OpenApi.Proofs.Document.Components
import OpenApi.Proofs.Document.FreeTexts

/-!
# One part replaced

What is read of a record, a map, a schema and a document in which one part stands for another.
-/

namespace OpenApi

open Json.Typed

namespace Document

variable {σ α : Type}

/-! ## Records and maps -/

section Records

variable {layout : Layout σ} {g : σ → σ} {key : String}
  (others : ∀ key' ∈ layout.fields, key' ≠ key → ∀ w s s', layout.set key' w s = .ok s' →
    layout.set key' w (g s) = .ok (g s'))
include others

theorem record_frame {fields : List (String × Json)} (absent : key ∉ OrderedMap.keys fields)
    {start r : σ} (h : record layout start (.object fields) = .ok r) :
    record layout (g start) (.object fields) = .ok (g r) := by
  induction fields generalizing start with
  | nil =>
    cases h
    rfl
  | cons p rest ih =>
    obtain ⟨key', w⟩ := p
    simp only [OrderedMap.keys, List.map_cons, List.mem_cons, not_or] at absent
    rw [record_cons, bind_eq_ok_iff] at h
    obtain ⟨s, hs, h⟩ := h
    rw [record_cons, bind_eq_ok_iff]
    refine ⟨g s, ?_, ih absent.2 h⟩
    by_cases hkey : key' ∈ layout.fields
    · rw [if_pos hkey] at hs ⊢
      exact others key' hkey (Ne.symm absent.1) w start s hs
    · rw [if_neg hkey] at hs ⊢
      cases hs
      rfl

theorem record_replaced (mem : key ∈ layout.fields) {v v' : Json}
    (here : ∀ s s', layout.set key v s = .ok s' → layout.set key v' s = .ok (g s'))
    {before after : List (String × Json)} (last : key ∉ OrderedMap.keys after) {start r : σ}
    (h : record layout start (.object (before ++ (key, v) :: after)) = .ok r) :
    record layout start (.object (before ++ (key, v') :: after)) = .ok (g r) := by
  induction before generalizing start with
  | nil =>
    rw [List.nil_append, record_cons, if_pos mem, bind_eq_ok_iff] at h ⊢
    obtain ⟨s, hs, h⟩ := h
    exact ⟨g s, here start s hs, record_frame others last h⟩
  | cons p before ih =>
    obtain ⟨key', w⟩ := p
    rw [List.cons_append, record_cons, bind_eq_ok_iff] at h ⊢
    obtain ⟨s, hs, h⟩ := h
    exact ⟨s, hs, ih h⟩

end Records

theorem map_append_ok_iff {read : Json → Except Json.Mismatch α} {xs ys : List (String × Json)}
    {m : OrderedMap String α} :
    map read (.object (xs ++ ys)) = .ok m ↔
      ∃ mx my, map read (.object xs) = .ok mx ∧ map read (.object ys) = .ok my ∧ m = mx ++ my := by
  induction xs generalizing m with
  | nil =>
    constructor
    · exact fun h => ⟨[], m, rfl, h, rfl⟩
    · rintro ⟨mx, my, hx, hy, rfl⟩
      cases hx
      exact hy
  | cons p xs ih =>
    obtain ⟨key, v⟩ := p
    rw [List.cons_append, map_cons_ok_iff]
    simp only [ih, map_cons_ok_iff]
    constructor
    · rintro ⟨a, _, ha, ⟨mx, my, hx, hy, rfl⟩, rfl⟩
      exact ⟨_, my, ⟨a, mx, ha, hx, rfl⟩, hy, rfl⟩
    · rintro ⟨_, my, ⟨a, mx, ha, hx, rfl⟩, hy, rfl⟩
      exact ⟨a, _, ha, ⟨mx, my, hx, hy, rfl⟩, rfl⟩

end Document

/-! ## Schemas -/

namespace Schema

theorem readEntries?_append {xs ys : List (String × Json)} {entries : List (String × Schema)} :
    readEntries? (xs ++ ys) = some entries ↔
      ∃ ex ey, readEntries? xs = some ex ∧ readEntries? ys = some ey ∧ entries = ex ++ ey := by
  induction xs generalizing entries with
  | nil => simp [readEntries?]
  | cons p xs ih =>
    obtain ⟨key, v⟩ := p
    simp only [List.cons_append, readEntries?, Option.bind_eq_bind, Option.bind_eq_some_iff,
      Option.pure_def, Option.some.injEq, ih]
    constructor
    · rintro ⟨s, hs, _, ⟨ex, ey, hx, hy, rfl⟩, rfl⟩
      exact ⟨_, ey, ⟨s, hs, ex, hx, rfl⟩, hy, rfl⟩
    · rintro ⟨_, ey, ⟨s, hs, ex, hx, rfl⟩, hy, rfl⟩
      exact ⟨s, hs, _, ⟨ex, ey, hx, hy, rfl⟩, rfl⟩

theorem readEntries?_cons {key : String} {v : Json} {rest : List (String × Json)}
    {entries : List (String × Schema)} :
    readEntries? ((key, v) :: rest) = some entries ↔
      ∃ s others, read? v = some s ∧ readEntries? rest = some others ∧
        entries = (key, s) :: others := by
  simp only [readEntries?, Option.bind_eq_bind, Option.bind_eq_some_iff, Option.pure_def,
    Option.some.injEq]
  constructor
  · rintro ⟨s, hs, others, hothers, rfl⟩
    exact ⟨s, others, hs, hothers, rfl⟩
  · rintro ⟨s, others, hs, hothers, rfl⟩
    exact ⟨s, hs, others, hothers, rfl⟩

theorem keys_readEntries? {fields : List (String × Json)} {entries : List (String × Schema)}
    (h : readEntries? fields = some entries) :
    OrderedMap.keys entries = OrderedMap.keys fields := by
  induction fields generalizing entries with
  | nil =>
    cases h
    rfl
  | cons p rest ih =>
    obtain ⟨key, v⟩ := p
    obtain ⟨s, others, _, hothers, rfl⟩ := readEntries?_cons.1 h
    exact congrArg (List.cons key) (ih hothers)

theorem copyKeyword_copyKeyword (key : String) (a b o : SchemaObject Schema) :
    copyKeyword key a (copyKeyword key b o) = copyKeyword key a o := by
  unfold copyKeyword
  split
  all_goals try rfl
  split
  all_goals trivial

theorem readKeywords?_frame {key : String} {fields : List (String × Json)}
    (absent : key ∉ OrderedMap.keys fields) (a : SchemaObject Schema) {o o' : SchemaObject Schema}
    (h : readKeywords? fields o = some o') :
    readKeywords? fields (copyKeyword key a o) = some (copyKeyword key a o') := by
  induction fields generalizing o with
  | nil =>
    cases h
    rfl
  | cons p rest ih =>
    obtain ⟨key', w⟩ := p
    simp only [OrderedMap.keys, List.map_cons, List.mem_cons, not_or] at absent
    rw [readKeywords?] at h ⊢
    obtain ⟨o₁, ho₁, h⟩ := Option.bind_eq_some_iff.1 h
    rw [setKeyword?_eq_map] at ho₁ ⊢
    obtain ⟨b, hb, rfl⟩ := Option.map_eq_some_iff.1 ho₁
    rw [hb, Option.map_some, Option.bind_some, ← copyKeyword_comm absent.1]
    exact ih absent.2 h

theorem readKeywords?_replaced {key : String} {v v' : Json} {before after : List (String × Json)}
    (last : key ∉ OrderedMap.keys after) {a o o' : SchemaObject Schema}
    (here : setKeyword? key v' (belowOf v') {} = some a)
    (h : readKeywords? (before ++ (key, v) :: after) o = some o') :
    readKeywords? (before ++ (key, v') :: after) o = some (copyKeyword key a o') := by
  induction before generalizing o with
  | nil =>
    rw [List.nil_append, readKeywords?] at h ⊢
    obtain ⟨o₁, ho₁, h⟩ := Option.bind_eq_some_iff.1 h
    rw [setKeyword?_eq_map] at ho₁ ⊢
    obtain ⟨b, _, rfl⟩ := Option.map_eq_some_iff.1 ho₁
    have hframe := readKeywords?_frame last a h
    rw [copyKeyword_copyKeyword] at hframe
    exact Option.bind_eq_some_iff.2 ⟨_, by rw [← belowOf, here]; rfl, hframe⟩
  | cons p before ih =>
    obtain ⟨key', w⟩ := p
    rw [List.cons_append, readKeywords?] at h ⊢
    obtain ⟨o₁, ho₁, h⟩ := Option.bind_eq_some_iff.1 h
    exact Option.bind_eq_some_iff.2 ⟨o₁, ho₁, ih h⟩

theorem exists_setKeyword?_of_readKeywords? {key : String} {v : Json}
    {before after : List (String × Json)} {o o' : SchemaObject Schema}
    (h : readKeywords? (before ++ (key, v) :: after) o = some o') :
    ∃ a, setKeyword? key v (belowOf v) {} = some a := by
  induction before generalizing o with
  | nil =>
    rw [List.nil_append, readKeywords?] at h
    obtain ⟨o₁, ho₁, _⟩ := Option.bind_eq_some_iff.1 h
    rw [setKeyword?_eq_map] at ho₁
    obtain ⟨a, ha, _⟩ := Option.map_eq_some_iff.1 ho₁
    exact ⟨a, ha⟩
  | cons p before ih =>
    obtain ⟨key', w⟩ := p
    rw [List.cons_append, readKeywords?] at h
    obtain ⟨o₁, _, h⟩ := Option.bind_eq_some_iff.1 h
    exact ih h

theorem read?_reference_replaced {key : String} (ne : key ≠ "$ref")
    {before after : List (String × Json)} {v : Json} (v' : Json) {path : String}
    (h : read? (.object (before ++ (key, v) :: after)) = some (.reference path)) :
    read? (.object (before ++ (key, v') :: after)) = some (.reference path) := by
  rw [read?] at h ⊢
  rw [← get?_reference_under ne before after v v']
  split at h
  · exact h
  · obtain ⟨_, _, he⟩ := Option.map_eq_some_iff.1 h
    cases he

theorem read?_inline_replaced {key : String} (ne : key ≠ "$ref")
    {before after : List (String × Json)} (last : key ∉ OrderedMap.keys after) {v v' : Json}
    {a o : SchemaObject Schema} (here : setKeyword? key v' (belowOf v') {} = some a)
    (h : read? (.object (before ++ (key, v) :: after)) = some (.inline o)) :
    read? (.object (before ++ (key, v') :: after)) = some (.inline (copyKeyword key a o)) := by
  rw [read?] at h ⊢
  rw [← get?_reference_under ne before after v v']
  split at h
  · cases h
  · obtain ⟨o', ho', he⟩ := Option.map_eq_some_iff.1 h
    cases he
    rw [readKeywords?_replaced last here ho']
    rfl

theorem readMap?_of_properties {before after : List (String × Json)}
    (last : "properties" ∉ OrderedMap.keys after) {v : Json} {o : SchemaObject Schema}
    (h : read? (.object (before ++ ("properties", v) :: after)) = some (.inline o)) :
    readMap? v = some o.properties := by
  have hkeywords : ∃ o', readKeywords? (before ++ ("properties", v) :: after) {} = some o' ∧
      o' = o := by
    rw [read?] at h
    split at h
    · cases h
    · obtain ⟨o', ho', he⟩ := Option.map_eq_some_iff.1 h
      exact ⟨o', ho', Schema.inline.inj he⟩
  obtain ⟨_, ho, rfl⟩ := hkeywords
  obtain ⟨a, ha⟩ := exists_setKeyword?_of_readKeywords? ho
  -- The same value in its own place leaves the schema as it is.
  have hsame := readKeywords?_replaced last ha ho
  rw [ho, Option.some.injEq] at hsame
  obtain ⟨entries, hentries, rfl⟩ := Option.map_eq_some_iff.1 ha
  rw [hsame]
  exact hentries

end Schema

/-! ## Components and documents -/

theorem Components.read_replaced {before after : List (String × Json)}
    (last : "schemas" ∉ OrderedMap.keys after) {v v' : Json} {c : Components}
    {schemas : OrderedMap String Schema} (here : map Schema.read v' = .ok schemas)
    (h : Components.read (.object (before ++ ("schemas", v) :: after)) = .ok c) :
    Components.read (.object (before ++ ("schemas", v') :: after)) = .ok { c with schemas } := by
  refine Document.record_replaced (g := fun c => { c with schemas }) ?_ (by decide) ?_ last h
  · intro key hkey hne w s s' hs'
    simp only [List.mem_cons, List.not_mem_nil, or_false] at hkey
    rcases hkey with rfl | rfl | rfl | rfl
    all_goals first
      | exact absurd rfl hne
      | obtain ⟨_, hw, hs'⟩ := bind_eq_ok_iff.1 hs'
        cases hs'
        exact bind_eq_ok_iff.2 ⟨_, hw, rfl⟩
  · intro s s' hs'
    obtain ⟨_, _, hs'⟩ := bind_eq_ok_iff.1 hs'
    cases hs'
    exact bind_eq_ok_iff.2 ⟨_, here, rfl⟩

theorem Description.readDraft_replaced {before after : List (String × Json)}
    (last : "components" ∉ OrderedMap.keys after) {v v' : Json} {d : Draft}
    {components : Option Components} (here : optional Components.read v' = .ok components)
    (h : readDraft (.object (before ++ ("components", v) :: after)) = .ok d) :
    readDraft (.object (before ++ ("components", v') :: after)) = .ok { d with components } := by
  refine Document.record_replaced (g := fun d => { d with components }) ?_ (by decide) ?_ last h
  · intro key hkey hne w s s' hs'
    simp only [List.mem_cons, List.not_mem_nil, or_false] at hkey
    rcases hkey with rfl | rfl | rfl | rfl | rfl
    all_goals first
      | exact absurd rfl hne
      | obtain ⟨_, hw, hs'⟩ := bind_eq_ok_iff.1 hs'
        cases hs'
        exact bind_eq_ok_iff.2 ⟨_, hw, rfl⟩
  · intro s s' hs'
    obtain ⟨_, _, hs'⟩ := bind_eq_ok_iff.1 hs'
    cases hs'
    exact bind_eq_ok_iff.2 ⟨_, here, rfl⟩

theorem Description.read_replaced {before after : List (String × Json)}
    (last : "components" ∉ OrderedMap.keys after) {v v' : Json} {description : Description}
    {components : Option Components} (here : optional Components.read v' = .ok components)
    (h : read (.object (before ++ ("components", v) :: after)) = .ok description) :
    read (.object (before ++ ("components", v') :: after)) = .ok { description with components } := by
  obtain ⟨d, hd, h⟩ := bind_eq_ok_iff.1 h
  obtain ⟨openapi, hopenapi, h⟩ := bind_eq_ok_iff.1 h
  obtain ⟨info, hinfo, h⟩ := bind_eq_ok_iff.1 h
  cases h
  refine bind_eq_ok_iff.2 ⟨_, readDraft_replaced last here hd, ?_⟩
  exact bind_eq_ok_iff.2 ⟨openapi, hopenapi, bind_eq_ok_iff.2 ⟨info, hinfo, rfl⟩⟩

theorem Document.ofJson_replaced {before after : List (String × Json)}
    (last : "components" ∉ OrderedMap.keys after) {v v' : Json} {doc : Document}
    {components : Option Components} (here : optional Components.read v' = .ok components)
    (h : Document.ofJson (.object (before ++ ("components", v) :: after)) = .ok doc) :
    Document.ofJson (.object (before ++ ("components", v') :: after)) =
      .ok ⟨.object (before ++ ("components", v') :: after),
        { doc.description with components }⟩ := by
  obtain ⟨hkeys, hread, hversion, _⟩ := Document.ofJson_ok_iff.1 h
  refine Document.ofJson_ok_iff.2 ⟨?_, Description.read_replaced last here hread, hversion, rfl⟩
  intro key hkey
  have hpresent := hkeys key hkey
  simp only [Json.field?, OrderedMap.get?_append, OrderedMap.get?_cons] at hpresent ⊢
  split at hpresent <;> simp_all

end OpenApi
