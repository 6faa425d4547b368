import OpenApi.Proofs.Resolution.Denotes

/-!
# Types under another table of records

What happens to the type of a schema when records are added to the table, and when their ids change.
-/

namespace OpenApi

namespace DataType

/-- The second type is the first with parts of it replaced by records. -/
inductive Refines : DataType → DataType → Prop where
  | refl (ty : DataType) : Refines ty ty
  | record (ty : DataType) (id : RecordId) : Refines ty (.record id)
  | array {a b : DataType} (element : Refines a b) : Refines (.array a) (.array b)
  | union {field : String} {mapping : OrderedMap String String} {a b : String → DataType}
      (each : ∀ p ∈ mapping, Refines (a p.2) (b p.2)) :
      Refines (.union field (mapping.map fun p => (p.1, a p.2)))
        (.union field (mapping.map fun p => (p.1, b p.2)))

/-- In each union of the type, at every depth, a tag stands once. -/
inductive TagsOnce : DataType → Prop where
  | primitive (kind : Primitive) : TagsOnce (.primitive kind)
  | dateTime : TagsOnce .dateTime
  | any : TagsOnce .any
  | record (id : RecordId) : TagsOnce (.record id)
  | array {element : DataType} (once : TagsOnce element) : TagsOnce (.array element)
  | union {field : String} {mapping : List (String × DataType)}
      (nodup : (OrderedMap.keys mapping).Nodup) (each : ∀ p ∈ mapping, TagsOnce p.2) :
      TagsOnce (.union field mapping)

theorem sameMembers_iff (a b : List (String × DataType)) :
    sameMembers a b = true ↔
      ∀ p ∈ a, ∃ ty, OrderedMap.get? b p.1 = some ty ∧ same p.2 ty = true := by
  induction a with
  | nil => simp [sameMembers]
  | cons p rest ih =>
    obtain ⟨tag, ty⟩ := p
    rw [sameMembers, Bool.and_eq_true, ih, List.forall_mem_cons]
    cases OrderedMap.get? b tag <;> simp

theorem Refines.eq_of_same {a b : DataType} (h : Refines a b) (once : b.TagsOnce)
    (same : a.same b = true) : a = b := by
  induction h with
  | refl ty => rfl
  | record ty id =>
    cases ty <;> simp [DataType.same] at same
    rw [same]
  | array _ ih =>
    cases once with
    | array helement =>
      rw [DataType.same] at same
      rw [ih helement same]
  | @union field mapping a b each ih =>
    cases once with
    | union nodup hmembers =>
      rw [DataType.same, Bool.and_eq_true, sameMembers_iff] at same
      congr 1
      apply List.map_congr_left
      intro p hp
      have hmem : (p.1, b p.2) ∈ mapping.map fun p => (p.1, b p.2) :=
        List.mem_map_of_mem (f := fun p => (p.1, b p.2)) hp
      obtain ⟨ty, hty, hsame⟩ := same.2 _ (List.mem_map_of_mem hp)
      rw [OrderedMap.get?_of_mem nodup hmem] at hty
      cases hty
      rw [ih p hp (hmembers _ hmem) hsame]

mutual

/-- The type with other ids in place of its records. -/
def rename (f : RecordId → RecordId) : DataType → DataType
  | .array element => .array (rename f element)
  | .record id => .record (f id)
  | .union field mapping => .union field (renameMembers f mapping)
  | ty => ty

def renameMembers (f : RecordId → RecordId) : List (String × DataType) → List (String × DataType)
  | [] => []
  | (tag, ty) :: rest => (tag, rename f ty) :: renameMembers f rest

end

theorem renameMembers_eq_map (f : RecordId → RecordId) (mapping : List (String × DataType)) :
    renameMembers f mapping = mapping.map fun p => (p.1, rename f p.2) := by
  induction mapping with
  | nil => rfl
  | cons p rest ih =>
    obtain ⟨tag, ty⟩ := p
    rw [renameMembers, ih, List.map_cons]

end DataType

namespace Schema.Typed

variable {refers refers' : String → DataType → Prop} {s : Schema} {ty : DataType}

theorem refine (h : ∀ path a, refers path a → ∃ b, refers' path b ∧ a.Refines b)
    (typed : s.Typed refers ty) : ∃ b, s.Typed refers' b ∧ ty.Refines b := by
  induction typed with
  | reference has =>
    obtain ⟨b, hb, hrefines⟩ := h _ _ has
    exact ⟨b, .reference hb, hrefines⟩
  | branch stands _ ih =>
    obtain ⟨b, hb, hrefines⟩ := ih
    exact ⟨b, .branch stands hb, hrefines⟩
  | allOf anyOf several => exact ⟨.any, .allOf anyOf several, .refl .any⟩
  | @union o d member told _ listed ih =>
    choose! member' hmember using ih
    refine ⟨_, .union told (fun s hs => (hmember s hs).1) listed, ?_⟩
    exact .union (a := fun target => member (.reference target))
      (b := fun target => member' (.reference target)) fun p hp => (hmember _ (listed p hp)).2
  | array plain items _ ih =>
    obtain ⟨b, hb, hrefines⟩ := ih
    exact ⟨.array b, .array plain items hb, .array hrefines⟩
  | arrayOfAny plain items => exact ⟨.array .any, .arrayOfAny plain items, .refl _⟩
  | dateTime plain format => exact ⟨.dateTime, .dateTime plain format, .refl _⟩
  | @primitive o kind plain format => exact ⟨.primitive kind, .primitive plain format, .refl _⟩

theorem rename {f : RecordId → RecordId}
    (h : ∀ path a, refers path a → refers' path (a.rename f)) (typed : s.Typed refers ty) :
    s.Typed refers' (ty.rename f) := by
  induction typed with
  | reference has => exact .reference (h _ _ has)
  | branch stands _ ih => exact .branch stands ih
  | allOf anyOf several => exact .allOf anyOf several
  | @union o d member told _ listed ih =>
    have htyped : ∀ s ∈ o.oneOf, s.Typed refers' ((fun s => (member s).rename f) s) := ih
    rw [DataType.rename, DataType.renameMembers_eq_map, List.map_map]
    exact .union told htyped listed
  | array plain items _ ih => exact .array plain items ih
  | arrayOfAny plain items => exact .arrayOfAny plain items
  | dateTime plain format => exact .dateTime plain format
  | primitive plain format => exact .primitive plain format

theorem tagsOnce (h : ∀ path a, refers path a → a.TagsOnce) (once : s.MappingsOnce)
    (typed : s.Typed refers ty) : ty.TagsOnce := by
  induction typed with
  | reference has => exact h _ _ has
  | branch stands _ ih =>
    cases once with
    | inline _ below => exact ih (below _ stands.mem_children)
  | allOf _ _ => exact .any
  | @union o d member told _ listed ih =>
    cases once with
    | inline own below =>
      refine .union ?_ ?_
      · rw [OrderedMap.keys, List.map_map]
        exact own d told.discriminator
      · intro p hp
        obtain ⟨q, hq, rfl⟩ := List.mem_map.1 hp
        have hs := listed q hq
        exact ih _ hs (below _ (SchemaObject.mem_children_of_oneOf hs))
  | array _ items _ ih =>
    cases once with
    | inline _ below => exact .array (ih (below _ (SchemaObject.mem_children_of_items items)))
  | arrayOfAny _ _ => exact .array .any
  | dateTime _ _ => exact .dateTime
  | primitive _ _ => exact .primitive _

end Schema.Typed

namespace Resolution

variable {raw raw' : Json} {names names' : RecordNames} {s : Schema} {ty : DataType}

theorem HasType.grow
    (grows : ∀ path id, recordOf? names path = some id → recordOf? names' path = some id)
    (h : HasType raw names s ty) : ∃ b, HasType raw names' s b ∧ ty.Refines b := by
  have hdenotes : ∀ path a, Denotes raw names path a →
      ∃ b, Denotes raw names' path b ∧ a.Refines b := by
    intro path a ha
    refine Denotes.induct (P := fun path a => ∃ b, Denotes raw names' path b ∧ a.Refines b) ?_ ?_ ha
    · intro path id found
      exact ⟨.record id, .named (grows path id found), .refl _⟩
    · intro path s a _ leads typed
      cases hnamed : recordOf? names' path with
      | some id => exact ⟨.record id, .named hnamed, .record a id⟩
      | none =>
        obtain ⟨b, hb, hrefines⟩ := typed.refine fun _ _ h => h.2
        exact ⟨b, .followed hnamed leads hb, hrefines⟩
  exact Schema.Typed.refine hdenotes h

theorem HasType.rename {f : RecordId → RecordId}
    (table : ∀ path, recordOf? names' path = (recordOf? names path).map f)
    (leads : ∀ path s, LeadsTo raw path s → LeadsTo raw' path s) (h : HasType raw names s ty) :
    HasType raw' names' s (ty.rename f) := by
  have hdenotes : ∀ path a, Denotes raw names path a → Denotes raw' names' path (a.rename f) := by
    intro path a ha
    refine Denotes.induct (P := fun path a => Denotes raw' names' path (a.rename f)) ?_ ?_ ha
    · intro path id found
      refine .named ?_
      rw [table, found, Option.map_some]
    · intro path s a unnamed hleads typed
      refine .followed ?_ (leads path s hleads) (typed.rename fun _ _ h => h.2)
      rw [table, unnamed, Option.map_none]
  exact Schema.Typed.rename hdenotes h

theorem mappingsOnce_of_leadsTo (once : raw.KeysOnce) {path : String} (h : LeadsTo raw path s) :
    s.MappingsOnce := by
  obtain ⟨_, v, _, hv, hread⟩ := h
  have hvonce : v.KeysOnce := by
    rcases Json.below_of_pointer? hv with rfl | hbelow
    · exact once
    · exact once.of_below hbelow
  exact Schema.mappingsOnce_of_read? hvonce (Schema.read?_of_read hread)

theorem HasType.tagsOnce (once : raw.KeysOnce) (mappings : s.MappingsOnce)
    (h : HasType raw names s ty) : ty.TagsOnce := by
  have hdenotes : ∀ path a, Denotes raw names path a → a.TagsOnce := by
    intro path a ha
    refine Denotes.induct (P := fun _ a => a.TagsOnce) ?_ ?_ ha
    · intro path id _
      exact .record id
    · intro path s a _ hleads typed
      exact typed.tagsOnce (fun _ _ h => h.2) (mappingsOnce_of_leadsTo once hleads)
  exact Schema.Typed.tagsOnce hdenotes mappings h

end Resolution

end OpenApi
