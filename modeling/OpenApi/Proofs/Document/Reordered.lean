import OpenApi.Proofs.Resolution.Denotes

/-!
# Component schemas in another order

Neither what a reference leads to nor what is read of a schema depends on the order in which the
component schemas stand.
-/

namespace OpenApi

namespace Schema

/-- Takes one keyword over from another schema. -/
def copyKeyword (key : String) (source o : SchemaObject Schema) : SchemaObject Schema :=
  match key with
  | "type" => { o with types := source.types }
  | "format" => { o with format := source.format }
  | "description" => { o with description := source.description }
  | "default" => { o with default := source.default }
  | "nullable" => { o with nullable := source.nullable }
  | "properties" => { o with properties := source.properties }
  | "required" => { o with required := source.required }
  | "items" => { o with items := source.items }
  | "allOf" => { o with allOf := source.allOf }
  | "oneOf" => { o with oneOf := source.oneOf }
  | "anyOf" => { o with anyOf := source.anyOf }
  | "discriminator" => { o with discriminator := source.discriminator }
  | _ => o

theorem setKeyword?_eq_map (key : String) (v : Json) (below : Below) (o : SchemaObject Schema) :
    setKeyword? key v below o = (setKeyword? key v below {}).map (copyKeyword key · o) := by
  unfold setKeyword?
  split
  all_goals try
    rw [Option.map_map]
    rfl
  · cases v.isNull
    · simp only [Bool.false_eq_true, if_false, Option.map_map]
      rfl
    · rfl
  · rfl
  · cases v.isNull
    · simp only [Bool.false_eq_true, if_false, Option.map_map]
      rfl
    · rfl
  · rw [Option.map_some]
    unfold copyKeyword
    split
    all_goals trivial

theorem copyKeyword_comm {key key' : String} (ne : key ≠ key') (a b o : SchemaObject Schema) :
    copyKeyword key a (copyKeyword key' b o) = copyKeyword key' b (copyKeyword key a o) := by
  unfold copyKeyword
  split <;> split <;> first | rfl | exact absurd rfl ne

theorem setKeyword?_comm {key key' : String} (ne : key ≠ key') (v v' : Json) (below below' : Below)
    (o : SchemaObject Schema) :
    (setKeyword? key v below o).bind (setKeyword? key' v' below' ·) =
      (setKeyword? key' v' below' o).bind (setKeyword? key v below ·) := by
  have hset : ∀ o, setKeyword? key v below o =
      (setKeyword? key v below {}).map (copyKeyword key · o) := setKeyword?_eq_map key v below
  have hset' : ∀ o, setKeyword? key' v' below' o =
      (setKeyword? key' v' below' {}).map (copyKeyword key' · o) :=
    setKeyword?_eq_map key' v' below'
  generalize setKeyword? key v below {} = a? at hset
  generalize setKeyword? key' v' below' {} = b? at hset'
  simp only [hset, hset']
  cases a? <;> cases b? <;> simp [copyKeyword_comm ne]

theorem readKeywords?_perm {fields fields' : List (String × Json)} (perm : fields.Perm fields')
    (nodup : (OrderedMap.keys fields).Nodup) (o : SchemaObject Schema) :
    readKeywords? fields o = readKeywords? fields' o := by
  induction perm generalizing o with
  | nil => rfl
  | cons p _ ih =>
    obtain ⟨key, v⟩ := p
    rw [readKeywords?, readKeywords?]
    congr 1
    funext o'
    exact ih (List.nodup_cons.1 nodup).2 o'
  | swap p q rest =>
    obtain ⟨key, v⟩ := p
    obtain ⟨key', v'⟩ := q
    have hne : key' ≠ key := by
      rintro rfl
      exact (List.nodup_cons.1 nodup).1 List.mem_cons_self
    simp only [readKeywords?]
    rw [← Option.bind_assoc, ← Option.bind_assoc, setKeyword?_comm hne]
  | trans first _ ihfirst ihsecond =>
    rw [ihfirst nodup, ihsecond ((first.map Prod.fst).nodup_iff.1 nodup)]

theorem setKeyword?_of_not_keyword {key : String} (h : key ∉ SchemaObject.keywords) (v : Json)
    (below : Below) (o : SchemaObject Schema) : setKeyword? key v below o = some o := by
  unfold setKeyword?
  split
  all_goals first | rfl | exact absurd (by decide) h

end Schema

namespace Json

/-- The second value is the first with the fields of one object in another order. The object stands
where nothing that reads a schema looks into it: under a key that is no keyword of a schema, or in
the place of a schema's type. -/
inductive Reordered : Json → Json → Prop where
  | fields {fields fields' : List (String × Json)} (perm : fields.Perm fields') :
      Reordered (.object fields) (.object fields')
  | under {key : String} {v v' : Json} (reference : key ≠ "$ref")
      (keyword : key ∉ SchemaObject.keywords) (before after : List (String × Json))
      (below : Reordered v v') :
      Reordered (.object (before ++ (key, v) :: after)) (.object (before ++ (key, v') :: after))
  | first {fields fields' : List (String × Json)} (perm : fields.Perm fields')
      (others : List Json) :
      Reordered (.array (.object fields :: others)) (.array (.object fields' :: others))

theorem KeysOnce.reordered {v v' : Json} (once : v.KeysOnce) (h : Reordered v v') :
    v'.KeysOnce := by
  induction h with
  | fields perm =>
    rw [keysOnce_object_iff] at once ⊢
    refine ⟨(perm.map Prod.fst).nodup_iff.1 once.1, ?_⟩
    intro p hp
    exact once.2 p (perm.mem_iff.2 hp)
  | @under key v v' _ _ before after _ ih =>
    rw [keysOnce_object_iff] at once ⊢
    have hkeys : OrderedMap.keys (before ++ (key, v') :: after) =
        OrderedMap.keys (before ++ (key, v) :: after) := by
      simp [OrderedMap.keys]
    rw [hkeys]
    refine ⟨once.1, ?_⟩
    intro p hp
    rcases List.mem_append.1 hp with hp | hp
    · exact once.2 p (List.mem_append_left _ hp)
    · rcases List.mem_cons.1 hp with rfl | hp
      · exact ih (once.2 _ (List.mem_append_right _ List.mem_cons_self))
      · exact once.2 p (List.mem_append_right _ (List.mem_cons_of_mem _ hp))
  | first perm others =>
    rw [keysOnce_array_iff, List.forall_mem_cons, keysOnce_object_iff] at once ⊢
    obtain ⟨⟨hnodup, hfields⟩, hothers⟩ := once
    refine ⟨⟨(perm.map Prod.fst).nodup_iff.1 hnodup, ?_⟩, hothers⟩
    intro p hp
    exact hfields p (perm.mem_iff.2 hp)

/-- The two values are equal, or one is the other reordered. -/
def Alike (v w : Json) : Prop :=
  v = w ∨ Reordered v w

theorem child?_reordered {v v' : Json} (h : Reordered v v') (once : v.KeysOnce)
    (token : List Char) : Option.Rel Alike (child? v token) (child? v' token) := by
  have hrefl : ∀ w? : Option Json, Option.Rel Alike w? w? := by
    intro w?
    cases w? with
    | none => exact .none
    | some w => exact .some (.inl rfl)
  cases h with
  | fields perm =>
    rw [child?, child?, OrderedMap.get?_perm perm ((keysOnce_object_iff _).1 once).1]
    exact hrefl _
  | @under key v v' _ _ before after below =>
    rw [child?, child?, OrderedMap.get?_append, OrderedMap.get?_append, OrderedMap.get?_cons,
      OrderedMap.get?_cons]
    cases OrderedMap.get? before (String.ofList token) with
    | some w => exact hrefl _
    | none =>
      rw [Option.none_or, Option.none_or]
      split
      · exact .some (.inr below)
      · exact hrefl _
  | first perm others =>
    rw [child?, child?]
    cases indexOfToken? token with
    | none => exact .none
    | some i =>
      rw [Option.bind_some, Option.bind_some]
      cases i with
      | zero => exact .some (.inr (.fields perm))
      | succ i => exact hrefl _

theorem descend_alike {v v' : Json} (h : Alike v v') (once : v.KeysOnce)
    (tokens : List (List Char)) : Option.Rel Alike (descend v tokens) (descend v' tokens) := by
  induction tokens generalizing v v' with
  | nil => exact .some h
  | cons token rest ih =>
    rw [descend, descend]
    have hchild : Option.Rel Alike (child? v (unescapeToken token))
        (child? v' (unescapeToken token)) := by
      rcases h with rfl | h
      · cases child? v (unescapeToken token) with
        | none => exact .none
        | some w => exact .some (.inl rfl)
      · exact child?_reordered h once _
    cases hw : child? v (unescapeToken token) with
    | none =>
      rw [hw] at hchild
      cases hw' : child? v' (unescapeToken token) with
      | none => exact .none
      | some w' =>
        rw [hw'] at hchild
        cases hchild
    | some w =>
      rw [hw] at hchild
      cases hw' : child? v' (unescapeToken token) with
      | none =>
        rw [hw'] at hchild
        cases hchild
      | some w' =>
        rw [hw'] at hchild
        cases hchild with
        | some halike => exact ih halike (once.of_below (below_of_child? hw))

theorem pointer?_reordered {v v' : Json} (h : Reordered v v') (once : v.KeysOnce)
    (pointer : String) : Option.Rel Alike (v.pointer? pointer) (v'.pointer? pointer) := by
  unfold pointer?
  split
  · exact .some (.inr h)
  · exact descend_alike (.inr h) once _
  · exact .none

end Json

namespace Schema

theorem readKeywords?_under {key : String} (h : key ∉ SchemaObject.keywords)
    (before : List (String × Json)) (v v' : Json) (after : List (String × Json))
    (o : SchemaObject Schema) :
    readKeywords? (before ++ (key, v) :: after) o =
      readKeywords? (before ++ (key, v') :: after) o := by
  induction before generalizing o with
  | nil =>
    rw [List.nil_append, List.nil_append, readKeywords?, readKeywords?]
    simp only [setKeyword?_of_not_keyword h]
  | cons p before ih =>
    obtain ⟨key', w⟩ := p
    rw [List.cons_append, List.cons_append, readKeywords?, readKeywords?]
    congr 1
    funext o'
    exact ih o'

theorem get?_reference_under {key : String} (ne : key ≠ "$ref")
    (before after : List (String × Json)) (v v' : Json) :
    OrderedMap.get? (before ++ (key, v) :: after) "$ref" =
      OrderedMap.get? (before ++ (key, v') :: after) "$ref" := by
  rw [OrderedMap.get?_append, OrderedMap.get?_append, OrderedMap.get?_cons, OrderedMap.get?_cons,
    if_neg ne, if_neg ne]

theorem read?_under {key : String} (ne : key ≠ "$ref") (keyword : key ∉ SchemaObject.keywords)
    (before after : List (String × Json)) (v v' : Json) :
    read? (.object (before ++ (key, v) :: after)) =
      read? (.object (before ++ (key, v') :: after)) := by
  rw [read?, read?, get?_reference_under ne before after v v',
    readKeywords?_under keyword before v v' after]

theorem read?_reordered {v v' : Json} (h : Json.Reordered v v') (once : v.KeysOnce) :
    read? v = read? v' := by
  cases h with
  | @fields fields fields' perm =>
    have hnodup := ((Json.keysOnce_object_iff _).1 once).1
    rw [read?, read?, OrderedMap.get?_perm perm hnodup, readKeywords?_perm perm hnodup]
  | under reference keyword before after _ => exact read?_under reference keyword before after _ _
  | first perm others => rfl

end Schema

theorem Resolution.leadsTo_reordered {raw raw' : Json} (h : Json.Reordered raw raw')
    (once : raw.KeysOnce) {path : String} {s : Schema} (leads : LeadsTo raw path s) :
    LeadsTo raw' path s := by
  obtain ⟨pointer, v, rfl, hv, hread⟩ := leads
  have hpointer := Json.pointer?_reordered h once pointer
  rw [hv] at hpointer
  cases hv' : raw'.pointer? pointer with
  | none =>
    rw [hv'] at hpointer
    cases hpointer
  | some v' =>
    rw [hv'] at hpointer
    have hvonce : v.KeysOnce := by
      rcases Json.below_of_pointer? hv with rfl | hbelow
      · exact once
      · exact once.of_below hbelow
    refine ⟨pointer, v', rfl, hv', ?_⟩
    cases hpointer with
    | some halike =>
      rcases halike with rfl | hreordered
      · exact hread
      · rw [Schema.read, Json.Typed.choice, ← Schema.read?_reordered hreordered hvonce]
        exact hread

end OpenApi
