import OpenApi.Proofs.Document.Parts
import OpenApi.Proofs.Json.Pointer

/-!
# Values that differ in one place

The keys of a pointer lead down through a value. Two values that differ under some keys only look
the same to every pointer that does not go there.
-/

namespace OpenApi.Json

/-- The keys that a pointer spells. -/
def pointerKeys? (pointer : String) : Option (List String) :=
  match pointer.toList with
  | [] => some []
  | '/' :: rest => some ((splitSlashes rest).map fun token => String.ofList (unescapeToken token))
  | _ => none

/-- Follows the keys downward. -/
def walk : Json → List String → Option Json
  | v, [] => some v
  | v, key :: keys => (v.child? key.toList).bind (walk · keys)

theorem descend_eq_walk (v : Json) (tokens : List (List Char)) :
    descend v tokens = v.walk (tokens.map fun token => String.ofList (unescapeToken token)) := by
  induction tokens generalizing v with
  | nil => rfl
  | cons token rest ih =>
    rw [descend, List.map_cons, walk, String.toList_ofList]
    congr 1
    exact funext ih

theorem pointer?_eq_walk (v : Json) (pointer : String) :
    v.pointer? pointer = (pointerKeys? pointer).bind v.walk := by
  cases h : pointer.toList with
  | nil => simp [pointer?, pointerKeys?, h, walk]
  | cons c rest =>
    by_cases hslash : c = '/'
    · subst hslash
      simp only [pointer?, pointerKeys?, h, Option.bind_some]
      exact descend_eq_walk v _
    · simp [pointer?, pointerKeys?, h, hslash]

theorem walk_object (fields : List (String × Json)) (key : String) (keys : List String) :
    (Json.object fields).walk (key :: keys) =
      (OrderedMap.get? fields key).bind (walk · keys) := by
  rw [walk, child?, String.ofList_toList]

theorem walk_append (v : Json) (keys rest : List String) :
    v.walk (keys ++ rest) = (v.walk keys).bind (walk · rest) := by
  induction keys generalizing v with
  | nil => rfl
  | cons key keys ih =>
    rw [List.cons_append, walk, walk, Option.bind_assoc]
    congr 1
    exact funext ih

theorem KeysOnce.of_walk {v w : Json} (once : v.KeysOnce) {keys : List String}
    (h : v.walk keys = some w) : w.KeysOnce := by
  induction keys generalizing v with
  | nil =>
    cases h
    exact once
  | cons key rest ih =>
    obtain ⟨u, hu, hw⟩ := Option.bind_eq_some_iff.1 h
    exact ih (once.of_below (below_of_child? hu)) hw

/-- The second value is the first but for what stands under the keys, one below the other. -/
inductive Changed (R : Json → Json → Prop) : List String → Json → Json → Prop where
  | here {v w : Json} (h : R v w) : Changed R [] v w
  | under {key : String} {keys : List String} {v w : Json} (before after : List (String × Json))
      (below : Changed R keys v w) :
      Changed R (key :: keys) (.object (before ++ (key, v) :: after))
        (.object (before ++ (key, w) :: after))

section Changed

variable {R : Json → Json → Prop} {keys : List String} {v w : Json}

theorem get?_changed {before after : List (String × Json)} {key other : String} {v : Json}
    (new : key ∉ OrderedMap.keys before) :
    OrderedMap.get? (before ++ (key, v) :: after) other =
      if key = other then some v
      else (OrderedMap.get? before other).or (OrderedMap.get? after other) := by
  rw [OrderedMap.get?_append, OrderedMap.get?_cons]
  by_cases h : key = other
  · subst h
    rw [if_pos rfl, if_pos rfl, (OrderedMap.get?_eq_none_iff _ _).2 new, Option.none_or]
  · rw [if_neg h, if_neg h]

theorem not_mem_keys_before {before after : List (String × Json)} {key : String} {v : Json}
    (once : (Json.object (before ++ (key, v) :: after)).KeysOnce) :
    key ∉ OrderedMap.keys before := by
  have hnodup := ((keysOnce_object_iff _).1 once).1
  rw [OrderedMap.keys, List.map_append, List.nodup_append] at hnodup
  intro hmem
  exact hnodup.2.2 key hmem key List.mem_cons_self rfl

theorem not_mem_keys_after {before after : List (String × Json)} {key : String} {v : Json}
    (once : (Json.object (before ++ (key, v) :: after)).KeysOnce) :
    key ∉ OrderedMap.keys after := by
  have hnodup := ((keysOnce_object_iff _).1 once).1
  rw [OrderedMap.keys, List.map_append, List.nodup_append] at hnodup
  exact (List.nodup_cons.1 hnodup.2.1).1

theorem Changed.exists_walk (h : Changed R keys v w) (once : v.KeysOnce) :
    ∃ u u', R u u' ∧ v.walk keys = some u ∧ w.walk keys = some u' := by
  induction h with
  | here h => exact ⟨_, _, h, rfl, rfl⟩
  | @under key keys v w before after _ ih =>
    have hnew := not_mem_keys_before once
    obtain ⟨u, u', hR, hu, hu'⟩ :=
      ih (once.of_below (.field (List.mem_append_right _ List.mem_cons_self)))
    refine ⟨u, u', hR, ?_, ?_⟩
    · rw [walk_object, get?_changed hnew, if_pos rfl]
      exact hu
    · rw [walk_object, get?_changed hnew, if_pos rfl]
      exact hu'

/-- Where a path goes in two values that differ in one place: to the place or below it, to a value
that the place is in, or elsewhere. -/
theorem Changed.walk_cases (h : Changed R keys v w) (once : v.KeysOnce) (path : List String) :
    keys <+: path ∨
      (∃ key below u u', keys = path ++ key :: below ∧ v.walk path = some u ∧
        w.walk path = some u' ∧ Changed R (key :: below) u u') ∨
      v.walk path = w.walk path := by
  induction h generalizing path with
  | here h => exact .inl (List.nil_prefix)
  | @under key keys v w before after below ih =>
    cases path with
    | nil => exact .inr (.inl ⟨key, keys, _, _, rfl, rfl, rfl, .under before after below⟩)
    | cons next path =>
      have hnew := not_mem_keys_before once
      rw [walk_object, walk_object, get?_changed hnew, get?_changed hnew]
      by_cases hkey : key = next
      · subst hkey
        simp only [if_pos, Option.bind_some, List.prefix_cons_inj, List.cons_append,
          List.cons.injEq, true_and]
        exact ih (once.of_below (.field (List.mem_append_right _ List.mem_cons_self))) path
      · rw [if_neg hkey, if_neg hkey]
        exact .inr (.inr rfl)

theorem Changed.keysOnce (h : Changed R keys v w)
    (here : ∀ u u', R u u' → v.walk keys = some u → u'.KeysOnce) (once : v.KeysOnce) :
    w.KeysOnce := by
  induction h with
  | here h => exact here _ _ h rfl
  | @under key keys v w before after _ ih =>
    have hnew := not_mem_keys_before once
    rw [keysOnce_object_iff] at once ⊢
    have hkeys : OrderedMap.keys (before ++ (key, w) :: after) =
        OrderedMap.keys (before ++ (key, v) :: after) := by
      simp [OrderedMap.keys]
    refine ⟨hkeys ▸ once.1, ?_⟩
    intro p hp
    rcases List.mem_append.1 hp with hp | hp
    · exact once.2 p (List.mem_append_left _ hp)
    · rcases List.mem_cons.1 hp with rfl | hp
      · refine ih (fun u u' hR hu => here u u' hR ?_)
          (once.2 _ (List.mem_append_right _ List.mem_cons_self))
        rw [walk_object, get?_changed hnew, if_pos rfl]
        exact hu
      · exact once.2 p (List.mem_append_right _ (List.mem_cons_of_mem _ hp))

end Changed

end OpenApi.Json
