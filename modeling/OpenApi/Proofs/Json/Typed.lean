import Mathlib.Data.List.Perm.Basic
import OpenApi.Json.Typed
import OpenApi.Proofs.Json.KeysOnce

/-!
# What typed readers read

A record is read by one step for each of its fields, and a map entry by entry.
-/

namespace OpenApi.Json

/-- The first value stands in the second, at any depth. -/
inductive Below : Json → Json → Prop where
  | item {v : Json} {items : List Json} (mem : v ∈ items) : Below v (.array items)
  | field {key : String} {v : Json} {fields : List (String × Json)} (mem : (key, v) ∈ fields) :
      Below v (.object fields)
  | trans {u v w : Json} (left : Below u v) (right : Below v w) : Below u w

theorem KeysOnce.of_below {v w : Json} (once : w.KeysOnce) (h : Below v w) : v.KeysOnce := by
  induction h with
  | item mem => exact (keysOnce_array_iff _).1 once _ mem
  | field mem => exact ((keysOnce_object_iff _).1 once).2 _ mem
  | trans _ _ ihleft ihright => exact ihleft (ihright once)

namespace Typed

variable {α σ ε : Type}

theorem bind_eq_ok_iff {β : Type} {x : Except ε α} {f : α → Except ε β} {b : β} :
    (x >>= f) = .ok b ↔ ∃ a, x = .ok a ∧ f a = .ok b := by
  change Except.bind x f = .ok b ↔ _
  cases x <;> simp [Except.bind]

theorem bind_eq_error_iff {β : Type} {x : Except ε α} {f : α → Except ε β} {e : ε} :
    (x >>= f) = .error e ↔ x = .error e ∨ ∃ a, x = .ok a ∧ f a = .error e := by
  change Except.bind x f = .error e ↔ _
  cases x <;> simp [Except.bind]

theorem toOption_eq_some_iff {x : Except ε α} {a : α} : x.toOption = some a ↔ x = .ok a := by
  cases x <;> simp [Except.toOption]

theorem optional_of_ne_null {read : Json → Except Mismatch α} {v : Json} (ne : v ≠ .null) :
    optional read v = (read v).map some := by
  cases v <;> first | rfl | exact absurd rfl ne

theorem map_eq_ok_iff {β : Type} {x : Except ε α} {f : α → β} {b : β} :
    x.map f = .ok b ↔ ∃ a, x = .ok a ∧ f a = b := by
  cases x <;> simp [Except.map]

theorem mapError_eq_error_iff {ε' : Type} {f : ε → ε'} {x : Except ε α} {e : ε'} :
    x.mapError f = .error e ↔ ∃ e', x = .error e' ∧ f e' = e := by
  cases x <;> simp [Except.mapError]

theorem mapError_eq_ok_iff {ε' : Type} {f : ε → ε'} {x : Except ε α} {a : α} :
    x.mapError f = .ok a ↔ x = .ok a := by
  cases x <;> simp [Except.mapError]

theorem read_of_optional {read : Json → Except Mismatch α} {v : Json} {a : α}
    (h : optional read v = .ok (some a)) : read v = .ok a := by
  have hne : v ≠ .null := by
    rintro rfl
    cases h
  rw [optional_of_ne_null hne, map_eq_ok_iff] at h
  obtain ⟨_, hread, he⟩ := h
  cases he
  exact hread

theorem read_of_optional_ok {read : Json → Except Mismatch α} {v : Json} (ne : v ≠ .null)
    {a? : Option α} (h : optional read v = .ok a?) : ∃ a, a? = some a ∧ read v = .ok a := by
  rw [optional_of_ne_null ne, map_eq_ok_iff] at h
  obtain ⟨a, hread, rfl⟩ := h
  exact ⟨a, rfl, hread⟩

theorem mapM_eq_ok_iff {β : Type} {f : α → Except ε β} {xs : List α} {ys : List β} :
    xs.mapM f = .ok ys ↔ List.Forall₂ (fun x y => f x = .ok y) xs ys := by
  induction xs generalizing ys with
  | nil =>
    rw [List.forall₂_nil_left_iff]
    exact ⟨fun h => (Except.ok.inj h).symm, fun h => h ▸ rfl⟩
  | cons x rest ih =>
    rw [List.mapM_cons, bind_eq_ok_iff, List.forall₂_cons_left_iff]
    refine exists_congr fun y => ?_
    rw [bind_eq_ok_iff]
    constructor
    · rintro ⟨hy, others, hothers, h⟩
      exact ⟨others, hy, ih.1 hothers, (Except.ok.inj h).symm⟩
    · rintro ⟨others, hy, hothers, rfl⟩
      exact ⟨hy, others, ih.2 hothers, rfl⟩

theorem exists_of_mapM_error {β : Type} {f : α → Except ε β} {xs : List α} {e : ε}
    (h : xs.mapM f = .error e) : ∃ x ∈ xs, f x = .error e := by
  induction xs with
  | nil => cases h
  | cons x rest ih =>
    rw [List.mapM_cons] at h
    rcases bind_eq_error_iff.1 h with h | ⟨_, _, h⟩
    · exact ⟨x, List.mem_cons_self, h⟩
    · rcases bind_eq_error_iff.1 h with h | ⟨_, _, h⟩
      · obtain ⟨x', hx', h⟩ := ih h
        exact ⟨x', List.mem_cons_of_mem _ hx', h⟩
      · cases h

theorem foldlM_induct {β : Type} {f : σ → β → Except ε σ} {I : List β → σ → Prop}
    (step : ∀ b rest s s', I (b :: rest) s → f s b = .ok s' → I rest s') {l : List β} {s r : σ}
    (init : I l s) (h : l.foldlM f s = .ok r) : I [] r := by
  induction l generalizing s with
  | nil =>
    cases h
    exact init
  | cons b rest ih =>
    rw [List.foldlM_cons, bind_eq_ok_iff] at h
    obtain ⟨s', hs', h⟩ := h
    exact ih (step b rest s s' init hs') h

theorem foldlM_frame {τ : Type} {f : σ → String × Json → Except ε σ} {part : σ → τ} {key : String}
    {pairs : List (String × Json)}
    (frame : ∀ p ∈ pairs, p.1 ≠ key → ∀ s s', f s p = .ok s' → part s' = part s)
    (absent : key ∉ OrderedMap.keys pairs) {start r : σ} (h : pairs.foldlM f start = .ok r) :
    part r = part start := by
  induction pairs generalizing start with
  | nil =>
    cases h
    rfl
  | cons p rest ih =>
    simp only [OrderedMap.keys, List.map_cons, List.mem_cons, not_or] at absent
    rw [List.foldlM_cons, bind_eq_ok_iff] at h
    obtain ⟨s, hs, h⟩ := h
    have hrest := ih (fun p hp => frame p (List.mem_cons_of_mem _ hp)) absent.2 h
    exact hrest.trans (frame p List.mem_cons_self (Ne.symm absent.1) start s hs)

theorem foldlM_key {τ : Type} {f : σ → String × Json → Except ε σ} {part : σ → τ} {key : String}
    {pairs : List (String × Json)}
    (frame : ∀ p ∈ pairs, p.1 ≠ key → ∀ s s', f s p = .ok s' → part s' = part s)
    (nodup : (OrderedMap.keys pairs).Nodup) {v : Json} (found : OrderedMap.get? pairs key = some v)
    {start r : σ} (h : pairs.foldlM f start = .ok r) :
    ∃ s s', f s (key, v) = .ok s' ∧ part r = part s' := by
  induction pairs generalizing start with
  | nil => cases found
  | cons p rest ih =>
    obtain ⟨key', w⟩ := p
    obtain ⟨hnew, hnodup⟩ := List.nodup_cons.1 nodup
    have hframe : ∀ p ∈ rest, p.1 ≠ key → ∀ s s', f s p = .ok s' → part s' = part s :=
      fun p hp => frame p (List.mem_cons_of_mem _ hp)
    rw [List.foldlM_cons, bind_eq_ok_iff] at h
    obtain ⟨s₁, hs₁, h⟩ := h
    rw [OrderedMap.get?_cons] at found
    by_cases hkey : key' = key
    · subst hkey
      rw [if_pos rfl] at found
      cases found
      exact ⟨start, s₁, hs₁, foldlM_frame hframe hnew h⟩
    · rw [if_neg hkey] at found
      exact ih hframe hnodup found h

theorem fold_of_record_array {layout : Layout σ} {start r : σ} {items : List Json}
    (h : record layout start (.array items) = .ok r) :
    (layout.fields.zip items).foldlM (fun r (key, v) => layout.set key v r) start = .ok r := by
  unfold record at h
  obtain ⟨s, hs, h⟩ := bind_eq_ok_iff.1 h
  by_cases hshort : items.length < layout.required
  · simp [hshort, bind, Except.bind, throw, throwThe, MonadExceptOf.throw] at h
  · by_cases hlong : layout.fields.length < items.length
    · simp [hshort, hlong, bind, Except.bind, throw, throwThe, MonadExceptOf.throw] at h
    · simp only [hshort, hlong, if_false] at h
      cases h
      exact hs

/-- The value of a record's field, in an object or in an array of the fields in order. -/
def valueAt? (names : List String) (key : String) : Json → Option Json
  | .object fields => OrderedMap.get? fields key
  | .array items => OrderedMap.get? (names.zip items) key
  | _ => none

theorem keys_zip_sublist (names : List String) (items : List Json) :
    (OrderedMap.keys (names.zip items)).Sublist names := by
  induction names generalizing items with
  | nil => exact .slnil
  | cons name names ih =>
    cases items with
    | nil => exact List.nil_sublist _
    | cons v items => exact (ih items).cons_cons name

theorem part_of_record {τ : Type} {layout : Layout σ} {part : σ → τ} {key : String}
    (frame : ∀ key' ∈ layout.fields, key' ≠ key → ∀ w s s', layout.set key' w s = .ok s' →
      part s' = part s)
    (mem : key ∈ layout.fields) (nodup : layout.fields.Nodup) {v : Json} (once : v.KeysOnce)
    {start r : σ} (h : record layout start v = .ok r) :
    (∀ w, valueAt? layout.fields key v = some w →
        ∃ s s', layout.set key w s = .ok s' ∧ part r = part s') ∧
      (valueAt? layout.fields key v = none → part r = part start) := by
  cases v with
  | object fields =>
    have hframe : ∀ p ∈ fields, p.1 ≠ key → ∀ s s' : σ,
        (if p.1 ∈ layout.fields then layout.set p.1 p.2 s else pure s) = .ok s' →
          part s' = part s := by
      intro p _ hne s s' hs'
      by_cases hp : p.1 ∈ layout.fields
      · rw [if_pos hp] at hs'
        exact frame p.1 hp hne p.2 s s' hs'
      · rw [if_neg hp] at hs'
        cases hs'
        rfl
    constructor
    · intro w found
      obtain ⟨s, s', hs', hpart⟩ := foldlM_key hframe ((keysOnce_object_iff _).1 once).1 found h
      rw [if_pos mem] at hs'
      exact ⟨s, s', hs', hpart⟩
    · intro absent
      exact foldlM_frame hframe ((OrderedMap.get?_eq_none_iff _ _).1 absent) h
  | array items =>
    have hframe : ∀ p ∈ layout.fields.zip items, p.1 ≠ key → ∀ s s' : σ,
        layout.set p.1 p.2 s = .ok s' → part s' = part s := by
      intro p hp hne s s' hs'
      exact frame p.1 (List.of_mem_zip hp).1 hne p.2 s s' hs'
    have hfold := fold_of_record_array h
    constructor
    · intro w found
      exact foldlM_key hframe (nodup.sublist (keys_zip_sublist _ _)) found hfold
    · intro absent
      exact foldlM_frame hframe ((OrderedMap.get?_eq_none_iff _ _).1 absent) hfold
  | _ => cases h

theorem record_induct {layout : Layout σ} {P : σ → Prop} {start r : σ} {v : Json}
    (h : record layout start v = .ok r) (init : P start)
    (step : ∀ key w s s', w.Below v → P s → layout.set key w s = .ok s' → P s') : P r := by
  cases v with
  | object fields =>
    have hI : [] ⊆ fields ∧ P r := by
      refine foldlM_induct (I := fun rest s => rest ⊆ fields ∧ P s) ?_ ⟨List.Subset.refl _, init⟩ h
      rintro ⟨key, w⟩ rest s s' ⟨hsub, hs⟩ hs'
      rw [List.cons_subset] at hsub
      refine ⟨hsub.2, ?_⟩
      by_cases hkey : key ∈ layout.fields
      · simp only [if_pos hkey] at hs'
        exact step key w s s' (.field hsub.1) hs hs'
      · simp only [if_neg hkey] at hs'
        cases hs'
        exact hs
    exact hI.2
  | array items =>
    have hI : [] ⊆ layout.fields.zip items ∧ P r := by
      refine foldlM_induct (I := fun rest s => rest ⊆ layout.fields.zip items ∧ P s) ?_
        ⟨List.Subset.refl _, init⟩ (fold_of_record_array h)
      rintro ⟨key, w⟩ rest s s' ⟨hsub, hs⟩ hs'
      rw [List.cons_subset] at hsub
      exact ⟨hsub.2, step key w s s' (.item (List.of_mem_zip hsub.1).2) hs hs'⟩
    exact hI.2
  | _ => cases h

theorem forall₂_of_map {read : Json → Except Mismatch α} {fields : List (String × Json)}
    {m : OrderedMap String α} (h : map read (.object fields) = .ok m) :
    List.Forall₂ (fun p q => q.1 = p.1 ∧ read p.2 = .ok q.2) fields m := by
  change fields.mapM _ = _ at h
  induction fields generalizing m with
  | nil =>
    cases h
    exact .nil
  | cons p rest ih =>
    rw [List.mapM_cons, bind_eq_ok_iff] at h
    obtain ⟨a, ha, h⟩ := h
    obtain ⟨m', hm', h⟩ := bind_eq_ok_iff.1 h
    obtain ⟨b, hb, ha⟩ := bind_eq_ok_iff.1 ha
    cases h
    cases ha
    exact .cons ⟨rfl, hb⟩ (ih hm')

theorem keys_of_map {read : Json → Except Mismatch α} {fields : List (String × Json)}
    {m : OrderedMap String α} (h : map read (.object fields) = .ok m) :
    OrderedMap.keys m = OrderedMap.keys fields := by
  have hall := forall₂_of_map h
  clear h
  induction hall with
  | nil => rfl
  | cons hp _ ih => exact congrArg₂ List.cons hp.1 ih

theorem mem_of_map {read : Json → Except Mismatch α} {fields : List (String × Json)}
    {m : OrderedMap String α} (h : map read (.object fields) = .ok m) {q : String × α}
    (mem : q ∈ m) : ∃ v, (q.1, v) ∈ fields ∧ read v = .ok q.2 := by
  have hall := forall₂_of_map h
  clear h
  induction hall with
  | nil => cases mem
  | @cons p q' fields m hp _ ih =>
    rcases List.mem_cons.1 mem with rfl | mem
    · refine ⟨p.2, ?_, hp.2⟩
      rw [hp.1]
      exact List.mem_cons_self
    · obtain ⟨v, hv, hread⟩ := ih mem
      exact ⟨v, List.mem_cons_of_mem _ hv, hread⟩

theorem perm_of_map {read : Json → Except Mismatch α} {fields fields' : List (String × Json)}
    (perm : fields.Perm fields') {m m' : OrderedMap String α}
    (h : map read (.object fields) = .ok m) (h' : map read (.object fields') = .ok m') :
    m.Perm m' := by
  refine List.rel_perm_imp ?_ (forall₂_of_map h) (forall₂_of_map h') perm
  rintro p q q' ⟨hkey, hread⟩ ⟨hkey', hread'⟩
  exact Prod.ext (hkey.trans hkey'.symm) (Except.ok.inj (hread.symm.trans hread'))

end Typed

end OpenApi.Json
