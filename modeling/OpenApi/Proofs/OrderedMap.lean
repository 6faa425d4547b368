import Mathlib.Data.List.Induction
import Mathlib.Data.List.Nodup
import Mathlib.Data.List.Perm.Basic
import OpenApi.OrderedMap

/-! # Looking up in ordered maps -/

namespace OpenApi.OrderedMap

variable {κ α β : Type} [DecidableEq κ]

omit [DecidableEq κ] in
theorem mem_keys (m : OrderedMap κ α) (key : κ) : key ∈ keys m ↔ ∃ v, (key, v) ∈ m := by
  simp [keys]

theorem mem_of_get? {m : OrderedMap κ α} {key : κ} {v : α} (h : get? m key = some v) :
    (key, v) ∈ m := by
  induction m with
  | nil => simp at h
  | cons p rest ih =>
    obtain ⟨k, w⟩ := p
    rw [get?_cons] at h
    by_cases e : k = key
    · simp_all
    · rw [if_neg e] at h
      exact List.mem_cons_of_mem _ (ih h)

theorem mem_insert {m : OrderedMap κ α} {key : κ} {v : α}
    {p : κ × α} (h : p ∈ insert m key v) : p ∈ m ∨ p = (key, v) := by
  induction m with
  | nil => exact .inr (List.mem_singleton.1 h)
  | cons q rest ih =>
    rw [insert] at h
    split at h
    · rename_i hkey
      rcases List.mem_cons.1 h with rfl | h
      · exact .inr (by rw [hkey])
      · exact .inl (List.mem_cons_of_mem _ h)
    · rcases List.mem_cons.1 h with rfl | h
      · exact .inl List.mem_cons_self
      · exact (ih h).imp_left (List.mem_cons_of_mem _)

theorem mem_insertAll {m : OrderedMap κ α} {pairs : List (κ × α)} {p : κ × α}
    (h : p ∈ insertAll m pairs) : p ∈ m ∨ p ∈ pairs := by
  induction pairs generalizing m with
  | nil => exact .inl h
  | cons q rest ih =>
    rcases ih h with h | h
    · rcases mem_insert h with h | rfl
      · exact .inl h
      · exact .inr List.mem_cons_self
    · exact .inr (List.mem_cons_of_mem _ h)

theorem mem_ofList {pairs : List (κ × α)} {p : κ × α} (h : p ∈ ofList pairs) : p ∈ pairs := by
  rcases mem_insertAll h with h | h
  · cases h
  · exact h

theorem mem_keys_insert {m : OrderedMap κ α} {key other : κ} {v : α} :
    other ∈ keys (insert m key v) ↔ other ∈ keys m ∨ key = other := by
  rw [keys_insert]
  by_cases h : key ∈ keys m
  · rw [if_pos h]
    constructor
    · exact .inl
    · rintro (hother | rfl)
      · exact hother
      · exact h
  · rw [if_neg h, List.mem_append, List.mem_singleton, @eq_comm _ other]

theorem get?_eq_none_iff (m : OrderedMap κ α) (key : κ) : get? m key = none ↔ key ∉ keys m := by
  induction m with
  | nil => simp [keys]
  | cons p rest ih =>
    obtain ⟨k, w⟩ := p
    rw [get?_cons]
    by_cases e : k = key
    · simp [keys, e]
    · rw [if_neg e, ih]
      simp [keys, Ne.symm e]

theorem isSome_get?_iff (m : OrderedMap κ α) (key : κ) :
    (get? m key).isSome ↔ key ∈ keys m := by
  rw [← not_iff_not, ← get?_eq_none_iff, Option.not_isSome_iff_eq_none]

theorem get?_of_mem {m : OrderedMap κ α} (nodup : (keys m).Nodup) {key : κ} {v : α}
    (h : (key, v) ∈ m) : get? m key = some v := by
  induction m with
  | nil => simp at h
  | cons p rest ih =>
    obtain ⟨k, w⟩ := p
    obtain ⟨hk, hrest⟩ := List.nodup_cons.1 nodup
    rw [get?_cons]
    rcases List.mem_cons.1 h with e | h
    · simp_all
    · have ne : k ≠ key := by
        rintro rfl
        exact hk ((mem_keys rest k).2 ⟨v, h⟩)
      rw [if_neg ne]
      exact ih hrest h

theorem get?_eq_some_iff {m : OrderedMap κ α} (nodup : (keys m).Nodup) {key : κ} {v : α} :
    get? m key = some v ↔ (key, v) ∈ m :=
  ⟨mem_of_get?, get?_of_mem nodup⟩

theorem get?_map (m : OrderedMap κ α) (f : α → β) (key : κ) :
    get? (m.map fun p => (p.1, f p.2)) key = (get? m key).map f := by
  induction m with
  | nil => rfl
  | cons p rest ih =>
    obtain ⟨k, w⟩ := p
    rw [List.map_cons, get?_cons, get?_cons, ih]
    split <;> rfl

theorem get?_append (m n : OrderedMap κ α) (key : κ) :
    get? (m ++ n) key = (get? m key).or (get? n key) := by
  induction m with
  | nil => rfl
  | cons p rest ih =>
    obtain ⟨k, w⟩ := p
    rw [List.cons_append, get?_cons, get?_cons, ih]
    split <;> rfl

theorem get?_perm {m n : OrderedMap κ α} (perm : m.Perm n) (nodup : (keys m).Nodup) (key : κ) :
    get? m key = get? n key := by
  have nodup' : (keys n).Nodup := (perm.map Prod.fst).nodup_iff.1 nodup
  apply Option.ext
  intro v
  rw [get?_eq_some_iff nodup, get?_eq_some_iff nodup', perm.mem_iff]

theorem insert_eq_append {m : OrderedMap κ α} {key : κ} (new : key ∉ keys m) (v : α) :
    insert m key v = m ++ [(key, v)] := by
  induction m with
  | nil => rfl
  | cons p rest ih =>
    obtain ⟨k, w⟩ := p
    simp only [keys, List.map_cons, List.mem_cons, not_or] at new
    rw [insert, if_neg (Ne.symm new.1), ih new.2]
    rfl

theorem exists_append_of_get? {m : OrderedMap κ α} {key : κ} {v : α} (h : get? m key = some v) :
    ∃ before after, m = before ++ (key, v) :: after ∧ key ∉ keys before := by
  induction m with
  | nil => cases h
  | cons p rest ih =>
    obtain ⟨k, w⟩ := p
    rw [get?_cons] at h
    by_cases e : k = key
    · rw [if_pos e] at h
      cases h
      exact ⟨[], rest, by rw [e, List.nil_append], List.not_mem_nil⟩
    · rw [if_neg e] at h
      obtain ⟨before, after, rfl, hkey⟩ := ih h
      refine ⟨(k, w) :: before, after, rfl, fun hmem => ?_⟩
      rcases List.mem_cons.1 hmem with rfl | hmem
      · exact e rfl
      · exact hkey hmem

theorem insert_append_cons {before after : OrderedMap κ α} {key : κ} (new : key ∉ keys before)
    (v w : α) : insert (before ++ (key, v) :: after) key w = before ++ (key, w) :: after := by
  induction before with
  | nil => simp [insert]
  | cons p rest ih =>
    obtain ⟨k, x⟩ := p
    simp only [keys, List.map_cons, List.mem_cons, not_or] at new
    rw [List.cons_append, insert, if_neg (Ne.symm new.1), ih new.2]
    rfl

/-! ## Other keys -/

section Rekeyed

variable {κ' : Type} [DecidableEq κ'] (f : κ → κ') (g : κ → α → β)

theorem get?_map_keys_of_inj {m : OrderedMap κ α} {key : κ}
    (inj : ∀ k ∈ keys m, f k = f key → k = key) :
    get? (m.map fun p => (f p.1, g p.1 p.2)) (f key) = (get? m key).map (g key) := by
  induction m with
  | nil => rfl
  | cons p rest ih =>
    obtain ⟨k, v⟩ := p
    obtain ⟨hk, hrest⟩ := List.forall_mem_cons.1 inj
    rw [List.map_cons, get?_cons, get?_cons, ih hrest]
    by_cases e : k = key
    · subst e
      simp
    · rw [if_neg e, if_neg fun h => e (hk h)]

theorem insert_map_keys_of_inj {m : OrderedMap κ α} {key : κ}
    (inj : ∀ k ∈ keys m, f k = f key → k = key) (v : α) :
    insert (m.map fun p => (f p.1, g p.1 p.2)) (f key) (g key v) =
      (insert m key v).map fun p => (f p.1, g p.1 p.2) := by
  induction m with
  | nil => rfl
  | cons p rest ih =>
    obtain ⟨k, w⟩ := p
    obtain ⟨hk, hrest⟩ := List.forall_mem_cons.1 inj
    rw [List.map_cons, insert, insert, ih hrest]
    by_cases e : k = key
    · subst e
      simp
    · rw [if_neg e, if_neg fun h => e (hk h), List.map_cons]

end Rekeyed

theorem insert_map (m : OrderedMap κ α) (f : α → β) (key : κ) (v : α) :
    insert (m.map fun p => (p.1, f p.2)) key (f v) =
      (insert m key v).map fun p => (p.1, f p.2) :=
  insert_map_keys_of_inj id (fun _ => f) (fun _ _ h => h) v

/-! ## Maps made from their keys -/

theorem get?_map_keys (ks : List κ) (f : κ → α) (key : κ) :
    get? (ks.map fun k => (k, f k)) key = if key ∈ ks then some (f key) else none := by
  induction ks with
  | nil => rfl
  | cons k rest ih =>
    rw [List.map_cons, get?_cons, ih]
    by_cases e : k = key
    · simp [e]
    · simp [e, Ne.symm e]

theorem insert_map_keys {ks : List κ} (nodup : ks.Nodup) (f : κ → α) (key : κ) (v : α) :
    insert (ks.map fun k => (k, f k)) key v =
      (if key ∈ ks then ks else ks ++ [key]).map fun k => (k, if k = key then v else f k) := by
  induction ks with
  | nil => simp [insert]
  | cons k rest ih =>
    obtain ⟨hk, hrest⟩ := List.nodup_cons.1 nodup
    rw [List.map_cons, insert]
    by_cases e : k = key
    · subst e
      have hsame : ∀ k' ∈ rest, (k', f k') = (k', if k' = k then v else f k') := by
        intro k' hk'
        have hne : k' ≠ k := by
          rintro rfl
          exact hk hk'
        rw [if_neg hne]
      rw [if_pos rfl, if_pos List.mem_cons_self, List.map_cons, if_pos rfl,
        List.map_congr_left hsame]
    · rw [if_neg e, ih hrest]
      by_cases hmem : key ∈ rest
      · simp [hmem, e]
      · simp [hmem, e, Ne.symm e]

/-! ## Maps made from pairs -/

theorem ofList_concat (pairs : List (κ × α)) (p : κ × α) :
    ofList (pairs ++ [p]) = insert (ofList pairs) p.1 p.2 := by
  rw [ofList, insertAll, List.foldl_append]
  rfl

theorem get?_ofList (pairs : List (κ × α)) (key : κ) :
    get? (ofList pairs) key = get? pairs.reverse key := by
  induction pairs using List.reverseRecOn with
  | nil => rfl
  | append_singleton pairs p ih =>
    obtain ⟨k, v⟩ := p
    rw [ofList_concat, List.reverse_append, List.reverse_singleton, List.singleton_append,
      get?_cons, ← ih]
    by_cases e : k = key
    · rw [if_pos e, ← e, get?_insert_self]
    · rw [if_neg e, get?_insert_of_ne _ _ (Ne.symm e)]

theorem mem_keys_ofList {pairs : List (κ × α)} {key : κ} :
    key ∈ keys (ofList pairs) ↔ key ∈ keys pairs := by
  rw [← isSome_get?_iff, get?_ofList, isSome_get?_iff, keys, keys, List.map_reverse,
    List.mem_reverse]

theorem pairwise_idxOf_ofList [BEq κ] [LawfulBEq κ] (pairs : List (κ × α)) :
    (keys (ofList pairs)).Pairwise fun a b => (keys pairs).idxOf a < (keys pairs).idxOf b := by
  induction pairs using List.reverseRecOn with
  | nil => exact .nil
  | append_singleton pairs p ih =>
    have hknown : ∀ k ∈ keys (ofList pairs),
        (keys (pairs ++ [p])).idxOf k = (keys pairs).idxOf k := by
      intro k hk
      rw [keys, List.map_append]
      exact List.idxOf_append_of_mem (mem_keys_ofList.1 hk)
    have hpairwise : (keys (ofList pairs)).Pairwise fun a b =>
        (keys (pairs ++ [p])).idxOf a < (keys (pairs ++ [p])).idxOf b := by
      refine ih.imp_of_mem ?_
      intro a b ha hb hless
      rwa [hknown a ha, hknown b hb]
    rw [ofList_concat, keys_insert]
    split
    · exact hpairwise
    · -- A new key has its first pair after those of all the others.
      rename_i hnew
      rw [mem_keys_ofList] at hnew
      have hlast : (keys (pairs ++ [p])).idxOf p.1 = (keys pairs).length := by
        rw [keys, List.map_append]
        exact (List.idxOf_append_of_notMem hnew).trans (by simp [keys])
      rw [List.pairwise_append]
      refine ⟨hpairwise, List.pairwise_singleton _ _, ?_⟩
      intro k hk k' hk'
      rw [hknown k hk, List.mem_singleton.1 hk', hlast]
      exact List.idxOf_lt_length_of_mem (mem_keys_ofList.1 hk)

/-! ## Maps of values under keys of their own -/

section Keyed

variable (key : α → κ)

theorem ofList_eq_map_values (as : List α) :
    ofList (as.map fun a => (key a, a)) =
      (values (ofList (as.map fun a => (key a, a)))).map fun a => (key a, a) := by
  have hkeyed : ∀ p ∈ ofList (as.map fun a => (key a, a)), p = (key p.2, p.2) := by
    intro p hp
    obtain ⟨a, _, rfl⟩ := List.mem_map.1 (mem_ofList hp)
    rfl
  rw [values, List.map_map]
  exact (List.map_id' _).symm.trans (List.map_congr_left hkeyed)

theorem map_key_values_ofList (as : List α) :
    (values (ofList (as.map fun a => (key a, a)))).map key =
      keys (ofList (as.map fun a => (key a, a))) := by
  conv_rhs => rw [ofList_eq_map_values, keys, List.map_map]
  rfl

theorem get?_map_key (as : List α) (k : κ) :
    get? (as.map fun a => (key a, a)) k = as.find? fun a => key a = k := by
  induction as with
  | nil => rfl
  | cons a rest ih =>
    rw [List.map_cons, get?_cons, ih]
    by_cases e : key a = k
    · simp [e]
    · simp [e]

end Keyed

end OpenApi.OrderedMap
