import Mathlib.Data.List.Perm.Subperm
import OpenApi.Proofs.OrderedMap

/-!
# Options and maps with related values

Two options are related if both are empty or both hold values that are. Two maps are related if
they are so under every key, in whatever order their keys stand.
-/

namespace Option.Rel

variable {α β γ : Type} {R : α → β → Prop} {o : Option α} {p : Option β} {q : Option γ}

theorem isSome_eq (h : Option.Rel R o p) : o.isSome = p.isSome := by
  cases h <;> rfl

theorem exists_left {b : β} (h : Option.Rel R o (Option.some b)) :
    ∃ a, o = Option.some a ∧ R a b := by
  cases h with
  | some hab => exact ⟨_, rfl, hab⟩

theorem imp_of_mem {S : α → β → Prop} (h : Option.Rel R o p)
    (imp : ∀ a ∈ o, ∀ b ∈ p, R a b → S a b) : Option.Rel S o p := by
  cases h with
  | none => exact .none
  | some hab => exact .some (imp _ rfl _ rfl hab)

theorem refl_of_mem {R : α → α → Prop} (refl : ∀ a ∈ o, R a a) : Option.Rel R o o := by
  cases o with
  | none => exact .none
  | some a => exact .some (refl a rfl)

theorem symm_of_mem {S : β → α → Prop} (h : Option.Rel R o p)
    (symm : ∀ a ∈ o, ∀ b ∈ p, R a b → S b a) : Option.Rel S p o := by
  cases h with
  | none => exact .none
  | some hab => exact .some (symm _ rfl _ rfl hab)

theorem trans_of_mem {S : β → γ → Prop} {T : α → γ → Prop} (h : Option.Rel R o p)
    (h' : Option.Rel S p q) (trans : ∀ a ∈ o, ∀ b ∈ p, ∀ c ∈ q, R a b → S b c → T a c) :
    Option.Rel T o q := by
  cases h with
  | none =>
    cases h'
    exact .none
  | some hab =>
    cases h' with
    | some hbc => exact .some (trans _ rfl _ rfl _ rfl hab hbc)

theorem map {α' β' : Type} {S : α' → β' → Prop} {f : α → α'} {g : β → β'}
    (h : Option.Rel R o p) (rel : ∀ a b, R a b → S (f a) (g b)) :
    Option.Rel S (o.map f) (p.map g) := by
  cases h with
  | none => exact .none
  | some hab => exact .some (rel _ _ hab)

end Option.Rel

namespace OpenApi

theorem forall₂_iff_getElem? {α β : Type} {R : α → β → Prop} (as : List α) (bs : List β) :
    List.Forall₂ R as bs ↔ ∀ i : Nat, Option.Rel R as[i]? bs[i]? := by
  constructor
  · intro h
    induction h with
    | nil => exact fun _ => .none
    | cons hab _ ih =>
      intro i
      cases i with
      | zero => exact .some hab
      | succ i => exact ih i
  · intro h
    induction as generalizing bs with
    | nil =>
      cases bs with
      | nil => exact .nil
      | cons b bs => cases h 0
    | cons a as ih =>
      cases bs with
      | nil => cases h 0
      | cons b bs =>
        cases h 0 with
        | some hab => exact .cons hab (ih bs fun i => h (i + 1))

theorem exists_mem_of_forall₂ {α β : Type} {R : α → β → Prop} {as : List α} {bs : List β}
    (h : List.Forall₂ R as bs) {b : β} (mem : b ∈ bs) : ∃ a ∈ as, R a b := by
  obtain ⟨i, hi⟩ := List.mem_iff_getElem?.1 mem
  have hrel := (forall₂_iff_getElem? as bs).1 h i
  rw [hi] at hrel
  obtain ⟨a, ha, hab⟩ := hrel.exists_left
  exact ⟨a, List.mem_of_getElem? ha, hab⟩

namespace OrderedMap

variable {κ α β : Type} [DecidableEq κ] {R : α → β → Prop}

/-- Under every key both maps have related values, or neither has one. -/
def Related (R : α → β → Prop) (m : OrderedMap κ α) (n : OrderedMap κ β) : Prop :=
  ∀ key, Option.Rel R (get? m key) (get? n key)

theorem Related.nil : Related R ([] : OrderedMap κ α) [] :=
  fun _ => .none

theorem Related.insert {m : OrderedMap κ α} {n : OrderedMap κ β} (h : Related R m n) (key : κ)
    {a : α} {b : β} (hab : R a b) : Related R (insert m key a) (insert n key b) := by
  intro other
  by_cases e : other = key
  · rw [e, get?_insert_self, get?_insert_self]
    exact .some hab
  · rw [get?_insert_of_ne _ _ e, get?_insert_of_ne _ _ e]
    exact h other

theorem Related.mem_keys_iff {m : OrderedMap κ α} {n : OrderedMap κ β} (h : Related R m n)
    (key : κ) : key ∈ keys m ↔ key ∈ keys n := by
  rw [← isSome_get?_iff, ← isSome_get?_iff, (h key).isSome_eq]

theorem Related.length_eq {m : OrderedMap κ α} {n : OrderedMap κ β} (h : Related R m n)
    (hm : (keys m).Nodup) (hn : (keys n).Nodup) : m.length = n.length := by
  have hperm : (keys m).Perm (keys n) := (List.perm_ext_iff_of_nodup hm hn).2 h.mem_keys_iff
  simpa [keys] using hperm.length_eq

theorem related_of_length_eq {m : OrderedMap κ α} {n : OrderedMap κ β} (hm : (keys m).Nodup)
    (length : m.length = n.length)
    (found : ∀ p ∈ m, ∃ b, get? n p.1 = some b ∧ R p.2 b) : Related R m n := by
  have hsub : keys m ⊆ keys n := by
    intro key hkey
    obtain ⟨a, ha⟩ := (mem_keys m key).1 hkey
    obtain ⟨b, hb, _⟩ := found _ ha
    rw [← isSome_get?_iff, hb]
    rfl
  have hlength : (keys n).length ≤ (keys m).length := by simp [keys, length]
  have hperm : (keys m).Perm (keys n) := (hm.subperm hsub).perm_of_length_le hlength
  intro key
  cases ha : get? m key with
  | some a =>
    obtain ⟨b, hb, hab⟩ := found _ (mem_of_get? ha)
    rw [hb]
    exact .some hab
  | none =>
    rw [get?_eq_none_iff, hperm.mem_iff, ← get?_eq_none_iff] at ha
    rw [ha]
    exact .none

end OrderedMap

end OpenApi
