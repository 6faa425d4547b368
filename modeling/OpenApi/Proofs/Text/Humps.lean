import Mathlib.Data.List.Forall2
import Mathlib.Data.List.Induction
import OpenApi.Proofs.Related
import OpenApi.Proofs.Text.SmallLetters

/-!
# Where words are cut

A run of word characters is one word if its capital letters come first and no capital but the first
stands directly before a small letter.
-/

namespace OpenApi.Text

/-- The characters make one word, if these are its small letters and its capital ones. -/
structure OneHump (small capital : Char → Bool) (cs : List Char) : Prop where
  capitalsFirst : cs.Pairwise fun c d => small c = true → capital d = false
  lone : ∀ before c d after, cs = before ++ c :: d :: after → capital c = true → small d = true →
    ∀ b ∈ before, capital b = false

namespace OneHump

variable {small capital small' capital' : Char → Bool} {cs ds : List Char} {c d : Char}

theorem of_append (h : OneHump small capital (cs ++ ds)) : OneHump small capital cs where
  capitalsFirst := (List.pairwise_append.1 h.capitalsFirst).1
  lone before c d after e := h.lone before c d (after ++ ds) (by rw [e]; simp)

theorem singleton (c : Char) : OneHump small capital [c] where
  capitalsFirst := List.pairwise_singleton _ _
  lone before c d after e := by
    have hlength := congrArg List.length e
    simp only [List.length_append, List.length_cons, List.length_nil] at hlength
    omega

theorem not_small (h : OneHump small capital (cs ++ [c])) (last : capital c = true) {b : Char}
    (mem : b ∈ cs) : small b = false := by
  rw [Bool.eq_false_iff]
  intro hsmall
  have hnot := (List.pairwise_append.1 h.capitalsFirst).2.2 b mem c (List.mem_singleton_self c)
  rw [hnot hsmall] at last
  cases last

theorem concat_iff (cs : List Char) (c d : Char) :
    OneHump small capital (cs ++ [c] ++ [d]) ↔ OneHump small capital (cs ++ [c]) ∧
      (capital d = true → ∀ b ∈ cs ++ [c], small b = false) ∧
      (capital c = true → small d = true → ∀ b ∈ cs, capital b = false) := by
  constructor
  · intro h
    refine ⟨h.of_append, fun hd b hb => h.not_small hd hb, ?_⟩
    exact h.lone cs c d [] (by simp)
  · rintro ⟨h, capitals, smalls⟩
    constructor
    · rw [List.pairwise_append]
      refine ⟨h.capitalsFirst, List.pairwise_singleton _ _, fun b hb x hx hsmall => ?_⟩
      rw [List.mem_singleton.1 hx, Bool.eq_false_iff]
      intro hd
      rw [capitals hd b hb] at hsmall
      cases hsmall
    · intro before c' d' after e
      cases after using List.reverseRecOn with
      | nil =>
        have hlast : cs ++ [c] ++ [d] = before ++ [c'] ++ [d'] := by simpa using e
        obtain ⟨hinit, hd⟩ := List.append_inj' hlast rfl
        obtain ⟨rfl, hc⟩ := List.append_inj' hinit rfl
        rw [← List.head_eq_of_cons_eq hc, ← List.head_eq_of_cons_eq hd]
        exact smalls
      | append_singleton after x =>
        have hlast : cs ++ [c] ++ [d] = before ++ c' :: d' :: after ++ [x] := by simpa using e
        exact h.lone before c' d' after (List.append_inj' hlast rfl).1

theorem of_forall₂ (h : OneHump small capital cs)
    (cased : List.Forall₂ (fun c d => small' d = small c ∧ capital' d = capital c) cs ds) :
    OneHump small' capital' ds where
  capitalsFirst := by
    have hpairs := h.capitalsFirst
    clear h
    induction cased with
    | nil => exact .nil
    | cons hc hrest ih =>
      obtain ⟨hfirst, hpairs⟩ := List.pairwise_cons.1 hpairs
      refine List.pairwise_cons.2 ⟨fun d hd hsmall => ?_, ih hpairs⟩
      obtain ⟨c, hmem, hcase⟩ := exists_mem_of_forall₂ hrest hd
      rw [hcase.2]
      exact hfirst c hmem (hc.1 ▸ hsmall)
  lone before c d after e := by
    subst e
    have hbefore := List.forall₂_take_append cs before (c :: d :: after) cased
    have hafter := List.forall₂_drop_append cs before (c :: d :: after) cased
    obtain ⟨c', _, hc, hafter, hdrop⟩ := List.forall₂_cons_right_iff.1 hafter
    obtain ⟨d', after', hd, _, rfl⟩ := List.forall₂_cons_right_iff.1 hafter
    have hcs : cs = cs.take before.length ++ c' :: d' :: after' := by
      rw [← hdrop, List.take_append_drop]
    rw [hc.2, hd.1]
    intro hcapital hsmall b hb
    obtain ⟨b', hmem, hcase⟩ := exists_mem_of_forall₂ hbefore hb
    rw [hcase.2]
    exact h.lone _ c' d' after' hcs hcapital hsmall b' hmem

end OneHump

namespace Hump

/-- The kind of the last cased letter of a list. -/
def of (cs : List Char) : Hump :=
  cs.foldl Hump.next .start

theorem of_concat (cs : List Char) (c : Char) : Hump.of (cs ++ [c]) = (Hump.of cs).next c := by
  rw [Hump.of, List.foldl_append]
  rfl

theorem of_eq_small_iff {cs : List Char} (h : OneHump isLowercase isUppercase cs) :
    Hump.of cs = .small ↔ ∃ c ∈ cs, isLowercase c = true := by
  induction cs using List.reverseRecOn with
  | nil => simp [Hump.of]
  | append_singleton cs c ih =>
    rw [of_concat, Hump.next]
    split
    · rename_i hsmall
      simp only [true_iff]
      exact ⟨c, by simp, hsmall⟩
    · rename_i hsmall
      split
      · rename_i hcapital
        simp only [reduceCtorEq, false_iff, not_exists, not_and]
        intro b hb
        rcases List.mem_append.1 hb with hb | hb
        · simp [h.not_small hcapital hb]
        · rw [List.mem_singleton.1 hb]
          exact hsmall
      · rw [ih h.of_append]
        simp [or_and_right, exists_or, hsmall]

theorem of_eq_capital_iff {cs : List Char} (h : OneHump isLowercase isUppercase cs) :
    Hump.of cs = .capital ↔
      (∀ c ∈ cs, isLowercase c = false) ∧ ∃ c ∈ cs, isUppercase c = true := by
  induction cs using List.reverseRecOn with
  | nil => simp [Hump.of]
  | append_singleton cs c ih =>
    rw [of_concat, Hump.next]
    split
    · rename_i hsmall
      simp only [reduceCtorEq, false_iff, not_and]
      intro hall
      rw [hall c (by simp)] at hsmall
      cases hsmall
    · rename_i hsmall
      rw [Bool.not_eq_true] at hsmall
      split
      · rename_i hcapital
        simp only [true_iff]
        refine ⟨List.forall_mem_append.2 ⟨fun b hb => h.not_small hcapital hb, ?_⟩,
          c, by simp, hcapital⟩
        simpa using hsmall
      · rename_i hcapital
        have hall : (∀ x ∈ cs ++ [c], isLowercase x = false) ↔ ∀ x ∈ cs, isLowercase x = false := by
          rw [List.forall_mem_append, List.forall_mem_singleton, and_iff_left hsmall]
        rw [ih h.of_append, hall]
        simp [or_and_right, exists_or, hcapital]

end Hump

/-! ## One word -/

theorem humpsFrom_ne_nil (hump : Hump) (word : List Char) {cs : List Char} (ne : cs ≠ []) :
    humpsFrom hump word cs ≠ [] := by
  fun_induction humpsFrom hump word cs with
  | case1 => exact absurd rfl ne
  | case2 | case3 | case4 => exact List.cons_ne_nil _ _
  | case5 _ _ _ _ _ _ _ ih => exact ih (List.cons_ne_nil _ _)

theorem cons_ne_singleton {α : Type} {a b : α} {as : List α} (ne : as ≠ []) : a :: as ≠ [b] :=
  fun h => ne (List.cons.inj h).2

/-- What has been read and the rest are one word if nothing is cut off on the way. -/
theorem humpsFrom_eq_singleton_iff (word : List Char) {c : Char}
    (read : OneHump isLowercase isUppercase (word.reverse ++ [c])) (rest : List Char) :
    humpsFrom (Hump.of word.reverse) word (c :: rest) = [word.reverse ++ c :: rest] ↔
      OneHump isLowercase isUppercase (word.reverse ++ c :: rest) := by
  induction rest generalizing word c with
  | nil => simpa [humpsFrom] using read
  | cons d rest ih =>
    have hstep : OneHump isLowercase isUppercase (word.reverse ++ [c] ++ [d]) ↔ _ :=
      OneHump.concat_iff word.reverse c d
    have hinit : OneHump isLowercase isUppercase (word.reverse ++ c :: d :: rest) →
        OneHump isLowercase isUppercase (word.reverse ++ [c] ++ [d]) := by
      intro h
      have hcs : word.reverse ++ c :: d :: rest = word.reverse ++ [c] ++ [d] ++ rest := by simp
      rw [hcs] at h
      exact h.of_append
    have hrest := humpsFrom_ne_nil .start [] (List.cons_ne_nil d rest)
    have hrest' := humpsFrom_ne_nil .start [c] (List.cons_ne_nil d rest)
    rw [humpsFrom]
    split
    · -- A capital letter behind a small one.
      rename_i hcut
      rw [Bool.and_eq_true, decide_eq_true_eq, ← Hump.of_concat, Hump.of_eq_small_iff read] at hcut
      obtain ⟨⟨b, hb, hsmall⟩, hcapital⟩ := hcut
      refine iff_of_false (cons_ne_singleton hrest) fun h => ?_
      rw [(hstep.1 (hinit h)).2.1 hcapital b hb] at hsmall
      cases hsmall
    · rename_i hcut
      rw [Bool.and_eq_true, decide_eq_true_eq, ← Hump.of_concat, Hump.of_eq_small_iff read] at hcut
      split
      · -- A small letter behind a second capital.
        rename_i hcut'
        rw [Bool.and_eq_true, Bool.and_eq_true, decide_eq_true_eq,
          Hump.of_eq_capital_iff read.of_append] at hcut'
        obtain ⟨⟨⟨_, b, hb, hcapital⟩, hc⟩, hd⟩ := hcut'
        refine iff_of_false (cons_ne_singleton hrest') fun h => ?_
        rw [(hstep.1 (hinit h)).2.2 hc hd b hb] at hcapital
        cases hcapital
      · rename_i hcut'
        rw [Bool.and_eq_true, Bool.and_eq_true, decide_eq_true_eq,
          Hump.of_eq_capital_iff read.of_append] at hcut'
        have hnext : OneHump isLowercase isUppercase ((c :: word).reverse ++ [d]) := by
          rw [List.reverse_cons, hstep]
          refine ⟨read, fun hd b hb => ?_, fun hc hd b hb => ?_⟩
          · rw [Bool.eq_false_iff]
            exact fun hsmall => hcut ⟨⟨b, hb, hsmall⟩, hd⟩
          · rw [Bool.eq_false_iff]
            exact fun hcapital => hcut'
              ⟨⟨⟨fun x hx => read.not_small hc hx, b, hb, hcapital⟩, hc⟩, hd⟩
        have hwhole := ih (c :: word) hnext
        rwa [List.reverse_cons, Hump.of_concat, List.append_assoc, List.singleton_append] at hwhole

theorem humps_eq_singleton_iff {w : List Char} (ne : w ≠ []) :
    humps w = [w] ↔ OneHump isLowercase isUppercase w := by
  obtain ⟨c, rest, rfl⟩ := List.exists_cons_of_ne_nil ne
  exact humpsFrom_eq_singleton_iff [] (OneHump.singleton c) rest

end OpenApi.Text
