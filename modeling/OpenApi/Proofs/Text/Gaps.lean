import OpenApi.Text.Search

/-!
# Texts with gaps

A gap of a text stands for a part of it. To replace the part by a value is to fill the gaps with the
value instead, unless the part also stands where no gap is. The parts here are those whose first
character stands in them once, so that no two occurrences overlap.
-/

namespace OpenApi.Text

/-- How often a part stands in a text, counted by where it starts. -/
def occurrences {α : Type} [DecidableEq α] (part : List α) : List α → Nat
  | [] => 0
  | c :: cs => (if part <+: c :: cs then 1 else 0) + occurrences part cs

section Occurrences

variable {α : Type} [DecidableEq α] {a : α} {tail : List α}

theorem occurrences_cons_of_absent {part cs : List α} {c : α} (h : ¬part <+: c :: cs) :
    occurrences part (c :: cs) = occurrences part cs := by
  rw [occurrences, if_neg h, Nat.zero_add]

theorem occurrences_append_of_not_mem {before : List α} (h : a ∉ before) (rest : List α) :
    occurrences (a :: tail) (before ++ rest) = occurrences (a :: tail) rest := by
  induction before with
  | nil => rfl
  | cons c before ih =>
    obtain ⟨hc, hbefore⟩ := not_or.1 (mt List.mem_cons.2 h)
    have hnot : ¬a :: tail <+: c :: (before ++ rest) :=
      fun hprefix => hc (List.cons_prefix_cons.1 hprefix).1
    rw [List.cons_append, occurrences_cons_of_absent hnot, ih hbefore]

theorem occurrences_part_append (once : a ∉ tail) (rest : List α) :
    occurrences (a :: tail) (a :: tail ++ rest) = 1 + occurrences (a :: tail) rest := by
  have hprefix : a :: tail <+: a :: (tail ++ rest) := List.prefix_append (a :: tail) rest
  rw [List.cons_append, occurrences, if_pos hprefix, occurrences_append_of_not_mem once]

theorem occurrences_le_append (part before rest : List α) :
    occurrences part rest ≤ occurrences part (before ++ rest) := by
  induction before with
  | nil => exact Nat.le_refl _
  | cons c before ih => exact Nat.le_trans ih (Nat.le_add_left _ _)

end Occurrences

/-! ## Replacing a part -/

theorem isSome_dropStart?_iff {start cs : List Char} :
    (dropStart? start cs).isSome ↔ start <+: cs := by
  simp only [Option.isSome_iff_exists, dropStart?_eq_some_iff]
  exact exists_congr fun rest => eq_comm

theorem replaceFrom_length_append (part value before rest : List Char) :
    replaceFrom part value before.length (before ++ rest) = replaceFrom part value 0 rest := by
  induction before with
  | nil => rfl
  | cons c before ih => exact ih

theorem replaceFrom_part_append (a : Char) (tail value rest : List Char) :
    replaceFrom (a :: tail) value 0 (a :: tail ++ rest) =
      value ++ replaceFrom (a :: tail) value 0 rest := by
  have hprefix : (dropStart? (a :: tail) (a :: (tail ++ rest))).isSome :=
    isSome_dropStart?_iff.2 (List.prefix_append (a :: tail) rest)
  rw [List.cons_append, replaceFrom, if_pos hprefix, List.length_cons, Nat.add_sub_cancel,
    replaceFrom_length_append]

theorem replaceFrom_cons_of_absent {part cs : List Char} {c : Char} (h : ¬part <+: c :: cs)
    (value : List Char) :
    replaceFrom part value 0 (c :: cs) = c :: replaceFrom part value 0 cs := by
  rw [replaceFrom, if_neg (by rwa [isSome_dropStart?_iff])]

/-! ## Gaps -/

/-- The text with a value in each gap. -/
def fill (value : List Char) (text : List (Option Char)) : List Char :=
  text.flatMap fun c? => c?.elim value fun c => [c]

theorem fill_none (value : List Char) (text : List (Option Char)) :
    fill value (none :: text) = value ++ fill value text := rfl

theorem fill_some (value : List Char) (c : Char) (text : List (Option Char)) :
    fill value (some c :: text) = c :: fill value text := rfl

theorem fill_append (value : List Char) (before after : List (Option Char)) :
    fill value (before ++ after) = fill value before ++ fill value after :=
  List.flatMap_append

theorem fill_map_some (value cs : List Char) : fill value (cs.map some) = cs := by
  induction cs with
  | nil => rfl
  | cons c cs ih => rw [List.map_cons, fill_some, ih]

theorem not_prefix_none {part : List Char} (h : part ≠ []) (text : List (Option Char)) :
    ¬part.map some <+: none :: text := by
  cases part with
  | nil => exact absurd rfl h
  | cons a tail => exact fun hprefix => Option.some_ne_none a (List.cons_prefix_cons.1 hprefix).1

theorem prefix_fill_of_prefix {part : List Char} {text : List (Option Char)}
    (h : part.map some <+: text) (value : List Char) : part <+: fill value text := by
  obtain ⟨rest, rfl⟩ := h
  rw [fill_append, fill_map_some]
  exact List.prefix_append _ _

theorem occurrences_le_fill {part : List Char} (ne : part ≠ []) (value : List Char)
    (text : List (Option Char)) :
    occurrences (part.map some) text ≤ occurrences part (fill value text) := by
  induction text with
  | nil => exact Nat.zero_le _
  | cons c? text ih =>
    cases c? with
    | none =>
      rw [occurrences_cons_of_absent (not_prefix_none ne text), fill_none]
      exact Nat.le_trans ih (occurrences_le_append part value _)
    | some c =>
      by_cases hprefix : part.map some <+: some c :: text
      · have hfilled : part <+: c :: fill value text := prefix_fill_of_prefix hprefix value
        rw [occurrences, if_pos hprefix, fill_some, occurrences, if_pos hfilled]
        exact Nat.add_le_add_left ih 1
      · rw [occurrences_cons_of_absent hprefix]
        exact Nat.le_trans ih (occurrences_le_append part [c] _)

section Parts

variable {a : Char} {tail : List Char}

theorem prefix_of_prefix_fill {other piece : List Char} (without : a ∉ piece)
    {text : List (Option Char)} (h : piece <+: fill (a :: other) text) :
    piece.map some <+: text := by
  induction piece generalizing text with
  | nil => exact List.nil_prefix
  | cons b piece ih =>
    obtain ⟨hb, hpiece⟩ := not_or.1 (mt List.mem_cons.2 without)
    match text with
    | [] => exact absurd (List.prefix_nil.1 h) (List.cons_ne_nil b piece)
    | none :: rest => exact absurd (List.cons_prefix_cons.1 h).1.symm hb
    | some d :: rest =>
      obtain ⟨rfl, hrest⟩ := List.cons_prefix_cons.1 h
      exact List.cons_prefix_cons.2 ⟨rfl, ih hpiece hrest⟩

theorem prefix_fill_iff (once : a ∉ tail) (other : List Char) (c : Char)
    (text : List (Option Char)) :
    a :: tail <+: c :: fill (a :: other) text ↔ (a :: tail).map some <+: some c :: text := by
  refine ⟨fun h => ?_, fun h => prefix_fill_of_prefix h (a :: other)⟩
  obtain ⟨rfl, htail⟩ := List.cons_prefix_cons.1 h
  exact List.cons_prefix_cons.2 ⟨rfl, prefix_of_prefix_fill once htail⟩

theorem occurrences_fill_self (once : a ∉ tail) (text : List (Option Char)) :
    occurrences (a :: tail) (fill (a :: tail) text) =
      text.count none + occurrences ((a :: tail).map some) text := by
  induction text with
  | nil => rfl
  | cons c? text ih =>
    cases c? with
    | none =>
      rw [fill_none, occurrences_part_append once, ih, List.count_cons_self,
        occurrences_cons_of_absent (not_prefix_none (List.cons_ne_nil a tail) text)]
      omega
    | some c =>
      rw [fill_some, occurrences, ih, List.count_cons_of_ne (Option.some_ne_none c), occurrences]
      simp only [prefix_fill_iff once]
      omega

theorem occurrences_fill_other (once : a ∉ tail) {other : List Char} (onceToo : a ∉ other)
    (apart : ∀ rest, ¬a :: tail <+: a :: (other ++ rest)) (text : List (Option Char)) :
    occurrences (a :: tail) (fill (a :: other) text) =
      occurrences ((a :: tail).map some) text := by
  induction text with
  | nil => rfl
  | cons c? text ih =>
    cases c? with
    | none =>
      rw [fill_none, List.cons_append, occurrences_cons_of_absent (apart _),
        occurrences_append_of_not_mem onceToo, ih,
        occurrences_cons_of_absent (not_prefix_none (List.cons_ne_nil a tail) text)]
    | some c =>
      rw [fill_some, occurrences, ih, occurrences]
      simp only [prefix_fill_iff once]

variable (a tail) in
/-- A text with gaps is read from the left: a gap, an occurrence outside the gaps, or a character
that starts none. -/
theorem gaps_induction {motive : List (Option Char) → Prop} (nil : motive [])
    (gap : ∀ text, motive text → motive (none :: text))
    (formed : ∀ text, motive text → motive ((a :: tail).map some ++ text))
    (char : ∀ c text, ¬(a :: tail).map some <+: some c :: text → motive text →
      motive (some c :: text))
    (text : List (Option Char)) : motive text :=
  match text with
  | [] => nil
  | none :: rest => gap rest (gaps_induction nil gap formed char rest)
  | some c :: rest =>
    if h : (a :: tail).map some <+: some c :: rest then by
      obtain ⟨after, hafter⟩ := h
      have hshort : after.length < rest.length + 1 := by
        have hlength := congrArg List.length hafter
        simp only [List.length_append, List.length_map, List.length_cons] at hlength
        omega
      rw [← hafter]
      exact formed after (gaps_induction nil gap formed char after)
    else char c rest h (gaps_induction nil gap formed char rest)
termination_by text.length

theorem length_replaceFrom_fill (once : a ∉ tail) (value : List Char) (text : List (Option Char)) :
    (replaceFrom (a :: tail) value 0 (fill (a :: tail) text)).length +
        occurrences ((a :: tail).map some) text * (a :: tail).length =
      (fill value text).length +
        occurrences ((a :: tail).map some) text * value.length := by
  induction text using gaps_induction a tail with
  | nil => simp [fill, replaceFrom, occurrences]
  | gap text ih =>
    rw [fill_none, fill_none, replaceFrom_part_append, List.length_append, List.length_append,
      occurrences_cons_of_absent (not_prefix_none (List.cons_ne_nil a tail) text)]
    omega
  | formed text ih =>
    have hsome : some a ∉ tail.map some := by simpa using once
    rw [fill_append, fill_append, fill_map_some, fill_map_some, replaceFrom_part_append,
      List.length_append, List.length_append, List.map_cons, occurrences_part_append hsome,
      Nat.add_mul, Nat.add_mul, ← List.map_cons]
    omega
  | char c text hprefix ih =>
    have hnot := mt (prefix_fill_iff once tail c text).1 hprefix
    rw [fill_some, fill_some, replaceFrom_cons_of_absent hnot,
      occurrences_cons_of_absent hprefix, List.length_cons, List.length_cons (a := c)]
    omega

theorem replaceFrom_fill_of_none (once : a ∉ tail) (value : List Char) {text : List (Option Char)}
    (h : occurrences ((a :: tail).map some) text = 0) :
    replaceFrom (a :: tail) value 0 (fill (a :: tail) text) = fill value text := by
  induction text with
  | nil => rfl
  | cons c? text ih =>
    have hrest : occurrences ((a :: tail).map some) text = 0 :=
      Nat.le_zero.1 (Nat.le_trans (Nat.le_add_left _ _) (Nat.le_of_eq h))
    cases c? with
    | none => rw [fill_none, fill_none, replaceFrom_part_append, ih hrest]
    | some c =>
      have hprefix : ¬(a :: tail).map some <+: some c :: text := by
        intro hprefix
        rw [occurrences, if_pos hprefix] at h
        omega
      have hnot := mt (prefix_fill_iff once tail c text).1 hprefix
      rw [fill_some, fill_some, replaceFrom_cons_of_absent hnot, ih hrest]

theorem replaceFrom_fill_self (once : a ∉ tail) (text : List (Option Char)) :
    replaceFrom (a :: tail) (a :: tail) 0 (fill (a :: tail) text) = fill (a :: tail) text := by
  induction text using gaps_induction a tail with
  | nil => rfl
  | gap text ih => rw [fill_none, replaceFrom_part_append, ih]
  | formed text ih => rw [fill_append, fill_map_some, replaceFrom_part_append, ih]
  | char c text hprefix ih =>
    have hnot := mt (prefix_fill_iff once tail c text).1 hprefix
    rw [fill_some, replaceFrom_cons_of_absent hnot, ih]

theorem eq_of_replaceFrom_fill (once : a ∉ tail) {value : List Char}
    (length : value.length = (a :: tail).length) {text : List (Option Char)}
    (formed : occurrences ((a :: tail).map some) text ≠ 0)
    (h : replaceFrom (a :: tail) value 0 (fill (a :: tail) text) = fill value text) :
    value = a :: tail := by
  induction text using gaps_induction a tail with
  | nil => exact absurd rfl formed
  | gap text ih =>
    rw [fill_none, fill_none, replaceFrom_part_append] at h
    rw [occurrences_cons_of_absent (not_prefix_none (List.cons_ne_nil a tail) text)] at formed
    exact ih formed (List.append_cancel_left h)
  | formed text _ =>
    rw [fill_append, fill_append, fill_map_some, fill_map_some, replaceFrom_part_append] at h
    exact (List.append_inj h length).1
  | char c text hprefix ih =>
    have hnot := mt (prefix_fill_iff once tail c text).1 hprefix
    rw [fill_some, fill_some, replaceFrom_cons_of_absent hnot] at h
    rw [occurrences_cons_of_absent hprefix] at formed
    exact ih formed (List.cons.inj h).2

/-- To replace the part in a text whose gaps it fills is to fill them with the value, if and only if
the part stands nowhere else or is the value. -/
theorem replaceFrom_fill_iff (once : a ∉ tail) (value : List Char) (text : List (Option Char)) :
    replaceFrom (a :: tail) value 0 (fill (a :: tail) text) = fill value text ↔
      value = a :: tail ∨ occurrences ((a :: tail).map some) text = 0 := by
  constructor
  · intro h
    by_cases hformed : occurrences ((a :: tail).map some) text = 0
    · exact .inr hformed
    · have hlength := length_replaceFrom_fill once value text
      rw [h] at hlength
      have heq := Nat.eq_of_mul_eq_mul_left (Nat.pos_of_ne_zero hformed)
        (Nat.add_left_cancel hlength)
      exact .inl (eq_of_replaceFrom_fill once heq.symm hformed h)
  · rintro (rfl | hnone)
    · exact replaceFrom_fill_self once text
    · exact replaceFrom_fill_of_none once value hnone

end Parts

end OpenApi.Text
