import OpenApi.Proofs.Text.CharSet
import OpenApi.Proofs.Text.Identifier

/-!
# Small letters

What the tables of the Unicode standard have in common: no letter is small and capital, a small
letter can stand in a word and is its own small form, and the small form of a letter is a small
letter. The capital I with a dot is the one letter with a small form of two characters.
-/

namespace OpenApi.Text

namespace CaseRun

/-- The characters `first`, `first + step`, … one range each. -/
def steps (first count step : Nat) : List CharRange :=
  (List.range count).map fun i => ⟨first + i * step, first + i * step⟩

/-- Places of a run that begin so, in one range if there are no gaps. -/
def places (r : CaseRun) (range : CharRange) : List CharRange :=
  if r.step = 1 then [range] else steps range.first ((r.last - r.first) / r.step + 1) r.step

theorem anyContains_places {r : CaseRun} {range : CharRange} {c d : Char}
    (holds : r.contains c = true) (length : range.last = range.first + (r.last - r.first))
    (same : d.toNat - range.first = c.toNat - r.first) (le : range.first ≤ d.toNat) :
    CharRange.anyContains (r.places range) d = true := by
  simp only [contains, Bool.and_eq_true, decide_eq_true_eq, beq_iff_eq] at holds
  obtain ⟨⟨hfirst, hlast⟩, haligned⟩ := holds
  rw [places]
  split
  · exact CharRange.anyContains_iff.2 ⟨range, List.mem_singleton_self _, le, by omega⟩
  · have hcode : range.first + (c.toNat - r.first) / r.step * r.step = d.toNat := by
      rw [Nat.div_mul_cancel (Nat.dvd_of_mod_eq_zero haligned)]
      omega
    have hcount : (c.toNat - r.first) / r.step < (r.last - r.first) / r.step + 1 :=
      Nat.lt_succ_of_le (Nat.div_le_div_right (by omega))
    refine CharRange.anyContains_iff.2
      ⟨_, List.mem_map_of_mem (List.mem_range.2 hcount), ?_, ?_⟩
    · exact Nat.le_of_eq hcode
    · exact Nat.le_of_eq hcode.symm

theorem anyContains_source {r : CaseRun} {c : Char} (holds : r.contains c = true) :
    CharRange.anyContains (r.places r.source) c = true := by
  have hholds := holds
  simp only [contains, Bool.and_eq_true, decide_eq_true_eq] at hholds
  refine anyContains_places holds ?_ rfl hholds.1.1
  simp only [source]
  omega

theorem anyContains_image {r : CaseRun} {c : Char} (mem : r ∈ lowercaseRuns)
    (holds : r.contains c = true) :
    CharRange.anyContains (r.places r.image) (r.apply c) = true := by
  have hkeeps := lowercaseName.keepsRuns r mem
  simp only [keeps, Bool.and_eq_true, Bool.or_eq_true, decide_eq_true_eq] at hkeeps
  obtain ⟨⟨hpos, hvalid⟩, _⟩ := hkeeps
  have hcode := toNat_apply holds hpos hvalid
  have hholds := holds
  simp only [contains, Bool.and_eq_true, decide_eq_true_eq] at hholds
  refine anyContains_places holds ?_ ?_ ?_
  · simp only [image]
    omega
  · simp only [image, hcode]
    omega
  · simp only [image, hcode]
    omega

end CaseRun

/-! ## The tables -/

/-- What the tables have in common, compared as sets of characters, and where their ranges beyond
ASCII begin. -/
structure TablesAgree : Prop where
  lowercase_apart_uppercase :
    CharRange.mask lowercaseRanges &&& CharRange.mask uppercaseRanges = 0
  lowercase_sub_alphabetic :
    CharRange.mask lowercaseRanges &&& CharRange.mask alphabeticRanges =
      CharRange.mask lowercaseRanges
  lowercase_apart_sources :
    CharRange.mask lowercaseRanges &&&
      CharRange.mask (lowercaseRuns.flatMap fun r => r.places r.source) = 0
  images_sub_lowercase :
    CharRange.mask (lowercaseRuns.flatMap fun r => r.places r.image) &&&
        CharRange.mask lowercaseRanges =
      CharRange.mask (lowercaseRuns.flatMap fun r => r.places r.image)
  lowercase_above : (lowercaseRanges.drop 1).all (fun r => 0x80 ≤ r.first) = true
  uppercase_above : (uppercaseRanges.drop 1).all (fun r => 0x80 ≤ r.first) = true
  alphabetic_above : (alphabeticRanges.drop 2).all (fun r => 0x80 ≤ r.first) = true

theorem tablesAgree : TablesAgree := by
  constructor <;> decide +kernel

/-! ## ASCII in the tables -/

theorem anyContains_of_ascii {front rest : List CharRange}
    (above : rest.all (fun r => 0x80 ≤ r.first) = true) {c : Char} (ascii : c.toNat < 0x80) :
    CharRange.anyContains (front ++ rest) c = CharRange.anyContains front c := by
  have hrest : CharRange.anyContains rest c = false := by
    rw [Bool.eq_false_iff]
    intro h
    obtain ⟨r, hr, hfirst, _⟩ := CharRange.anyContains_iff.1 h
    have habove := of_decide_eq_true (List.all_eq_true.1 above r hr)
    omega
  rw [CharRange.anyContains_append, hrest, Bool.or_false]

theorem ascii_letters {c : Char} (ascii : c.toNat < 0x80) :
    c.isLower = CharRange.anyContains (lowercaseRanges.take 1) c ∧
      c.isUpper = CharRange.anyContains (uppercaseRanges.take 1) c ∧
      c.isAlpha = CharRange.anyContains (alphabeticRanges.take 2) c ∧
      (c.toLower = c ∨ isLowercase c.toLower = true ∧ isLowercase c = false) :=
  forall_ascii (P := fun c => c.isLower = CharRange.anyContains (lowercaseRanges.take 1) c ∧
    c.isUpper = CharRange.anyContains (uppercaseRanges.take 1) c ∧
    c.isAlpha = CharRange.anyContains (alphabeticRanges.take 2) c ∧
    (c.toLower = c ∨ isLowercase c.toLower = true ∧ isLowercase c = false)) (by decide) ascii

theorem isLowercase_eq (c : Char) : isLowercase c = CharRange.anyContains lowercaseRanges c := by
  unfold isLowercase
  split
  · rename_i ascii
    rw [← List.take_append_drop 1 lowercaseRanges, anyContains_of_ascii tablesAgree.lowercase_above ascii]
    exact (ascii_letters ascii).1
  · rfl

theorem isUppercase_eq (c : Char) : isUppercase c = CharRange.anyContains uppercaseRanges c := by
  unfold isUppercase
  split
  · rename_i ascii
    rw [← List.take_append_drop 1 uppercaseRanges, anyContains_of_ascii tablesAgree.uppercase_above ascii]
    exact (ascii_letters ascii).2.1
  · rfl

theorem isAlphabetic_eq (c : Char) :
    isAlphabetic c = CharRange.anyContains alphabeticRanges c := by
  unfold isAlphabetic
  split
  · rename_i ascii
    rw [← List.take_append_drop 2 alphabeticRanges, anyContains_of_ascii tablesAgree.alphabetic_above ascii]
    exact (ascii_letters ascii).2.2.1
  · rfl

/-! ## Small letters -/

variable {c d : Char}

theorem not_isUppercase_of_isLowercase (h : isLowercase c = true) : isUppercase c = false := by
  rw [isLowercase_eq] at h
  rw [isUppercase_eq]
  exact CharRange.not_anyContains_of_mask tablesAgree.lowercase_apart_uppercase h

theorem isWordChar_of_isLowercase (h : isLowercase c = true) : isWordChar c = true := by
  rw [isLowercase_eq] at h
  rw [isWordChar, isAlphabetic_eq,
    CharRange.anyContains_of_mask tablesAgree.lowercase_sub_alphabetic h, Bool.true_or]

/-- The capital I with a dot, in small letters an i and a dot. -/
def dottedI : Char :=
  'İ'

/-- The letters that are unlike others: the capital I with a dot and the capital sigma, which has
two small forms. -/
structure OddLetters : Prop where
  dotted : toLowercase dottedI = ['i', Char.ofNat 0x307] ∧ isLowercase dottedI = false
  mark : toLowercase (Char.ofNat 0x307) = [Char.ofNat 0x307]
  words : isWordChar dottedI = true ∧ isWordChar (Char.ofNat 0x307) = false
  sigma : toLowercase 'Σ' = ['σ'] ∧ isLowercase 'Σ' = false
  lastSigma : isLowercase 'ς' = true

theorem oddLetters : OddLetters := by
  constructor <;> decide +kernel

theorem toLowercase_cases (ne : c ≠ dottedI) :
    toLowercase c = [c] ∨
      ∃ d, toLowercase c = [d] ∧ isLowercase d = true ∧ isLowercase c = false := by
  unfold toLowercase
  split
  · rename_i ascii
    rcases (ascii_letters ascii).2.2.2 with hsame | hsmall
    · rw [hsame]
      exact .inl rfl
    · exact .inr ⟨_, rfl, hsmall⟩
  · have hcode : (0x130 == c.toNat) = false := by
      rw [beq_eq_false_iff_ne]
      intro h
      exact ne (Char.toNat_inj.1 h.symm)
    have hexpansion : lowercaseExpansions.find? (·.1 == c.toNat) = none := by
      rw [lowercaseExpansions, List.find?_cons, hcode]
      rfl
    rw [mapCase, hexpansion]
    cases hfound : lowercaseRuns.find? (·.contains c) with
    | none => exact .inl rfl
    | some run =>
      have hmem := List.mem_of_find?_eq_some hfound
      have hholds := List.find?_some hfound
      refine .inr ⟨run.apply c, rfl, ?_, ?_⟩
      · rw [isLowercase_eq]
        exact CharRange.anyContains_of_mask tablesAgree.images_sub_lowercase
          (CharRange.anyContains_flatMap_of_mem hmem (CaseRun.anyContains_image hmem hholds))
      · rw [isLowercase_eq, Bool.eq_false_iff]
        intro hsmall
        have hnot := CharRange.not_anyContains_of_mask tablesAgree.lowercase_apart_sources hsmall
        rw [CharRange.anyContains_flatMap_of_mem hmem (CaseRun.anyContains_source hholds)] at hnot
        cases hnot

theorem toLowercase_of_isLowercase (h : isLowercase c = true) : toLowercase c = [c] := by
  have hne : c ≠ dottedI := by
    rintro rfl
    rw [oddLetters.dotted.2] at h
    cases h
  rcases toLowercase_cases hne with hsame | ⟨_, _, _, hnot⟩
  · exact hsame
  · rw [h] at hnot
    cases hnot

/-! ## What a character becomes -/

/-- In small letters the character is a small letter. -/
def becomesSmall (c : Char) : Bool :=
  isLowercase c || toLowercase c != [c]

/-- The character is a capital letter without a small form, such as a capital of mathematics. -/
def staysCapital (c : Char) : Bool :=
  isUppercase c && toLowercase c == [c]

/-- The second character stands for the first one in small letters. -/
structure Lowered (c d : Char) : Prop where
  lowercase : isLowercase d = becomesSmall c
  uppercase : isUppercase d = staysCapital c
  word : isWordChar c = true → isWordChar d = true

theorem lowered_of_small (small : becomesSmall c = true) (h : isLowercase d = true) :
    Lowered c d where
  lowercase := h.trans small.symm
  uppercase := by
    rw [not_isUppercase_of_isLowercase h, staysCapital]
    by_cases hsame : toLowercase c = [c]
    · have hc : isLowercase c = true := by simpa [becomesSmall, hsame] using small
      rw [not_isUppercase_of_isLowercase hc, Bool.false_and]
    · simp [hsame]
  word := fun _ => isWordChar_of_isLowercase h

theorem exists_lowered (ne : c ≠ dottedI) : ∃ d, toLowercase c = [d] ∧ Lowered c d := by
  rcases toLowercase_cases ne with hsame | ⟨d, hd, hsmall, hnot⟩
  · exact ⟨c, hsame, by simp [becomesSmall, hsame], by simp [staysCapital, hsame], id⟩
  · have hne : d ≠ c := by
      rintro rfl
      rw [hsmall] at hnot
      cases hnot
    exact ⟨d, hd, lowered_of_small (by simp [becomesSmall, hd, hne]) hsmall⟩

theorem lowered_sigma : Lowered 'Σ' 'ς' :=
  lowered_of_small (by simp [becomesSmall, oddLetters.sigma]) oddLetters.lastSigma

theorem forall₂_lowered {w : List Char} (dotless : dottedI ∉ w) :
    List.Forall₂ Lowered w (lower w) := by
  fun_induction lower w with
  | case1 => exact .nil
  | case2 => exact .cons lowered_sigma .nil
  | case3 c _ =>
    obtain ⟨d, hd, hlowered⟩ := exists_lowered (c := c) fun h => dotless (by simp [h])
    rw [hd]
    exact .cons hlowered .nil
  | case4 c rest _ ih =>
    obtain ⟨hc, hrest⟩ := not_or.1 fun h => dotless (List.mem_cons.2 h)
    obtain ⟨d, hd, hlowered⟩ := exists_lowered (Ne.symm hc)
    rw [hd]
    exact .cons hlowered (ih hrest)

theorem settled_toLowercase (mem : d ∈ toLowercase c) : toLowercase d = [d] ∧ d ≠ 'Σ' := by
  by_cases hdotted : c = dottedI
  · rw [hdotted, oddLetters.dotted.1, List.mem_pair] at mem
    rcases mem with rfl | rfl
    · decide
    · exact ⟨oddLetters.mark, by decide⟩
  · rcases toLowercase_cases hdotted with hsame | ⟨e, he, hsmall, _⟩
    · rw [hsame] at mem
      obtain rfl := List.mem_singleton.1 mem
      refine ⟨hsame, ?_⟩
      rintro rfl
      rw [oddLetters.sigma.1] at hsame
      exact absurd hsame (by decide)
    · rw [he] at mem
      obtain rfl := List.mem_singleton.1 mem
      refine ⟨toLowercase_of_isLowercase hsmall, ?_⟩
      rintro rfl
      rw [oddLetters.sigma.2] at hsmall
      cases hsmall

theorem settled_lower {w : List Char} (mem : d ∈ lower w) : toLowercase d = [d] ∧ d ≠ 'Σ' := by
  fun_induction lower w with
  | case1 => cases mem
  | case2 =>
    obtain rfl := List.mem_singleton.1 mem
    exact ⟨toLowercase_of_isLowercase oddLetters.lastSigma, by decide⟩
  | case3 => exact settled_toLowercase mem
  | case4 c rest _ ih =>
    rcases List.mem_append.1 mem with mem | mem
    · exact settled_toLowercase mem
    · exact ih mem

theorem lower_of_settled {w : List Char} (settled : ∀ d ∈ w, toLowercase d = [d] ∧ d ≠ 'Σ') :
    lower w = w := by
  fun_induction lower w with
  | case1 => rfl
  | case2 => exact absurd rfl (settled _ List.mem_cons_self).2
  | case3 c _ => exact (settled c List.mem_cons_self).1
  | case4 c rest _ ih =>
    obtain ⟨hc, hrest⟩ := List.forall_mem_cons.1 settled
    rw [hc.1, ih hrest, List.singleton_append]

theorem lower_lower (w : List Char) : lower (lower w) = lower w :=
  lower_of_settled fun _ mem => settled_lower mem

end OpenApi.Text
