import Mathlib.Data.String.Basic
import OpenApi.DateTime.Printer
import OpenApi.DateTime.Reader
import OpenApi.Proofs.DateTime.Calendar
import OpenApi.Proofs.Json.Typed

/-!
# Reading written date-times

The form with an offset reads what is written of a date in a year of four digits and a time with an
offset of whole minutes.
-/

namespace OpenApi.DateTime

open Reader
open Json.Typed (bind_eq_ok_iff)

/-! ## Numbers -/

theorem digitValue_digitChar {n : Nat} (h : n < 10) : digitValue n.digitChar = n :=
  Nat.toNat_digitChar_sub_48_of_lt_ten h

theorem isDigit_digitChar {n : Nat} (h : n < 10) : n.digitChar.isDigit = true := by
  rw [Nat.isDigit_digitChar, decide_eq_true h]

theorem toList_padded (width n : Nat) :
    (padded width n).toList =
      List.replicate (width - (Nat.toDigits 10 n).length) '0' ++ Nat.toDigits 10 n := by
  rw [padded, String.toList_ofList]

theorem le_length_padded (width n : Nat) : width ≤ (padded width n).toList.length := by
  rw [toList_padded, List.length_append, List.length_replicate]
  omega

theorem length_padded {width n : Nat} (pos : 0 < width) (h : n < 10 ^ width) :
    (padded width n).toList.length = width := by
  have hle := (Nat.length_toDigits_le_iff (by decide) pos).2 h
  rw [toList_padded, List.length_append, List.length_replicate]
  omega

theorem isDigit_of_mem_padded {width n : Nat} {c : Char} (mem : c ∈ (padded width n).toList) :
    c.isDigit = true := by
  rw [toList_padded, List.mem_append] at mem
  rcases mem with hzero | hdigit
  · rw [List.eq_of_mem_replicate hzero]
    rfl
  · exact Nat.isDigit_of_mem_toDigits (by decide) (by decide) hdigit

theorem ofDigitChars_padded (width n : Nat) :
    Nat.ofDigitChars 10 (padded width n).toList 0 = n := by
  rw [toList_padded, Nat.ofDigitChars_append, Nat.ofDigitChars_replicate_zero, Nat.mul_zero]
  exact Nat.ofDigitChars_toDigits (by decide) (by decide)

theorem padded_succ {width n : Nat} (pos : 0 < width) :
    (padded (width + 1) n).toList = (padded width (n / 10)).toList ++ [(n % 10).digitChar] := by
  rw [toList_padded, toList_padded]
  by_cases hsmall : n < 10
  · rw [Nat.toDigits_of_lt_base hsmall, Nat.div_eq_of_lt hsmall, Nat.mod_eq_of_lt hsmall,
      Nat.toDigits_zero]
    obtain ⟨width, rfl⟩ := Nat.exists_eq_succ_of_ne_zero (Nat.ne_of_gt pos)
    simp [List.replicate_succ']
  · rw [Nat.toDigits_of_base_le (by decide) (Nat.le_of_not_lt hsmall), List.length_append,
      List.length_singleton, Nat.add_sub_add_right, List.append_assoc]

theorem padded_two {n : Nat} (h : n < 100) :
    (padded 2 n).toList = [(n / 10).digitChar, (n % 10).digitChar] := by
  have hone : (padded 1 (n / 10)).toList = [(n / 10).digitChar] := by
    rw [toList_padded, Nat.toDigits_of_lt_base (by omega)]
    rfl
  rw [padded_succ (by decide), hone]
  rfl

theorem padded_four (n : Nat) :
    (padded 4 n).toList = (padded 2 (n / 100)).toList ++ (padded 2 (n % 100)).toList := by
  have htens : n % 100 / 10 = n / 10 % 10 := by omega
  have hones : n % 100 % 10 = n % 10 := by omega
  rw [padded_succ (by decide), padded_succ (by decide), Nat.div_div_eq_div_mul,
    padded_two (Nat.mod_lt n (by decide)), htens, hones, List.append_assoc]
  rfl

theorem twoDigits_padded {n : Nat} (h : n < 100) (rest : List Char) :
    twoDigits ((padded 2 n).toList ++ rest) = .ok (n, rest) := by
  have hvalue : n / 10 * 10 + n % 10 = n := by omega
  rw [padded_two h, List.cons_append, List.singleton_append, twoDigits,
    isDigit_digitChar (by omega), isDigit_digitChar (by omega), digitValue_digitChar (by omega),
    digitValue_digitChar (by omega), hvalue]
  rfl

theorem mark_self (c : Char) (rest : List Char) : mark c (c :: rest) = .ok rest :=
  if_pos rfl

/-! ## Fractions -/

theorem takeWhile_digits {digits rest : List Char} (all : ∀ c ∈ digits, c.isDigit = true)
    (ends : ∀ c ∈ rest.head?, c.isDigit = false) :
    (digits ++ rest).takeWhile Char.isDigit = digits := by
  have hrest : rest.takeWhile Char.isDigit = [] := by
    cases rest with
    | nil => rfl
    | cons c rest => rw [List.takeWhile_cons_of_neg (by simp [ends c rfl])]
  rw [List.takeWhile_append_of_pos all, hrest, List.append_nil]

theorem fraction_append {digits rest : List Char} (ne : digits ≠ [])
    (all : ∀ c ∈ digits, c.isDigit = true) (ends : ∀ c ∈ rest.head?, c.isDigit = false) :
    fraction (digits ++ rest) =
      .ok (Nat.ofDigitChars 10 (digits.take 9) 0 * 10 ^ (9 - (digits.take 9).length), rest) := by
  have hdigits := takeWhile_digits all ends
  have hdrop : (digits ++ rest).drop digits.length = rest := List.drop_left
  obtain ⟨d, ds, rfl⟩ := List.exists_cons_of_ne_nil ne
  simp only [fraction, hdigits, hdrop]
  rfl

theorem fraction_padded {width n : Nat} (pos : 0 < width) (short : width ≤ 9) (h : n < 10 ^ width)
    {rest : List Char} (ends : ∀ c ∈ rest.head?, c.isDigit = false) :
    fraction ((padded width n).toList ++ rest) = .ok (n * 10 ^ (9 - width), rest) := by
  have hlength := length_padded pos h
  have hne : (padded width n).toList ≠ [] := List.ne_nil_of_length_pos (by omega)
  rw [fraction_append hne (fun c => isDigit_of_mem_padded) ends,
    List.take_of_length_le (by omega), ofDigitChars_padded, hlength]

theorem optionalFraction_of_ne {rest : List Char} (h : ∀ c ∈ rest.head?, c ≠ '.') :
    optionalFraction rest = .ok (0, rest) := by
  unfold optionalFraction
  split
  · exact absurd rfl (h '.' rfl)
  · rfl

theorem optionalFraction_point {width n : Nat} (pos : 0 < width) (short : width ≤ 9)
    (h : n < 10 ^ width) {rest : List Char} (ends : ∀ c ∈ rest.head?, c.isDigit = false) :
    optionalFraction (("." ++ padded width n).toList ++ rest) =
      .ok (n * 10 ^ (9 - width), rest) := by
  have hpoint : ("." ++ padded width n).toList ++ rest =
      '.' :: ((padded width n).toList ++ rest) := by
    simp
  rw [hpoint, optionalFraction, fraction_padded pos short h ends]

theorem optionalFraction_renderFraction {nanos : Nat} (h : nanos < 1000000000) {rest : List Char}
    (ends : ∀ c ∈ rest.head?, c.isDigit = false ∧ c ≠ '.') :
    optionalFraction ((renderFraction nanos).toList ++ rest) = .ok (nanos, rest) := by
  have hends : ∀ c ∈ rest.head?, c.isDigit = false := fun c hc => (ends c hc).1
  unfold renderFraction
  split
  · rename_i hzero
    rw [hzero]
    exact optionalFraction_of_ne fun c hc => (ends c hc).2
  · split
    · rename_i hmillis
      have hvalue : nanos / 1000000 * 10 ^ (9 - 3) = nanos := by omega
      rw [optionalFraction_point (by decide) (by decide) (by omega) hends, hvalue]
    · split
      · rename_i hmicros
        have hvalue : nanos / 1000 * 10 ^ (9 - 6) = nanos := by omega
        rw [optionalFraction_point (by decide) (by decide) (by omega) hends, hvalue]
      · have hvalue : nanos * 10 ^ (9 - 9) = nanos := by omega
        rw [optionalFraction_point (by decide) (by decide) (by omega) hends, hvalue]

/-! ## Offsets -/

theorem offsetHours_padded {n : Nat} (h : n < 100) (rest : List Char) :
    offsetHours ((padded 2 n).toList ++ rest) = .ok (n, rest) := by
  have htwo := twoDigits_padded h rest
  rw [padded_two h, List.cons_append, List.singleton_append] at htwo ⊢
  exact htwo

theorem offsetMinutes_padded {n : Nat} (h : n < 60) (rest : List Char) :
    offsetMinutes ((padded 2 n).toList ++ rest) = .ok (n, rest) := by
  have hvalue : n / 10 * 10 + n % 10 = n := by omega
  have htens : (n / 10).digitChar ≤ '5' := by
    have hlt : n / 10 < 6 := by omega
    revert hlt
    generalize n / 10 = tens
    revert tens
    decide
  rw [padded_two (by omega), List.cons_append, List.singleton_append, offsetMinutes,
    isDigit_digitChar (by omega), isDigit_digitChar (by omega), digitValue_digitChar (by omega),
    digitValue_digitChar (by omega), hvalue]
  exact if_pos htens

theorem signedOffset_padded (sign : Int) {hours minutes : Nat} (hhours : hours < 100)
    (hminutes : minutes < 60) (rest : List Char) :
    signedOffset sign ((padded 2 hours).toList ++ ':' :: ((padded 2 minutes).toList ++ rest)) =
      .ok (sign * (hours * 3600 + minutes * 60 : Nat), rest) := by
  refine bind_eq_ok_iff.2 ⟨_, offsetHours_padded hhours _, ?_⟩
  refine bind_eq_ok_iff.2 ⟨_, mark_self ':' _, ?_⟩
  exact bind_eq_ok_iff.2 ⟨_, offsetMinutes_padded hminutes rest, rfl⟩

/-- An offset of whole minutes that is less than a day. -/
structure IsOffset (offset : Int) : Prop where
  minutes : 60 ∣ offset
  day : offset.natAbs < 86400

theorem offset_renderOffset {seconds : Int} (h : IsOffset seconds) :
    Reader.offset (renderOffset seconds).toList = .ok (seconds, []) := by
  obtain ⟨hminutes, hday⟩ := h
  unfold renderOffset
  split
  · rename_i hzero
    rw [hzero]
    rfl
  · have hhours : seconds.natAbs / 60 / 60 < 100 := by omega
    have hminutes : seconds.natAbs / 60 % 60 < 60 := by omega
    have hread (sign : Int) := signedOffset_padded sign hhours hminutes []
    split
    · have hvalue : -1 * ((seconds.natAbs / 60 / 60 * 3600 + seconds.natAbs / 60 % 60 * 60 : Nat) :
          Int) = seconds := by omega
      have hminus := hread (-1)
      rw [hvalue] at hminus
      simpa [Reader.offset] using hminus
    · have hvalue : 1 * ((seconds.natAbs / 60 / 60 * 3600 + seconds.natAbs / 60 % 60 * 60 : Nat) :
          Int) = seconds := by omega
      have hplus := hread 1
      rw [hvalue] at hplus
      simpa [Reader.offset] using hplus

/-! ## Whole texts -/

theorem length_le_utf8Len (cs : List Char) : cs.length ≤ String.utf8Len cs := by
  induction cs with
  | nil => exact Nat.le_refl 0
  | cons c cs ih =>
    have hpos := Char.utf8Size_pos c
    rw [List.length_cons, String.utf8Len_cons]
    omega

theorem length_toList_le (s : String) : s.toList.length ≤ s.utf8ByteSize := by
  have h := length_le_utf8Len s.toList
  rwa [← String.utf8ByteSize_ofList, String.ofList_toList] at h

theorem head?_toList_renderOffset (offset : Int) :
    ∀ c ∈ (renderOffset offset).toList.head?, c.isDigit = false ∧ c ≠ '.' := by
  unfold renderOffset
  split
  · simp
  · split <;> simp

/-- The texts that are written of a date, a time and an offset. -/
def written (date : Date) (time : Time) (offset : Int) : String :=
  renderDate date ++ "T" ++ renderTime time ++ renderOffset offset

theorem toList_written {date : Date} (time : Time) (offset : Int) (hyear : 0 ≤ date.year)
    (hyear' : date.year ≤ 9999) :
    (written date time offset).toList =
      (padded 2 (date.year.natAbs / 100)).toList ++ ((padded 2 (date.year.natAbs % 100)).toList ++
      ('-' :: ((padded 2 date.month).toList ++ ('-' :: ((padded 2 date.day).toList ++
      ('T' :: ((padded 2 time.hour).toList ++ (':' :: ((padded 2 time.minute).toList ++
      (':' :: ((padded 2 time.second).toList ++ ((renderFraction time.nanos).toList ++
      (renderOffset offset).toList)))))))))))) := by
  have hsign : renderYear date.year = padded 4 date.year.natAbs := by
    rw [renderYear, if_neg (by omega), if_pos hyear', String.empty_append]
  simp [written, renderDate, renderTime, hsign, padded_four]

theorem size_written (date : Date) (time : Time) (offset : Int) :
    19 ≤ (written date time offset).utf8ByteSize := by
  refine Nat.le_trans ?_ (length_toList_le (written date time offset))
  have hyear := le_length_padded 4 date.year.natAbs
  have hmonth := le_length_padded 2 date.month
  have hday := le_length_padded 2 date.day
  have hhour := le_length_padded 2 time.hour
  have hminute := le_length_padded 2 time.minute
  have hsecond := le_length_padded 2 time.second
  simp only [written, renderDate, renderYear, renderTime, String.toList_append,
    List.length_append]
  have hdash : "-".toList.length = 1 := rfl
  have hcolon : ":".toList.length = 1 := rfl
  have hmark : "T".toList.length = 1 := rfl
  omega

theorem withOffset_written {date : Date} {time : Time} {offset : Int} (hdate : date.isValid = true)
    (hyear : 0 ≤ date.year) (hyear' : date.year ≤ 9999) (htime : time.isValid = true)
    (hnanos : time.nanos < 1000000000) (hoffset : IsOffset offset) :
    withOffset (written date time offset) = .ok (ofLocal date time offset) := by
  have hsize := size_written date time offset
  obtain ⟨_, _, hmonth, _, hday⟩ := Date.isValid_iff.1 hdate
  have hmost := Date.daysInMonth_le date.year date.month
  obtain ⟨hhour, hminute, hsecond⟩ := Time.isValid_iff.1 htime
  have hvalue : date = ⟨(date.year.natAbs / 100 * 100 + date.year.natAbs % 100 : Nat),
      date.month, date.day⟩ := Date.eq_iff.2 ⟨by dsimp only; omega, rfl, rfl⟩
  have htrailing := head?_toList_renderOffset offset
  rw [withOffset, toList_written time offset hyear hyear', if_neg (Nat.not_lt.2 hsize)]
  refine bind_eq_ok_iff.2 ⟨_, twoDigits_padded (by omega) _, ?_⟩
  refine bind_eq_ok_iff.2 ⟨_, twoDigits_padded (by omega) _, ?_⟩
  refine bind_eq_ok_iff.2 ⟨_, mark_self '-' _, ?_⟩
  refine bind_eq_ok_iff.2 ⟨_, twoDigits_padded (by omega) _, ?_⟩
  refine bind_eq_ok_iff.2 ⟨_, mark_self '-' _, ?_⟩
  refine bind_eq_ok_iff.2 ⟨_, twoDigits_padded (by omega) _, ?_⟩
  simp only [← hvalue, hdate]
  refine bind_eq_ok_iff.2 ⟨_, rfl, ?_⟩
  refine bind_eq_ok_iff.2 ⟨_, twoDigits_padded (by omega) _, ?_⟩
  refine bind_eq_ok_iff.2 ⟨_, mark_self ':' _, ?_⟩
  refine bind_eq_ok_iff.2 ⟨_, twoDigits_padded (by omega) _, ?_⟩
  refine bind_eq_ok_iff.2 ⟨_, mark_self ':' _, ?_⟩
  refine bind_eq_ok_iff.2 ⟨_, twoDigits_padded (by omega) _, ?_⟩
  refine bind_eq_ok_iff.2 ⟨_, optionalFraction_renderFraction hnanos htrailing, ?_⟩
  simp only [htime]
  refine bind_eq_ok_iff.2 ⟨_, offset_renderOffset hoffset, ?_⟩
  exact if_neg (Nat.not_le.2 hoffset.day)

end OpenApi.DateTime
