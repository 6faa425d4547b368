import Mathlib.Data.List.Infix
import Mathlib.Data.List.TakeWhile
import OpenApi.Proofs.DateTime.Written

/-!
# Date-times that are written and read again

What is written of an accepted text is read as the same date-time where its local year has four
digits. The form with an offset gives no other year. The other two forms give every year that a
date may have, and what is written of it then is in no form that is read.
-/

namespace OpenApi.DateTime

open Reader
open Json.Typed (bind_eq_ok_iff toOption_eq_some_iff)

/-! ## What is read -/

/-- The date-time is what a calendar and a clock at its offset show. -/
structure Shown (date : Date) (time : Time) (t : DateTime) : Prop where
  validDate : date.isValid = true
  validTime : time.isValid = true
  fraction : time.nanos < 1000000000
  isOffset : IsOffset t.offset
  eq : t = ofLocal date time t.offset

namespace Shown

variable {date : Date} {time : Time} {t : DateTime}

theorem localDate_eq (h : Shown date time t) : t.localDate = date := by
  rw [h.eq]
  exact localDate_ofLocal h.validDate h.validTime _

theorem localTime_eq (h : Shown date time t) : t.localTime = time := by
  rw [h.eq]
  exact localTime_ofLocal h.validTime h.fraction _

theorem render_eq (h : Shown date time t) : t.render = written date time t.offset := by
  rw [render, h.localDate_eq, h.localTime_eq, written]

end Shown

/-- The rest of the characters comes after a digit. -/
def AfterDigit (rest cs : List Char) : Prop :=
  ∃ before digit, digit.isDigit = true ∧ cs = before ++ digit :: rest

theorem AfterDigit.of_suffix {rest cs whole : List Char} (h : AfterDigit rest cs)
    (suffix : cs <:+ whole) : AfterDigit rest whole := by
  obtain ⟨before, digit, hdigit, rfl⟩ := h
  obtain ⟨first, rfl⟩ := suffix
  exact ⟨first ++ before, digit, hdigit, (List.append_assoc ..).symm⟩

theorem AfterDigit.suffix {rest cs : List Char} (h : AfterDigit rest cs) : rest <:+ cs := by
  obtain ⟨before, digit, _, rfl⟩ := h
  exact ⟨before ++ [digit], by simp⟩

theorem afterDigit_drop {digits cs : List Char} (ne : digits ≠ [])
    (all : ∀ c ∈ digits, c.isDigit = true) (isPrefix : digits <+: cs) :
    AfterDigit (cs.drop digits.length) cs := by
  refine ⟨digits.dropLast, digits.getLast ne, all _ (List.getLast_mem ne), ?_⟩
  have hcs := List.prefix_append_drop isPrefix
  rwa [← List.dropLast_append_getLast ne, List.append_assoc, List.singleton_append,
    List.dropLast_append_getLast ne] at hcs

theorem digitValue_lt {c : Char} (h : c.isDigit = true) : digitValue c < 10 := by
  obtain ⟨hle, hle'⟩ := Char.isDigit_iff_toNat.1 h
  have hnine : '9'.toNat = 57 := rfl
  have hzero : '0'.toNat = 48 := rfl
  unfold digitValue
  omega

theorem ofDigitChars_lt {digits : List Char} (all : ∀ c ∈ digits, c.isDigit = true) :
    Nat.ofDigitChars 10 digits 0 < 10 ^ digits.length := by
  induction digits using List.reverseRecOn with
  | nil => decide
  | append_singleton digits c ih =>
    have hinit := ih fun d hd => all d (List.mem_append_left _ hd)
    have hlast := digitValue_lt (all c (List.mem_append_right _ (List.mem_singleton_self c)))
    have hvalue : Nat.ofDigitChars 10 (digits ++ [c]) 0 =
        10 * Nat.ofDigitChars 10 digits 0 + digitValue c := Nat.ofDigitChars_append 0
    rw [hvalue, List.length_append, List.length_singleton, Nat.pow_succ]
    omega

theorem twoDigits_lt {cs rest : List Char} {n : Nat} (h : twoDigits cs = .ok (n, rest)) :
    n < 100 := by
  unfold twoDigits at h
  split at h
  · split at h
    · rename_i hdigits
      cases h
      obtain ⟨htens, hones⟩ := Bool.and_eq_true_iff.1 hdigits
      have hlt := digitValue_lt htens
      have hlt' := digitValue_lt hones
      omega
    · cases h
  · cases h
  · cases h

theorem scaled_lt {digits : List Char} (short : digits.length ≤ 9)
    (all : ∀ c ∈ digits, c.isDigit = true) :
    Nat.ofDigitChars 10 digits 0 * 10 ^ (9 - digits.length) < 1000000000 := by
  calc Nat.ofDigitChars 10 digits 0 * 10 ^ (9 - digits.length)
      < 10 ^ digits.length * 10 ^ (9 - digits.length) :=
        Nat.mul_lt_mul_of_pos_right (ofDigitChars_lt all) (Nat.pow_pos (by decide))
    _ = 10 ^ 9 := by rw [← Nat.pow_add, Nat.add_sub_of_le short]

theorem of_fraction {cs rest : List Char} {n : Nat} (h : fraction cs = .ok (n, rest)) :
    AfterDigit rest cs ∧ n < 1000000000 := by
  have hall : ∀ c ∈ cs.takeWhile Char.isDigit, c.isDigit = true := fun c => List.mem_takeWhile_imp
  simp only [fraction] at h
  split at h
  · cases h
  · cases h
  · rename_i hne
    cases h
    refine ⟨afterDigit_drop hne hall (List.takeWhile_prefix _), ?_⟩
    exact scaled_lt (List.length_take_le ..) fun c hc => hall c (List.mem_of_mem_take hc)

theorem of_optionalFraction {cs rest : List Char} {n : Nat}
    (h : optionalFraction cs = .ok (n, rest)) :
    (rest = cs ∨ AfterDigit rest cs) ∧ n < 1000000000 := by
  unfold optionalFraction at h
  split at h
  · obtain ⟨hafter, hlt⟩ := of_fraction h
    exact ⟨.inr (hafter.of_suffix (List.suffix_cons ..)), hlt⟩
  · cases h
    exact ⟨.inl rfl, by decide⟩

theorem dvd_of_offset {cs rest : List Char} {seconds : Int}
    (h : Reader.offset cs = .ok (seconds, rest)) : 60 ∣ seconds := by
  have hsigned {sign : Int} {cs} (h : signedOffset sign cs = .ok (seconds, rest)) :
      60 ∣ seconds := by
    obtain ⟨⟨hours, _⟩, _, h⟩ := bind_eq_ok_iff.1 h
    obtain ⟨_, _, h⟩ := bind_eq_ok_iff.1 h
    obtain ⟨⟨minutes, _⟩, _, h⟩ := bind_eq_ok_iff.1 h
    cases h
    exact Dvd.dvd.mul_left (by omega) sign
  unfold Reader.offset at h
  split at h
  · cases h
  · split at h
    · cases h
      exact Int.dvd_zero 60
    · split at h
      · exact hsigned h
      · split at h
        · exact hsigned h
        · cases h

theorem shown_of_withOffset {s : String} {t : DateTime} (h : withOffset s = .ok t) :
    ∃ date time, Shown date time t ∧ 0 ≤ date.year ∧ date.year ≤ 9999 := by
  unfold withOffset at h
  split at h
  · cases h
  obtain ⟨⟨century, cs⟩, hcentury, h⟩ := bind_eq_ok_iff.1 h
  obtain ⟨⟨year, cs⟩, hyear, h⟩ := bind_eq_ok_iff.1 h
  obtain ⟨cs, _, h⟩ := bind_eq_ok_iff.1 h
  obtain ⟨⟨month, cs⟩, _, h⟩ := bind_eq_ok_iff.1 h
  obtain ⟨cs, _, h⟩ := bind_eq_ok_iff.1 h
  obtain ⟨⟨day, cs⟩, _, h⟩ := bind_eq_ok_iff.1 h
  dsimp only at h
  split at h
  · cases h
  rename_i hdate
  obtain ⟨cs, _, h⟩ := bind_eq_ok_iff.1 h
  obtain ⟨⟨hour, cs⟩, _, h⟩ := bind_eq_ok_iff.1 h
  obtain ⟨cs, _, h⟩ := bind_eq_ok_iff.1 h
  obtain ⟨⟨minute, cs⟩, _, h⟩ := bind_eq_ok_iff.1 h
  obtain ⟨cs, _, h⟩ := bind_eq_ok_iff.1 h
  obtain ⟨⟨second, cs⟩, _, h⟩ := bind_eq_ok_iff.1 h
  obtain ⟨⟨nanos, cs⟩, hnanos, h⟩ := bind_eq_ok_iff.1 h
  dsimp only at h
  split at h
  · cases h
  rename_i htime
  obtain ⟨⟨offset, cs⟩, hoffset, h⟩ := bind_eq_ok_iff.1 h
  dsimp only at h
  split at h
  · cases h
  split at h
  · cases h
  rename_i hday
  cases h
  have hlt := twoDigits_lt hcentury
  have hlt' := twoDigits_lt hyear
  refine ⟨_, _, ⟨?_, ?_, (of_optionalFraction hnanos).2, ⟨dvd_of_offset hoffset, ?_⟩, rfl⟩, ?_, ?_⟩
  · simpa using hdate
  · simpa using htime
  · exact Nat.not_le.1 hday
  · dsimp only
    omega
  · dsimp only
    omega

/-! ## The forms without an offset -/

theorem afterDigit_of_number? {width n : Nat} {cs rest : List Char}
    (h : number? width cs = some (n, rest)) : AfterDigit rest cs := by
  simp only [number?] at h
  split at h
  · cases h
  · rename_i hne
    cases h
    have hprefix : (cs.take width).takeWhile Char.isDigit <+: cs :=
      (List.takeWhile_prefix _).trans (List.take_prefix ..)
    exact afterDigit_drop (by simpa using hne) (fun c => List.mem_takeWhile_imp) hprefix

theorem afterDigit_of_shortNumber? {n : Nat} {cs rest : List Char}
    (h : shortNumber? cs = some (n, rest)) : AfterDigit rest cs :=
  (afterDigit_of_number? h).of_suffix (List.dropWhile_suffix _)

theorem suffix_of_mark? {expected : Char} {cs rest : List Char}
    (h : mark? expected cs = some rest) : rest <:+ cs := by
  rw [mark?, toOption_eq_some_iff] at h
  unfold mark at h
  split at h
  · split at h
    · cases h
      exact List.suffix_cons ..
    · cases h
  · cases h

theorem suffix_of_year? {year : Int} {cs rest : List Char} (h : year? cs = some (year, rest)) :
    rest <:+ cs := by
  have htrim : Text.trimStart cs <:+ cs := List.dropWhile_suffix _
  unfold year? at h
  split at h
  · rename_i digits hsign
    obtain ⟨⟨n, _⟩, hnumber, he⟩ := Option.map_eq_some_iff.1 h
    cases he
    rw [hsign] at htrim
    exact ((afterDigit_of_number? hnumber).suffix.trans (List.suffix_cons ..)).trans htrim
  · rename_i digits hsign
    obtain ⟨⟨n, _⟩, hnumber, he⟩ := Option.map_eq_some_iff.1 h
    cases he
    rw [hsign] at htrim
    exact ((afterDigit_of_number? hnumber).suffix.trans (List.suffix_cons ..)).trans htrim
  · obtain ⟨⟨n, _⟩, hnumber, he⟩ := Option.map_eq_some_iff.1 h
    cases he
    exact (afterDigit_of_number? hnumber).suffix.trans htrim

theorem of_date? {date : Date} {cs rest : List Char} (h : date? cs = some (date, rest)) :
    date.isValid = true ∧ AfterDigit rest cs := by
  obtain ⟨⟨year, cs₁⟩, hyear, h⟩ := Option.bind_eq_some_iff.1 h
  obtain ⟨cs₂, hmark, h⟩ := Option.bind_eq_some_iff.1 h
  obtain ⟨⟨month, cs₃⟩, hmonth, h⟩ := Option.bind_eq_some_iff.1 h
  obtain ⟨cs₄, hmark', h⟩ := Option.bind_eq_some_iff.1 h
  obtain ⟨⟨day, cs₅⟩, hday, h⟩ := Option.bind_eq_some_iff.1 h
  dsimp only at h
  split at h
  · rename_i hvalid
    cases h
    have hsuffix : cs₄ <:+ cs :=
      (suffix_of_mark? hmark').trans ((afterDigit_of_shortNumber? hmonth).suffix.trans
        ((suffix_of_mark? hmark).trans (suffix_of_year? hyear)))
    exact ⟨hvalid, (afterDigit_of_shortNumber? hday).of_suffix hsuffix⟩
  · cases h

theorem of_time? {time : Time} {cs rest : List Char} (h : time? cs = some (time, rest)) :
    time.isValid = true ∧ time.nanos < 1000000000 ∧ AfterDigit rest cs := by
  obtain ⟨⟨hour, cs₁⟩, hhour, h⟩ := Option.bind_eq_some_iff.1 h
  obtain ⟨cs₂, hmark, h⟩ := Option.bind_eq_some_iff.1 h
  obtain ⟨⟨minute, cs₃⟩, hminute, h⟩ := Option.bind_eq_some_iff.1 h
  obtain ⟨cs₄, hmark', h⟩ := Option.bind_eq_some_iff.1 h
  obtain ⟨⟨second, cs₅⟩, hsecond, h⟩ := Option.bind_eq_some_iff.1 h
  obtain ⟨⟨nanos, cs₆⟩, hnanos, h⟩ := Option.bind_eq_some_iff.1 h
  dsimp only at h
  split at h
  · rename_i hvalid
    cases h
    have hsuffix : cs₄ <:+ cs :=
      (suffix_of_mark? hmark').trans ((afterDigit_of_shortNumber? hminute).suffix.trans
        ((suffix_of_mark? hmark).trans (afterDigit_of_shortNumber? hhour).suffix))
    have hafter := (afterDigit_of_shortNumber? hsecond).of_suffix hsuffix
    obtain ⟨hrest, hlt⟩ := of_optionalFraction (toOption_eq_some_iff.1 hnanos)
    refine ⟨hvalid, hlt, ?_⟩
    rcases hrest with rfl | hfraction
    · exact hafter
    · exact hfraction.of_suffix hafter.suffix
  · cases h

theorem isOffset_zero : IsOffset 0 :=
  ⟨by decide, by decide⟩

theorem of_withoutOffset? {s : String} {t : DateTime} (h : withoutOffset? s = some t) :
    (∃ date time, Shown date time t) ∧ t.offset = 0 ∧ AfterDigit [] s.toList := by
  obtain ⟨⟨date, cs⟩, hdate, h⟩ := Option.bind_eq_some_iff.1 h
  obtain ⟨cs', hmark, h⟩ := Option.bind_eq_some_iff.1 h
  obtain ⟨⟨time, rest⟩, htime, h⟩ := Option.bind_eq_some_iff.1 h
  obtain ⟨hdate, hafter⟩ := of_date? hdate
  obtain ⟨htime, hnanos, hafter'⟩ := of_time? htime
  dsimp only at h
  split at h
  · rename_i hempty
    cases h
    rw [List.isEmpty_iff.1 hempty] at hafter'
    exact ⟨⟨date, time, hdate, htime, hnanos, isOffset_zero, rfl⟩, rfl,
      hafter'.of_suffix ((suffix_of_mark? hmark).trans hafter.suffix)⟩
  · cases h

theorem of_dateAlone? {s : String} {t : DateTime} (h : dateAlone? s = some t) :
    (∃ date time, Shown date time t) ∧ t.offset = 0 ∧ AfterDigit [] s.toList := by
  obtain ⟨⟨date, cs⟩, hdate, h⟩ := Option.bind_eq_some_iff.1 h
  obtain ⟨hdate, hafter⟩ := of_date? hdate
  dsimp only at h
  split at h
  · rename_i hempty
    cases h
    rw [List.isEmpty_iff.1 hempty] at hafter
    exact ⟨⟨date, _, hdate, by decide, by decide, isOffset_zero, rfl⟩, rfl, hafter⟩
  · cases h

theorem ofText_eq_ok_iff {s : String} {t : DateTime} :
    ofText s = .ok t ↔ withOffset s = .ok t ∨
      (∃ fault, withOffset s = .error fault) ∧
        (withoutOffset? s <|> dateAlone? s) = some t := by
  unfold ofText
  cases hread : withOffset s with
  | ok u => simp
  | error fault => cases hrest : (withoutOffset? s <|> dateAlone? s) <;> simp

theorem shown_of_ofText {s : String} {t : DateTime} (h : ofText s = .ok t) :
    ∃ date time, Shown date time t ∧ (0 ≤ date.year ∧ date.year ≤ 9999 ∨ t.offset = 0) := by
  rcases ofText_eq_ok_iff.1 h with hread | ⟨_, hread⟩
  · obtain ⟨date, time, hshown, hyear⟩ := shown_of_withOffset hread
    exact ⟨date, time, hshown, .inl hyear⟩
  · rcases (Option.orElse_eq_some ..).1 hread with hread | ⟨_, hread⟩
    · obtain ⟨⟨date, time, hshown⟩, hoffset, _⟩ := of_withoutOffset? hread
      exact ⟨date, time, hshown, .inr hoffset⟩
    · obtain ⟨⟨date, time, hshown⟩, hoffset, _⟩ := of_dateAlone? hread
      exact ⟨date, time, hshown, .inr hoffset⟩

/-! ## Years outside four digits -/

theorem head_renderYear {year : Int} (h : year < 0 ∨ 9999 < year) :
    ∃ sign rest, sign.isDigit = false ∧ (renderYear year).toList = sign :: rest := by
  unfold renderYear
  split
  · exact ⟨'-', (padded 4 year.natAbs).toList, rfl, by simp⟩
  · rw [if_neg (by omega)]
    exact ⟨'+', (padded 4 year.natAbs).toList, rfl, by simp⟩

theorem withOffset_written_of_outside {date : Date} (time : Time) (offset : Int)
    (h : date.year < 0 ∨ 9999 < date.year) :
    withOffset (written date time offset) = .error .invalid := by
  obtain ⟨sign, rest, hsign, hyear⟩ := head_renderYear h
  have hsize := size_written date time offset
  have hdigits (rest : List Char) : twoDigits (sign :: rest) = .error .invalid := by
    cases rest <;> simp [twoDigits, hsign]
  rw [withOffset, if_neg (Nat.not_lt.2 hsize)]
  simp only [written, renderDate, String.toList_append, hyear, List.cons_append, hdigits]
  rfl

theorem not_afterDigit_written (date : Date) (time : Time) :
    ¬ AfterDigit [] (written date time 0).toList := by
  rintro ⟨before, digit, hdigit, h⟩
  have hlast : (written date time 0).toList =
      (renderDate date ++ "T" ++ renderTime time).toList ++ ['Z'] := by
    simp [written, renderOffset]
  rw [hlast] at h
  obtain ⟨_, he⟩ := List.append_inj' h rfl
  cases he
  cases hdigit

theorem ofText_written_of_outside {date : Date} (time : Time)
    (h : date.year < 0 ∨ 9999 < date.year) : ofText (written date time 0) = .error .invalid := by
  have hwith := withOffset_written_of_outside time 0 h
  have hends := not_afterDigit_written date time
  have hwithout : withoutOffset? (written date time 0) = none :=
    Option.eq_none_iff_forall_ne_some.2 fun _ hread => hends (of_withoutOffset? hread).2.2
  have halone : dateAlone? (written date time 0) = none :=
    Option.eq_none_iff_forall_ne_some.2 fun _ hread => hends (of_dateAlone? hread).2.2
  unfold ofText
  rw [hwith, hwithout, halone]
  rfl

/-! ## Written and read again -/

/-- An accepted text's date-time is written as a text that is read as the same date-time where its
local year has four digits, and otherwise as a text in none of the three forms. -/
theorem ofText_render_iff {s : String} {t : DateTime} (h : ofText s = .ok t) :
    (ofText t.render = .ok t ↔ 0 ≤ t.localDate.year ∧ t.localDate.year ≤ 9999) ∧
      (ofText t.render = .ok t ∨ ofText t.render = .error .invalid) ∧
      (withOffset s = .ok t → ofText t.render = .ok t) := by
  obtain ⟨date, time, hshown, hcase⟩ := shown_of_ofText h
  have hdate := hshown.localDate_eq
  have hrender := hshown.render_eq
  have hinside (hyear : 0 ≤ date.year ∧ date.year ≤ 9999) : ofText t.render = .ok t := by
    have hread := withOffset_written hshown.validDate hyear.1 hyear.2 hshown.validTime
      hshown.fraction hshown.isOffset
    rw [← hshown.eq] at hread
    rw [hrender, ofText_eq_ok_iff]
    exact .inl hread
  have houtside (hyear : ¬ (0 ≤ date.year ∧ date.year ≤ 9999)) :
      ofText t.render = .error .invalid := by
    rw [hrender, hcase.resolve_left hyear]
    exact ofText_written_of_outside time (by omega)
  rw [hdate]
  refine ⟨⟨fun hread => ?_, hinside⟩, ?_, fun hread => ?_⟩
  · by_contra hyear
    rw [houtside hyear] at hread
    cases hread
  · by_cases hyear : 0 ≤ date.year ∧ date.year ≤ 9999
    · exact .inl (hinside hyear)
    · exact .inr (houtside hyear)
  · obtain ⟨date', time', hshown', hyear⟩ := shown_of_withOffset hread
    rw [← hshown'.localDate_eq, hdate] at hyear
    exact hinside hyear

/-- A leap second with a fraction, east of universal time. -/
def leapSecond : DateTime :=
  ⟨1483228799, 1500000000, 19800⟩

theorem ofText_render_leapSecond :
    ofText "2017-01-01t05:29:60.5+05:30" = .ok leapSecond ∧
      ofText leapSecond.render = .ok leapSecond := by
  have hread : ofText "2017-01-01t05:29:60.5+05:30" = .ok leapSecond := by decide
  exact ⟨hread, (ofText_render_iff hread).1.2 (by decide)⟩

/-- The first day of a year of five digits. -/
def fiveDigits : DateTime :=
  ⟨327403382400, 0, 0⟩

theorem fiveDigits_not_read_again :
    ofText "+12345-01-01" = .ok fiveDigits ∧ fiveDigits.render = "+12345-01-01T00:00:00Z" ∧
      ofText fiveDigits.render = .error .invalid := by
  decide

end OpenApi.DateTime
