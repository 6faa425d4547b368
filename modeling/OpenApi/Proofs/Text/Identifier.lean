import Mathlib.Data.List.Basic
import OpenApi.Proofs.Text.IdentifierChars
import OpenApi.Proofs.Text.Words

/-!
# The characters of spelled words

A spelling keeps the word characters of a text and changes their case. Which of them an identifier
can have is the same before and after.
-/

namespace OpenApi.Text

/-! ## Ranges and cases -/

namespace CharRange

/-- The range lies in one of the ranges. -/
def within (ranges : List CharRange) (r : CharRange) : Bool :=
  ranges.any fun s => s.first.ble r.first && r.last.ble s.last

/-- The range meets none of the ranges. -/
def apart (ranges : List CharRange) (r : CharRange) : Bool :=
  ranges.all fun s => r.last.blt s.first || s.last.blt r.first

/-- The first character of the range and every one `step` further on lie in the ranges. -/
def covered (ranges : List CharRange) (step : Nat) (r : CharRange) : Bool :=
  within ranges r || (List.range ((r.last - r.first) / step + 1)).all fun i =>
    within ranges ⟨r.first + i * step, r.first + i * step⟩

variable {ranges : List CharRange} {r : CharRange} {c : Char}

theorem anyContains_of_within (h : within ranges r = true) (mem : r.contains c = true) :
    anyContains ranges c = true := by
  obtain ⟨s, hs, hin⟩ := List.any_eq_true.1 h
  simp only [contains, Bool.and_eq_true, decide_eq_true_eq, Nat.ble_eq] at hin mem
  exact anyContains_iff.2 ⟨s, hs, by omega, by omega⟩

theorem anyContains_mono {inner outer : List CharRange} (sub : inner ⊆ outer)
    (h : anyContains inner c = true) : anyContains outer c = true := by
  obtain ⟨r, hr, hc⟩ := anyContains_iff.1 h
  exact anyContains_iff.2 ⟨r, sub hr, hc⟩

theorem anyContains_of_covered {step : Nat} (h : covered ranges step r = true)
    (mem : r.contains c = true) (aligned : (c.toNat - r.first) % step = 0) :
    anyContains ranges c = true := by
  rw [covered, Bool.or_eq_true] at h
  rcases h with hin | hsteps
  · exact anyContains_of_within hin mem
  · simp only [contains, Bool.and_eq_true, decide_eq_true_eq] at mem
    have hcode : r.first + (c.toNat - r.first) / step * step = c.toNat := by
      rw [Nat.div_mul_cancel (Nat.dvd_of_mod_eq_zero aligned)]
      omega
    have hle : (c.toNat - r.first) / step ≤ (r.last - r.first) / step :=
      Nat.div_le_div_right (by omega)
    have hin := List.all_eq_true.1 hsteps _ (List.mem_range.2 (Nat.lt_succ_of_le hle))
    rw [hcode] at hin
    exact anyContains_of_within hin (by simp [contains])

theorem not_anyContains_of_apart (h : apart ranges r = true) (mem : r.contains c = true) :
    anyContains ranges c = false := by
  rw [Bool.eq_false_iff]
  intro hany
  obtain ⟨s, hs, hfirst, hlast⟩ := anyContains_iff.1 hany
  have hapart := List.all_eq_true.1 h s hs
  simp only [Bool.or_eq_true, Nat.blt_eq] at hapart
  simp only [contains, Bool.and_eq_true, decide_eq_true_eq] at mem
  omega

end CharRange

namespace CaseRun

/-- The characters from the first to the last that the run maps. -/
def source (r : CaseRun) : CharRange :=
  ⟨r.first, r.last⟩

/-- The characters from the first to the last that it maps to. -/
def image (r : CaseRun) : CharRange :=
  ⟨(r.first + r.shift).toNat, (r.last + r.shift).toNat⟩

/-- The run maps characters of the inner ranges to such, or characters outside the outer ranges to
such. -/
def keeps (inner outer : List CharRange) (r : CaseRun) : Bool :=
  0 ≤ r.first + r.shift &&
    (r.image.last < 0xD800 || 0xDFFF < r.image.first && r.image.last < 0x110000) &&
      (CharRange.covered inner r.step r.source && CharRange.covered inner r.step r.image ||
        CharRange.apart outer r.source && CharRange.apart outer r.image)

variable {r : CaseRun} {inner outer : List CharRange} {c : Char}

theorem toNat_apply (h : r.contains c = true) (pos : 0 ≤ r.first + r.shift)
    (valid : r.image.last < 0xD800 ∨ 0xDFFF < r.image.first ∧ r.image.last < 0x110000) :
    (r.apply c).toNat = ((c.toNat : Int) + r.shift).toNat := by
  simp only [contains, Bool.and_eq_true, decide_eq_true_eq] at h
  simp only [image] at valid
  have hvalid : ((c.toNat : Int) + r.shift).toNat.isValidChar := by
    unfold Nat.isValidChar
    omega
  rw [apply, Char.ofNat, dif_pos hvalid]
  rfl

theorem anyContains_apply (sub : inner ⊆ outer) (h : r.keeps inner outer = true)
    (holds : r.contains c = true) :
    CharRange.anyContains outer (r.apply c) = CharRange.anyContains outer c := by
  simp only [keeps, Bool.and_eq_true, Bool.or_eq_true, decide_eq_true_eq] at h
  obtain ⟨⟨hpos, hvalid⟩, hcases⟩ := h
  have hcode := toNat_apply holds hpos hvalid
  simp only [contains, Bool.and_eq_true, decide_eq_true_eq, beq_iff_eq] at holds
  obtain ⟨⟨hfirst, hlast⟩, haligned⟩ := holds
  have hsource : r.source.contains c = true := by
    simp [CharRange.contains, source, hfirst, hlast]
  have himage : r.image.contains (r.apply c) = true := by
    simp only [CharRange.contains, image, hcode, Bool.and_eq_true, decide_eq_true_eq]
    omega
  have hsame : (r.apply c).toNat - r.image.first = c.toNat - r.first := by
    simp only [image, hcode]
    omega
  rcases hcases with ⟨hin, hin'⟩ | ⟨hout, hout'⟩
  · rw [CharRange.anyContains_mono sub (CharRange.anyContains_of_covered hin hsource haligned),
      CharRange.anyContains_mono sub
        (CharRange.anyContains_of_covered hin' himage (by rw [hsame, haligned]))]
  · rw [CharRange.not_anyContains_of_apart hout hsource,
      CharRange.not_anyContains_of_apart hout' himage]

end CaseRun

/-- The tables of a case mapping that maps characters of the ranges to such, and other characters to
others. The tables are checked entry by entry. -/
structure CaseTable (ranges : List CharRange) where
  ascii : Char → Char
  expansions : List (Nat × List Nat)
  runs : List CaseRun
  -- The few ranges that the entries are looked up in first.
  inner : List CharRange
  sub : inner.Sublist ranges := by decide +kernel
  keepsAscii : ∀ n < 0x80, ascii (Char.ofNat n) = Char.ofNat n ∨
    CharRange.anyContains inner (ascii (Char.ofNat n)) = true ∧
      CharRange.anyContains inner (Char.ofNat n) = true := by decide +kernel
  keepsExpansions : ∀ e ∈ expansions, ∀ n ∈ e.1 :: e.2,
    CharRange.anyContains inner (Char.ofNat n) = true := by decide +kernel
  keepsRuns : ∀ run ∈ runs, run.keeps inner ranges = true := by decide +kernel

namespace CaseTable

variable {ranges : List CharRange} {c d : Char}

/-- The spelling of a character. -/
def map (t : CaseTable ranges) (c : Char) : List Char :=
  if c.toNat < 0x80 then [t.ascii c] else mapCase t.expansions t.runs c

theorem anyContains_mapCase (t : CaseTable ranges) (mem : d ∈ mapCase t.expansions t.runs c) :
    CharRange.anyContains ranges d = CharRange.anyContains ranges c := by
  unfold mapCase at mem
  split at mem
  · rename_i code cs hfound
    have hcode : code = c.toNat := by simpa using List.find?_some hfound
    have hinner := t.keepsExpansions _ (List.mem_of_find?_eq_some hfound)
    obtain ⟨n, hn, rfl⟩ := List.mem_map.1 mem
    have hc := hinner code List.mem_cons_self
    rw [hcode, Char.ofNat_toNat] at hc
    rw [CharRange.anyContains_mono t.sub.subset (hinner n (List.mem_cons_of_mem _ hn)),
      CharRange.anyContains_mono t.sub.subset hc]
  · split at mem
    · rename_i run hfound
      have hholds := List.find?_some hfound
      rw [List.mem_singleton.1 mem]
      exact CaseRun.anyContains_apply t.sub.subset
        (t.keepsRuns run (List.mem_of_find?_eq_some hfound)) hholds
    · rw [List.mem_singleton.1 mem]

theorem anyContains_map (t : CaseTable ranges) (mem : d ∈ t.map c) :
    CharRange.anyContains ranges d = CharRange.anyContains ranges c := by
  unfold map at mem
  split at mem
  · rename_i hascii
    obtain rfl := List.mem_singleton.1 mem
    have hcase := t.keepsAscii c.toNat hascii
    rw [Char.ofNat_toNat] at hcase
    rcases hcase with hsame | ⟨hmapped, hinner⟩
    · rw [hsame]
    · rw [CharRange.anyContains_mono t.sub.subset hmapped,
        CharRange.anyContains_mono t.sub.subset hinner]
  · exact t.anyContains_mapCase mem

end CaseTable

/-! ## The tables -/

/-- The letters with a case and the marks that some of them bring. -/
def markedRanges : List CharRange :=
  casedRanges ++ [⟨0x300, 0x36F⟩]

/-- What can stand in front of a small name: a letter or an ASCII digit. -/
def firstRanges : List CharRange :=
  ⟨0x30, 0x39⟩ :: startRanges

/-- ASCII letters, digits and the underscore, and all characters that are not ASCII. -/
def nameRanges : List CharRange :=
  [⟨0x30, 0x39⟩, ⟨0x41, 0x5A⟩, ⟨0x5F, 0x5F⟩, ⟨0x61, 0x7A⟩, ⟨0x80, 0x10FFFF⟩]

def lowercaseXid : CaseTable xidRanges where
  ascii := Char.toLower
  expansions := lowercaseExpansions
  runs := lowercaseRuns
  inner := markedRanges

def uppercaseXid : CaseTable xidRanges where
  ascii := Char.toUpper
  expansions := uppercaseExpansions
  runs := uppercaseRuns
  inner := markedRanges

/-- Of several small letters only the first stands in front. -/
def lowercaseFirst : CaseTable firstRanges where
  ascii := Char.toLower
  expansions := lowercaseExpansions.map fun e => (e.1, e.2.take 1)
  runs := lowercaseRuns
  inner := casedRanges

def lowercaseName : CaseTable nameRanges where
  ascii := Char.toLower
  expansions := lowercaseExpansions
  runs := lowercaseRuns
  inner := nameRanges

def uppercaseName : CaseTable nameRanges where
  ascii := Char.toUpper
  expansions := uppercaseExpansions
  runs := uppercaseRuns
  inner := nameRanges

/-! ## Characters of identifiers -/

theorem isXidContinue_of_isXidStart {c : Char} (h : isXidStart c = true) :
    isXidContinue c = true :=
  CharRange.anyContains_mono (List.subset_append_left _ _) h

theorem isXidStart_of_isAlpha {c : Char} (h : c.isAlpha = true) : isXidStart c = true := by
  have hupper : (⟨0x41, 0x5A⟩ : CharRange) ∈ startRanges := by decide
  have hlower : (⟨0x61, 0x7A⟩ : CharRange) ∈ startRanges := by decide
  rcases Bool.or_eq_true_iff.1 h with h | h
  · obtain ⟨hfirst, hlast⟩ := of_decide_eq_true h
    exact CharRange.anyContains_iff.2
      ⟨_, hupper, UInt32.le_iff_toNat_le.1 hfirst, UInt32.le_iff_toNat_le.1 hlast⟩
  · obtain ⟨hfirst, hlast⟩ := Bool.and_eq_true_iff.1 h
    exact CharRange.anyContains_iff.2 ⟨_, hlower,
      UInt32.le_iff_toNat_le.1 (of_decide_eq_true hfirst),
      UInt32.le_iff_toNat_le.1 (of_decide_eq_true hlast)⟩

theorem isXidContinue_of_isAlphanum {c : Char} (h : c.isAlphanum = true) :
    isXidContinue c = true := by
  have hdigits : (⟨0x30, 0x39⟩ : CharRange) ∈ continueOnlyRanges := by decide
  rcases Bool.or_eq_true_iff.1 h with halpha | hdigit
  · exact isXidContinue_of_isXidStart (isXidStart_of_isAlpha halpha)
  · exact CharRange.anyContains_iff.2
      ⟨_, List.mem_append_right _ hdigits, Char.isDigit_iff_toNat.1 hdigit⟩

theorem isXidContinue_underscore : isXidContinue '_' = true := by
  have hmem : (⟨0x5F, 0x5F⟩ : CharRange) ∈ continueOnlyRanges := by decide
  exact CharRange.anyContains_iff.2 ⟨_, List.mem_append_right _ hmem, by decide, by decide⟩

theorem isXidStart_sigma {c : Char} (h : c = 'Σ' ∨ c = 'ς') : isXidStart c = true := by
  have hmem : (⟨0x3A3, 0x3F5⟩ : CharRange) ∈ startRanges := by decide
  rcases h with rfl | rfl
  · exact CharRange.anyContains_iff.2 ⟨_, hmem, by decide, by decide⟩
  · exact CharRange.anyContains_iff.2 ⟨_, hmem, by decide, by decide⟩

theorem isXidContinue_sigma : isXidContinue 'ς' = isXidContinue 'Σ' := by
  rw [isXidContinue_of_isXidStart (isXidStart_sigma (.inl rfl)),
    isXidContinue_of_isXidStart (isXidStart_sigma (.inr rfl))]

theorem isXidContinue_toLowercase {c d : Char} (mem : d ∈ toLowercase c) :
    isXidContinue d = isXidContinue c :=
  lowercaseXid.anyContains_map mem

theorem isXidContinue_toUppercase {c d : Char} (mem : d ∈ toUppercase c) :
    isXidContinue d = isXidContinue c :=
  uppercaseXid.anyContains_map mem

theorem first_of_isXidStart {c : Char} (h : isXidStart c = true) :
    CharRange.anyContains firstRanges c = true :=
  CharRange.anyContains_mono (List.subset_cons_self _ _) h

theorem head?_mapCase (expansions : List (Nat × List Nat)) (runs : List CaseRun) (c : Char) :
    (mapCase expansions runs c).head? =
      (mapCase (expansions.map fun e => (e.1, e.2.take 1)) runs c).head? := by
  have hfind : (expansions.map fun e => (e.1, e.2.take 1)).find? (·.1 == c.toNat) =
      (expansions.find? (·.1 == c.toNat)).map fun e => (e.1, e.2.take 1) := List.find?_map ..
  unfold mapCase
  rw [hfind]
  cases expansions.find? (·.1 == c.toNat) with
  | none => rfl
  | some e =>
    obtain ⟨code, cs⟩ := e
    cases cs <;> rfl

theorem first_toLowercase {c d : Char} (head : (toLowercase c).head? = some d) :
    CharRange.anyContains firstRanges d = CharRange.anyContains firstRanges c := by
  refine lowercaseFirst.anyContains_map ?_
  unfold toLowercase at head
  split at head
  · rename_i hascii
    rw [CaseTable.map, if_pos hascii]
    exact List.mem_of_mem_head? head
  · rename_i hascii
    rw [head?_mapCase] at head
    rw [CaseTable.map, if_neg hascii]
    exact List.mem_of_mem_head? head

/-! ## Spelled words -/

section Spelled

variable {P : Char → Bool} (lowercase : ∀ c, ∀ d ∈ toLowercase c, P d = P c)

theorem all_mapped {c : Char} {cs : List Char} (ne : cs ≠ []) (same : ∀ d ∈ cs, P d = P c) :
    cs.all P = P c := by
  obtain ⟨d, rest, rfl⟩ := List.exists_cons_of_ne_nil ne
  rw [Bool.eq_iff_iff, List.all_eq_true]
  refine ⟨fun h => ?_, fun h d hd => (same d hd).trans h⟩
  rw [← same d List.mem_cons_self]
  exact h d List.mem_cons_self

include lowercase

theorem all_lower (sigma : P 'ς' = P 'Σ') (w : List Char) : (lower w).all P = w.all P := by
  fun_induction lower w with
  | case1 => rfl
  | case2 => simp [sigma]
  | case3 c _ => rw [all_mapped (toLowercase_ne_nil c) (lowercase c), List.all_cons, List.all_nil,
      Bool.and_true]
  | case4 c rest _ ih => rw [List.all_append, ih, all_mapped (toLowercase_ne_nil c) (lowercase c),
      List.all_cons]

omit lowercase in
theorem toUppercase_ne_nil (c : Char) : toUppercase c ≠ [] := by
  unfold toUppercase
  split
  · exact List.cons_ne_nil _ _
  · exact unmarked_uppercase.mapCase_ne_nil c

theorem all_capitalize (uppercase : ∀ c, ∀ d ∈ toUppercase c, P d = P c) (sigma : P 'ς' = P 'Σ')
    (w : List Char) : (capitalize w).all P = w.all P := by
  cases w with
  | nil => rfl
  | cons c rest =>
    rw [capitalize, List.all_append, all_lower lowercase sigma,
      all_mapped (toUppercase_ne_nil c) (uppercase c), List.all_cons]

theorem all_snakeCase (sigma : P 'ς' = P 'Σ') (underscore : P '_' = true)
    (ws : List (List Char)) : (snakeCase ws).toList.all P = ws.flatten.all P := by
  induction ws with
  | nil => rfl
  | cons w rest ih =>
    cases rest with
    | nil => simp [snakeCase, all_lower lowercase sigma]
    | cons next rest =>
      have hcons : snakeCase (w :: next :: rest) =
          String.ofList (lower w) ++ "_" ++ snakeCase (next :: rest) :=
        String.intercalate_cons_cons
      rw [hcons, String.toList_append, String.toList_append, List.all_append, List.all_append, ih,
        String.toList_ofList, all_lower lowercase sigma, List.flatten_cons, List.all_append]
      simp [underscore]

end Spelled

/-! ## Words -/

/-- The characters of a text that its words are made of. -/
def wordChars (s : String) : List Char :=
  s.toList.filter isWordChar

theorem flatten_runsFrom (run cs : List Char) :
    (runsFrom run cs).flatten = run.reverse ++ cs.filter isWordChar := by
  fun_induction runsFrom run cs with
  | case1 => simp_all
  | case2 => simp_all
  | case3 => simp_all
  | case4 => simp_all
  | case5 => simp_all

theorem flatten_humpsFrom (hump : Hump) (word : List Char) {cs : List Char} (ne : cs ≠ []) :
    (humpsFrom hump word cs).flatten = word.reverse ++ cs := by
  fun_induction humpsFrom hump word cs with
  | case1 => exact absurd rfl ne
  | case2 => simp
  | case3 => simp_all
  | case4 => simp_all
  | case5 => simp_all

theorem flatten_humps (run : List Char) : (humps run).flatten = run := by
  cases run with
  | nil => rfl
  | cons c rest => exact flatten_humpsFrom _ _ (List.cons_ne_nil _ _)

theorem flatten_words (s : String) : (words s).flatten = wordChars s := by
  have hruns : List.flatten ∘ humps = id := funext flatten_humps
  rw [words, List.flatMap_def, List.flatten_flatten, List.map_map, hruns, List.map_id, runs,
    flatten_runsFrom, List.reverse_nil, List.nil_append, wordChars]

theorem all_pascalCase {P : Char → Bool} (lowercase : ∀ c, ∀ d ∈ toLowercase c, P d = P c)
    (uppercase : ∀ c, ∀ d ∈ toUppercase c, P d = P c) (sigma : P 'ς' = P 'Σ')
    (ws : List (List Char)) : (pascalCase ws).toList.all P = ws.flatten.all P := by
  rw [pascalCase, String.toList_ofList]
  induction ws with
  | nil => rfl
  | cons w rest ih =>
    rw [List.flatMap_cons, List.all_append, ih, all_capitalize lowercase uppercase sigma,
      List.flatten_cons, List.all_append]

theorem all_xid_pascalCase (s : String) :
    (pascalCase (words s)).toList.all isXidContinue = (wordChars s).all isXidContinue := by
  rw [all_pascalCase (fun _ _ => isXidContinue_toLowercase) (fun _ _ => isXidContinue_toUppercase)
    isXidContinue_sigma, flatten_words]

/-! ## What stands in front -/

theorem head?_snakeCase {w : List Char} (ne : w ≠ []) (rest : List (List Char)) :
    (snakeCase (w :: rest)).toList.head? = (lower w).head? := by
  cases rest with
  | nil => simp [snakeCase]
  | cons next rest =>
    have hcons : snakeCase (w :: next :: rest) =
        String.ofList (lower w) ++ "_" ++ snakeCase (next :: rest) := String.intercalate_cons_cons
    rw [hcons, String.toList_append, String.toList_append, List.append_assoc, String.toList_ofList,
      List.head?_append_of_ne_nil _ (lower_ne_nil ne)]

theorem first_lower (c : Char) (rest : List Char) :
    ((lower (c :: rest)).head?).all (CharRange.anyContains firstRanges) =
      CharRange.anyContains firstRanges c := by
  have hmapped : (toLowercase c).head?.all (CharRange.anyContains firstRanges) =
      CharRange.anyContains firstRanges c := by
    obtain ⟨d, _, hlower⟩ := List.exists_cons_of_ne_nil (toLowercase_ne_nil c)
    have hd : (toLowercase c).head? = some d := by rw [hlower]; rfl
    rw [hd, Option.all_some, first_toLowercase hd]
  cases rest with
  | nil =>
    rw [lower]
    split
    · rename_i hsigma
      rw [hsigma, List.head?_cons, Option.all_some,
        first_of_isXidStart (isXidStart_sigma (.inl rfl)),
        first_of_isXidStart (isXidStart_sigma (.inr rfl))]
    · exact hmapped
  | cons d rest =>
    have hlower : lower (c :: d :: rest) = toLowercase c ++ lower (d :: rest) := rfl
    rw [hlower, List.head?_append_of_ne_nil _ (toLowercase_ne_nil c), hmapped]

/-! ## Characters of names -/

theorem name_toLowercase {c d : Char} (mem : d ∈ toLowercase c) :
    CharRange.anyContains nameRanges d = CharRange.anyContains nameRanges c :=
  lowercaseName.anyContains_map mem

theorem name_toUppercase {c d : Char} (mem : d ∈ toUppercase c) :
    CharRange.anyContains nameRanges d = CharRange.anyContains nameRanges c :=
  uppercaseName.anyContains_map mem

theorem name_of_isWordChar {c : Char} (h : isWordChar c = true) :
    CharRange.anyContains nameRanges c = true := by
  by_cases hascii : c.toNat < 0x80
  · have hname : isWordChar c = true → CharRange.anyContains nameRanges c = true :=
      forall_ascii (P := fun c => isWordChar c = true → CharRange.anyContains nameRanges c = true)
        (by decide +kernel) hascii
    exact hname h
  · have hlt : c.toNat < 0x110000 := by
      have hvalid := c.valid
      simp only [UInt32.isValidChar, Nat.isValidChar, Char.toNat_val] at hvalid
      omega
    exact CharRange.anyContains_iff.2
      ⟨⟨0x80, 0x10FFFF⟩, by decide, Nat.le_of_not_lt hascii, Nat.le_of_lt_succ hlt⟩

theorem name_of_mem_pascalCase {s : String} :
    ∀ c ∈ (pascalCase (words s)).toList, CharRange.anyContains nameRanges c = true := by
  rw [← List.all_eq_true, all_pascalCase (fun _ _ => name_toLowercase)
    (fun _ _ => name_toUppercase) (by decide), flatten_words, List.all_eq_true]
  exact fun c hc => name_of_isWordChar (List.mem_filter.1 hc).2

end OpenApi.Text

namespace OpenApi

open Text

/-! ## Local names -/

theorem all_localName {P : Char → Bool} (lowercase : ∀ c, ∀ d ∈ toLowercase c, P d = P c)
    (sigma : P 'ς' = P 'Σ') (letters : ('_' :: "unnamed".toList).all P = true) (wire : String) :
    (localName wire).toList.all P = (wordChars wire).all P := by
  obtain ⟨hunderscore, hunnamed⟩ := Bool.and_eq_true_iff.1 letters
  rw [localName, all_snakeCase lowercase sigma hunderscore, ← flatten_words, nameWords]
  split
  · rename_i hnone
    rw [hnone, List.flatten_singleton, List.flatten_nil, List.all_nil]
    exact hunnamed
  · rfl

theorem all_xid_localName (wire : String) :
    (localName wire).toList.all isXidContinue = (wordChars wire).all isXidContinue := by
  have hunnamed : "unnamed".toList.all Char.isAlphanum = true := by decide
  refine all_localName (fun _ _ => isXidContinue_toLowercase) isXidContinue_sigma ?_ wire
  refine Bool.and_eq_true_iff.2 ⟨isXidContinue_underscore, List.all_eq_true.2 fun c hc => ?_⟩
  exact isXidContinue_of_isAlphanum (List.all_eq_true.1 hunnamed c hc)

theorem first_localName (wire : String) :
    (localName wire).toList.head?.all (CharRange.anyContains firstRanges) =
      (wordChars wire).head?.all (CharRange.anyContains firstRanges) := by
  rw [localName, ← flatten_words, nameWords]
  split
  · rename_i hnone
    rw [hnone]
    decide
  · cases hwords : words wire with
    | nil => rfl
    | cons w rest =>
      have hne := (isWord_of_mem_words (hwords ▸ List.mem_cons_self : w ∈ words wire)).ne_nil
      obtain ⟨c, cs, rfl⟩ := List.exists_cons_of_ne_nil hne
      rw [head?_snakeCase hne, first_lower]
      rfl

theorem name_of_mem_localName {wire : String} :
    ∀ c ∈ (localName wire).toList, CharRange.anyContains nameRanges c = true := by
  rw [← List.all_eq_true, all_localName (fun _ _ => name_toLowercase) (by decide)
    (by decide), List.all_eq_true]
  exact fun c hc => name_of_isWordChar (List.mem_filter.1 hc).2

end OpenApi
