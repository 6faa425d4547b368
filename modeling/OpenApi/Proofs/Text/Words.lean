import OpenApi.Naming

/-!
# The characters of names

Local names are words of word characters with an underscore between any two. The marks that set a
name apart in a module are no word characters, and no letter has one in its small or capital form.
-/

namespace OpenApi

namespace Text

/-- The characters that stand around the words of a name. -/
def marks : List Char :=
  ['\n', '#', '(', '<', '_']

theorem not_mark_of_isWordChar {c : Char} (h : isWordChar c = true) : c ∉ marks := by
  intro hc
  have hmarks : marks.all (fun m => !isWordChar m) = true := by decide
  have hnot := List.all_eq_true.1 hmarks c hc
  rw [h] at hnot
  cases hnot

/-! ## Cases -/

/-- The tables of a case map nothing to a mark, and everything to something. -/
structure Unmarked (expansions : List (Nat × List Nat)) (runs : List CaseRun) : Prop where
  expanded : ∀ e ∈ expansions, e.2 ≠ [] ∧ ∀ n ∈ e.2, Char.ofNat n ∉ marks
  shifted : ∀ run ∈ runs, ∀ code ∈ marks.map Char.toNat,
    (code : Int) < run.first + run.shift ∨ run.last + run.shift < code

theorem unmarked_lowercase : Unmarked lowercaseExpansions lowercaseRuns :=
  ⟨by decide +kernel, by decide +kernel⟩

theorem unmarked_uppercase : Unmarked uppercaseExpansions uppercaseRuns :=
  ⟨by decide +kernel, by decide +kernel⟩

theorem toNat_ofNat_of_pos {n : Nat} (h : 0 < (Char.ofNat n).toNat) : (Char.ofNat n).toNat = n := by
  unfold Char.ofNat at h ⊢
  by_cases hvalid : n.isValidChar
  · rw [dif_pos hvalid]
    rfl
  · rw [dif_neg hvalid] at h
    cases h

namespace Unmarked

variable {expansions : List (Nat × List Nat)} {runs : List CaseRun} {c d : Char}

theorem not_mark_apply (h : Unmarked expansions runs) {run : CaseRun} (mem : run ∈ runs)
    (holds : run.contains c = true) : run.apply c ∉ marks := by
  intro hmark
  simp only [CaseRun.contains, Bool.and_eq_true, decide_eq_true_eq] at holds
  obtain ⟨⟨hfirst, hlast⟩, _⟩ := holds
  have hcodes : ∀ code ∈ marks.map Char.toNat, 0 < code := by decide
  have hmem := List.mem_map_of_mem (f := Char.toNat) hmark
  have hpos : 0 < (run.apply c).toNat := hcodes _ hmem
  have hcode : (run.apply c).toNat = (c.toNat + run.shift).toNat := toNat_ofNat_of_pos hpos
  -- A code that no character has would be the null character's, which is no mark.
  rcases h.shifted run mem _ hmem with hbelow | habove <;> omega

theorem not_mark_mapCase (h : Unmarked expansions runs) (plain : c ∉ marks)
    (mem : d ∈ mapCase expansions runs c) : d ∉ marks := by
  unfold mapCase at mem
  split at mem
  · rename_i cs hfound
    obtain ⟨n, hn, rfl⟩ := List.mem_map.1 mem
    exact (h.expanded _ (List.mem_of_find?_eq_some hfound)).2 n hn
  · split at mem
    · rename_i run hfound
      have hholds := List.find?_some hfound
      rw [List.mem_singleton.1 mem]
      exact h.not_mark_apply (List.mem_of_find?_eq_some hfound) hholds
    · rw [List.mem_singleton.1 mem]
      exact plain

theorem mapCase_ne_nil (h : Unmarked expansions runs) (c : Char) :
    mapCase expansions runs c ≠ [] := by
  unfold mapCase
  split
  · rename_i cs hfound
    have hcs := (h.expanded _ (List.mem_of_find?_eq_some hfound)).1
    simpa using hcs
  · split <;> exact List.cons_ne_nil _ _

end Unmarked

theorem forall_ascii {P : Char → Prop} (h : ∀ n < 0x80, P (Char.ofNat n)) {c : Char}
    (ascii : c.toNat < 0x80) : P c := by
  have hc := h c.toNat ascii
  rwa [Char.ofNat_toNat] at hc

theorem not_mark_toLowercase {c d : Char} (plain : c ∉ marks) (mem : d ∈ toLowercase c) :
    d ∉ marks := by
  unfold toLowercase at mem
  split at mem
  · rename_i hascii
    have hlower : c ∉ marks → c.toLower ∉ marks :=
      forall_ascii (P := fun c => c ∉ marks → c.toLower ∉ marks) (by decide) hascii
    rw [List.mem_singleton.1 mem]
    exact hlower plain
  · exact unmarked_lowercase.not_mark_mapCase plain mem

theorem not_mark_toUppercase {c d : Char} (plain : c ∉ marks) (mem : d ∈ toUppercase c) :
    d ∉ marks := by
  unfold toUppercase at mem
  split at mem
  · rename_i hascii
    have hupper : c ∉ marks → c.toUpper ∉ marks :=
      forall_ascii (P := fun c => c ∉ marks → c.toUpper ∉ marks) (by decide) hascii
    rw [List.mem_singleton.1 mem]
    exact hupper plain
  · exact unmarked_uppercase.not_mark_mapCase plain mem

theorem toLowercase_ne_nil (c : Char) : toLowercase c ≠ [] := by
  unfold toLowercase
  split
  · exact List.cons_ne_nil _ _
  · exact unmarked_lowercase.mapCase_ne_nil c

/-! ## Words -/

/-- A word that names are made of. -/
structure IsWord (w : List Char) : Prop where
  ne_nil : w ≠ []
  plain : ∀ c ∈ w, c ∉ marks

theorem isWord_of_mem_runsFrom {run cs w : List Char} (read : ∀ c ∈ run, c ∉ marks)
    (mem : w ∈ runsFrom run cs) : IsWord w := by
  have hrun : run ≠ [] → IsWord run.reverse := fun hne =>
    ⟨by simpa using hne, fun c hc => read c (List.mem_reverse.1 hc)⟩
  induction cs generalizing run with
  | nil =>
    rw [runsFrom] at mem
    split at mem
    · cases mem
    · rename_i hne
      rw [List.mem_singleton.1 mem]
      exact hrun (by simpa using hne)
  | cons c rest ih =>
    rw [runsFrom] at mem
    split at mem
    · rename_i hc
      have hread : ∀ d ∈ c :: run, d ∉ marks :=
        List.forall_mem_cons.2 ⟨not_mark_of_isWordChar hc, read⟩
      exact ih hread mem fun hne =>
        ⟨by simp, fun d hd => hread d (List.mem_reverse.1 hd)⟩
    · split at mem
      · exact ih (by simp) mem fun hne => absurd rfl hne
      · rename_i hne
        rcases List.mem_cons.1 mem with rfl | mem
        · exact hrun (by simpa using hne)
        · exact ih (by simp) mem fun hne => absurd rfl hne

theorem isWord_of_mem_humpsFrom {hump : Hump} {word cs w : List Char}
    (read : ∀ c ∈ word, c ∉ marks) (unread : ∀ c ∈ cs, c ∉ marks)
    (started : hump = .capital → word ≠ []) (mem : w ∈ humpsFrom hump word cs) : IsWord w := by
  have hadd : ∀ {c : Char} {word : List Char}, (∀ d ∈ word, d ∉ marks) → c ∉ marks →
      IsWord (c :: word).reverse := by
    intro c word hword hc
    have hall : ∀ d ∈ c :: word, d ∉ marks := List.forall_mem_cons.2 ⟨hc, hword⟩
    exact ⟨by simp, fun d hd => hall d (List.mem_reverse.1 hd)⟩
  fun_induction humpsFrom hump word cs with
  | case1 => cases mem
  | case2 hump word c =>
    rw [List.mem_singleton.1 mem]
    exact hadd read (unread c List.mem_cons_self)
  | case3 hump word c d rest _ ih =>
    obtain ⟨hc, hrest⟩ := List.forall_mem_cons.1 unread
    rcases List.mem_cons.1 mem with rfl | mem
    · exact hadd read hc
    · exact ih (by simp) hrest (by simp) mem
  | case4 hump word c d rest _ hcut ih =>
    obtain ⟨hc, hrest⟩ := List.forall_mem_cons.1 unread
    rcases List.mem_cons.1 mem with rfl | mem
    · simp only [Bool.and_eq_true, decide_eq_true_eq] at hcut
      exact ⟨by simpa using started hcut.1.1, fun d hd => read d (List.mem_reverse.1 hd)⟩
    · exact ih (by simpa using hc) hrest (by simp) mem
  | case5 hump word c d rest _ _ ih =>
    obtain ⟨hc, hrest⟩ := List.forall_mem_cons.1 unread
    exact ih (List.forall_mem_cons.2 ⟨hc, read⟩) hrest (by simp) mem

theorem isWord_of_mem_words {s : String} {w : List Char} (mem : w ∈ words s) : IsWord w := by
  obtain ⟨run, hrun, mem⟩ := List.mem_flatMap.1 mem
  have hplain := (isWord_of_mem_runsFrom (by simp) hrun).plain
  exact isWord_of_mem_humpsFrom (by simp) hplain (by simp) mem

/-! ## Spellings -/

theorem lower_ne_nil {w : List Char} (h : w ≠ []) : lower w ≠ [] := by
  unfold lower
  split
  · exact absurd rfl h
  · split
    · exact List.cons_ne_nil _ _
    · exact toLowercase_ne_nil _
  · simp [toLowercase_ne_nil]

theorem plain_lower {w : List Char} (plain : ∀ c ∈ w, c ∉ marks) : ∀ c ∈ lower w, c ∉ marks := by
  fun_induction lower w with
  | case1 => simp
  | case2 => exact List.forall_mem_singleton.2 (by decide)
  | case3 c _ => exact fun d => not_mark_toLowercase (plain c List.mem_cons_self)
  | case4 c rest _ ih =>
    obtain ⟨hc, hrest⟩ := List.forall_mem_cons.1 plain
    intro d hd
    rcases List.mem_append.1 hd with hd | hd
    · exact not_mark_toLowercase hc hd
    · exact ih hrest d hd

theorem IsWord.lower {w : List Char} (h : IsWord w) : IsWord (lower w) :=
  ⟨lower_ne_nil h.ne_nil, plain_lower h.plain⟩

theorem plain_pascalCase {ws : List (List Char)} (ofWords : ∀ w ∈ ws, IsWord w) :
    ∀ c ∈ (pascalCase ws).toList, c ∉ marks := by
  intro d hd
  rw [pascalCase, String.toList_ofList] at hd
  obtain ⟨w, hw, hd⟩ := List.mem_flatMap.1 hd
  cases w with
  | nil => cases hd
  | cons c rest =>
    obtain ⟨hc, hrest⟩ := List.forall_mem_cons.1 (ofWords _ hw).plain
    rcases List.mem_append.1 hd with hd | hd
    · exact not_mark_toUppercase hc hd
    · exact plain_lower hrest d hd

/-- A name with underscores inside and no other mark. -/
structure IsSnake (name : String) : Prop where
  plain : ∀ c ∈ name.toList, c ∈ marks → c = '_'
  first : ∃ c ∉ marks, name.toList.head? = some c
  last : ∃ c ∉ marks, name.toList.getLast? = some c

theorem IsWord.isSnake {w : List Char} (h : IsWord w) : IsSnake (String.ofList w) := by
  refine ⟨?_, ⟨w.head h.ne_nil, h.plain _ (List.head_mem _), ?_⟩,
    ⟨w.getLast h.ne_nil, h.plain _ (List.getLast_mem _), ?_⟩⟩
  · rw [String.toList_ofList]
    exact fun c hc hmark => absurd hmark (h.plain c hc)
  · rw [String.toList_ofList]
    exact List.head?_eq_some_head h.ne_nil
  · rw [String.toList_ofList]
    exact List.getLast?_eq_some_getLast h.ne_nil

theorem IsSnake.cons {w : List Char} (hw : IsWord w) {name : String} (h : IsSnake name) :
    IsSnake (String.ofList w ++ "_" ++ name) := by
  obtain ⟨c, hc, hfirst⟩ := hw.isSnake.first
  obtain ⟨d, hd, hlast⟩ := h.last
  have hlist : (String.ofList w ++ "_" ++ name).toList = w ++ '_' :: name.toList := by simp
  rw [String.toList_ofList] at hfirst
  refine ⟨fun e he hmark => ?_, ⟨c, hc, ?_⟩, ⟨d, hd, ?_⟩⟩
  · rw [hlist, List.mem_append, List.mem_cons] at he
    rcases he with he | rfl | he
    · exact absurd hmark (hw.plain e he)
    · rfl
    · exact h.plain e he hmark
  · rw [hlist, List.head?_append, hfirst, Option.some_or]
  · rw [hlist, List.getLast?_append, List.getLast?_cons, hlast]
    rfl

theorem isSnake_snakeCase {ws : List (List Char)} (ne : ws ≠ []) (ofWords : ∀ w ∈ ws, IsWord w) :
    IsSnake (snakeCase ws) := by
  induction ws with
  | nil => exact absurd rfl ne
  | cons w rest ih =>
    obtain ⟨hw, hrest⟩ := List.forall_mem_cons.1 ofWords
    cases rest with
    | nil => simpa [snakeCase] using hw.lower.isSnake
    | cons next rest =>
      have hothers := ih (List.cons_ne_nil _ _) hrest
      have hcons : snakeCase (w :: next :: rest) =
          String.ofList (lower w) ++ "_" ++ snakeCase (next :: rest) :=
        String.intercalate_cons_cons
      rw [hcons]
      exact hothers.cons hw.lower

end Text

open Text (IsSnake IsWord)

theorem isWord_of_mem_nameWords {name : String} {w : List Char} (mem : w ∈ nameWords name) :
    IsWord w := by
  unfold nameWords at mem
  split at mem
  · have hplain : "unnamed".toList.all (· ∉ Text.marks) = true := by decide
    rw [List.mem_singleton.1 mem]
    exact ⟨by decide, fun c hc => of_decide_eq_true (List.all_eq_true.1 hplain c hc)⟩
  · exact Text.isWord_of_mem_words mem

theorem isSnake_localName (wire : String) : IsSnake (localName wire) := by
  refine Text.isSnake_snakeCase ?_ fun w hw => isWord_of_mem_nameWords hw
  unfold nameWords
  split
  · exact List.cons_ne_nil _ _
  · assumption

end OpenApi
