import OpenApi.Proofs.Text.Humps

/-!
# Local names of local names

A local name is small words with an underscore between any two. It is its own local name as long as
each of its words is still one word in small letters. Two kinds of letters get in the way: the
dotted capital I, whose small form ends in a mark that is no word character, and capital letters
without a small form.
-/

namespace OpenApi

namespace Text

/-! ## The words of a spelling -/

theorem not_isWordChar_underscore : isWordChar '_' = false := by
  decide

theorem runsFrom_append_cons (run cs : List Char) {c : Char} (mark : isWordChar c = false)
    (rest : List Char) : runsFrom run (cs ++ c :: rest) = runsFrom run cs ++ runsFrom [] rest := by
  induction cs generalizing run with
  | nil =>
    rw [List.nil_append, runsFrom, runsFrom, mark]
    cases run <;> simp
  | cons d cs ih =>
    rw [List.cons_append, runsFrom, runsFrom]
    split
    · exact ih (d :: run)
    · split
      · exact ih []
      · rw [ih [], List.cons_append]

theorem words_append_underscore (s t : String) : words (s ++ "_" ++ t) = words s ++ words t := by
  have hlist : (s ++ "_" ++ t).toList = s.toList ++ '_' :: t.toList := by simp
  rw [words, words, words, runs, runs, runs, hlist,
    runsFrom_append_cons _ _ not_isWordChar_underscore, List.flatMap_append]

theorem words_snakeCase (ws : List (List Char)) :
    words (snakeCase ws) = ws.flatMap fun w => words (String.ofList (lower w)) := by
  induction ws with
  | nil => rfl
  | cons w rest ih =>
    cases rest with
    | nil => simp [snakeCase]
    | cons next rest =>
      have hcons : snakeCase (w :: next :: rest) =
          String.ofList (lower w) ++ "_" ++ snakeCase (next :: rest) :=
        String.intercalate_cons_cons
      rw [hcons, words_append_underscore, ih]
      rfl

theorem runsFrom_of_all {run cs : List Char} (all : ∀ c ∈ cs, isWordChar c = true)
    (ne : run.reverse ++ cs ≠ []) : runsFrom run cs = [run.reverse ++ cs] := by
  induction cs generalizing run with
  | nil =>
    rw [List.append_nil] at ne ⊢
    rw [runsFrom, if_neg]
    simpa using ne
  | cons c cs ih =>
    obtain ⟨hc, hcs⟩ := List.forall_mem_cons.1 all
    rw [runsFrom, if_pos hc, ih hcs (by simp)]
    simp

theorem words_eq_singleton_iff {w : List Char} (ne : w ≠ []) :
    words (String.ofList w) = [w] ↔
      (∀ c ∈ w, isWordChar c = true) ∧ OneHump isLowercase isUppercase w := by
  have hwords : (∀ c ∈ w, isWordChar c = true) → words (String.ofList w) = humps w := by
    intro all
    rw [words, runs, String.toList_ofList, runsFrom_of_all all (by simpa using ne)]
    simp
  constructor
  · intro h
    have hflatten := flatten_words (String.ofList w)
    rw [h, wordChars, String.toList_ofList, List.flatten_singleton, eq_comm,
      List.filter_eq_self] at hflatten
    rw [hwords hflatten, humps_eq_singleton_iff ne] at h
    exact ⟨hflatten, h⟩
  · rintro ⟨all, hump⟩
    rw [hwords all]
    exact (humps_eq_singleton_iff ne).2 hump

theorem mem_of_mem_words {s : String} {w : List Char} (mem : w ∈ words s) {c : Char}
    (hc : c ∈ w) : c ∈ s.toList ∧ isWordChar c = true := by
  have hflatten : c ∈ wordChars s := flatten_words s ▸ List.mem_flatten.2 ⟨w, mem, hc⟩
  exact List.mem_filter.1 hflatten

theorem words_ne_nil {s : String} {c : Char} (mem : c ∈ s.toList) (hc : isWordChar c = true) :
    words s ≠ [] := by
  intro h
  have hflatten : c ∈ wordChars s := List.mem_filter.2 ⟨mem, hc⟩
  rw [← flatten_words, h] at hflatten
  cases hflatten

theorem snakeCase_inj {as bs : List (List Char)} (ha : as ≠ []) (hb : bs ≠ [])
    (wordsA : ∀ w ∈ as, IsWord w) (wordsB : ∀ w ∈ bs, IsWord w) (h : snakeCase as = snakeCase bs) :
    as.map lower = bs.map lower := by
  have hsplit : ∀ ws : List (List Char), ws ≠ [] → (∀ w ∈ ws, IsWord w) →
      (snakeCase ws).toList.splitOn '_' = ws.map lower := by
    intro ws ne all
    have hlist : (snakeCase ws).toList = ['_'].intercalate (ws.map lower) := by
      rw [snakeCase, String.toList_intercalate, List.map_map]
      simp only [Function.comp_def, String.toList_ofList]
      rfl
    rw [hlist]
    refine List.splitOn_intercalate '_' (fun v hv => ?_) (by simpa using ne)
    obtain ⟨w, hw, rfl⟩ := List.mem_map.1 hv
    exact fun hmark => (all w hw).lower.plain _ hmark (by decide)
  rw [← hsplit as ha wordsA, ← hsplit bs hb wordsB, h]

/-! ## Words in small letters -/

theorem exists_isWordChar_toLowercase {c : Char} (h : isWordChar c = true) :
    ∃ d ∈ toLowercase c, isWordChar d = true := by
  by_cases hdotted : c = dottedI
  · rw [hdotted, oddLetters.dotted.1]
    exact ⟨'i', List.mem_cons_self, by decide⟩
  · obtain ⟨d, hd, hlowered⟩ := exists_lowered hdotted
    exact ⟨d, by simp [hd], hlowered.word h⟩

theorem exists_isWordChar_lower {w : List Char} (ne : w ≠ [])
    (all : ∀ c ∈ w, isWordChar c = true) : ∃ d ∈ lower w, isWordChar d = true := by
  fun_cases lower w with
  | case1 => exact absurd rfl ne
  | case2 => exact ⟨'ς', List.mem_singleton_self _, lowered_sigma.word (all _ List.mem_cons_self)⟩
  | case3 c _ => exact exists_isWordChar_toLowercase (all c List.mem_cons_self)
  | case4 c rest _ =>
    obtain ⟨d, hd, hword⟩ := exists_isWordChar_toLowercase (all c List.mem_cons_self)
    exact ⟨d, List.mem_append_left _ hd, hword⟩

theorem mem_lower_of_mem {w : List Char} {c d : Char} (mem : c ∈ w) (ne : c ≠ 'Σ')
    (hd : d ∈ toLowercase c) : d ∈ lower w := by
  fun_induction lower w with
  | case1 => cases mem
  | case2 => exact absurd (List.mem_singleton.1 mem) ne
  | case3 => rwa [← List.mem_singleton.1 mem]
  | case4 c' rest _ ih =>
    rcases List.mem_cons.1 mem with rfl | mem
    · exact List.mem_append_left _ hd
    · exact List.mem_append_right _ (ih mem)

theorem all_isWordChar_lower_iff {w : List Char} (all : ∀ c ∈ w, isWordChar c = true) :
    (∀ d ∈ lower w, isWordChar d = true) ↔ dottedI ∉ w := by
  constructor
  · intro h hmem
    have hmark := h _ (mem_lower_of_mem hmem (d := Char.ofNat 0x307) (by decide)
      (by rw [oddLetters.dotted.1]; simp))
    rw [oddLetters.words.2] at hmark
    cases hmark
  · intro dotless d hd
    obtain ⟨c, hc, hlowered⟩ := exists_mem_of_forall₂ (forall₂_lowered dotless) hd
    exact hlowered.word (all c hc)

/-- A word that is one word again in small letters. -/
structure StaysWhole (w : List Char) : Prop where
  dotless : dottedI ∉ w
  hump : OneHump becomesSmall staysCapital w

theorem words_lower_iff {w : List Char} (ne : w ≠ []) (all : ∀ c ∈ w, isWordChar c = true) :
    words (String.ofList (lower w)) = [lower w] ↔ StaysWhole w := by
  rw [words_eq_singleton_iff (lower_ne_nil ne), all_isWordChar_lower_iff all]
  constructor
  · rintro ⟨dotless, hump⟩
    refine ⟨dotless, hump.of_forall₂ ((forall₂_lowered dotless).imp ?_).flip⟩
    exact fun _ _ h => ⟨h.lowercase.symm, h.uppercase.symm⟩
  · rintro ⟨dotless, hump⟩
    refine ⟨dotless, hump.of_forall₂ ((forall₂_lowered dotless).imp ?_)⟩
    exact fun _ _ h => ⟨h.lowercase, h.uppercase⟩

/-! ## Lists of lists -/

section Lists

variable {α β γ : Type} {f : α → List β}

theorem length_le_length_flatMap {as : List α} (ne : ∀ a ∈ as, f a ≠ []) :
    as.length ≤ (as.flatMap f).length := by
  induction as with
  | nil => exact Nat.le_refl _
  | cons a as ih =>
    obtain ⟨ha, hrest⟩ := List.forall_mem_cons.1 ne
    have hpos := List.length_pos_of_ne_nil ha
    have hle := ih hrest
    rw [List.flatMap_cons, List.length_append, List.length_cons]
    omega

theorem eq_singleton_of_map_flatMap {as : List α} {g : β → γ} {h : α → γ}
    (ne : ∀ a ∈ as, f a ≠ []) (same : (as.flatMap f).map g = as.map h) :
    ∀ a ∈ as, ∃ b, f a = [b] ∧ g b = h a := by
  induction as with
  | nil => simp
  | cons a as ih =>
    obtain ⟨ha, hrest⟩ := List.forall_mem_cons.1 ne
    obtain ⟨b, bs, hb⟩ := List.exists_cons_of_ne_nil ha
    have hlength := congrArg List.length same
    have hle := length_le_length_flatMap hrest
    simp only [List.flatMap_cons, hb, List.length_map, List.length_append,
      List.length_cons] at hlength
    obtain rfl : bs = [] := List.eq_nil_of_length_eq_zero (by omega)
    rw [List.flatMap_cons, hb, List.singleton_append, List.map_cons, List.map_cons] at same
    obtain ⟨hfirst, hsame⟩ := List.cons.inj same
    exact List.forall_mem_cons.2 ⟨⟨b, hb, hfirst⟩, ih hrest hsame⟩

end Lists

end Text

open Text

/-! ## Names -/

theorem nameWords_ne_nil (s : String) : nameWords s ≠ [] := by
  unfold nameWords
  split
  · exact List.cons_ne_nil _ _
  · assumption

theorem isWordChar_of_mem_nameWords {s : String} {w : List Char} (mem : w ∈ nameWords s) :
    ∀ c ∈ w, isWordChar c = true := by
  unfold nameWords at mem
  split at mem
  · obtain rfl := List.mem_singleton.1 mem
    exact List.all_eq_true.1 (by decide)
  · exact fun c hc => (mem_of_mem_words mem hc).2

theorem words_lower_ne_nil {s : String} {w : List Char} (mem : w ∈ nameWords s) :
    words (String.ofList (lower w)) ≠ [] := by
  obtain ⟨d, hd, hword⟩ := exists_isWordChar_lower (isWord_of_mem_nameWords mem).ne_nil
    (isWordChar_of_mem_nameWords mem)
  exact words_ne_nil (by rwa [String.toList_ofList]) hword

theorem nameWords_localName (s : String) :
    nameWords (localName s) =
      (nameWords s).flatMap fun w => words (String.ofList (lower w)) := by
  have hwords : words (localName s) = _ := words_snakeCase (nameWords s)
  rw [← hwords]
  unfold nameWords
  split
  · rename_i hnil
    obtain ⟨w, hw⟩ := List.exists_mem_of_ne_nil _ (nameWords_ne_nil s)
    rw [hwords, List.flatMap_eq_nil_iff] at hnil
    exact absurd (hnil w hw) (words_lower_ne_nil hw)
  · rfl

theorem localName_localName_iff (s : String) :
    localName (localName s) = localName s ↔
      ∀ w ∈ nameWords s, words (String.ofList (lower w)) = [lower w] := by
  rw [localName, nameWords_localName]
  constructor
  · intro h w hw
    have hparts : ∀ v ∈ (nameWords s).flatMap (fun w => words (String.ofList (lower w))),
        IsWord v := by
      intro v hv
      obtain ⟨w, _, hv⟩ := List.mem_flatMap.1 hv
      exact isWord_of_mem_words hv
    have hne : (nameWords s).flatMap (fun w => words (String.ofList (lower w))) ≠ [] := by
      rw [← nameWords_localName]
      exact nameWords_ne_nil _
    have hsame := snakeCase_inj hne (nameWords_ne_nil s) hparts
      (fun _ => isWord_of_mem_nameWords) h
    obtain ⟨v, hv, hlower⟩ :=
      eq_singleton_of_map_flatMap (fun _ => words_lower_ne_nil) hsame w hw
    -- The one word has no other characters than small ones, and so is what it is in small letters.
    have hsettled : lower v = v := by
      refine lower_of_settled fun c hc => settled_lower (w := w) ?_
      have hmem : v ∈ words (String.ofList (lower w)) := by simp [hv]
      rw [← String.toList_ofList (l := lower w)]
      exact (mem_of_mem_words hmem hc).1
    rw [hv, ← hlower, hsettled]
  · intro h
    have hparts : (nameWords s).flatMap (fun w => words (String.ofList (lower w))) =
        (nameWords s).map lower := by
      rw [List.flatMap_congr fun w hw => h w hw]
      exact List.map_eq_flatMap.symm
    rw [hparts, localName, snakeCase, snakeCase, List.map_map]
    simp only [Function.comp_def, lower_lower]

theorem mem_nameWords_of_mem {s : String} {c : Char} (mem : c ∈ s.toList)
    (hc : isWordChar c = true) : ∃ w ∈ nameWords s, c ∈ w := by
  have hflatten : c ∈ (words s).flatten := by
    rw [flatten_words]
    exact List.mem_filter.2 ⟨mem, hc⟩
  have hname : nameWords s = words s := by
    unfold nameWords
    split
    · rename_i hnil
      exact absurd hnil (words_ne_nil mem hc)
    · rfl
  rw [hname]
  exact List.mem_flatten.1 hflatten

theorem mem_of_mem_nameWords {s : String} {w : List Char} (mem : w ∈ nameWords s) :
    w = "unnamed".toList ∨ ∀ c ∈ w, c ∈ s.toList := by
  unfold nameWords at mem
  split at mem
  · exact .inl (List.mem_singleton.1 mem)
  · exact .inr fun c hc => (mem_of_mem_words mem hc).1

theorem dotless_nameWords_iff (s : String) :
    (∀ w ∈ nameWords s, dottedI ∉ w) ↔ dottedI ∉ s.toList := by
  constructor
  · intro h hmem
    obtain ⟨w, hw, hc⟩ := mem_nameWords_of_mem hmem oddLetters.words.1
    exact h w hw hc
  · intro h w hw hc
    rcases mem_of_mem_nameWords hw with rfl | hmem
    · exact absurd hc (by decide)
    · exact h (hmem _ hc)

theorem localName_twice_iff (s : String) :
    localName (localName s) = localName s ↔ ∀ w ∈ nameWords s, StaysWhole w := by
  rw [localName_localName_iff]
  exact forall₂_congr fun w hw =>
    words_lower_iff (isWord_of_mem_nameWords hw).ne_nil (isWordChar_of_mem_nameWords hw)

/-- A local name is words with one underscore between any two. Their characters are those of words,
unless the name has a dotted capital I, and localising it again changes nothing if and only if each
of its words stays whole in small letters. -/
theorem localName_again (s : String) :
    (∃ ws : List (List Char), ws ≠ [] ∧ (∀ w ∈ ws, w ≠ [] ∧ '_' ∉ w) ∧
      localName s = String.intercalate "_" (ws.map String.ofList) ∧
      ((∀ w ∈ ws, ∀ c ∈ w, isWordChar c = true) ↔ dottedI ∉ s.toList)) ∧
    (localName (localName s) = localName s ↔ ∀ w ∈ nameWords s, StaysWhole w) := by
  refine ⟨⟨(nameWords s).map lower, by simpa using nameWords_ne_nil s, ?_, ?_, ?_⟩,
    localName_twice_iff s⟩
  · refine List.forall_mem_map.2 fun w hw => ?_
    have hword := (isWord_of_mem_nameWords hw).lower
    exact ⟨hword.ne_nil, fun hmark => hword.plain _ hmark (by decide)⟩
  · rw [localName, snakeCase, List.map_map]
    rfl
  · rw [List.forall_mem_map, ← dotless_nameWords_iff]
    exact forall₂_congr fun w hw => all_isWordChar_lower_iff (isWordChar_of_mem_nameWords hw)

/-- A capital of mathematics is cut off the small letters before it, and the dot of a capital I
becomes an underscore. -/
theorem localName_changes_again :
    localName "DIMℝ" = "dimℝ" ∧ localName "dimℝ" = "dim_ℝ" ∧
      localName "İsim" = "i\u0307sim" ∧ localName "i\u0307sim" = "i_sim" ∧
      isWordChar (Char.ofNat 0x307) = false := by
  decide +kernel

end OpenApi
