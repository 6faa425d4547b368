import OpenApi.Proofs.Invocation.Segments

/-!
# Dot segments

Addresses are normalised before they are used: a segment `.` of a path stands for nothing, and a
segment `..` takes back the one before it. The values that fill a path cannot add a slash to it, but
they can be such segments.
-/

namespace OpenApi.Invocation

open Text (percentEncode)

/-! ## Removing them -/

/-- What is left of an output when its last segment is taken back, with the slash before it. -/
def dropLastSegment (out : List Char) : List Char :=
  ((out.reverse.dropWhile (· ≠ '/')).drop 1).reverse

/-- Moves a path to the output, a segment with the slash before it at a time. Dot segments are
removed on the way; one at the end leaves its slash. -/
def removeDotsFrom (out : List Char) : List Char → List Char
  | '.' :: '.' :: '/' :: rest => removeDotsFrom out rest
  | '.' :: '/' :: rest => removeDotsFrom out rest
  | '/' :: '.' :: '/' :: rest => removeDotsFrom out ('/' :: rest)
  | ['/', '.'] => removeDotsFrom out ['/']
  | '/' :: '.' :: '.' :: '/' :: rest => removeDotsFrom (dropLastSegment out) ('/' :: rest)
  | ['/', '.', '.'] => removeDotsFrom (dropLastSegment out) ['/']
  | ['.'] => out
  | ['.', '.'] => out
  | c :: rest =>
    removeDotsFrom (out ++ c :: rest.takeWhile (· ≠ '/')) (rest.dropWhile (· ≠ '/'))
  | [] => out
termination_by path => path.length
decreasing_by
  all_goals simp only [List.length_cons, List.length_nil]
  all_goals try omega
  exact Nat.lt_succ_of_le (List.dropWhile_sublist _).length_le

def removeDotSegments (path : String) : String :=
  String.ofList (removeDotsFrom [] path.toList)

example : removeDotSegments "/a/b/c/./../../g" = "/a/g" := by decide +kernel

example : removeDotSegments "mid/content=5/../6" = "mid/6" := by decide +kernel

/-! ## Paths without them -/

def IsDots (segment : List Char) : Prop :=
  segment = ['.'] ∨ segment = ['.', '.']

instance : DecidablePred IsDots := fun segment =>
  inferInstanceAs (Decidable (segment = ['.'] ∨ segment = ['.', '.']))

variable {segment : List Char} {segs : List (List Char)}

theorem takeWhile_slashed (apart : '/' ∉ segment) (rest : List (List Char)) :
    (segment ++ slashed rest).takeWhile (· ≠ '/') = segment := by
  have hall : ∀ c ∈ segment, decide (c ≠ '/') = true := by
    intro c hc
    rw [decide_eq_true_eq]
    rintro rfl
    exact apart hc
  rw [List.takeWhile_append_of_pos hall]
  cases rest <;> simp [slashed]

theorem dropWhile_slashed (apart : '/' ∉ segment) (rest : List (List Char)) :
    (segment ++ slashed rest).dropWhile (· ≠ '/') = slashed rest := by
  have hwhole := List.takeWhile_append_dropWhile (p := (· ≠ '/')) (l := segment ++ slashed rest)
  rw [takeWhile_slashed apart] at hwhole
  exact List.append_cancel_left hwhole

theorem eq_takeWhile_of_slashed {rest : List (List Char)} {text : List Char}
    (apart : '/' ∉ segment) (h : segment ++ slashed rest = text) :
    segment = text.takeWhile (· ≠ '/') := by
  rw [← h, takeWhile_slashed apart]

theorem removeDotsFrom_moved {c : Char} (apart : '/' ∉ segment) (bare : ¬IsDots (c :: segment))
    (rooted : c = '/' → ¬IsDots segment) (out : List Char) (rest : List (List Char)) :
    removeDotsFrom out (c :: (segment ++ slashed rest)) =
      removeDotsFrom (out ++ c :: segment) (slashed rest) := by
  rw [removeDotsFrom]
  · rw [takeWhile_slashed apart, dropWhile_slashed apart]
  · rintro _ rfl h
    exact bare (.inr (congrArg _ (eq_takeWhile_of_slashed apart h)))
  · rintro _ rfl h
    exact bare (.inl (congrArg _ (eq_takeWhile_of_slashed apart h)))
  · intro _ hc h
    exact rooted hc (.inl (eq_takeWhile_of_slashed apart h))
  · intro hc h
    exact rooted hc (.inl (eq_takeWhile_of_slashed apart h))
  · intro _ hc h
    exact rooted hc (.inr (eq_takeWhile_of_slashed apart h))
  · intro hc h
    exact rooted hc (.inr (eq_takeWhile_of_slashed apart h))
  · rintro rfl h
    exact bare (.inl (congrArg _ (eq_takeWhile_of_slashed apart h)))
  · rintro rfl h
    exact bare (.inr (congrArg _ (eq_takeWhile_of_slashed apart h)))

theorem length_dropLastSegment_le (out : List Char) :
    (dropLastSegment out).length ≤ out.length := by
  have hle := (List.dropWhile_sublist (· ≠ '/') (l := out.reverse)).length_le
  simp only [dropLastSegment, List.length_reverse, List.length_drop] at hle ⊢
  omega

theorem length_removeDotsFrom_le (out path : List Char) :
    (removeDotsFrom out path).length ≤ out.length + path.length := by
  fun_induction removeDotsFrom out path
  case case5 out rest ih =>
    have hout := length_dropLastSegment_le out
    simp only [List.length_cons] at ih ⊢
    omega
  case case6 out ih =>
    have hout := length_dropLastSegment_le out
    simp only [List.length_cons, List.length_nil] at ih ⊢
    omega
  case case9 out c rest _ _ _ _ _ _ _ _ ih =>
    have hsplit := congrArg List.length
      (List.takeWhile_append_dropWhile (p := (· ≠ '/')) (l := rest))
    simp only [List.length_append, List.length_cons] at ih hsplit ⊢
    omega
  all_goals
    simp only [List.length_cons, List.length_nil] at *
    omega

/-- A dot segment at the end of a path leaves its slash. -/
def afterDots : List (List Char) → List (List Char)
  | [] => [[]]
  | rest => rest

theorem length_afterDots_le (rest : List (List Char)) :
    (slashed (afterDots rest)).length ≤ (slashed rest).length + 1 := by
  cases rest <;> simp [afterDots, slashed]

theorem removeDotsFrom_dot (out : List Char) (rest : List (List Char)) :
    removeDotsFrom out ('/' :: (['.'] ++ slashed rest)) =
      removeDotsFrom out (slashed (afterDots rest)) := by
  cases rest <;> simp [slashed, afterDots, removeDotsFrom]

theorem removeDotsFrom_two_dots (out : List Char) (rest : List (List Char)) :
    removeDotsFrom out ('/' :: (['.', '.'] ++ slashed rest)) =
      removeDotsFrom (dropLastSegment out) (slashed (afterDots rest)) := by
  cases rest <;> simp [slashed, afterDots, removeDotsFrom]

theorem length_removeDotsFrom_lt (dots : IsDots segment) (out : List Char)
    (rest : List (List Char)) :
    (removeDotsFrom out ('/' :: (segment ++ slashed rest))).length <
      out.length + ('/' :: (segment ++ slashed rest)).length := by
  have hrest := length_afterDots_le rest
  rw [List.length_cons, List.length_append]
  rcases dots with rfl | rfl
  · have hle := length_removeDotsFrom_le out (slashed (afterDots rest))
    rw [removeDotsFrom_dot]
    simp only [List.length_cons, List.length_nil]
    omega
  · have hle := length_removeDotsFrom_le (dropLastSegment out) (slashed (afterDots rest))
    have hout := length_dropLastSegment_le out
    rw [removeDotsFrom_two_dots]
    simp only [List.length_cons, List.length_nil]
    omega

theorem length_removeDotsFrom_bare_lt (dots : IsDots segment) (rest : List (List Char)) :
    (removeDotsFrom [] (segment ++ slashed rest)).length < (segment ++ slashed rest).length := by
  cases rest with
  | nil => rcases dots with rfl | rfl <;> simp [slashed, removeDotsFrom]
  | cons next rest =>
    have hle := length_removeDotsFrom_le [] (next ++ slashed rest)
    have htext : slashed (next :: rest) = '/' :: (next ++ slashed rest) := rfl
    rw [htext, List.length_append, List.length_cons]
    rcases dots with rfl | rfl
    all_goals
      simp only [List.cons_append, List.nil_append, removeDotsFrom, List.length_cons,
        List.length_nil] at hle ⊢
      omega

theorem removeDotsFrom_slashed_iff (apart : ∀ s ∈ segs, '/' ∉ s) (out : List Char) :
    removeDotsFrom out (slashed segs) = out ++ slashed segs ↔ ∀ s ∈ segs, ¬IsDots s := by
  induction segs generalizing out with
  | nil => simp [slashed, removeDotsFrom]
  | cons segment rest ih =>
    obtain ⟨hsegment, hrest⟩ := List.forall_mem_cons.1 apart
    have htext : slashed (segment :: rest) = '/' :: (segment ++ slashed rest) := rfl
    rw [htext, List.forall_mem_cons]
    by_cases hdots : IsDots segment
    · have hlt := length_removeDotsFrom_lt hdots out rest
      constructor
      · intro h
        rw [h, List.length_append] at hlt
        omega
      · exact fun h => absurd hdots h.1
    · have hmoved : removeDotsFrom out ('/' :: (segment ++ slashed rest)) =
          removeDotsFrom (out ++ '/' :: segment) (slashed rest) :=
        removeDotsFrom_moved hsegment (by simp [IsDots]) (fun _ => hdots) out rest
      rw [hmoved, ← ih hrest (out ++ '/' :: segment), List.append_assoc, List.cons_append]
      exact ⟨fun h => ⟨hdots, h⟩, fun h => h.2⟩

theorem exists_segments_eq (path : String) :
    ∃ segment rest, segments path = segment :: rest ∧ path.toList = segment ++ slashed rest := by
  obtain ⟨segment, rest, hsegments⟩ :=
    List.exists_cons_of_ne_nil (List.splitOn_ne_nil '/' path.toList)
  have hslashed := slashed_segments path
  rw [segments, hsegments] at hslashed
  exact ⟨segment, rest, hsegments, (List.cons.inj hslashed).2.symm⟩

/-- Normalising leaves exactly the paths alone that have no dot segment. -/
theorem removeDotSegments_eq_self_iff (path : String) :
    removeDotSegments path = path ↔ ∀ s ∈ segments path, ¬IsDots s := by
  obtain ⟨segment, rest, hsegments, htext⟩ := exists_segments_eq path
  have hapart : ∀ s ∈ segment :: rest, '/' ∉ s := by
    intro s hs
    rw [← hsegments] at hs
    exact not_mem_of_mem_splitOn hs
  obtain ⟨hsegment, hrest⟩ := List.forall_mem_cons.1 hapart
  rw [← String.toList_inj, removeDotSegments, String.toList_ofList, hsegments, htext,
    List.forall_mem_cons]
  by_cases hdots : IsDots segment
  · have hlt := length_removeDotsFrom_bare_lt hdots rest
    constructor
    · intro h
      rw [h] at hlt
      omega
    · exact fun h => absurd hdots h.1
  · have hmoved : removeDotsFrom [] (segment ++ slashed rest) =
        removeDotsFrom segment (slashed rest) := by
      cases segment with
      | nil => rfl
      | cons c segment =>
        obtain ⟨hc, hsegment⟩ := not_or.1 (mt List.mem_cons.2 hsegment)
        exact removeDotsFrom_moved hsegment hdots (fun h => absurd h.symm hc) [] rest
    rw [hmoved, removeDotsFrom_slashed_iff hrest segment]
    exact ⟨fun h => ⟨hdots, h⟩, fun h => h.2⟩

/-! ## Filled paths -/

variable {template : String} {values : OrderedMap String String} {name value : String}

theorem percentEncode_dots : percentEncode "." = "." ∧ percentEncode ".." = ".." := by
  decide +kernel

theorem isDots_percentEncode_iff : IsDots (percentEncode value).toList ↔
    value = "." ∨ value = ".." := by
  have hdot : (percentEncode value).toList = ['.'] ↔ value = "." := by
    rw [← Text.percentEncode_inj, percentEncode_dots.1, ← String.toList_inj]
    rfl
  have htwo : (percentEncode value).toList = ['.', '.'] ↔ value = ".." := by
    rw [← Text.percentEncode_inj, percentEncode_dots.2, ← String.toList_inj]
    rfl
  rw [IsDots, hdot, htwo]

theorem isDots_fillSegments_iff (plain : ∀ s ∈ segs, ¬IsDots s)
    (assigned : ∀ name ∈ segs.filterMap braced?, ∃ value, values.get? name = some value) :
    (∀ s ∈ segs.map (fillSegment values), ¬IsDots s) ↔
      ∀ name ∈ segs.filterMap braced?,
        values.get? name ≠ some "." ∧ values.get? name ≠ some ".." := by
  induction segs with
  | nil => simp
  | cons segment rest ih =>
    obtain ⟨hsegment, hrest⟩ := List.forall_mem_cons.1 plain
    rw [List.map_cons, List.forall_mem_cons]
    cases hbraced : braced? segment with
    | none =>
      rw [List.filterMap_cons_none hbraced] at assigned ⊢
      rw [fillSegment_of_none hbraced, ih hrest assigned]
      exact ⟨fun h => h.2, fun h => ⟨hsegment, h⟩⟩
    | some name =>
      rw [List.filterMap_cons_some hbraced, List.forall_mem_cons] at assigned ⊢
      obtain ⟨⟨value, hvalue⟩, hassigned⟩ := assigned
      rw [fillSegment_of_some hbraced hvalue, isDots_percentEncode_iff, ih hrest hassigned, hvalue]
      simp only [ne_eq, Option.some.injEq, not_or]

/-- A filled path whose placeholders are whole segments leads where its segments say, unless one of
its values is a dot segment: normalising leaves it alone exactly if no segment of it is one, and
exactly if no value is. -/
theorem removeDotSegments_fillPath_iff (whole : WholePlaceholders (segments template))
    (plain : ∀ s ∈ segments template, ¬IsDots s)
    (assigned : ∀ name ∈ placeholders template, name ∈ OrderedMap.keys values) :
    ∃ path, fillPath template values = .ok path ∧
      (removeDotSegments path = path ↔ ∀ s ∈ segments path, ¬IsDots s) ∧
      (removeDotSegments path = path ↔ ∀ name ∈ placeholders template,
        values.get? name ≠ some "." ∧ values.get? name ≠ some "..") := by
  have hassigned : ∀ name ∈ placeholders template, ∃ value, values.get? name = some value := by
    intro name hname
    rw [← Option.isSome_iff_exists, OrderedMap.isSome_get?_iff]
    exact assigned name hname
  obtain ⟨path, hpath, hsegments⟩ := fillPath_eq whole values hassigned
  have hiff := removeDotSegments_eq_self_iff path
  refine ⟨path, hpath, hiff, ?_⟩
  rw [placeholders_eq whole] at hassigned ⊢
  rw [hiff, hsegments]
  exact isDots_fillSegments_iff plain hassigned

section Drawer

/-- The files of a user. -/
def drawerPath : String := "/users/{userId}/files/{name}"

theorem segments_drawerPath : segments drawerPath =
    ["", "users", "{userId}", "files", "{name}"].map String.toList := by
  decide +kernel

theorem whole_drawerPath : WholePlaceholders (segments drawerPath) := by
  have huser : braced? "{userId}".toList = some "userId" := by decide
  have hname : braced? "{name}".toList = some "name" := by decide
  rw [segments_drawerPath]
  exact .literal (by decide) (.literal (by decide) (.placeholder huser
    (.literal (by decide) (.placeholder hname .nil))))

theorem plain_drawerPath : ∀ s ∈ segments drawerPath, ¬IsDots s := by
  rw [segments_drawerPath]
  decide

/-- Values with dots and slashes that are no dot segments. -/
def hiddenFile : OrderedMap String String := [("name", "../.profile"), ("userId", "...")]

theorem removeDotSegments_fillPath_iff_drawer :
    WholePlaceholders (segments drawerPath) ∧ (∀ s ∈ segments drawerPath, ¬IsDots s) ∧
      (∀ name ∈ placeholders drawerPath, name ∈ OrderedMap.keys hiddenFile) ∧
      ∃ path, fillPath drawerPath hiddenFile = .ok path ∧
        (removeDotSegments path = path ↔ ∀ s ∈ segments path, ¬IsDots s) ∧
        (removeDotSegments path = path ↔ ∀ name ∈ placeholders drawerPath,
          hiddenFile.get? name ≠ some "." ∧ hiddenFile.get? name ≠ some "..") :=
  have assigned : ∀ name ∈ placeholders drawerPath, name ∈ OrderedMap.keys hiddenFile := by
    decide +kernel
  ⟨whole_drawerPath, plain_drawerPath, assigned,
    removeDotSegments_fillPath_iff whole_drawerPath plain_drawerPath assigned⟩

/-- A file called `..` is the user. -/
theorem file_leads_to_user :
    WholePlaceholders (segments drawerPath) ∧ (∀ s ∈ segments drawerPath, ¬IsDots s) ∧
      fillPath drawerPath [("userId", "7"), ("name", "..")] = .ok "/users/7/files/.." ∧
      removeDotSegments "/users/7/files/.." = "/users/7/" := by
  refine ⟨whole_drawerPath, plain_drawerPath, ?_, by decide +kernel⟩
  rfl

end Drawer

end OpenApi.Invocation
