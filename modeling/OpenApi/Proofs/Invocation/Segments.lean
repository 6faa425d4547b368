import Mathlib.Data.List.Forall2
import OpenApi.Proofs.Invocation.Placeholders
import OpenApi.Proofs.Text.Percent

/-!
# Segments of a filled path

Where placeholders stand for whole segments of a path, the values that fill it can be read off it
again, and it has no other segments than its template.
-/

namespace OpenApi.Invocation

open Json.Typed (map_eq_ok_iff)
open Text (percentEncode percentDecode IsPercentText)

variable {template : String} {values : OrderedMap String String} {segment before inside : List Char}
  {segs : List (List Char)} {name : String}

/-! ## Segments -/

/-- What stands before, between and behind the slashes. -/
def segments (path : String) : List (List Char) :=
  path.toList.splitOn '/'

/-- The segments with a slash before each. -/
def slashed (segs : List (List Char)) : List Char :=
  segs.flatMap ('/' :: ·)

theorem slashed_eq_intercalate (h : segs ≠ []) : slashed segs = '/' :: ['/'].intercalate segs := by
  induction segs with
  | nil => exact absurd rfl h
  | cons segment rest ih =>
    rw [slashed, List.flatMap_cons, ← slashed]
    cases rest with
    | nil => simp [slashed]
    | cons next rest =>
      rw [ih (by simp), List.intercalate_cons_cons]
      simp

theorem slashed_segments (path : String) : slashed (segments path) = '/' :: path.toList := by
  rw [segments, slashed_eq_intercalate (List.splitOn_ne_nil _ _), List.intercalate_splitOn]

theorem segments_of_slashed {path : String} (ne : segs ≠ []) (apart : ∀ s ∈ segs, '/' ∉ s)
    (h : slashed segs = '/' :: path.toList) : segments path = segs := by
  rw [slashed_eq_intercalate ne, List.cons.injEq] at h
  rw [segments, ← h.2, List.splitOn_intercalate '/' apart ne]

theorem not_mem_of_mem_splitOn {mark : Char} {cs : List Char} (h : segment ∈ cs.splitOn mark) :
    mark ∉ segment := by
  induction cs generalizing segment with
  | nil =>
    rw [List.splitOn_nil, List.mem_singleton] at h
    exact h ▸ List.not_mem_nil
  | cons c rest ih =>
    rw [List.splitOn_cons_eq_if_modifyHead] at h
    split at h
    · rcases List.mem_cons.1 h with rfl | h
      · exact List.not_mem_nil
      · exact ih h
    · rename_i hc
      obtain ⟨first, others, hsplit⟩ := List.exists_cons_of_ne_nil (List.splitOn_ne_nil mark rest)
      rw [hsplit, List.modifyHead_cons] at h
      rcases List.mem_cons.1 h with rfl | h
      · have hfirst : mark ∉ first := ih (hsplit ▸ List.mem_cons_self)
        refine mt List.mem_cons.1 (not_or.2 ⟨?_, hfirst⟩)
        rintro rfl
        exact hc BEq.rfl
      · exact ih (hsplit ▸ List.mem_cons_of_mem _ h)

/-! ## Placeholders that are segments -/

/-- The name in braces that the segment is, if it is nothing else. -/
def braced? (segment : List Char) : Option String :=
  match segment with
  | '\x7b' :: inside =>
    match cutAtChar? '\x7d' inside with
    | some (name, []) => some (String.ofList name)
    | _ => none
  | _ => none

theorem cutAtChar?_append {mark : Char} (h : mark ∉ before) (text : List Char) :
    cutAtChar? mark (before ++ text) =
      (cutAtChar? mark text).map fun cut => (before ++ cut.1, cut.2) := by
  induction before with
  | nil => simp
  | cons c rest ih =>
    obtain ⟨hc, hrest⟩ := not_or.1 (mt List.mem_cons.2 h)
    rw [List.cons_append, cutAtChar?, if_neg (Ne.symm hc), ih hrest, Option.map_map]
    rfl

theorem cutAtChar?_of_not_mem {mark : Char} (h : mark ∉ before) (after : List Char) :
    cutAtChar? mark (before ++ mark :: after) = some (before, after) := by
  rw [cutAtChar?_append h, cutAtChar?, if_pos rfl]
  simp

theorem braced?_eq_some_iff : braced? segment = some name ↔
    segment = '\x7b' :: (name.toList ++ ['\x7d']) ∧ '\x7d' ∉ name.toList := by
  constructor
  · intro h
    unfold braced? at h
    split at h
    · split at h
      · rename_i hcut
        obtain ⟨rfl, hname⟩ := eq_of_cutAtChar? hcut
        obtain rfl := Option.some.inj h
        rw [String.toList_ofList]
        exact ⟨rfl, hname⟩
      · cases h
    · cases h
  · rintro ⟨rfl, hname⟩
    simp [braced?, cutAtChar?_of_not_mem hname]

theorem braced?_of_plain (plain : '\x7b' ∉ segment) : braced? segment = none := by
  rw [Option.eq_none_iff_forall_ne_some]
  intro name hname
  rw [(braced?_eq_some_iff.1 hname).1] at plain
  exact plain List.mem_cons_self

theorem braced?_of_unclosed (unclosed : '\x7d' ∉ segment) : braced? segment = none := by
  rw [Option.eq_none_iff_forall_ne_some]
  intro name hname
  rw [(braced?_eq_some_iff.1 hname).1] at unclosed
  simp at unclosed

/-- Every placeholder among the segments is a whole one. An opening brace that is never closed makes
no placeholder. -/
inductive WholePlaceholders : List (List Char) → Prop where
  | nil : WholePlaceholders []
  | placeholder {segment : List Char} {rest : List (List Char)} {name : String}
      (braced : braced? segment = some name) (others : WholePlaceholders rest) :
      WholePlaceholders (segment :: rest)
  | literal {segment : List Char} {rest : List (List Char)} (plain : '\x7b' ∉ segment)
      (others : WholePlaceholders rest) : WholePlaceholders (segment :: rest)
  | unclosed {before inside : List Char} {rest : List (List Char)} (plain : '\x7b' ∉ before)
      (unclosed : ∀ s ∈ inside :: rest, '\x7d' ∉ s) :
      WholePlaceholders ((before ++ '\x7b' :: inside) :: rest)

theorem braced?_of_opening (plain : '\x7b' ∉ before) (unclosed : '\x7d' ∉ inside) :
    braced? (before ++ '\x7b' :: inside) = none := by
  cases before with
  | nil =>
    refine braced?_of_unclosed ?_
    simp [unclosed]
  | cons c rest =>
    rw [Option.eq_none_iff_forall_ne_some]
    intro name hname
    have hsegment := (braced?_eq_some_iff.1 hname).1
    rw [List.cons_append, List.cons.injEq] at hsegment
    exact plain (hsegment.1 ▸ List.mem_cons_self)

theorem braced?_of_opened {rest : List (List Char)} (plain : '\x7b' ∉ before)
    (unclosed : ∀ s ∈ inside :: rest, '\x7d' ∉ s) :
    ∀ s ∈ (before ++ '\x7b' :: inside) :: rest, braced? s = none := by
  obtain ⟨hinside, hrest⟩ := List.forall_mem_cons.1 unclosed
  exact List.forall_mem_cons.2 ⟨braced?_of_opening plain hinside,
    fun s hs => braced?_of_unclosed (hrest s hs)⟩

theorem unclosed_slashed (h : ∀ s ∈ segs, '\x7d' ∉ s) : '\x7d' ∉ slashed segs := by
  intro hmem
  obtain ⟨segment, hsegment, hmem⟩ := List.mem_flatMap.1 hmem
  exact h segment hsegment (by simpa using hmem)

theorem namesFrom_append (h : '\x7b' ∉ before) (text : List Char) :
    namesFrom none (before ++ text) = namesFrom none text := by
  induction before with
  | nil => rfl
  | cons c rest ih =>
    obtain ⟨hc, hrest⟩ := not_or.1 (mt List.mem_cons.2 h)
    rw [List.cons_append, namesFrom, if_neg (Ne.symm hc)]
    exact ih hrest

theorem namesFrom_slashed (whole : WholePlaceholders segs) :
    namesFrom none (slashed segs) = segs.filterMap braced? := by
  induction whole with
  | nil => rfl
  | @placeholder segment rest name braced _ ih =>
    obtain ⟨rfl, hname⟩ := braced?_eq_some_iff.1 braced
    have htext : slashed (('\x7b' :: (name.toList ++ ['\x7d'])) :: rest) =
        ['/'] ++ '\x7b' :: (name.toList ++ '\x7d' :: slashed rest) := by
      simp [slashed]
    rw [htext, namesFrom_opening (by decide), namesFrom_closing hname, ih,
      List.filterMap_cons_some braced]
    simp
  | @literal segment rest plain _ ih =>
    have htext : slashed (segment :: rest) = ('/' :: segment) ++ slashed rest := rfl
    rw [htext, namesFrom_append (by simpa using plain), ih,
      List.filterMap_cons_none (braced?_of_plain plain)]
  | @unclosed before inside rest plain unclosed =>
    obtain ⟨hinside, hrest⟩ := List.forall_mem_cons.1 unclosed
    have htext : slashed ((before ++ '\x7b' :: inside) :: rest) =
        ('/' :: before) ++ '\x7b' :: (inside ++ slashed rest) := by
      simp [slashed]
    have hopen : '\x7d' ∉ inside ++ slashed rest := by
      simp [hinside, unclosed_slashed hrest]
    rw [htext, namesFrom_opening (by simpa using plain), namesFrom_of_no_closing hopen,
      List.filterMap_cons_none (braced?_of_opening plain hinside), eq_comm,
      List.filterMap_eq_nil_iff]
    exact fun s hs => braced?_of_unclosed (hrest s hs)

theorem placeholders_eq (whole : WholePlaceholders (segments template)) :
    placeholders template = (segments template).filterMap braced? := by
  rw [← namesFrom_slashed whole, slashed_segments, placeholders, namesFrom, if_neg (by decide)]

/-! ## Filling segments -/

section Filling

variable (template values)

theorem fillPlaceholders_append (h : '\x7b' ∉ before) (fuel : Nat) (text : List Char) :
    fillPlaceholders template values fuel (before ++ text) =
      (fillPlaceholders template values fuel text).map (before ++ ·) := by
  cases fuel with
  | zero => rfl
  | succ fuel =>
    rw [fillPlaceholders, fillPlaceholders, cutAtChar?_append h]
    cases cutAtChar? '\x7b' text with
    | none => rfl
    | some opening =>
      simp only [Option.map_some]
      cases cutAtChar? '\x7d' opening.2 with
      | none => rfl
      | some closing =>
        dsimp only
        cases OrderedMap.get? values (String.ofList closing.1) with
        | none => rfl
        | some value =>
          dsimp only
          cases fillPlaceholders template values fuel closing.2 with
          | error e => rfl
          | ok after => simp [bind, Except.bind, pure, Except.pure, Except.map]

theorem fillPlaceholders_braced {value : String} (closed : '\x7d' ∉ name.toList)
    (h : values.get? name = some value) (fuel : Nat) (after : List Char) :
    fillPlaceholders template values (fuel + 1) ('\x7b' :: (name.toList ++ '\x7d' :: after)) =
      (fillPlaceholders template values fuel after).map ((percentEncode value).toList ++ ·) := by
  rw [fillPlaceholders, cutAtChar?, if_pos rfl]
  simp only [cutAtChar?_of_not_mem closed, String.ofList_toList, h]
  cases fillPlaceholders template values fuel after <;> rfl

theorem fillPlaceholders_unclosed (h : '\x7d' ∉ inside) (fuel : Nat) :
    fillPlaceholders template values fuel ('\x7b' :: inside) = .ok ('\x7b' :: inside) := by
  cases fuel with
  | zero => rfl
  | succ fuel =>
    rw [fillPlaceholders, cutAtChar?, if_pos rfl]
    simp only [cutAtChar?_eq_none_iff.2 h]

end Filling

/-- A segment with the value of its placeholder in its place. -/
def fillSegment (values : OrderedMap String String) (segment : List Char) : List Char :=
  match (braced? segment).bind values.get? with
  | some value => (percentEncode value).toList
  | none => segment

theorem fillSegment_of_none (h : braced? segment = none) :
    fillSegment values segment = segment := by
  rw [fillSegment, h]
  rfl

theorem map_fillSegment_of_none (h : ∀ s ∈ segs, braced? s = none) :
    segs.map (fillSegment values) = segs := by
  rw [List.map_congr_left fun s hs => (fillSegment_of_none (h s hs)).trans (id_eq s).symm,
    List.map_id]

theorem fillSegment_of_some {value : String} (h : braced? segment = some name)
    (hvalue : values.get? name = some value) :
    fillSegment values segment = (percentEncode value).toList := by
  rw [fillSegment, h, Option.bind_some, hvalue]

theorem fillPlaceholders_slashed (template : String) (values : OrderedMap String String)
    (whole : WholePlaceholders segs)
    (assigned : ∀ name ∈ segs.filterMap braced?, ∃ value, values.get? name = some value)
    {fuel : Nat} (enough : (slashed segs).length ≤ fuel + 1) :
    fillPlaceholders template values fuel (slashed segs) =
      .ok (slashed (segs.map (fillSegment values))) := by
  induction whole generalizing fuel with
  | nil => cases fuel <;> rfl
  | @placeholder segment rest name braced _ ih =>
    rw [List.filterMap_cons_some braced, List.forall_mem_cons] at assigned
    obtain ⟨⟨value, hvalue⟩, hrest⟩ := assigned
    obtain ⟨hsegment, hname⟩ := braced?_eq_some_iff.1 braced
    have htext : slashed (segment :: rest) =
        ['/'] ++ '\x7b' :: (name.toList ++ '\x7d' :: slashed rest) := by
      simp [slashed, hsegment]
    rw [htext] at enough ⊢
    simp only [List.length_append, List.length_cons] at enough
    have hfuel : fuel ≠ 0 := by omega
    obtain ⟨fuel, rfl⟩ := Nat.exists_eq_succ_of_ne_zero hfuel
    have henough : (slashed rest).length ≤ fuel + 1 := by omega
    rw [fillPlaceholders_append _ _ (by decide), fillPlaceholders_braced _ _ hname hvalue,
      ih hrest henough, List.map_cons, fillSegment_of_some braced hvalue]
    rfl
  | @literal segment rest plain _ ih =>
    rw [List.filterMap_cons_none (braced?_of_plain plain)] at assigned
    have htext : slashed (segment :: rest) = ('/' :: segment) ++ slashed rest := rfl
    have henough : (slashed rest).length ≤ fuel + 1 := by
      rw [htext, List.length_append] at enough
      omega
    rw [htext, fillPlaceholders_append _ _ (by simpa using plain), ih assigned henough,
      List.map_cons,
      fillSegment_of_none (braced?_of_plain plain)]
    rfl
  | @unclosed before inside rest plain unclosed =>
    obtain ⟨hinside, hrest⟩ := List.forall_mem_cons.1 unclosed
    have htext : slashed ((before ++ '\x7b' :: inside) :: rest) =
        ('/' :: before) ++ '\x7b' :: (inside ++ slashed rest) := by
      simp [slashed]
    have hopen : '\x7d' ∉ inside ++ slashed rest := by
      simp [hinside, unclosed_slashed hrest]
    rw [map_fillSegment_of_none (braced?_of_opened plain unclosed), htext,
      fillPlaceholders_append _ _ (by simpa using plain), fillPlaceholders_unclosed _ _ hopen]
    rfl

theorem not_mem_fillSegment {mark : Char} (marks : ¬IsPercentText mark) (h : mark ∉ segment) :
    mark ∉ fillSegment values segment := by
  unfold fillSegment
  split
  · exact fun hmem => marks (Text.isPercentText_percentEncode _ _ hmem)
  · exact h

theorem fillPath_eq (whole : WholePlaceholders (segments template))
    (values : OrderedMap String String)
    (assigned : ∀ name ∈ placeholders template, ∃ value, values.get? name = some value) :
    ∃ path, fillPath template values = .ok path ∧
      segments path = (segments template).map (fillSegment values) := by
  rw [placeholders_eq whole] at assigned
  have henough : (slashed (segments template)).length = template.length + 1 := by
    rw [slashed_segments, List.length_cons, String.length_toList]
  have hslashed := fillPlaceholders_slashed template values whole assigned
    (Nat.le_of_eq henough)
  -- The slash in front of the first segment is no part of the template.
  rw [slashed_segments, ← List.singleton_append, fillPlaceholders_append _ _ (by decide)]
    at hslashed
  obtain ⟨filled, hfilled, htext⟩ := map_eq_ok_iff.1 hslashed
  refine ⟨String.ofList filled, ?_, segments_of_slashed ?_ ?_ ?_⟩
  · rw [fillPath, hfilled]
    rfl
  · simp [segments]
  · intro s hs
    obtain ⟨segment, hsegment, rfl⟩ := List.mem_map.1 hs
    exact not_mem_fillSegment (by decide) (not_mem_of_mem_splitOn hsegment)
  · rw [String.toList_ofList]
    exact htext.symm

/-! ## Reading values off a path -/

/-- The segment stands in the filled path as it is or, if it is a placeholder, as a text that its
value can be read off and that holds no character with a meaning in paths. -/
def FilledIn (values : OrderedMap String String) (segment filled : List Char) : Prop :=
  match braced? segment with
  | none => filled = segment
  | some name => ∃ value, values.get? name = some value ∧
      percentDecode (String.ofList filled) = some value ∧ ∀ c ∈ filled, IsPercentText c

theorem filledIn_fillSegment
    (assigned : ∀ name, braced? segment = some name → ∃ value, values.get? name = some value) :
    FilledIn values segment (fillSegment values segment) := by
  unfold FilledIn
  cases hbraced : braced? segment with
  | none => exact fillSegment_of_none hbraced
  | some name =>
    obtain ⟨value, hvalue⟩ := assigned name hbraced
    rw [fillSegment_of_some hbraced hvalue, String.ofList_toList]
    exact ⟨value, hvalue, Text.percentDecode_percentEncode value,
      Text.isPercentText_percentEncode value⟩

theorem FilledIn.get?_eq {other : OrderedMap String String} {filled : List Char}
    (h : FilledIn values segment filled) (h' : FilledIn other segment filled)
    (braced : braced? segment = some name) : other.get? name = values.get? name := by
  simp only [FilledIn, braced] at h h'
  obtain ⟨value, hvalue, hread, _⟩ := h
  obtain ⟨value', hvalue', hread', _⟩ := h'
  rw [hvalue, hvalue', ← hread, ← hread']

theorem whole_fillSegments (whole : WholePlaceholders segs)
    (assigned : ∀ name ∈ segs.filterMap braced?, ∃ value, values.get? name = some value) :
    WholePlaceholders (segs.map (fillSegment values)) ∧
      ∀ s ∈ segs.map (fillSegment values), braced? s = none := by
  induction whole with
  | nil => exact ⟨.nil, by simp⟩
  | @placeholder segment rest name braced _ ih =>
    rw [List.filterMap_cons_some braced, List.forall_mem_cons] at assigned
    obtain ⟨⟨value, hvalue⟩, hrest⟩ := assigned
    obtain ⟨hwhole, hnone⟩ := ih hrest
    have hplain : '\x7b' ∉ fillSegment values segment := by
      rw [fillSegment_of_some braced hvalue]
      exact fun hmem => absurd (Text.isPercentText_percentEncode value _ hmem) (by decide)
    rw [List.map_cons, List.forall_mem_cons]
    exact ⟨.literal hplain hwhole, braced?_of_plain hplain, hnone⟩
  | @literal segment rest plain _ ih =>
    rw [List.filterMap_cons_none (braced?_of_plain plain)] at assigned
    obtain ⟨hwhole, hnone⟩ := ih assigned
    rw [List.map_cons, fillSegment_of_none (braced?_of_plain plain), List.forall_mem_cons]
    exact ⟨.literal plain hwhole, braced?_of_plain plain, hnone⟩
  | @unclosed before inside rest plain unclosed =>
    have hnone := braced?_of_opened plain unclosed
    rw [map_fillSegment_of_none hnone]
    exact ⟨.unclosed plain unclosed, hnone⟩

theorem eq_of_segments {path path' : String} (h : segments path = segments path') :
    path = path' := by
  have hslashed := congrArg slashed h
  rw [slashed_segments, slashed_segments, List.cons.injEq] at hslashed
  exact String.toList_inj.1 hslashed.2

theorem assigned_of_fillPath {path : String} (h : fillPath template values = .ok path) :
    ∀ name ∈ placeholders template, ∃ value, values.get? name = some value := by
  intro name hname
  rw [← Option.isSome_iff_exists, OrderedMap.isSome_get?_iff]
  by_contra habsent
  have hfault : ∃ e, PlaceholderFault template values name e := ⟨_, habsent, rfl⟩
  obtain ⟨e, hfirst⟩ := exists_firstFault_iff.2 ⟨name, hname, hfault⟩
  rw [← fillPath_eq_error_iff, h] at hfirst
  cases hfirst

theorem filledIn_fillSegments (whole : WholePlaceholders (segments template))
    (assigned : ∀ name ∈ placeholders template, ∃ value, values.get? name = some value) :
    ∀ segment ∈ segments template, FilledIn values segment (fillSegment values segment) := by
  intro segment hsegment
  refine filledIn_fillSegment fun name hname => assigned name ?_
  rw [placeholders_eq whole]
  exact List.mem_filterMap.2 ⟨segment, hsegment, hname⟩

theorem get?_eq_of_fillPath {other : OrderedMap String String} {path : String}
    (whole : WholePlaceholders (segments template)) (h : fillPath template values = .ok path)
    (h' : fillPath template other = .ok path) :
    ∀ name ∈ placeholders template, other.get? name = values.get? name := by
  intro name hname
  have assigned := assigned_of_fillPath h
  have assigned' := assigned_of_fillPath h'
  obtain ⟨filled, hfilled, hsegments⟩ := fillPath_eq whole _ assigned
  obtain ⟨filled', hfilled', hsegments'⟩ := fillPath_eq whole _ assigned'
  obtain rfl := Except.ok.inj (h.symm.trans hfilled)
  obtain rfl := Except.ok.inj (h'.symm.trans hfilled')
  rw [placeholders_eq whole] at hname
  obtain ⟨segment, hsegment, hbraced⟩ := List.mem_filterMap.1 hname
  have hsame := List.map_inj_left.1 (hsegments.symm.trans hsegments') segment hsegment
  exact (filledIn_fillSegments whole assigned segment hsegment).get?_eq
    (hsame ▸ filledIn_fillSegments whole assigned' segment hsegment) hbraced

theorem fillPath_of_none {path : String} (whole : WholePlaceholders (segments path))
    (none : ∀ s ∈ segments path, braced? s = none) (values : OrderedMap String String) :
    fillPath path values = .ok path := by
  have hgone : placeholders path = [] := by
    rw [placeholders_eq whole, List.filterMap_eq_nil_iff]
    exact none
  obtain ⟨filled, hfilled, hsegments⟩ := fillPath_eq whole values (by simp [hgone])
  rw [map_fillSegment_of_none none] at hsegments
  rw [hfilled, eq_of_segments hsegments]

/-- Where the placeholders of a path are whole segments, it can be filled with any texts. The filled
path has the segments of its template, with the texts in place of the placeholders, from which they
can be read again; so other texts make another path. There is nothing left in it to fill. -/
theorem fillPath_recoverable (whole : WholePlaceholders (segments template))
    (assigned : ∀ name ∈ placeholders template, name ∈ OrderedMap.keys values) :
    ∃ path, fillPath template values = .ok path ∧
      List.Forall₂ (FilledIn values) (segments template) (segments path) ∧
      (∀ other, fillPath template other = .ok path →
        ∀ name ∈ placeholders template, other.get? name = values.get? name) ∧
      ∀ other, fillPath path other = .ok path := by
  have hassigned : ∀ name ∈ placeholders template, ∃ value, values.get? name = some value := by
    intro name hname
    rw [← Option.isSome_iff_exists, OrderedMap.isSome_get?_iff]
    exact assigned name hname
  obtain ⟨path, hpath, hsegments⟩ := fillPath_eq whole _ hassigned
  refine ⟨path, hpath, ?_, fun other hother => get?_eq_of_fillPath whole hpath hother, ?_⟩
  · rw [hsegments, List.forall₂_map_right_iff, List.forall₂_same]
    exact filledIn_fillSegments whole hassigned
  · rw [placeholders_eq whole] at hassigned
    obtain ⟨hwhole, hnone⟩ := whole_fillSegments whole hassigned
    rw [← hsegments] at hwhole hnone
    exact fillPath_of_none hwhole hnone

section Shelf

/-- A path with a brace that is closed only and one that is opened only. -/
def shelfPath : String := "/shelves/\x7bshelf\x7d/a\x7db/\x7bbook\x7d/c\x7bd"

/-- Texts with slashes, placeholders and percent signs in them. -/
def shelfTexts : OrderedMap String String := [("shelf", "a/b?\x7bbook\x7d"), ("book", "%2F é#")]

theorem segments_shelfPath : segments shelfPath =
    ["", "shelves", "\x7bshelf\x7d", "a\x7db", "\x7bbook\x7d", "c\x7bd"].map String.toList := by
  decide +kernel

theorem whole_shelfPath : WholePlaceholders (segments shelfPath) := by
  have hshelf : braced? "\x7bshelf\x7d".toList = some "shelf" := by decide
  have hbook : braced? "\x7bbook\x7d".toList = some "book" := by decide
  have hopened : WholePlaceholders [['c'] ++ '\x7b' :: ['d']] := .unclosed (by decide) (by decide)
  rw [segments_shelfPath]
  exact .literal (by decide) (.literal (by decide) (.placeholder hshelf
    (.literal (by decide) (.placeholder hbook hopened))))

theorem fillPath_recoverable_shelf :
    WholePlaceholders (segments shelfPath) ∧
      (∀ name ∈ placeholders shelfPath, name ∈ OrderedMap.keys shelfTexts) ∧
      ∃ path, fillPath shelfPath shelfTexts = .ok path ∧
        List.Forall₂ (FilledIn shelfTexts) (segments shelfPath) (segments path) ∧
        (∀ other, fillPath shelfPath other = .ok path →
          ∀ name ∈ placeholders shelfPath, other.get? name = shelfTexts.get? name) ∧
        ∀ other, fillPath path other = .ok path :=
  have assigned : ∀ name ∈ placeholders shelfPath, name ∈ OrderedMap.keys shelfTexts := by
    decide +kernel
  ⟨whole_shelfPath, assigned, fillPath_recoverable whole_shelfPath assigned⟩

end Shelf

end OpenApi.Invocation
