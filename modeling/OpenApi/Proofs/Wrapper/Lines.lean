import OpenApi.Proofs.Wrapper.Built

/-!
# The lines of a module

A module's text is read by its line feeds. What is read are the lines that it is written from, as
long as none of these has a line feed in it. Only comments can have one: the title and the version
stand in a comment as they are, and so do the path of an operation and the names of record types.
-/

namespace OpenApi

namespace Wrapper

/-! ## Lines of a text -/

/-- The text has no line feed. -/
def OneLine (s : String) : Prop :=
  '\n' ∉ s.toList

instance (s : String) : Decidable (OneLine s) :=
  inferInstanceAs (Decidable (_ ∉ _))

/-- The lines of a text, each ended by a line feed or by the end. -/
def linesOf (text : String) : List String :=
  (splitLines [] text.toList).map String.ofList

theorem splitLines_append (line before after : List Char) :
    splitLines line (before ++ '\n' :: after) =
      splitLines line (before ++ ['\n']) ++ splitLines [] after := by
  induction before generalizing line with
  | nil => simp [splitLines]
  | cons c before ih =>
    by_cases h : c = '\n'
    · subst h
      simp only [List.cons_append, splitLines, ih]
    · rw [List.cons_append, List.cons_append, splitLines.eq_3 _ _ _ h, splitLines.eq_3 _ _ _ h, ih]

theorem splitLines_of_one_line {before : List Char} (h : '\n' ∉ before) (line after : List Char) :
    splitLines line (before ++ after) = splitLines (before.reverse ++ line) after := by
  induction before generalizing line with
  | nil => rfl
  | cons c before ih =>
    obtain ⟨hc, hbefore⟩ := not_or.1 (fun hor => h (List.mem_cons.2 hor))
    rw [List.cons_append, splitLines.eq_3 _ _ _ (Ne.symm hc), ih hbefore, List.reverse_cons,
      List.append_assoc]
    rfl

theorem not_mem_of_splitLines {line text l : List Char} (h : '\n' ∉ line)
    (mem : l ∈ splitLines line text) : '\n' ∉ l := by
  induction text generalizing line with
  | nil =>
    rw [splitLines] at mem
    split at mem
    · cases mem
    · rw [List.mem_singleton.1 mem]
      simpa using h
  | cons c text ih =>
    by_cases hc : c = '\n'
    · subst hc
      rw [splitLines, List.mem_cons] at mem
      rcases mem with rfl | mem
      · simpa using h
      · exact ih (by simp) mem
    · rw [splitLines.eq_3 _ _ _ hc] at mem
      exact ih (by simp [Ne.symm hc, h]) mem

theorem oneLine_of_mem_linesOf {text line : String} (mem : line ∈ linesOf text) : OneLine line := by
  obtain ⟨l, hl, rfl⟩ := List.mem_map.1 mem
  rw [OneLine, String.toList_ofList]
  exact not_mem_of_splitLines (by simp) hl

theorem oneLine_of_mem_textLines {s line : String} (mem : line ∈ textLines s) : OneLine line := by
  obtain ⟨l, hl, rfl⟩ := List.mem_map.1 mem
  intro h
  rw [String.toList_ofList, Text.trimEnd, List.mem_reverse] at h
  have hreverse := (List.dropWhile_sublist Text.isBlank).subset h
  exact not_mem_of_splitLines (by simp) hl (List.mem_reverse.1 hreverse)

/-! ## Lines of a module -/

theorem splitLines_render (w : Wrapper) :
    splitLines [] w.render.toList =
      w.lines.flatMap fun line => splitLines [] (line.toList ++ ['\n']) := by
  rw [render]
  generalize w.lines = lines
  induction lines with
  | nil => rfl
  | cons line rest ih =>
    have hline : (String.join ((line :: rest).map (· ++ "\n"))).toList =
        line.toList ++ '\n' :: (String.join (rest.map (· ++ "\n"))).toList := by
      simp [String.join_cons]
    rw [hline, splitLines_append, ih, List.flatMap_cons]

theorem linesOf_render (w : Wrapper) :
    linesOf w.render = w.lines.flatMap fun line => linesOf (line ++ "\n") := by
  rw [linesOf, splitLines_render, List.map_flatMap]
  exact List.flatMap_congr fun line _ => by rw [linesOf, String.toList_append]; rfl

theorem linesOf_of_oneLine {line : String} (one : OneLine line) : linesOf (line ++ "\n") = [line] := by
  have hlist : (line ++ "\n").toList = line.toList ++ ['\n'] := String.toList_append
  rw [linesOf, hlist, splitLines_of_one_line one]
  simp [splitLines]

theorem flatMap_linesOf {lines : List String} (one : ∀ line ∈ lines, OneLine line) :
    (lines.flatMap fun line => linesOf (line ++ "\n")) = lines := by
  rw [List.flatMap_congr fun line hline => linesOf_of_oneLine (one line hline),
    List.flatMap_singleton']

theorem linesOf_render_iff (w : Wrapper) :
    linesOf w.render = w.lines ↔ ∀ line ∈ w.lines, OneLine line := by
  refine ⟨fun h line hline => ?_, fun h => ?_⟩
  · rw [← h] at hline
    exact oneLine_of_mem_linesOf hline
  · rw [linesOf_render, flatMap_linesOf h]

theorem infix_linesOf_render {w : Wrapper} {part : List String} (mem : part <:+: w.lines)
    (one : ∀ line ∈ part, OneLine line) : part <:+: linesOf w.render := by
  obtain ⟨before, after, h⟩ := mem
  rw [linesOf_render, ← h, List.flatMap_append, List.flatMap_append, flatMap_linesOf one]
  exact ⟨_, _, rfl⟩

/-! ## Line feeds in a wrapper -/

/-- The lines of a method behind its comment. -/
def definitionLines (m : Method) : List String :=
  methodLines { m with doc := [] }

theorem methodLines_eq (m : Method) :
    methodLines m = m.doc.map commentLine ++ definitionLines m := by
  simp [definitionLines, methodLines, bodyLines]

/-- Outside its comment a method has no line feed. -/
structure Method.OneLined (m : Method) : Prop where
  name : OneLine m.name
  operationId : OneLine m.operationId
  arguments : ∀ a ∈ m.arguments, OneLine a.identifier ∧ OneLine a.key ∧ OneLine a.type

theorem Method.OneLined.definitionLines {m : Method} (h : m.OneLined) :
    ∀ line ∈ definitionLines m, OneLine line := by
  have hdeprecated : ∀ line ∈ (if m.deprecated then ["    #[deprecated]"] else []),
      OneLine line := by
    split <;> decide
  have hname : OneLine s!"    pub fn {m.name}(" := by
    simpa [OneLine, toString] using h.name
  have harguments : ∀ a ∈ m.arguments, OneLine s!"        {a.identifier}: {a.type}," :=
    fun a ha => by simpa [OneLine, toString] using ⟨(h.arguments a ha).1, (h.arguments a ha).2.2⟩
  have hbody : ∀ line ∈ bodyLines m, OneLine line := by
    unfold bodyLines
    split
    · decide
    · refine List.forall_mem_cons.2 ⟨by decide, List.forall_mem_map.2 fun a ha => ?_⟩
      simpa [OneLine, toString] using ⟨(h.arguments a ha).2.1, (h.arguments a ha).1⟩
  have hinvoke : OneLine s!"        self.client.invoke({m.operationId}, &args)" := by
    simpa [OneLine, toString] using h.operationId
  simp only [Wrapper.definitionLines, methodLines, List.map_nil, List.nil_append,
    List.append_assoc, List.forall_mem_append, List.forall_mem_cons, List.forall_mem_map]
  exact ⟨hdeprecated, ⟨hname, by decide, by simp⟩, harguments, by decide, hbody, hinvoke, by decide⟩

theorem oneLine_commentLine_iff (line : String) : OneLine (commentLine line) ↔ OneLine line := by
  unfold commentLine
  split
  · rename_i hempty
    rw [String.isEmpty_iff.1 hempty]
    decide
  · simp [OneLine]

theorem Method.OneLined.methodLines_iff {m : Method} (h : m.OneLined) :
    (∀ line ∈ methodLines m, OneLine line) ↔ ∀ line ∈ m.doc, OneLine line := by
  rw [methodLines_eq, List.forall_mem_append, and_iff_left h.definitionLines, List.forall_mem_map]
  exact forall₂_congr fun line _ => oneLine_commentLine_iff line

/-- Outside the comments of its methods a section has no line feed. -/
structure Section.OneLined (s : Section) : Prop where
  tag : OneLine s.tag
  accessor : OneLine s.accessor
  typeName : OneLine s.typeName
  methods : ∀ m ∈ s.methods, m.OneLined

theorem oneLine_structLines {typeName : String} (one : OneLine typeName) :
    ∀ line ∈ structLines typeName, OneLine line := by
  simpa [structLines, OneLine, toString] using one

theorem Section.OneLined.accessorLines {s : Section} (h : s.OneLined) :
    ∀ line ∈ accessorLines s, OneLine line := by
  have htag := h.tag
  have haccessor := h.accessor
  have htype := h.typeName
  unfold OneLine at htag haccessor htype
  simp [Wrapper.accessorLines, OneLine, toString, htag, haccessor, htype]

theorem Section.OneLined.sectionLines_iff {s : Section} (h : s.OneLined) :
    (∀ line ∈ sectionLines s, OneLine line) ↔
      ∀ m ∈ s.methods, ∀ line ∈ m.doc, OneLine line := by
  have hmethods : (∀ line ∈ (List.intersperse [""] (s.methods.map methodLines)).flatten,
      OneLine line) ↔ ∀ m ∈ s.methods, ∀ line ∈ methodLines m, OneLine line := by
    cases s.methods with
    | nil => simp
    | cons m rest =>
      have hblank : OneLine "" := by decide
      rw [List.map_cons, flatten_intersperse_cons, List.forall_mem_append, List.forall_mem_cons,
        List.forall_mem_flatMap, List.forall_mem_map]
      simp only [List.singleton_append, List.forall_mem_cons, hblank, true_and]
  have hclose : ∀ line ∈ ["\x7d"], OneLine line := by decide
  have hblank : OneLine "" := by decide
  rw [sectionLines, List.forall_mem_append, and_iff_left hclose, List.forall_mem_append,
    List.forall_mem_cons, and_iff_right ⟨hblank, oneLine_structLines h.typeName⟩, hmethods]
  exact forall₂_congr fun m hm => (h.methods m hm).methodLines_iff

/-- Outside its comments a wrapper has no line feed. -/
structure OneLined (w : Wrapper) : Prop where
  typeName : OneLine w.typeName
  methods : ∀ m ∈ w.methods, m.OneLined
  sections : ∀ s ∈ w.sections, s.OneLined

theorem OneLined.lines_iff {w : Wrapper} (h : OneLined w) :
    (∀ line ∈ w.lines, OneLine line) ↔ (OneLine w.title ∧ OneLine w.version) ∧
      ∀ m ∈ allMethods w, ∀ line ∈ m.doc, OneLine line := by
  have htitle : OneLine s!"//! Typed wrappers for {w.title} {w.version}." ↔
      OneLine w.title ∧ OneLine w.version := by
    simp [OneLine, toString]
  have hhead : ∀ line ∈ ["//!", "//! Generated by `oarc generate`. Do not edit by hand.", "",
      "#![allow(clippy::too_many_arguments)]", "",
      "use oarc_core::\x7bArgs, Client, InvokeError, Value\x7d;", "",
      "/// Entry point over a runtime [`Client`]."], OneLine line := by decide
  have hnew : ∀ line ∈ ["    pub fn new(client: &'c Client) -> Self \x7b",
      "        Self \x7b client \x7d", "    \x7d"], OneLine line := by decide
  have haccessors : ∀ line ∈ w.sections.flatMap accessorLines, OneLine line :=
    List.forall_mem_flatMap.2 fun s hs => (h.sections s hs).accessorLines
  have hmethods : (∀ line ∈ w.methods.flatMap fun m => "" :: methodLines m, OneLine line) ↔
      ∀ m ∈ w.methods, ∀ line ∈ m.doc, OneLine line := by
    rw [List.forall_mem_flatMap]
    refine forall₂_congr fun m hm => ?_
    rw [List.forall_mem_cons, and_iff_right (by decide), (h.methods m hm).methodLines_iff]
  have hclose : ∀ line ∈ ["\x7d"], OneLine line := by decide
  have hsections : (∀ line ∈ w.sections.flatMap sectionLines, OneLine line) ↔
      ∀ m ∈ w.sections.flatMap (·.methods), ∀ line ∈ m.doc, OneLine line := by
    rw [List.forall_mem_flatMap, List.forall_mem_flatMap]
    exact forall₂_congr fun s hs => (h.sections s hs).sectionLines_iff
  rw [lines, List.forall_mem_append, hsections, List.forall_mem_append, and_iff_left hclose,
    List.forall_mem_append, hmethods, List.forall_mem_append, and_iff_left haccessors,
    List.forall_mem_append, and_iff_left hnew, List.forall_mem_append,
    and_iff_left (oneLine_structLines h.typeName), List.forall_mem_cons, and_iff_left hhead, htitle,
    and_assoc, allMethods, List.forall_mem_append]

/-! ## Methods among the lines -/

theorem infix_intersperse {parts : List (List String)} {part : List String} (mem : part ∈ parts) :
    part <:+: (List.intersperse [""] parts).flatten := by
  cases parts with
  | nil => cases mem
  | cons first rest =>
    rw [flatten_intersperse_cons]
    rcases List.mem_cons.1 mem with rfl | mem
    · exact (List.prefix_append _ _).isInfix
    · have hrest : [""] ++ part <:+: rest.flatMap ([""] ++ ·) :=
        List.infix_of_mem_flatten (List.mem_map_of_mem mem)
      exact (List.suffix_append _ _).isInfix.trans (hrest.trans (List.suffix_append _ _).isInfix)

theorem infix_sectionLines {s : Section} {m : Method} (mem : m ∈ s.methods) :
    methodLines m <:+: sectionLines s :=
  (infix_intersperse (List.mem_map_of_mem mem)).trans (List.infix_append _ _ _)

theorem infix_lines {w : Wrapper} {m : Method} (mem : m ∈ allMethods w) :
    methodLines m <:+: w.lines := by
  rcases List.mem_append.1 mem with hm | hm
  · have hmethod : methodLines m <:+: w.methods.flatMap fun m => "" :: methodLines m :=
      (List.suffix_cons _ _).isInfix.trans (List.infix_of_mem_flatten (List.mem_map_of_mem hm))
    exact hmethod.trans ((List.infix_append _ _ _).trans (List.prefix_append _ _).isInfix)
  · obtain ⟨s, hs, hm⟩ := List.mem_flatMap.1 hm
    have hsection : sectionLines s <:+: w.sections.flatMap sectionLines :=
      List.infix_of_mem_flatten (List.mem_map_of_mem hs)
    exact (infix_sectionLines hm).trans (hsection.trans (List.suffix_append _ _).isInfix)

theorem infix_definitionLines {w : Wrapper} {m : Method} (mem : m ∈ allMethods w)
    (one : m.OneLined) : definitionLines m <:+: linesOf w.render :=
  infix_linesOf_render ((methodLines_eq m ▸ List.suffix_append _ _).isInfix.trans (infix_lines mem))
    one.definitionLines

end Wrapper

end OpenApi
