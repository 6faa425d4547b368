import OpenApi.Proofs.Wrapper.Built

/-!
# What a wrapper's module defines

The types that a module defines and the methods of each, read from lines. Of a wrapper these are
first the lines that its module is written from.
-/

namespace OpenApi

namespace Wrapper

/-! ## Definitions in a text -/

/-- The name that a line defines: what stands between its start and a mark. -/
def definedName? (start : String) (mark : Char) (line : String) : Option String :=
  if start.toList.isPrefixOf line.toList then
    some (String.ofList ((line.toList.drop start.length).takeWhile (· ≠ mark)))
  else none

def structName? : String → Option String :=
  definedName? "pub struct " '<'

def methodName? : String → Option String :=
  definedName? "    pub fn " '('

def startsImpl (line : String) : Bool :=
  "impl<".toList.isPrefixOf line.toList

/-- The names of the methods in each block. A block ends at a brace in front of a line. -/
def implMethods : List String → List (List String)
  | [] => []
  | line :: rest =>
    if startsImpl line then
      (rest.takeWhile (· ≠ "\x7d")).filterMap methodName? :: implMethods rest
    else implMethods rest

/-- The names that a module imports. -/
def imported : List String :=
  ["Args", "Client", "InvokeError", "Value"]

/-- No name stands for two things: not for two types, not for a type and an import, and not for two
methods of a block. -/
structure DefinesOnce (lines : List String) : Prop where
  structs : (lines.filterMap structName?).Nodup
  imports : ∀ name ∈ lines.filterMap structName?, name ∉ imported
  methods : ∀ names ∈ implMethods lines, names.Nodup

theorem definedName?_eq_some {start name line : String} {mark : Char} (rest : List Char)
    (one : mark ∉ name.toList) (h : line.toList = start.toList ++ (name.toList ++ mark :: rest)) :
    definedName? start mark line = some name := by
  have hprefix : start.toList.isPrefixOf line.toList = true := by
    rw [h, List.isPrefixOf_iff_prefix]
    exact List.prefix_append _ _
  have hname : ∀ c ∈ name.toList, decide (c ≠ mark) = true :=
    fun c hc => decide_eq_true fun heq => one (heq ▸ hc)
  rw [definedName?, if_pos hprefix, h, ← String.length_toList, List.drop_left,
    List.takeWhile_append_of_pos hname]
  simp

/-- A line inside a block is empty or indented. -/
def isInner (line : String) : Bool :=
  line.isEmpty || "    ".toList.isPrefixOf line.toList

theorem toList_of_inner {line : String} (h : isInner line = true) :
    line = "" ∨ ∃ rest, line.toList = "    ".toList ++ rest := by
  rw [isInner, Bool.or_eq_true, String.isEmpty_iff, List.isPrefixOf_iff_prefix] at h
  exact h.imp_right fun ⟨rest, hrest⟩ => ⟨rest, hrest.symm⟩

theorem structName?_of_inner {line : String} (h : isInner line = true) :
    structName? line = none := by
  rcases toList_of_inner h with rfl | ⟨rest, hrest⟩
  · decide
  · rw [structName?, definedName?, hrest]
    rfl

theorem not_startsImpl_of_inner {line : String} (h : isInner line = true) :
    startsImpl line = false := by
  rcases toList_of_inner h with rfl | ⟨rest, hrest⟩
  · decide
  · rw [startsImpl, hrest]
    rfl

theorem ne_brace_of_inner {line : String} (h : isInner line = true) : line ≠ "\x7d" := by
  rintro rfl
  revert h
  decide

theorem implMethods_append {before : List String} (none : ∀ line ∈ before, startsImpl line = false)
    (after : List String) : implMethods (before ++ after) = implMethods after := by
  induction before with
  | nil => rfl
  | cons line rest ih =>
    obtain ⟨hline, hrest⟩ := List.forall_mem_cons.1 none
    rw [List.cons_append, implMethods, hline, if_neg Bool.false_ne_true, ih hrest]

theorem implMethods_block {line : String} (impl : startsImpl line = true) {body : List String}
    (inner : ∀ line ∈ body, isInner line = true) (after : List String) :
    implMethods (line :: (body ++ "\x7d" :: after)) =
      body.filterMap methodName? :: implMethods after := by
  have hbody : ∀ line ∈ body, decide (line ≠ "\x7d") = true :=
    fun line hline => decide_eq_true (ne_brace_of_inner (inner line hline))
  have hnone : ∀ line ∈ body ++ ["\x7d"], startsImpl line = false := by
    intro line hline
    rcases List.mem_append.1 hline with hline | hline
    · exact not_startsImpl_of_inner (inner line hline)
    · rw [List.mem_singleton.1 hline]
      decide
  have hafter := implMethods_append hnone after
  rw [List.append_assoc, List.singleton_append] at hafter
  rw [implMethods, if_pos impl, hafter, List.takeWhile_append_of_pos hbody,
    List.takeWhile_cons_of_neg (by simp), List.append_nil]

example : implMethods ["impl<'c> Zoo<'c> \x7b", "    pub fn cats(&self) -> CatsApi<'c> \x7b",
    "    \x7d", "\x7d", "    pub fn dogs("] = [["cats"]] := by
  decide

/-! ## Definitions in a module -/

theorem inner_commentLine (line : String) : isInner (commentLine line) = true := by
  unfold commentLine
  split
  · decide
  · simp [isInner, List.isPrefixOf]

theorem methodName?_commentLine (line : String) : methodName? (commentLine line) = none := by
  unfold commentLine
  split
  · decide
  · simp [methodName?, definedName?, List.isPrefixOf]

theorem inner_bodyLines (m : Method) : ∀ line ∈ bodyLines m, isInner line = true := by
  unfold bodyLines
  split
  · decide
  · refine List.forall_mem_cons.2 ⟨by decide, List.forall_mem_map.2 fun a _ => ?_⟩
    simp [isInner, toString]

theorem methodNames_bodyLines (m : Method) : (bodyLines m).filterMap methodName? = [] := by
  rw [List.filterMap_eq_nil_iff]
  unfold bodyLines
  split
  · decide
  · refine List.forall_mem_cons.2 ⟨by decide, List.forall_mem_map.2 fun a _ => ?_⟩
    simp [methodName?, definedName?, toString]

theorem inner_methodLines (m : Method) : ∀ line ∈ methodLines m, isInner line = true := by
  unfold methodLines
  simp only [List.forall_mem_append]
  refine ⟨⟨⟨⟨⟨⟨?_, ?_⟩, ?_⟩, ?_⟩, by decide⟩, inner_bodyLines m⟩, ?_⟩
  · exact List.forall_mem_map.2 fun line _ => inner_commentLine line
  · split <;> decide
  · simp [isInner, toString]
  · exact List.forall_mem_map.2 fun a _ => by simp [isInner, toString]
  · simp [isInner, toString]

theorem methodNames_methodLines {m : Method} (one : '(' ∉ m.name.toList) :
    (methodLines m).filterMap methodName? = [m.name] := by
  have hcomments : (m.doc.map commentLine).filterMap methodName? = [] := by
    rw [List.filterMap_eq_nil_iff]
    exact List.forall_mem_map.2 fun line _ => methodName?_commentLine line
  have hdeprecated : (if m.deprecated then ["    #[deprecated]"] else []).filterMap methodName? =
      [] := by
    split <;> decide
  have hname : methodName? s!"    pub fn {m.name}(" = some m.name :=
    definedName?_eq_some [] one (by simp [toString])
  have harguments : (m.arguments.map fun a => s!"        {a.identifier}: {a.type},").filterMap
      methodName? = [] := by
    rw [List.filterMap_eq_nil_iff]
    exact List.forall_mem_map.2 fun a _ => by simp [methodName?, definedName?, toString]
  have hcall : methodName? s!"        self.client.invoke({m.operationId}, &args)" = none := by
    simp [methodName?, definedName?, toString]
  simp only [methodLines, List.filterMap_append, List.filterMap_cons, hcomments, hdeprecated,
    hname, harguments, methodNames_bodyLines, hcall]
  rfl

theorem inner_accessorLines (s : Section) : ∀ line ∈ accessorLines s, isInner line = true := by
  simp [accessorLines, isInner, toString]

theorem methodNames_accessorLines {s : Section} (one : '(' ∉ s.accessor.toList) :
    (accessorLines s).filterMap methodName? = [s.accessor] := by
  have hcomment : methodName? s!"    /// Operations tagged `{s.tag}`." = none := by
    simp [methodName?, definedName?, toString]
  have haccessor : methodName? s!"    pub fn {s.accessor}(&self) -> {s.typeName}<'c> \x7b" =
      some s.accessor :=
    definedName?_eq_some (s!"&self) -> {s.typeName}<'c> \x7b").toList one (by simp [toString])
  have hvalue : methodName? s!"        {s.typeName} \x7b" = none := by
    simp [methodName?, definedName?, toString]
  simp only [accessorLines, List.filterMap_cons, hcomment, haccessor, hvalue]
  rfl

theorem structNames_block {typeName : String} (one : '<' ∉ typeName.toList) {body : List String}
    (inner : ∀ line ∈ body, isInner line = true) (after : List String) :
    (structLines typeName ++ (body ++ "\x7d" :: after)).filterMap structName? =
      typeName :: after.filterMap structName? := by
  have hstruct : structName? s!"pub struct {typeName}<'c> \x7b" = some typeName :=
    definedName?_eq_some "'c> \x7b".toList one (by simp [toString])
  have himpl : structName? s!"impl<'c> {typeName}<'c> \x7b" = none := by
    simp [structName?, definedName?, toString]
  have hbody : body.filterMap structName? = [] :=
    List.filterMap_eq_nil_iff.2 fun line hline => structName?_of_inner (inner line hline)
  rw [List.filterMap_append, List.filterMap_append, hbody, List.nil_append]
  simp only [structLines, List.filterMap_cons, hstruct, himpl]
  rfl

theorem implMethods_structLines (typeName : String) {body : List String}
    (inner : ∀ line ∈ body, isInner line = true) (after : List String) :
    implMethods (structLines typeName ++ (body ++ "\x7d" :: after)) =
      body.filterMap methodName? :: implMethods after := by
  have himpl : startsImpl s!"impl<'c> {typeName}<'c> \x7b" = true := by
    simp [startsImpl, toString]
  have hbefore : ∀ line ∈ [s!"pub struct {typeName}<'c> \x7b", "    client: &'c Client,", "\x7d",
      ""], startsImpl line = false := by
    simp [startsImpl, toString, List.isPrefixOf]
  exact (implMethods_append hbefore _).trans (implMethods_block himpl inner after)

theorem forall_mem_intersperse {P : String → Prop} (blank : P "") {parts : List (List String)}
    (each : ∀ part ∈ parts, ∀ line ∈ part, P line) :
    ∀ line ∈ (List.intersperse [""] parts).flatten, P line := by
  cases parts with
  | nil => simp
  | cons part rest =>
    obtain ⟨hpart, hrest⟩ := List.forall_mem_cons.1 each
    rw [flatten_intersperse_cons]
    exact List.forall_mem_append.2 ⟨hpart, List.forall_mem_flatMap.2 fun next hnext =>
      List.forall_mem_cons.2 ⟨blank, hrest next hnext⟩⟩

theorem filterMap_intersperse {α : Type} {f : String → Option α} (blank : f "" = none)
    (parts : List (List String)) :
    (List.intersperse [""] parts).flatten.filterMap f = parts.flatMap (·.filterMap f) := by
  cases parts with
  | nil => rfl
  | cons part rest =>
    rw [flatten_intersperse_cons, List.filterMap_append, List.filterMap_flatMap, List.flatMap_cons]
    congr 1
    exact List.flatMap_congr fun next _ => List.filterMap_cons_none blank

theorem methodNames_flatMap {methods : List Method} (one : ∀ m ∈ methods, '(' ∉ m.name.toList) :
    methods.flatMap (fun m => (methodLines m).filterMap methodName?) = methods.map (·.name) := by
  rw [List.map_eq_flatMap]
  exact List.flatMap_congr fun m hm => methodNames_methodLines (one m hm)

/-- The lines inside the block of a section. -/
def sectionBody (s : Section) : List String :=
  (List.intersperse [""] (s.methods.map methodLines)).flatten

theorem sectionLines_append (s : Section) (after : List String) :
    sectionLines s ++ after =
      [""] ++ (structLines s.typeName ++ (sectionBody s ++ "\x7d" :: after)) := by
  simp [sectionLines, sectionBody]

theorem inner_sectionBody (s : Section) : ∀ line ∈ sectionBody s, isInner line = true :=
  forall_mem_intersperse (by decide) (List.forall_mem_map.2 fun m _ => inner_methodLines m)

/-- The names of a section are free of the marks behind them. -/
structure Section.Clear (s : Section) : Prop where
  typeName : '<' ∉ s.typeName.toList
  accessor : '(' ∉ s.accessor.toList
  methods : ∀ m ∈ s.methods, '(' ∉ m.name.toList

theorem methodNames_sectionBody {s : Section} (clear : s.Clear) :
    (sectionBody s).filterMap methodName? = s.methods.map (·.name) := by
  rw [sectionBody, filterMap_intersperse (by decide), List.flatMap_map]
  exact methodNames_flatMap clear.methods

theorem structNames_sections {sections : List Section} (clear : ∀ s ∈ sections, s.Clear) :
    (sections.flatMap sectionLines).filterMap structName? = sections.map (·.typeName) := by
  induction sections with
  | nil => rfl
  | cons s rest ih =>
    obtain ⟨hs, hrest⟩ := List.forall_mem_cons.1 clear
    rw [List.flatMap_cons, sectionLines_append, List.filterMap_append,
      structNames_block hs.typeName (inner_sectionBody s), ih hrest]
    rfl

theorem implMethods_sections {sections : List Section} (clear : ∀ s ∈ sections, s.Clear) :
    implMethods (sections.flatMap sectionLines) =
      sections.map fun s => s.methods.map (·.name) := by
  induction sections with
  | nil => rfl
  | cons s rest ih =>
    obtain ⟨hs, hrest⟩ := List.forall_mem_cons.1 clear
    rw [List.flatMap_cons, sectionLines_append, implMethods_append (by decide),
      implMethods_structLines s.typeName (inner_sectionBody s), ih hrest,
      methodNames_sectionBody hs]
    rfl

/-- The names of a wrapper are free of the marks behind them. -/
structure Clear (w : Wrapper) : Prop where
  typeName : '<' ∉ w.typeName.toList
  methods : ∀ m ∈ w.methods, '(' ∉ m.name.toList
  sections : ∀ s ∈ w.sections, s.Clear

/-- The lines inside the block of the client's type. -/
def rootBody (w : Wrapper) : List String :=
  ["    pub fn new(client: &'c Client) -> Self \x7b", "        Self \x7b client \x7d", "    \x7d"]
    ++ w.sections.flatMap accessorLines
    ++ w.methods.flatMap fun m => "" :: methodLines m

theorem inner_rootBody (w : Wrapper) : ∀ line ∈ rootBody w, isInner line = true := by
  refine List.forall_mem_append.2 ⟨List.forall_mem_append.2 ⟨by decide, ?_⟩, ?_⟩
  · exact List.forall_mem_flatMap.2 fun s _ => inner_accessorLines s
  · exact List.forall_mem_flatMap.2 fun m _ =>
      List.forall_mem_cons.2 ⟨by decide, inner_methodLines m⟩

theorem methodNames_rootBody {w : Wrapper} (clear : Clear w) :
    (rootBody w).filterMap methodName? =
      "new" :: (w.sections.map (·.accessor) ++ w.methods.map (·.name)) := by
  have hnew : ["    pub fn new(client: &'c Client) -> Self \x7b", "        Self \x7b client \x7d",
      "    \x7d"].filterMap methodName? = ["new"] := by
    decide
  have haccessors : (w.sections.flatMap accessorLines).filterMap methodName? =
      w.sections.map (·.accessor) := by
    rw [List.filterMap_flatMap, List.map_eq_flatMap]
    exact List.flatMap_congr fun s hs => methodNames_accessorLines (clear.sections s hs).accessor
  have hmethods : (w.methods.flatMap fun m => "" :: methodLines m).filterMap methodName? =
      w.methods.map (·.name) := by
    rw [List.filterMap_flatMap]
    exact methodNames_flatMap clear.methods
  rw [rootBody, List.filterMap_append, List.filterMap_append, hnew, haccessors, hmethods]
  rfl

theorem exists_lines_eq (w : Wrapper) :
    ∃ head : List String, (∀ line ∈ head, structName? line = none ∧ startsImpl line = false) ∧
      w.lines = head ++ (structLines w.typeName ++
        (rootBody w ++ "\x7d" :: w.sections.flatMap sectionLines)) := by
  -- The head ends before the first line that names the client's type.
  refine ⟨w.lines.take 9, ?_, ?_⟩
  · have hhead : w.lines.take 9 = s!"//! Typed wrappers for {w.title} {w.version}." ::
        ["//!", "//! Generated by `oarc generate`. Do not edit by hand.", "",
          "#![allow(clippy::too_many_arguments)]", "",
          "use oarc_core::\x7bArgs, Client, InvokeError, Value\x7d;", "",
          "/// Entry point over a runtime [`Client`]."] := rfl
    rw [hhead]
    refine List.forall_mem_cons.2 ⟨?_, by decide⟩
    simp [structName?, definedName?, startsImpl, toString, List.isPrefixOf]
  · simp [lines, rootBody]

theorem structNames_lines {w : Wrapper} (clear : Clear w) :
    w.lines.filterMap structName? = w.typeName :: w.sections.map (·.typeName) := by
  obtain ⟨head, hhead, hlines⟩ := exists_lines_eq w
  have hnone : head.filterMap structName? = [] :=
    List.filterMap_eq_nil_iff.2 fun line hline => (hhead line hline).1
  rw [hlines, List.filterMap_append, hnone, List.nil_append,
    structNames_block clear.typeName (inner_rootBody w), structNames_sections clear.sections]

theorem implMethods_lines {w : Wrapper} (clear : Clear w) :
    implMethods w.lines = ("new" :: (w.sections.map (·.accessor) ++ w.methods.map (·.name))) ::
      w.sections.map fun s => s.methods.map (·.name) := by
  obtain ⟨head, hhead, hlines⟩ := exists_lines_eq w
  rw [hlines, implMethods_append fun line hline => (hhead line hline).2,
    implMethods_structLines w.typeName (inner_rootBody w), methodNames_rootBody clear,
    implMethods_sections clear.sections]

end Wrapper

end OpenApi
