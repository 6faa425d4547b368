import OpenApi.Proofs.Operation.Bare
import OpenApi.Proofs.Wrapper.Lines

/-!
# The code of a wrapper

The lines of a wrapper's module without its comments. The summaries and descriptions of operations
stay in comments, and so do the title and the version up to their first line feed. What follows it
is code.
-/

namespace OpenApi

namespace Wrapper

/-! ## Lines -/

/-- A line that starts, after spaces, with two slashes. -/
def isComment (line : List Char) : Bool :=
  ['/', '/'].isPrefixOf (line.dropWhile (· == ' '))

/-- The lines of a text without its comments. -/
def codeOf (text : List Char) : List (List Char) :=
  (splitLines [] text).filter (!isComment ·)

def codeLines (text : String) : List (List Char) :=
  codeOf text.toList

/-- The code of a line as it is written, which may have line feeds in it. -/
def lineCode (line : String) : List (List Char) :=
  codeOf (line.toList ++ ['\n'])

/-- The code that the title and the version bring into a module: what follows their first line
feed. -/
def spilled (title version : String) : List (List Char) :=
  (splitLines [] ((title ++ " " ++ version ++ ".").toList ++ ['\n'])).tail.filter (!isComment ·)

theorem exists_splitLines (text : List Char) :
    ∃ first others, ∀ line, splitLines line (text ++ ['\n']) =
      (line.reverse ++ first) :: others := by
  induction text with
  | nil => exact ⟨[], [], fun line => by simp [splitLines]⟩
  | cons c text ih =>
    obtain ⟨first, others, h⟩ := ih
    by_cases hc : c = '\n'
    · subst hc
      refine ⟨[], first :: others, fun line => ?_⟩
      rw [List.cons_append, splitLines, h]
      simp
    · refine ⟨c :: first, others, fun line => ?_⟩
      rw [List.cons_append, splitLines.eq_3 _ _ _ hc, h]
      simp

theorem lineCode_of_comment {line : String} (one : '\n' ∉ line.toList)
    (comment : isComment line.toList = true) : lineCode line = [] := by
  rw [lineCode, codeOf, splitLines_of_one_line one]
  simp [splitLines, comment]

theorem codeLines_render (w : Wrapper) : codeLines w.render = w.lines.flatMap lineCode := by
  rw [codeLines, codeOf, splitLines_render, List.filter_flatMap]
  rfl

theorem spilled_of_one_line {title version : String} (htitle : '\n' ∉ title.toList)
    (hversion : '\n' ∉ version.toList) : spilled title version = [] := by
  have hone : '\n' ∉ (title ++ " " ++ version ++ ".").toList := by
    simp [htitle, hversion]
  rw [spilled, splitLines_of_one_line hone]
  simp [splitLines]

theorem lineCode_head (title version : String) :
    lineCode s!"//! Typed wrappers for {title} {version}." = spilled title version := by
  obtain ⟨first, others, h⟩ := exists_splitLines (title ++ " " ++ version ++ ".").toList
  have hhead : (s!"//! Typed wrappers for {title} {version}.").toList ++ ['\n'] =
      "//! Typed wrappers for ".toList ++ ((title ++ " " ++ version ++ ".").toList ++ ['\n']) := by
    simp [toString]
  have hcomment : isComment ("//! Typed wrappers for ".toList ++ first) = true := by
    simp [isComment, List.isPrefixOf]
  rw [lineCode, codeOf, hhead, splitLines_of_one_line (by decide), h, List.append_nil,
    List.reverse_reverse, List.filter_cons_of_neg (by rw [hcomment]; decide), spilled, h]
  rfl

theorem codeLines_render_eq_spilled_append (w : Wrapper) :
    codeLines w.render = spilled w.title w.version ++ w.lines.tail.flatMap lineCode := by
  rw [codeLines_render, ← lineCode_head]
  rfl

/-! ## Comments -/

theorem lineCode_commentLine {line : String} (one : '\n' ∉ line.toList) :
    lineCode (commentLine line) = [] := by
  unfold commentLine
  split
  · exact lineCode_of_comment (by decide) (by decide)
  · refine lineCode_of_comment (by simp [one]) ?_
    simp [isComment, List.isPrefixOf]

theorem map_signature {α : Type} {f : Parameter → α} (h : ∀ p, f p.core = f p) (o : Operation) :
    o.core.signature.map f = o.signature.map f := by
  have hf : f ∘ Parameter.core = f := funext h
  simp only [Operation.signature, Operation.core, List.filter_map, List.map_append, List.map_map,
    hf]
  rfl

theorem code_docLines (r : Registry) (o : Operation) :
    (docLines r o.core).flatMap (lineCode ∘ commentLine) =
      (docLines r o).flatMap (lineCode ∘ commentLine) := by
  have htexts : ∀ texts : List String,
      (texts.flatMap fun text => "" :: textLines text).flatMap (lineCode ∘ commentLine) = [] := by
    intro texts
    rw [List.flatMap_eq_nil_iff]
    intro line hline
    obtain ⟨text, _, hline⟩ := List.mem_flatMap.1 hline
    rcases List.mem_cons.1 hline with rfl | hline
    · exact lineCode_commentLine (by decide)
    · exact lineCode_commentLine (oneLine_of_mem_textLines hline)
  have hparameters := map_signature (f := fun p =>
    s!"* `{p.localName}` ({p.location.name}): {describe r p.type}") (fun _ => rfl) o
  unfold docLines
  simp only [List.flatMap_cons, List.flatMap_append, htexts, hparameters]
  rfl

theorem code_docLines_of_core (r : Registry) {o o₁ : Operation} (same : o₁.core = o.core) :
    (docLines r o₁).flatMap (lineCode ∘ commentLine) =
      (docLines r o).flatMap (lineCode ∘ commentLine) := by
  rw [← code_docLines r o₁, same, code_docLines]

/-! ## Methods -/

/-- The code of a method. -/
def methodCode (m : Method) : List (List Char) :=
  (methodLines m).flatMap lineCode

theorem methodCode_of_doc {m m₁ : Method} (same : { m₁ with doc := [] } = { m with doc := [] })
    (h : m₁.doc.flatMap (lineCode ∘ commentLine) = m.doc.flatMap (lineCode ∘ commentLine)) :
    methodCode m₁ = methodCode m := by
  obtain ⟨name, operationId, deprecated, doc, arguments⟩ := m
  obtain ⟨_, _, _, doc₁, _⟩ := m₁
  simp only [Method.mk.injEq, true_and] at same
  obtain ⟨rfl, rfl, rfl, rfl⟩ := same
  have hdoc : (doc₁.map commentLine).flatMap lineCode = (doc.map commentLine).flatMap lineCode := by
    rw [List.flatMap_map, List.flatMap_map]
    exact h
  simp only [methodCode, methodLines, bodyLines, List.append_assoc, List.flatMap_append, hdoc]

theorem methodCode_of_core (r : Registry) {o o₁ : Operation} (same : o₁.core = o.core) :
    (method? r o₁).map methodCode = (method? r o).map methodCode := by
  have hnames : o₁.signature.map (·.localName) = o.signature.map (·.localName) := by
    rw [← map_signature (fun _ => rfl) o₁, same, map_signature fun _ => rfl]
  have harguments : o₁.signature.map argumentOf = o.signature.map argumentOf := by
    rw [← map_signature (fun _ => rfl) o₁, same, map_signature fun _ => rfl]
  have hname : o₁.name = o.name := (congrArg Operation.name same :)
  have hid : o₁.id = o.id := (congrArg Operation.id same :)
  have hdeprecated : o₁.deprecated = o.deprecated := (congrArg Operation.deprecated same :)
  unfold method?
  rw [hnames, hname, hid, hdeprecated, harguments]
  split
  · rw [Option.map_some, Option.map_some]
    exact congrArg some (methodCode_of_doc rfl (code_docLines_of_core r same))
  · rfl

end Wrapper

end OpenApi
