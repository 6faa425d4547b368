import OpenApi.Proofs.Wrapper.Arguments

/-!
# The identifiers of a module

When the names that a module defines are identifiers. Their words are cut out of titles, tags, ids
and the names of parameters, which may hold word characters that no identifier has, or start with
one that only stands behind others.
-/

namespace OpenApi

namespace Wrapper

open Text (IsSnake isXidStart isXidContinue isXidContinue_of_isXidStart isXidStart_of_isAlpha
  isXidContinue_of_isAlphanum isXidContinue_underscore wordChars)

/-! ## Identifiers -/

/-- The words that stand for themselves in code. -/
def reservedWords : List String :=
  ["abstract", "as", "async", "await", "become", "box", "break", "const", "continue", "crate", "do",
    "dyn", "else", "enum", "extern", "false", "final", "fn", "for", "gen", "if", "impl", "in",
    "let", "loop", "macro", "match", "mod", "move", "mut", "override", "priv", "pub", "ref",
    "return", "self", "Self", "static", "struct", "super", "trait", "true", "try", "type", "typeof",
    "unsafe", "unsized", "use", "virtual", "where", "while", "yield"]

/-- The reserved words that stay reserved behind the mark of a keyword. -/
def markedReservedWords : List String :=
  ["crate", "self", "Self", "super"]

/-- An underscore can start an identifier, but is none. -/
def isPlain : List Char → Bool
  | [] => false
  | c :: rest => (isXidStart c || c == '_' && !rest.isEmpty) && rest.all isXidContinue

/-- What code takes for an identifier, with the mark of a keyword or without. -/
def isIdentifier (name : String) : Bool :=
  match name.toList with
  | 'r' :: '#' :: rest => isPlain rest && String.ofList rest ∉ markedReservedWords
  | cs => isPlain cs && name ∉ reservedWords

example : ["petId", "r#type", "type", "r#self"].map isIdentifier = [true, true, false, false] := by
  decide

theorem isIdentifier_of_unmarked {name : String} (unmarked : '#' ∉ name.toList) :
    isIdentifier name = (isPlain name.toList && name ∉ reservedWords) := by
  unfold isIdentifier
  split
  · rename_i rest hname
    rw [hname] at unmarked
    exact absurd (by simp) unmarked
  · rfl

theorem isPlain_of_isXidStart {c : Char} (start : isXidStart c = true) (rest : List Char) :
    isPlain (c :: rest) = (c :: rest).all isXidContinue := by
  rw [isPlain, start, List.all_cons, isXidContinue_of_isXidStart start]
  rfl

theorem anyContains_firstRanges (c : Char) :
    Text.CharRange.anyContains Text.firstRanges c = (c.isDigit || isXidStart c) := by
  have hdigit : (⟨0x30, 0x39⟩ : Text.CharRange).contains c = c.isDigit := by
    rw [Bool.eq_iff_iff, Char.isDigit_iff_toNat, Text.CharRange.contains, Bool.and_eq_true,
      decide_eq_true_eq, decide_eq_true_eq]
    rfl
  rw [← hdigit]
  rfl

theorem isIdentifier_marked (name : String) :
    isIdentifier ("r#" ++ name) = (isPlain name.toList && name ∉ markedReservedWords) := by
  have hlist : ("r#" ++ name).toList = 'r' :: '#' :: name.toList := by simp
  rw [isIdentifier, hlist]
  change (isPlain name.toList && String.ofList name.toList ∉ markedReservedWords) = _
  rw [String.ofList_toList]

/-! ## Valid names -/

theorem isIdentifier_of_startsWithLetter {name : String} (unmarked : '#' ∉ name.toList)
    (letter : startsWithLetter name = true) :
    isIdentifier name = (name.toList.all isXidContinue && name ∉ reservedWords) := by
  obtain ⟨c, hfirst, hc⟩ := (Option.any_eq_true ..).1 letter
  obtain ⟨rest, hlist⟩ := List.head?_eq_some_iff.1 hfirst
  rw [isIdentifier_of_unmarked unmarked, hlist, isPlain_of_isXidStart (isXidStart_of_isAlpha hc)]

section Valid

variable {name : String} (valid : isValidName name = true)
include valid

theorem all_xid_of_isValidName : name.toList.all isXidContinue = true := by
  rw [isValidName, Bool.and_eq_true, List.all_eq_true] at valid
  refine List.all_eq_true.2 fun c hc => ?_
  rcases Bool.or_eq_true_iff.1 (valid.2 c hc) with halphanum | hunderscore
  · exact isXidContinue_of_isAlphanum halphanum
  · rw [eq_of_beq hunderscore, isXidContinue_underscore]

theorem exists_isXidStart_of_isValidName :
    ∃ c rest, name.toList = c :: rest ∧ isXidStart c = true := by
  rw [isValidName, Bool.and_eq_true] at valid
  obtain ⟨c, hfirst, hc⟩ := (Option.any_eq_true ..).1 valid.1
  obtain ⟨rest, hlist⟩ := List.head?_eq_some_iff.1 hfirst
  exact ⟨c, rest, hlist, isXidStart_of_isAlpha hc⟩

theorem isPlain_of_isValidName : isPlain name.toList = true := by
  obtain ⟨c, rest, hlist, hstart⟩ := exists_isXidStart_of_isValidName valid
  rw [hlist, isPlain_of_isXidStart hstart, ← hlist, all_xid_of_isValidName valid]

theorem isIdentifier_of_isValidName : isIdentifier name = decide (name ∉ reservedWords) := by
  have hunmarked : '#' ∉ name.toList := fun hmem => by
    rw [isValidName, Bool.and_eq_true, List.all_eq_true] at valid
    exact absurd (valid.2 _ hmem) (by decide)
  rw [isIdentifier_of_unmarked hunmarked, isPlain_of_isValidName valid, Bool.true_and]

end Valid

/-! ## Local names -/

/-- An identifier can be spelled of the words of the text. -/
structure Spelled (text : String) : Prop where
  continues : (wordChars text).all isXidContinue = true
  starts : (wordChars text).head?.all (fun c => c.isDigit || isXidStart c) = true

theorem spelled_of_isAlphanum {text : String} (h : text.toList.all Char.isAlphanum = true) :
    Spelled text := by
  have hword : ∀ c ∈ wordChars text, c.isAlphanum = true :=
    fun c hc => List.all_eq_true.1 h c (List.mem_of_mem_filter hc)
  refine ⟨List.all_eq_true.2 fun c hc => isXidContinue_of_isAlphanum (hword c hc), ?_⟩
  cases hlist : wordChars text with
  | nil => rfl
  | cons c rest =>
    rw [hlist] at hword
    rw [List.head?_cons, Option.all_some, Bool.or_comm, Bool.or_eq_true]
    exact (Bool.or_eq_true_iff.1 (hword c List.mem_cons_self)).imp_left isXidStart_of_isAlpha

/-- An identifier can be made of the small name. -/
def isSpellable (name : String) : Bool :=
  name.toList.all isXidContinue && name.toList.head?.all fun c => c.isDigit || isXidStart c

theorem isSpellable_localName_iff (text : String) :
    isSpellable (localName text) = true ↔ Spelled text := by
  have hfirst := first_localName text
  rw [funext anyContains_firstRanges] at hfirst
  rw [isSpellable, all_xid_localName, hfirst, Bool.and_eq_true]
  exact ⟨fun h => ⟨h.1, h.2⟩, fun h => ⟨h.continues, h.starts⟩⟩

theorem isSpellable_of_isValidName {name : String} (valid : isValidName name = true) :
    isSpellable name = true := by
  obtain ⟨c, rest, hlist, hstart⟩ := exists_isXidStart_of_isValidName valid
  rw [isSpellable, all_xid_of_isValidName valid, hlist, List.head?_cons, Option.all_some, hstart,
    Bool.or_true, Bool.true_and]

theorem isIdentifier_of_pathKeyword {name : String} (mem : name ∈ pathKeywords) :
    isIdentifier (name ++ "_") = isSpellable name := by
  have hall : ∀ name ∈ pathKeywords, isValidName name = true ∧
      isValidName (name ++ "_") = true ∧ name ++ "_" ∉ reservedWords := by decide
  obtain ⟨hvalid, hvalid', hfree⟩ := hall name mem
  rw [isIdentifier_of_isValidName hvalid', isSpellable_of_isValidName hvalid, decide_eq_true hfree]

theorem isIdentifier_of_keyword {name : String} (mem : name ∈ keywords) :
    isIdentifier ("r#" ++ name) = isSpellable name := by
  have hall : ∀ name ∈ keywords, isValidName name = true ∧ name ∉ markedReservedWords := by decide
  obtain ⟨hvalid, hfree⟩ := hall name mem
  rw [isIdentifier_marked, isPlain_of_isValidName hvalid, isSpellable_of_isValidName hvalid,
    decide_eq_true hfree, Bool.and_true]

theorem isIdentifier_of_digit {name : String} (unmarked : '#' ∉ name.toList)
    (digit : startsWithDigit name = true) :
    isIdentifier ("_" ++ name) = name.toList.all isXidContinue := by
  have hlist : ("_" ++ name).toList = '_' :: name.toList := by simp
  have hne : name.toList ≠ [] := by
    rintro hnil
    rw [startsWithDigit, hnil] at digit
    cases digit
  have hfree : "_" ++ name ∉ reservedWords := fun hmem => by
    have hnone : ∀ w ∈ reservedWords, w.toList.head? ≠ some '_' := by decide
    exact hnone _ hmem (by rw [hlist]; rfl)
  rw [isIdentifier_of_unmarked (by simp [hlist, unmarked]), hlist, isPlain, decide_eq_true hfree]
  simp [hne]

theorem isIdentifier_of_free {name : String} (h : IsSnake name) (path : name ∉ pathKeywords)
    (keyword : name ∉ keywords) (digit : ¬startsWithDigit name = true) :
    isIdentifier name = isSpellable name := by
  have hunmarked : '#' ∉ name.toList := fun hmem => absurd (h.plain _ hmem (by decide)) (by decide)
  have hfree : name ∉ reservedWords := fun hmem => by
    have hall : ∀ w ∈ reservedWords, w ∈ pathKeywords ∨ w ∈ keywords := by decide
    exact (hall name hmem).elim path keyword
  obtain ⟨c, hc, hfirst⟩ := h.first
  obtain ⟨rest, hlist⟩ := List.head?_eq_some_iff.1 hfirst
  have hdigit : c.isDigit = false := by
    rw [startsWithDigit, hfirst] at digit
    simpa using digit
  have hunderscore : (c == '_') = false := by
    rw [beq_eq_false_iff_ne]
    rintro rfl
    exact hc (by decide)
  rw [isIdentifier_of_unmarked hunmarked, isSpellable, hlist, decide_eq_true hfree, Bool.and_true]
  cases hstart : isXidStart c with
  | true =>
    rw [isPlain_of_isXidStart hstart, List.head?_cons, Option.all_some, hstart, Bool.or_true,
      Bool.and_true]
  | false => simp [isPlain, hstart, hunderscore, hdigit]

theorem isIdentifier_identifier {name : String} (h : IsSnake name) :
    isIdentifier (identifier name) = isSpellable name := by
  unfold identifier
  split
  · rename_i hpath
    exact isIdentifier_of_pathKeyword hpath
  · rename_i hpath
    split
    · rename_i hkeyword
      exact isIdentifier_of_keyword hkeyword
    · rename_i hkeyword
      split
      · rename_i hdigit
        have hunmarked : '#' ∉ name.toList :=
          fun hmem => absurd (h.plain _ hmem (by decide)) (by decide)
        obtain ⟨c, hfirst, hc⟩ := (Option.any_eq_true ..).1 hdigit
        rw [isIdentifier_of_digit hunmarked hdigit, isSpellable, hfirst, Option.all_some, hc,
          Bool.true_or, Bool.and_true]
      · rename_i hdigit
        exact isIdentifier_of_free h hpath hkeyword hdigit

theorem isIdentifier_localName_iff (text : String) :
    isIdentifier (identifier (localName text)) = true ↔ Spelled text := by
  rw [isIdentifier_identifier (isSnake_localName text), isSpellable_localName_iff]

/-! ## Types -/

theorem isIdentifier_groupType_iff (name : String) :
    isIdentifier (Text.pascalCase (Text.words name) ++ "Api") = true ↔
      (wordChars name).all isXidContinue = true ∧
        (Text.pascalCase (Text.words name)).toList.head?.all isXidStart = true := by
  have hplain := Text.plain_pascalCase fun _ => Text.isWord_of_mem_words (s := name)
  rw [← Text.all_xid_pascalCase]
  generalize Text.pascalCase (Text.words name) = spelled at hplain
  have hunmarked : '#' ∉ (spelled ++ "Api").toList := by
    rw [String.toList_append, List.mem_append, not_or]
    exact ⟨fun hmem => hplain _ hmem (by decide), by decide⟩
  have hfree : spelled ++ "Api" ∉ reservedWords := fun hmem => by
    have hends : ∀ w ∈ reservedWords, ¬"Api".toList <:+ w.toList := by decide
    exact hends _ hmem (by rw [String.toList_append]; exact List.suffix_append ..)
  have hapi : isPlain "Api".toList = true := isPlain_of_isValidName (by decide)
  have hxid : "Api".toList.all isXidContinue = true := all_xid_of_isValidName (by decide)
  rw [isIdentifier_of_unmarked hunmarked, decide_eq_true hfree, Bool.and_true, String.toList_append]
  cases hlist : spelled.toList with
  | nil =>
    rw [List.nil_append, hapi]
    simp
  | cons c rest =>
    have hunderscore : (c == '_') = false := by
      rw [beq_eq_false_iff_ne]
      rintro rfl
      exact hplain '_' (by simp [hlist]) (by decide)
    rw [List.cons_append, isPlain, List.all_append, hxid, Bool.and_true, hunderscore,
      Bool.false_and, Bool.or_false, List.all_cons, List.head?_cons, Option.all_some]
    cases hstart : isXidStart c with
    | true => simp [isXidContinue_of_isXidStart hstart]
    | false => simp

theorem isIdentifier_nameOfTitle_iff (title : String) :
    isIdentifier (nameOfTitle title) = true ↔ nameOfTitle title ∉ reservedWords ∧
      (nameOfTitle title = fallbackName ∨ (wordChars title).all isXidContinue = true) := by
  have hfree : fallbackName ∉ reservedWords := by decide
  have hfallback : isIdentifier fallbackName = true := by
    rw [isIdentifier_of_isValidName (by decide), decide_eq_true hfree]
  by_cases hsame : nameOfTitle title = fallbackName
  · rw [hsame]
    simp [hfallback, hfree]
  · have hletter : startsWithLetter (Text.pascalCase (Text.words title)) = true := by
      by_contra hnot
      exact hsame (if_neg hnot)
    have hname : nameOfTitle title = Text.pascalCase (Text.words title) := if_pos hletter
    have hunmarked : '#' ∉ (Text.pascalCase (Text.words title)).toList := fun hmem =>
      Text.plain_pascalCase (fun _ => Text.isWord_of_mem_words) _ hmem (by decide)
    rw [or_iff_right hsame, hname, isIdentifier_of_startsWithLetter hunmarked hletter,
      Text.all_xid_pascalCase, Bool.and_eq_true, decide_eq_true_eq, and_comm]

theorem isIdentifier_clientName_iff {title typeName : String} {options : WrapperOptions}
    (named : clientName title options = .ok typeName) :
    isIdentifier typeName = true ↔ typeName ∉ reservedWords ∧
      (options.clientName = none → typeName = fallbackName ∨
        (wordChars title).all isXidContinue = true) := by
  unfold clientName at named
  split at named
  · rename_i name hgiven
    split at named
    · rename_i hvalid
      obtain rfl := Except.ok.inj named
      simp [isIdentifier_of_isValidName hvalid, hgiven]
    · cases named
  · rename_i hnone
    obtain rfl := Except.ok.inj named
    rw [isIdentifier_nameOfTitle_iff]
    simp [hnone]

/-! ## The parameters of a module -/

theorem parameterName?_of_not_indented {line : String} (h : indented? line = none) :
    parameterName? line = none :=
  (unread_of_not_indented h).1

theorem parameterNames_accessorLines {s : Section}
    (all : ∀ c ∈ s.typeName.toList, isNameChar c = true) :
    (accessorLines s).filterMap parameterName? = [] := by
  have hcomment : parameterName? s!"    /// Operations tagged `{s.tag}`." = none :=
    parameterName?_of_not_indented (by simp [indented?, List.dropPrefix?, toString])
  have haccessor : parameterName? s!"    pub fn {s.accessor}(&self) -> {s.typeName}<'c> \x7b" =
      none :=
    parameterName?_of_not_indented (by simp [indented?, List.dropPrefix?, toString])
  have hindented : indented? s!"        {s.typeName} \x7b" =
      some (s.typeName.toList ++ ' ' :: "\x7b".toList) :=
    indented?_of_eq (by simp [toString])
  have hvalue : parameterName? s!"        {s.typeName} \x7b" = none := by
    rw [parameterName?, hindented, Option.bind_some, nameBefore?_append all (by decide)]
    rfl
  have hrest : ["            client: self.client,", "        \x7d", "    \x7d"].filterMap
      parameterName? = [] := by decide
  have hblank : parameterName? "" = none := by decide
  rw [accessorLines, List.filterMap_cons_none hblank, List.filterMap_cons_none hcomment,
    List.filterMap_cons_none haccessor, List.filterMap_cons_none hvalue, hrest]

theorem parameterNames_structLines (typeName : String) :
    (structLines typeName).filterMap parameterName? = [] := by
  have hstruct : parameterName? s!"pub struct {typeName}<'c> \x7b" = none :=
    parameterName?_of_not_indented (by simp [indented?, List.dropPrefix?, toString])
  have himpl : parameterName? s!"impl<'c> {typeName}<'c> \x7b" = none :=
    parameterName?_of_not_indented (by simp [indented?, List.dropPrefix?, toString])
  have hfield : parameterName? "    client: &'c Client," = none := by decide
  have hclose : parameterName? "\x7d" = none := by decide
  have hblank : parameterName? "" = none := by decide
  rw [structLines, List.filterMap_cons_none hstruct, List.filterMap_cons_none hfield,
    List.filterMap_cons_none hclose, List.filterMap_cons_none hblank,
    List.filterMap_cons_none himpl, List.filterMap_nil]

/-- The identifiers that the methods declare their parameters with. -/
def declaredBy (methods : List Method) : List String :=
  methods.flatMap fun m => m.arguments.map (·.identifier)

/-- The identifiers of the methods are characters of names throughout. -/
def Named (methods : List Method) : Prop :=
  ∀ m ∈ methods, ∀ a ∈ m.arguments, ∀ c ∈ a.identifier.toList, isNameChar c = true

theorem parameterNames_methods {methods : List Method} (named : Named methods) :
    (methods.flatMap fun m => "" :: methodLines m).filterMap parameterName? =
      declaredBy methods := by
  have hblank : parameterName? "" = none := by decide
  rw [List.filterMap_flatMap, declaredBy]
  refine List.flatMap_congr fun m hm => ?_
  rw [List.filterMap_cons_none hblank, parameterNames_methodLines (named m hm)]

theorem parameterNames_sectionLines {s : Section} (named : Named s.methods) :
    (sectionLines s).filterMap parameterName? = declaredBy s.methods := by
  have hblank : parameterName? "" = none := by decide
  have hclose : parameterName? "\x7d" = none := by decide
  have hbody : (sectionBody s).filterMap parameterName? = declaredBy s.methods := by
    rw [sectionBody, filterMap_intersperse hblank, List.flatMap_map, declaredBy]
    exact List.flatMap_congr fun m hm => parameterNames_methodLines (named m hm)
  have hlines := sectionLines_append s []
  rw [List.append_nil] at hlines
  rw [hlines, List.filterMap_append, List.filterMap_append, List.filterMap_append,
    parameterNames_structLines, hbody, List.filterMap_cons_none hblank,
    List.filterMap_cons_none hclose]
  simp

theorem parameterNames_lines {w : Wrapper} (named : Named (allMethods w))
    (types : ∀ s ∈ w.sections, ∀ c ∈ s.typeName.toList, isNameChar c = true) :
    w.lines.filterMap parameterName? = declaredBy (allMethods w) := by
  obtain ⟨hroot, hsections⟩ := List.forall_mem_append.1 named
  have htitle : parameterName? s!"//! Typed wrappers for {w.title} {w.version}." = none :=
    parameterName?_of_not_indented (by simp [indented?, List.dropPrefix?, toString])
  have hhead : ["//!", "//! Generated by `oarc generate`. Do not edit by hand.", "",
      "#![allow(clippy::too_many_arguments)]", "",
      "use oarc_core::\x7bArgs, Client, InvokeError, Value\x7d;", "",
      "/// Entry point over a runtime [`Client`]."].filterMap parameterName? = [] := by decide
  have hnew : ["    pub fn new(client: &'c Client) -> Self \x7b", "        Self \x7b client \x7d",
      "    \x7d"].filterMap parameterName? = [] := by decide
  have haccessors : (w.sections.flatMap accessorLines).filterMap parameterName? = [] := by
    rw [List.filterMap_flatMap, List.flatMap_eq_nil_iff]
    exact fun s hs => parameterNames_accessorLines (types s hs)
  have hclose : ["\x7d"].filterMap parameterName? = [] := by decide
  have hrest : (w.sections.flatMap sectionLines).filterMap parameterName? =
      declaredBy (w.sections.flatMap (·.methods)) := by
    rw [List.filterMap_flatMap, declaredBy, List.flatMap_assoc]
    exact List.flatMap_congr fun s hs => parameterNames_sectionLines fun m hm =>
      hsections m (List.mem_flatMap.2 ⟨s, hs, hm⟩)
  rw [lines, List.filterMap_append, List.filterMap_append, List.filterMap_append,
    List.filterMap_append, List.filterMap_append, List.filterMap_append,
    List.filterMap_cons_none htitle, hhead, parameterNames_structLines, hnew, haccessors,
    parameterNames_methods hroot, hclose, hrest, allMethods, declaredBy, declaredBy, declaredBy,
    List.flatMap_append]
  simp only [List.nil_append, List.append_nil]

/-! ## The names of a client -/

/-- The names that a module gives to its types, their methods and the parameters of these are
identifiers. -/
structure LegalNames (lines : List String) : Prop where
  types : ∀ name ∈ lines.filterMap structName?, isIdentifier name = true
  methods : ∀ names ∈ implMethods lines, ∀ name ∈ names, isIdentifier name = true
  parameters : ∀ name ∈ lines.filterMap parameterName?, isIdentifier name = true

/-- Identifiers can be made of all that names the parts of a client. -/
structure Spellable (c : Client) (options : WrapperOptions) (typeName : String) : Prop where
  free : typeName ∉ reservedWords
  title : options.clientName = none →
    typeName = fallbackName ∨ (wordChars c.title).all isXidContinue = true
  groups : ∀ tag, localName tag ∈ groupNames c → Spelled tag ∧
    (Text.pascalCase (Text.words (localName tag))).toList.head?.all isXidStart = true
  operations : ∀ o ∈ wrappedOperations c, Spelled o.id ∧ ∀ p ∈ o.parameters, Spelled p.wireName

section Client

variable {doc : Document} {options : ClientOptions} {c : Client}
  (built : (Client.build doc options).outcome = .ok c)

include built

theorem named_allMethods (typeName : String) : Named (allMethods (forClient c typeName)) := by
  intro m hm
  rw [allMethods_forClient] at hm
  obtain ⟨o, ho, hm⟩ := List.mem_filterMap.1 hm
  exact isNameChar_of_method? (exists_of_mem_wrappedOperations built ho).1 hm

theorem isIdentifier_methods_iff (typeName : String) :
    (∀ m ∈ allMethods (forClient c typeName), isIdentifier m.name = true) ↔
      ∀ o ∈ wrappedOperations c, Spelled o.id := by
  refine forall_allMethods_iff built (fun o ho m hm => ?_) typeName
  obtain ⟨hbuilt, _⟩ := exists_of_mem_wrappedOperations built ho
  obtain ⟨_, _, _, hname⟩ := parts_of_method? hm
  rw [hname, hbuilt.name_eq]
  exact isIdentifier_localName_iff o.id

theorem isIdentifier_parameters_iff (typeName : String) :
    (∀ name ∈ declaredBy (allMethods (forClient c typeName)), isIdentifier name = true) ↔
      ∀ o ∈ wrappedOperations c, ∀ p ∈ o.parameters, Spelled p.wireName := by
  rw [declaredBy, List.forall_mem_flatMap]
  refine forall_allMethods_iff built (fun o ho m hm => ?_) typeName
  obtain ⟨hbuilt, _⟩ := exists_of_mem_wrappedOperations built ho
  obtain ⟨_, harguments, _⟩ := parts_of_method? hm
  rw [harguments, List.map_map, List.forall_mem_map]
  refine forall_congr' fun p => ?_
  rw [mem_signature]
  refine forall_congr' fun hp => ?_
  rw [← isIdentifier_localName_iff, ← hbuilt.localName_eq hp]
  rfl

theorem isIdentifier_groups_iff :
    (∀ name ∈ groupNames c, isIdentifier (identifier name) = true ∧
        isIdentifier (Text.pascalCase (Text.words name) ++ "Api") = true) ↔
      ∀ tag, localName tag ∈ groupNames c → Spelled tag ∧
        (Text.pascalCase (Text.words (localName tag))).toList.head?.all isXidStart = true := by
  have hiff (tag : String) : (isIdentifier (identifier (localName tag)) = true ∧
      isIdentifier (Text.pascalCase (Text.words (localName tag)) ++ "Api") = true) ↔ Spelled tag ∧
        (Text.pascalCase (Text.words (localName tag))).toList.head?.all isXidStart = true := by
    rw [isIdentifier_localName_iff, isIdentifier_groupType_iff]
    refine and_congr_right fun hspelled => and_iff_right ?_
    have hcontinues := all_xid_localName tag ▸ hspelled.continues
    exact List.all_eq_true.2 fun ch hch =>
      List.all_eq_true.1 hcontinues ch (List.mem_filter.1 hch).1
  constructor
  · exact fun h tag hmem => (hiff tag).1 (h _ hmem)
  · intro h name hmem
    obtain ⟨tag, rfl⟩ := exists_tag_of_mem_groupNames built hmem
    exact (hiff tag).2 (h tag hmem)

theorem parameterNames_forClient (typeName : String) :
    (forClient c typeName).lines.filterMap parameterName? =
      declaredBy (allMethods (forClient c typeName)) := by
  refine parameterNames_lines (named_allMethods built typeName) ?_
  refine List.forall_mem_map.2 fun g _ => nameChars_of_nameRanges ?_
  rw [sectionFor, String.toList_append]
  exact List.forall_mem_append.2 ⟨Text.name_of_mem_pascalCase, List.all_eq_true.1 (by decide)⟩

theorem forall_implMethods_iff {typeName : String} (one : '<' ∉ typeName.toList) :
    (∀ names ∈ implMethods (forClient c typeName).lines, ∀ name ∈ names,
        isIdentifier name = true) ↔
      (∀ name ∈ groupNames c, isIdentifier (identifier name) = true) ∧
        ∀ m ∈ allMethods (forClient c typeName), isIdentifier m.name = true := by
  have hnew : isIdentifier "new" = true := isIdentifier_of_isValidName (by decide)
  have haccessors : (forClient c typeName).sections.map (·.accessor) =
      (groupNames c).map identifier := by
    rw [groupNames, forClient, List.map_map, List.map_map]
    rfl
  rw [implMethods_lines (clear_forClient built one), haccessors, allMethods, List.forall_mem_cons,
    List.forall_mem_cons, List.forall_mem_append, List.forall_mem_append, List.forall_mem_map,
    List.forall_mem_map, List.forall_mem_map, List.forall_mem_flatMap]
  simp only [List.forall_mem_map, hnew, true_and, and_assoc]

theorem legalNames_lines_iff {wrapperOptions : WrapperOptions} {typeName : String}
    (named : clientName c.title wrapperOptions = .ok typeName) :
    LegalNames (forClient c typeName).lines ↔ Spellable c wrapperOptions typeName := by
  have hone : '<' ∉ typeName.toList := not_mem_clientName named (by decide)
  have htypes : (∀ name ∈ (forClient c typeName).lines.filterMap structName?,
      isIdentifier name = true) ↔ isIdentifier typeName = true ∧
        ∀ name ∈ groupNames c,
          isIdentifier (Text.pascalCase (Text.words name) ++ "Api") = true := by
    rw [structNames_forClient built hone, List.forall_mem_cons, groupTypes, List.forall_mem_map]
  have hmethods := forall_implMethods_iff built hone
  rw [isIdentifier_methods_iff built] at hmethods
  have hparameters := isIdentifier_parameters_iff built typeName
  rw [← parameterNames_forClient built] at hparameters
  have hgroups := isIdentifier_groups_iff built
  rw [isIdentifier_clientName_iff named] at htypes
  constructor
  · rintro ⟨ht, hm, hp⟩
    obtain ⟨⟨hfree, htitle⟩, htypeNames⟩ := htypes.1 ht
    obtain ⟨haccessors, hids⟩ := hmethods.1 hm
    exact ⟨hfree, htitle,
      hgroups.1 fun name hname => ⟨haccessors name hname, htypeNames name hname⟩,
      fun o ho => ⟨hids o ho, hparameters.1 hp o ho⟩⟩
  · rintro ⟨hfree, htitle, hnames, hoperations⟩
    have hlegal := hgroups.2 hnames
    exact ⟨htypes.2 ⟨⟨hfree, htitle⟩, fun name hname => (hlegal name hname).2⟩,
      hmethods.2 ⟨fun name hname => (hlegal name hname).1, fun o ho => (hoperations o ho).1⟩,
      hparameters.2 fun o ho => (hoperations o ho).2⟩

/-- The names that the module of a client defines are identifiers if and only if they can be made of
what names the parts of the client. That holds of the lines that the module is written from, and of
those that are read if nothing brings a line feed into its comments. -/
theorem legalNames_iff {wrapperOptions : WrapperOptions} {typeName : String}
    (named : clientName c.title wrapperOptions = .ok typeName) :
    ∃ w : Wrapper, (ofClient c typeName : Logged WrapperError Wrapper).outcome = .ok w ∧
      (LegalNames w.lines ↔ Spellable c wrapperOptions typeName) ∧
      (OneLineComments c →
        (LegalNames (linesOf w.render) ↔ Spellable c wrapperOptions typeName)) := by
  have hlegal := legalNames_lines_iff built named
  refine ⟨_, outcome_ofClient c typeName, hlegal, fun one => ?_⟩
  rwa [(linesOf_render_forClient_iff built (not_mem_clientName named (by decide))).2 one]

end Client

section Vault

/-- A document with an operation of a group. A parameter of it is a keyword. -/
def vault (tag : String) : Json :=
  .object [("openapi", .string "3.0.0"),
    ("info", .object [("title", .string "Vault"), ("version", .string "1.0")]),
    ("paths", .object [("/codes", .object [("get", .object
      [("operationId", .string "getCode"), ("tags", .array [.string tag]),
        ("parameters", .array [.object [("name", .string "type"), ("in", .string "query"),
          ("schema", .object [("type", .string "string")])]])])])])]

theorem vault_codes :
    (named? (vault "codes")).map (fun p => ((p.2, p.1.title, decide (OneLineComments p.1)),
        groupNames p.1, (wrappedOperations p.1).map fun o => (o.id, o.parameters.map (·.wireName)))) =
      some (("Vault", "Vault", true), ["codes"], [("getCode", ["type"])]) ∧
    (Text.pascalCase (Text.words "codes")).toList.head?.all isXidStart = true := by
  decide +kernel

theorem vault_2fa :
    (named? (vault "2fa")).map (fun p => (p.2, decide (OneLineComments p.1), groupTypes p.1)) =
      some ("Vault", true, ["2faApi"]) ∧ isIdentifier "2faApi" = false := by
  decide +kernel

theorem legalNames_iff_vault :
    ∃ doc c w, Document.ofJson (vault "codes") = .ok doc ∧
      (Client.build doc {}).outcome = .ok c ∧ clientName c.title {} = .ok "Vault" ∧
      (ofClient c "Vault" : Logged WrapperError Wrapper).outcome = .ok w ∧ OneLineComments c ∧
      LegalNames w.lines ∧ LegalNames (linesOf w.render) := by
  obtain ⟨⟨c, typeName⟩, hnamed, h⟩ := Option.map_eq_some_iff.1 vault_codes.1
  simp only [Prod.mk.injEq, decide_eq_true_eq] at h
  obtain ⟨⟨rfl, htitle, hone⟩, hgroups, hoperations⟩ := h
  obtain ⟨doc, hdoc, hc, hname⟩ := exists_of_named? hnamed
  obtain ⟨w, hw, hlines, hrendered⟩ := legalNames_iff hc hname
  obtain ⟨o, hops, ho⟩ := List.map_eq_singleton_iff.1 hoperations
  obtain ⟨hid, hparameters⟩ := Prod.mk.inj ho
  obtain ⟨p, hp, hwire⟩ := List.map_eq_singleton_iff.1 hparameters
  have hspellable : Spellable c {} "Vault" := by
    refine ⟨by decide, fun _ => .inr ?_, ?_, ?_⟩
    · rw [htitle]
      exact (spelled_of_isAlphanum (by decide)).continues
    · intro tag htag
      rw [hgroups, List.mem_singleton] at htag
      rw [← isSpellable_localName_iff, htag]
      exact ⟨isSpellable_of_isValidName (by decide), vault_codes.2⟩
    · rw [hops, List.forall_mem_singleton, hp, List.forall_mem_singleton, hid, hwire]
      exact ⟨spelled_of_isAlphanum (by decide), spelled_of_isAlphanum (by decide)⟩
  exact ⟨doc, c, w, hdoc, hc, hname, hw, hone, hlines.2 hspellable, (hrendered hone).2 hspellable⟩

/-- A digit in front of a group's name is put behind an underscore in the name of the method that
leads to the group, and stays in front in the name of its type. -/
theorem digit_before_type :
    ∃ doc c w, Document.ofJson (vault "2fa") = .ok doc ∧
      (Client.build doc {}).outcome = .ok c ∧ clientName c.title {} = .ok "Vault" ∧
      (ofClient c "Vault" : Logged WrapperError Wrapper).outcome = .ok w ∧
      linesOf w.render = w.lines ∧ w.lines.filterMap structName? = ["Vault", "2faApi"] ∧
      ¬LegalNames w.lines := by
  obtain ⟨⟨c, typeName⟩, hnamed, h⟩ := Option.map_eq_some_iff.1 vault_2fa.1
  simp only [Prod.mk.injEq, decide_eq_true_eq] at h
  obtain ⟨rfl, hone, htypes⟩ := h
  obtain ⟨doc, hdoc, hc, hname⟩ := exists_of_named? hnamed
  have hlines := (linesOf_render_forClient_iff hc (not_mem_clientName hname (by decide))).2 hone
  have hstructs := structNames_forClient hc (not_mem_clientName hname (by decide))
  rw [htypes] at hstructs
  refine ⟨doc, c, _, hdoc, hc, hname, outcome_ofClient c "Vault", hlines, hstructs,
    fun hlegal => ?_⟩
  have hall := hlegal.types "2faApi" (by rw [hstructs]; simp)
  rw [vault_2fa.2] at hall
  cases hall

end Vault

end Wrapper

end OpenApi
