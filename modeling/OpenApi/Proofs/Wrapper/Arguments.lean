import OpenApi.Proofs.Text.Identifier
import OpenApi.Proofs.Text.Literal
import OpenApi.Proofs.Wrapper.Names

/-!
# The arguments of a method

What the lines of a method bind, which arguments they insert and what they invoke, read from the
lines. The parameters and the variable that the arguments are collected in share one scope.
-/

namespace OpenApi

namespace Wrapper

open Text (IsSnake nameRanges)

/-! ## Reading a method -/

/-- A character of an identifier or of the mark before a keyword. -/
def isNameChar (c : Char) : Bool :=
  c == '#' || Text.CharRange.anyContains nameRanges c

/-- The name in front of a text, if `stop` stands behind it. -/
def nameBefore? (stop : List Char) (cs : List Char) : Option String :=
  if stop.isPrefixOf (cs.dropWhile isNameChar) then some (String.ofList (cs.takeWhile isNameChar))
  else none

/-- What stands behind the indent of a line inside a method. -/
def indented? (line : String) : Option (List Char) :=
  line.toList.dropPrefix? "        ".toList

/-- The name that a line declares a parameter with. -/
def parameterName? (line : String) : Option String :=
  (indented? line).bind (nameBefore? ": ".toList)

/-- The name that a line binds a variable to. -/
def variableName? (line : String) : Option String :=
  (indented? line).bind fun cs =>
    ((cs.dropPrefix? "let mut ".toList).or (cs.dropPrefix? "let ".toList)).bind
      (nameBefore? " = ".toList)

/-- The name that a line binds, be it the receiver's, a parameter's or a variable's. -/
def boundName? (line : String) : Option String :=
  if line = "        &self," then some "self" else (parameterName? line).or (variableName? line)

/-- The key and the identifier of the argument that a line inserts. -/
def inserted? (line : String) : Option (String × String) :=
  (indented? line).bind fun cs =>
    (cs.dropPrefix? "args.insert(".toList).bind fun cs =>
      (Text.literal? cs).bind fun (key, cs) =>
        (cs.dropPrefix? ".to_string(), Value::from(".toList).bind fun cs =>
          (nameBefore? "));".toList cs).map (key, ·)

/-- The id of the operation that a line invokes. -/
def invoked? (line : String) : Option String :=
  (indented? line).bind fun cs =>
    (cs.dropPrefix? "self.client.invoke(".toList).bind fun cs =>
      (Text.literal? cs).bind fun (id, cs) =>
        if cs = ", &args)".toList then some id else none

theorem dropPrefix?_append (start rest : List Char) :
    (start ++ rest).dropPrefix? start = some rest :=
  List.dropPrefix?_eq_some_iff.2 ⟨start, rfl, beq_self_eq_true start⟩

theorem indented?_of_eq {line : String} {rest : List Char}
    (h : line.toList = "        ".toList ++ rest) : indented? line = some rest := by
  rw [indented?, h, dropPrefix?_append]

section Names

variable {name rest : List Char} (all : ∀ c ∈ name, isNameChar c = true) {mark : Char}
  (stops : isNameChar mark = false)

include all stops

theorem takeWhile_name : (name ++ mark :: rest).takeWhile isNameChar = name := by
  rw [List.takeWhile_append_of_pos all, List.takeWhile_cons_of_neg (by simp [stops]),
    List.append_nil]

theorem dropWhile_name : (name ++ mark :: rest).dropWhile isNameChar = mark :: rest := by
  rw [List.dropWhile_append_of_pos all, List.dropWhile_cons_of_neg (by simp [stops])]

theorem nameBefore?_append (stop : List Char) :
    nameBefore? stop (name ++ mark :: rest) =
      if stop.isPrefixOf (mark :: rest) then some (String.ofList name) else none := by
  rw [nameBefore?, takeWhile_name all stops, dropWhile_name all stops]

theorem dropPrefix?_of_mark {name' rest' : List Char} {mark' : Char}
    (all' : name'.all isNameChar = true) (stops' : isNameChar mark' = false)
    (ne : mark ≠ mark') : (name ++ mark :: rest).dropPrefix? (name' ++ mark' :: rest') = none := by
  rw [Option.eq_none_iff_forall_ne_some]
  intro behind h
  obtain ⟨start, heq, hstart⟩ := List.dropPrefix?_eq_some_iff.1 h
  obtain rfl := eq_of_beq hstart
  have hdrop := congrArg (List.dropWhile isNameChar) heq
  rw [dropWhile_name all stops, List.append_assoc, List.cons_append,
    dropWhile_name (List.all_eq_true.1 all') stops'] at hdrop
  exact ne (List.cons.inj hdrop).1

end Names

/-! ## The lines of a method -/

theorem nameChars_of_nameRanges {cs : List Char}
    (h : ∀ c ∈ cs, Text.CharRange.anyContains nameRanges c = true) :
    ∀ c ∈ cs, isNameChar c = true := fun c hc => by
  rw [isNameChar, h c hc, Bool.or_true]

theorem isNameChar_of_mem_identifier {wire : String} :
    ∀ c ∈ (identifier (localName wire)).toList, isNameChar c = true := by
  have hname := nameChars_of_nameRanges (@name_of_mem_localName wire)
  have hmarks : isNameChar '_' = true ∧ isNameChar 'r' = true ∧ isNameChar '#' = true := by
    decide
  unfold identifier
  split
  · simpa [or_imp, forall_and, hmarks] using hname
  · split
    · simpa [or_imp, forall_and, hmarks] using hname
    · split
      · simpa [or_imp, forall_and, hmarks] using hname
      · exact hname

theorem unread_of_not_indented {line : String} (h : indented? line = none) :
    parameterName? line = none ∧ boundName? line = none ∧ inserted? line = none ∧
      invoked? line = none := by
  have hne : line ≠ "        &self," := by
    rintro rfl
    revert h
    decide
  refine ⟨?_, ?_, ?_, ?_⟩
  · rw [parameterName?, h, Option.bind_none]
  · rw [boundName?, if_neg hne, parameterName?, variableName?, h]
    rfl
  · rw [inserted?, h, Option.bind_none]
  · rw [invoked?, h, Option.bind_none]

theorem not_indented_commentLine (line : String) : indented? (commentLine line) = none := by
  unfold commentLine
  split
  · decide
  · simp [indented?, List.dropPrefix?]

theorem boundName?_of_parameter {line name : String} (h : parameterName? line = some name) :
    boundName? line = some name := by
  have hne : line ≠ "        &self," := by
    rintro rfl
    have hnone : parameterName? "        &self," = none := by decide
    rw [hnone] at h
    cases h
  rw [boundName?, if_neg hne, h, Option.some_or]

theorem parameterName?_of_unbound {line : String} (h : boundName? line = none) :
    parameterName? line = none := by
  unfold boundName? at h
  split at h
  · cases h
  · exact (Option.or_eq_none_iff.1 h).1

section Lines

variable {a : Argument}

theorem indented?_parameter (a : Argument) : indented? s!"        {a.identifier}: {a.type}," =
    some (a.identifier.toList ++ ':' :: (" " ++ a.type ++ ",").toList) :=
  indented?_of_eq (by simp [toString])

theorem indented?_insert (a : Argument) :
    indented? s!"        args.insert({a.key}.to_string(), Value::from({a.identifier}));" =
      some ("args".toList ++ '.' :: ("insert(".toList ++ (a.key.toList ++
        (".to_string(), Value::from(".toList ++ (a.identifier.toList ++ ')' :: ");".toList))))) :=
  indented?_of_eq (by simp [toString])

theorem indented?_invoke (id : String) :
    indented? s!"        self.client.invoke({id}, &args)" =
      some ("self".toList ++ '.' :: ("client.invoke(".toList ++ (id.toList ++
        ", &args)".toList))) :=
  indented?_of_eq (by simp [toString])

theorem parameterName?_parameter (all : ∀ c ∈ a.identifier.toList, isNameChar c = true) :
    parameterName? s!"        {a.identifier}: {a.type}," = some a.identifier := by
  rw [parameterName?, indented?_parameter, Option.bind_some, nameBefore?_append all (by decide),
    if_pos (by simp), String.ofList_toList]

theorem inserted?_parameter (all : ∀ c ∈ a.identifier.toList, isNameChar c = true) :
    inserted? s!"        {a.identifier}: {a.type}," = none := by
  have hnone : (a.identifier.toList ++ ':' :: (" " ++ a.type ++ ",").toList).dropPrefix?
      ("args".toList ++ '.' :: "insert(".toList) = none :=
    dropPrefix?_of_mark all (by decide) (by decide) (by decide) (by decide)
  rw [inserted?, indented?_parameter, Option.bind_some]
  exact congrArg (Option.bind · _) hnone

theorem invoked?_parameter (all : ∀ c ∈ a.identifier.toList, isNameChar c = true) :
    invoked? s!"        {a.identifier}: {a.type}," = none := by
  have hnone : (a.identifier.toList ++ ':' :: (" " ++ a.type ++ ",").toList).dropPrefix?
      ("self".toList ++ '.' :: "client.invoke(".toList) = none :=
    dropPrefix?_of_mark all (by decide) (by decide) (by decide) (by decide)
  rw [invoked?, indented?_parameter, Option.bind_some]
  exact congrArg (Option.bind · _) hnone

theorem boundName?_of_call {line : String} (name : List Char) {rest : List Char}
    (named : name.all isNameChar = true) (h : indented? line = some (name ++ '.' :: rest)) :
    boundName? line = none := by
  have all := List.all_eq_true.1 named
  have hne : line ≠ "        &self," := by
    rintro rfl
    have hself : indented? "        &self," = some "&self,".toList := by decide
    have hmem : '.' ∈ "&self,".toList := by
      rw [Option.some.inj (hself.symm.trans h)]
      simp
    exact absurd hmem (by decide)
  have hcolon : nameBefore? ": ".toList (name ++ '.' :: rest) = none := by
    rw [nameBefore?_append all (by decide)]
    rfl
  have hmut : (name ++ '.' :: rest).dropPrefix? ("let".toList ++ ' ' :: "mut ".toList) = none :=
    dropPrefix?_of_mark all (by decide) (by decide) (by decide) (by decide)
  have hlet : (name ++ '.' :: rest).dropPrefix? ("let".toList ++ ' ' :: []) = none :=
    dropPrefix?_of_mark all (by decide) (by decide) (by decide) (by decide)
  rw [boundName?, if_neg hne, parameterName?, variableName?, h, Option.bind_some, Option.bind_some,
    hcolon]
  exact congrArg₂ (fun x y => (Option.or x y).bind _) hmut hlet

theorem inserted?_insert {key : String} (all : ∀ c ∈ a.identifier.toList, isNameChar c = true)
    (literal : a.key = Text.quoted key) :
    inserted? s!"        args.insert({a.key}.to_string(), Value::from({a.identifier}));" =
      some (key, a.identifier) := by
  have hstart (rest : List Char) : ("args".toList ++ '.' :: ("insert(".toList ++ rest)).dropPrefix?
      "args.insert(".toList = some rest := dropPrefix?_append _ rest
  rw [inserted?, indented?_insert, Option.bind_some, hstart, Option.bind_some, literal,
    Text.literal?_quoted, Option.bind_some]
  dsimp only
  rw [dropPrefix?_append, Option.bind_some, nameBefore?_append all (by decide), if_pos (by decide),
    String.ofList_toList, Option.map_some]

theorem invoked?_insert (a : Argument) :
    invoked? s!"        args.insert({a.key}.to_string(), Value::from({a.identifier}));" = none := by
  have hnone (rest : List Char) : ("args".toList ++ '.' :: rest).dropPrefix?
      "self.client.invoke(".toList = none := by
    simp [List.dropPrefix?]
  rw [invoked?, indented?_insert, Option.bind_some, hnone, Option.bind_none]

theorem inserted?_invoke (id : String) :
    inserted? s!"        self.client.invoke({id}, &args)" = none := by
  have hnone (rest : List Char) : ("self".toList ++ '.' :: rest).dropPrefix?
      "args.insert(".toList = none := by
    simp [List.dropPrefix?]
  rw [inserted?, indented?_invoke, Option.bind_some, hnone, Option.bind_none]

theorem invoked?_invoke (id : String) :
    invoked? s!"        self.client.invoke({Text.quoted id}, &args)" = some id := by
  have hstart (rest : List Char) : ("self".toList ++ '.' ::
      ("client.invoke(".toList ++ rest)).dropPrefix? "self.client.invoke(".toList = some rest :=
    dropPrefix?_append _ rest
  rw [invoked?, indented?_invoke, Option.bind_some, hstart, Option.bind_some, Text.literal?_quoted,
    Option.bind_some]
  rfl

end Lines

theorem filterMap_methodLines {α : Type} {read : String → Option α}
    (unread : ∀ line, indented? line = none → read line = none) (m : Method) :
    (methodLines m).filterMap read = (read "        &self,").toList ++
      ((m.arguments.map fun a => s!"        {a.identifier}: {a.type},").filterMap read ++
        ((bodyLines m).filterMap read ++
          (read s!"        self.client.invoke({m.operationId}, &args)").toList)) := by
  have hcomments : (m.doc.map commentLine).filterMap read = [] :=
    List.filterMap_eq_nil_iff.2 (List.forall_mem_map.2 fun line _ =>
      unread _ (not_indented_commentLine line))
  have hdeprecated : (if m.deprecated then ["    #[deprecated]"] else []).filterMap read = [] := by
    split
    · exact List.filterMap_cons_none (unread _ (by decide))
    · rfl
  have hname : read s!"    pub fn {m.name}(" = none :=
    unread _ (by simp [indented?, List.dropPrefix?, toString])
  have hopen : read "    ) -> Result<Option<Value>, InvokeError> \x7b" = none :=
    unread _ (by decide)
  have hclose : read "    \x7d" = none := unread _ (by decide)
  unfold methodLines
  simp only [List.filterMap_append, hcomments, hdeprecated, List.nil_append, List.append_assoc]
  rw [List.filterMap_cons_none hname, List.filterMap_cons_none hopen]
  cases hself : read "        &self," <;>
    cases hinvoke : read s!"        self.client.invoke({m.operationId}, &args)" <;>
      simp [hself, hinvoke, hclose]

/-! ## The arguments of an operation -/

/-- The lines declare the parameters in the order given, insert each of them under its local name
and invoke the operation. -/
structure Wraps (parameters : List Parameter) (id : String) (lines : List String) : Prop where
  declared : lines.filterMap parameterName? = parameters.map fun p => identifier p.localName
  inserted : lines.filterMap inserted? =
    parameters.map fun p => (p.localName, identifier p.localName)
  once : ((lines.filterMap inserted?).map Prod.fst).Nodup
  invoked : lines.filterMap invoked? = [id]

/-- The names that the lines bind. -/
def boundNames (lines : List String) : List String :=
  lines.filterMap boundName?

/-- The lines insert the parameters of the operation, the required ones first, each under its local
name and with the identifier that it is declared with, and invoke the operation. The names they bind
differ unless a parameter is called as the variable that takes the arguments, and every other
parameter's identifier is bound by the parameter alone. -/
structure BindsArguments (o : Operation) (lines : List String) : Prop where
  wraps : Wraps (o.parameters.filter (·.required) ++ o.parameters.filter (!·.required)) o.id lines
  distinct_iff : (boundNames lines).Nodup ↔ ∀ p ∈ o.parameters, p.localName ≠ "args"
  alone_iff : ∀ p ∈ o.parameters, (boundNames lines).count (identifier p.localName) = 1 ↔
    p.localName ≠ "args"

section Method

variable {m : Method} (all : ∀ a ∈ m.arguments, ∀ c ∈ a.identifier.toList, isNameChar c = true)

include all

theorem boundNames_methodLines :
    boundNames (methodLines m) = "self" :: (m.arguments.map (·.identifier) ++ ["args"]) := by
  have hself : boundName? "        &self," = some "self" := by decide
  have hparameters : (m.arguments.map fun a => s!"        {a.identifier}: {a.type},").filterMap
      boundName? = m.arguments.map (·.identifier) := by
    rw [List.filterMap_map, ← List.filterMap_eq_map]
    exact List.filterMap_congr fun a ha =>
      boundName?_of_parameter (parameterName?_parameter (all a ha))
  have hbody : (bodyLines m).filterMap boundName? = ["args"] := by
    unfold bodyLines
    split
    · decide
    · have hmut : boundName? "        let mut args = Args::new();" = some "args" := by decide
      rw [List.filterMap_cons_some hmut, List.filterMap_eq_nil_iff.2]
      exact List.forall_mem_map.2 fun a _ =>
        boundName?_of_call "args".toList (by decide) (indented?_insert a)
  have hinvoke : boundName? s!"        self.client.invoke({m.operationId}, &args)" = none :=
    boundName?_of_call "self".toList (by decide) (indented?_invoke m.operationId)
  rw [boundNames, filterMap_methodLines fun line h => (unread_of_not_indented h).2.1, hself,
    hparameters, hbody, hinvoke]
  rfl

theorem parameterNames_methodLines :
    (methodLines m).filterMap parameterName? = m.arguments.map (·.identifier) := by
  have hself : parameterName? "        &self," = none := by decide
  have hparameters : (m.arguments.map fun a => s!"        {a.identifier}: {a.type},").filterMap
      parameterName? = m.arguments.map (·.identifier) := by
    rw [List.filterMap_map, ← List.filterMap_eq_map]
    exact List.filterMap_congr fun a ha => parameterName?_parameter (all a ha)
  have hbody : (bodyLines m).filterMap parameterName? = [] := by
    unfold bodyLines
    split
    · decide
    · rw [List.filterMap_eq_nil_iff]
      refine List.forall_mem_cons.2 ⟨by decide, List.forall_mem_map.2 fun a _ => ?_⟩
      exact parameterName?_of_unbound
        (boundName?_of_call "args".toList (by decide) (indented?_insert a))
  have hinvoke : parameterName? s!"        self.client.invoke({m.operationId}, &args)" = none :=
    parameterName?_of_unbound
      (boundName?_of_call "self".toList (by decide) (indented?_invoke m.operationId))
  rw [filterMap_methodLines fun line h => (unread_of_not_indented h).1, hself, hparameters, hbody,
    hinvoke]
  simp

theorem inserted_methodLines {parameters : List Parameter}
    (arguments : m.arguments = parameters.map argumentOf) :
    (methodLines m).filterMap inserted? =
      parameters.map fun p => (p.localName, identifier p.localName) := by
  have hself : inserted? "        &self," = none := by decide
  have hparameters : (m.arguments.map fun a => s!"        {a.identifier}: {a.type},").filterMap
      inserted? = [] :=
    List.filterMap_eq_nil_iff.2 (List.forall_mem_map.2 fun a ha => inserted?_parameter (all a ha))
  have hbody : (bodyLines m).filterMap inserted? =
      parameters.map fun p => (p.localName, identifier p.localName) := by
    unfold bodyLines
    split
    · rename_i hempty
      have hlet : inserted? "        let args = Args::new();" = none := by decide
      rw [List.isEmpty_iff, arguments, List.map_eq_nil_iff] at hempty
      rw [List.filterMap_cons_none hlet, hempty]
      rfl
    · have hmut : inserted? "        let mut args = Args::new();" = none := by decide
      rw [List.filterMap_cons_none hmut, arguments, List.map_map, List.filterMap_map,
        ← List.filterMap_eq_map]
      refine List.filterMap_congr fun p hp => ?_
      have hmem : argumentOf p ∈ m.arguments := arguments ▸ List.mem_map_of_mem hp
      have hkey : (argumentOf p).key = Text.quoted p.localName := rfl
      have hline := inserted?_insert (all _ hmem) hkey
      rw [Function.comp_apply, Function.comp_apply, hline]
      rfl
  rw [filterMap_methodLines fun line h => (unread_of_not_indented h).2.2.1, hself, hparameters,
    hbody, inserted?_invoke]
  simp

theorem invoked_methodLines {id : String} (literal : m.operationId = Text.quoted id) :
    (methodLines m).filterMap invoked? = [id] := by
  have hself : invoked? "        &self," = none := by decide
  have hparameters : (m.arguments.map fun a => s!"        {a.identifier}: {a.type},").filterMap
      invoked? = [] :=
    List.filterMap_eq_nil_iff.2 (List.forall_mem_map.2 fun a ha => invoked?_parameter (all a ha))
  have hbody : (bodyLines m).filterMap invoked? = [] := by
    unfold bodyLines
    split
    · decide
    · rw [List.filterMap_eq_nil_iff]
      exact List.forall_mem_cons.2 ⟨by decide, List.forall_mem_map.2 fun a _ => invoked?_insert a⟩
  rw [filterMap_methodLines fun line h => (unread_of_not_indented h).2.2.2, hself, hparameters,
    hbody, literal, invoked?_invoke]
  rfl

end Method

/-! ## Names that differ -/

theorem identifier_ne_self {name : String} (h : IsSnake name) : identifier name ≠ "self" := by
  intro heq
  have hbehind := nameBehind_identifier h
  rw [heq] at hbehind
  have hname : name = "self" := String.toList_inj.1 hbehind.symm
  rw [hname] at heq
  exact absurd heq (by decide)

theorem isSnake_args : IsSnake "args" := by
  have hplain : "args".toList.all (fun c => c ∉ Text.marks) = true := by decide
  refine ⟨fun c hc hmark => ?_, ⟨'a', by decide, by decide⟩, ⟨'s', by decide, by decide⟩⟩
  exact absurd hmark (of_decide_eq_true (List.all_eq_true.1 hplain c hc))

theorem identifier_eq_args_iff {name : String} (h : IsSnake name) :
    identifier name = "args" ↔ name = "args" := by
  have hargs : identifier "args" = "args" := by decide
  refine ⟨fun heq => identifier_inj h isSnake_args (heq.trans hargs.symm), ?_⟩
  rintro rfl
  exact hargs

section Names

variable {names : List String} (snake : ∀ name ∈ names, IsSnake name)

include snake

theorem not_mem_map_identifier_iff : "args" ∉ names.map identifier ↔ "args" ∉ names := by
  rw [not_iff_not, List.mem_map]
  refine ⟨fun ⟨name, hname, heq⟩ => ?_, fun hargs => ⟨"args", hargs, by decide⟩⟩
  rwa [(identifier_eq_args_iff (snake name hname)).1 heq] at hname

theorem self_not_mem_map_identifier : "self" ∉ names.map identifier := fun hmem => by
  obtain ⟨name, hname, heq⟩ := List.mem_map.1 hmem
  exact identifier_ne_self (snake name hname) heq

variable (distinct : names.Nodup)

include distinct

theorem nodup_map_identifier : (names.map identifier).Nodup :=
  List.Nodup.map_on (fun a ha b hb => identifier_inj (snake a ha) (snake b hb)) distinct

theorem nodup_bound_iff :
    ("self" :: (names.map identifier ++ ["args"])).Nodup ↔ "args" ∉ names := by
  have hself := self_not_mem_map_identifier snake
  have hdistinct := nodup_map_identifier snake distinct
  have hargs := not_mem_map_identifier_iff snake
  rw [List.nodup_cons, List.mem_append, not_or, List.nodup_append, ← hargs]
  constructor
  · rintro ⟨_, _, _, hapart⟩ hmem
    exact hapart "args" hmem "args" (List.mem_singleton_self _) rfl
  · intro hnot
    refine ⟨⟨hself, by decide⟩, hdistinct, by decide, fun a ha b hb heq => ?_⟩
    rw [List.mem_singleton] at hb
    exact hnot (hb ▸ heq ▸ ha)

theorem count_bound_iff {name : String} (mem : name ∈ names) :
    ("self" :: (names.map identifier ++ ["args"])).count (identifier name) = 1 ↔
      name ≠ "args" := by
  have hsnake := snake name mem
  have hcount : (names.map identifier).count (identifier name) = 1 :=
    List.count_eq_one_of_mem (nodup_map_identifier snake distinct) (List.mem_map_of_mem mem)
  rw [List.count_cons_of_ne (identifier_ne_self hsnake).symm, List.count_append, hcount,
    List.count_singleton, ne_eq, ← identifier_eq_args_iff hsnake]
  by_cases hargs : identifier name = "args"
  · simp [hargs]
  · simp [hargs, Ne.symm hargs]

end Names

/-! ## The operations of a client -/

theorem forall₂_filterMap {α β : Type} {f : α → Option β} {R : α → β → Prop} {xs : List α}
    (each : ∀ x ∈ xs, ∃ y, f x = some y ∧ R x y) : List.Forall₂ R xs (xs.filterMap f) := by
  induction xs with
  | nil => exact .nil
  | cons x rest ih =>
    obtain ⟨⟨y, hy, hR⟩, hrest⟩ := List.forall_mem_cons.1 each
    rw [List.filterMap_cons_some hy]
    exact .cons hR (ih hrest)

theorem isNameChar_of_method? {doc : Document} {names : RecordNames} {r : Registry} {o : Operation}
    {m : Method} (built : Operation.Built doc names o) (h : method? r o = some m) :
    ∀ a ∈ m.arguments, ∀ c ∈ a.identifier.toList, isNameChar c = true := by
  obtain ⟨_, harguments, _⟩ := parts_of_method? h
  rw [harguments]
  refine List.forall_mem_map.2 fun p hp => ?_
  rw [argumentOf, built.localName_eq (mem_signature.1 hp)]
  exact isNameChar_of_mem_identifier

theorem bindsArguments_methodLines {doc : Document} {names : RecordNames} {o : Operation} {m : Method}
    (built : Operation.Built doc names o) (distinct : (o.signature.map (·.localName)).Nodup)
    (all : ∀ a ∈ m.arguments, ∀ c ∈ a.identifier.toList, isNameChar c = true)
    (arguments : m.arguments = o.signature.map argumentOf)
    (literal : m.operationId = Text.quoted o.id) : BindsArguments o (methodLines m) := by
  have hinserted := inserted_methodLines all arguments
  have hsnake : ∀ name ∈ o.signature.map (·.localName), IsSnake name :=
    List.forall_mem_map.2 fun p hp => isSnake_of_mem_parameters built (mem_signature.1 hp)
  have hbound : boundNames (methodLines m) =
      "self" :: ((o.signature.map (·.localName)).map identifier ++ ["args"]) := by
    rw [boundNames_methodLines all, arguments, List.map_map, List.map_map]
    rfl
  refine ⟨⟨?_, hinserted, ?_, invoked_methodLines all literal⟩, ?_, fun p hp => ?_⟩
  · rw [parameterNames_methodLines all, arguments, List.map_map]
    rfl
  · rw [hinserted, List.map_map]
    exact distinct
  · rw [hbound, nodup_bound_iff hsnake distinct, List.mem_map, not_exists]
    refine forall_congr' fun p => ?_
    rw [not_and, mem_signature]
  · have hmem : p.localName ∈ o.signature.map (·.localName) :=
      List.mem_map_of_mem (mem_signature.2 hp)
    rw [hbound, count_bound_iff hsnake distinct hmem]

section Client

variable {doc : Document} {options : ClientOptions} {c : Client}
  (built : (Client.build doc options).outcome = .ok c)

include built

/-- The methods of a client's wrapper are those of the wrapped operations, one for each and in this
order. With its comment or without, each binds the arguments of its operation. The lines behind the
comment stand in the module as they are, and so does the comment if nothing brings a line feed into
it. -/
theorem wraps_iff (typeName : String) :
    ∃ w : Wrapper, (ofClient c typeName : Logged WrapperError Wrapper).outcome = .ok w ∧
      List.Forall₂ (fun o m => c.operation o.id = .ok o ∧ BindsArguments o (methodLines m) ∧
        BindsArguments o (definitionLines m) ∧ definitionLines m <:+: linesOf w.render ∧
        (OneLineComment c.registry o → methodLines m <:+: linesOf w.render))
          (wrappedOperations c) (allMethods w) := by
  refine ⟨forClient c typeName, outcome_ofClient c typeName, ?_⟩
  rw [allMethods_forClient]
  refine forall₂_filterMap fun o ho => ?_
  obtain ⟨hbuilt, hfound, m, hm⟩ := exists_of_mem_wrappedOperations built ho
  obtain ⟨hdistinct, harguments, hliteral, _⟩ := parts_of_method? hm
  have hall := isNameChar_of_method? hbuilt hm
  have hlined := oneLined_of_method? hbuilt hm
  have hmem : m ∈ allMethods (forClient c typeName) := by
    rw [allMethods_forClient]
    exact List.mem_filterMap.2 ⟨o, ho, hm⟩
  refine ⟨m, hm, hfound, bindsArguments_methodLines hbuilt hdistinct hall harguments hliteral,
    bindsArguments_methodLines hbuilt hdistinct hall harguments hliteral,
    infix_definitionLines hmem hlined, fun hcomment => ?_⟩
  refine infix_linesOf_render (infix_lines hmem) (hlined.methodLines_iff.2 ?_)
  rw [doc_of_method? hm]
  exact (oneLine_docLines_iff hbuilt).2 hcomment

end Client

section Pets

/-- A document with an operation that has a path parameter and one in the query. -/
def petDocument (query : String) : Json :=
  .object [("openapi", .string "3.0.0"),
    ("info", .object [("title", .string "Pets"), ("version", .string "1.0")]),
    ("paths", .object [("/pets/\x7bpetId\x7d", .object [("get", .object
      [("operationId", .string "getPet"), ("parameters", .array
        [.object [("name", .string query), ("in", .string "query"),
          ("schema", .object [("type", .string "string")])],
        .object [("name", .string "petId"), ("in", .string "path"), ("required", .bool true),
          ("schema", .object [("type", .string "string")])]])])])])]

theorem petDocument_operations :
    (named? (petDocument "type")).map (fun p => (decide (OneLineComments p.1),
        (wrappedOperations p.1).map fun o =>
          (o.id, o.parameters.map fun p => (p.localName, p.required)))) =
      some (true, [("getPet", [("type", false), ("pet_id", true)])]) ∧
    (named? (petDocument "args")).map (fun p => (decide (OneLineComments p.1),
        (allMethods (forClient p.1 p.2)).map fun m => boundNames (methodLines m))) =
      some (true, [["self", "pet_id", "args", "args"]]) := by
  decide +kernel

theorem wraps_iff_pets :
    ∃ doc c w m, Document.ofJson (petDocument "type") = .ok doc ∧
      (Client.build doc {}).outcome = .ok c ∧
      (ofClient c "Pets" : Logged WrapperError Wrapper).outcome = .ok w ∧ allMethods w = [m] ∧
      methodLines m <:+: linesOf w.render ∧
      (methodLines m).filterMap inserted? = [("pet_id", "pet_id"), ("type", "r#type")] ∧
      (methodLines m).filterMap invoked? = ["getPet"] ∧ (boundNames (methodLines m)).Nodup := by
  obtain ⟨⟨c, typeName⟩, hnamed, h⟩ := Option.map_eq_some_iff.1 petDocument_operations.1
  simp only [Prod.mk.injEq, decide_eq_true_eq] at h
  obtain ⟨hone, h⟩ := h
  obtain ⟨doc, hdoc, hc, _⟩ := exists_of_named? hnamed
  obtain ⟨o, hops, h⟩ := List.map_eq_singleton_iff.1 h
  obtain ⟨hid, hparameters⟩ := Prod.mk.inj h
  obtain ⟨w, hw, hmethods⟩ := wraps_iff hc "Pets"
  have hcomment : OneLineComment c.registry o := hone.operations o (by simp [hops])
  rw [hops, List.forall₂_cons_left_iff] at hmethods
  obtain ⟨m, _, ⟨_, ⟨hwraps, hbound, _⟩, _, _, hstands⟩, hnil, hall⟩ := hmethods
  rw [List.forall₂_nil_left_iff] at hnil
  subst hnil
  obtain ⟨p, rest, ho, hp, hrest⟩ := List.map_eq_cons_iff.1 hparameters
  obtain ⟨q, hq, hpet⟩ := List.map_eq_singleton_iff.1 hrest
  subst hq
  obtain ⟨hptype, hpoptional⟩ := Prod.mk.inj hp
  obtain ⟨hqpet, hqrequired⟩ := Prod.mk.inj hpet
  have hspelled : identifier "pet_id" = "pet_id" ∧ identifier "type" = "r#type" := by decide
  refine ⟨doc, c, w, m, hdoc, hc, hw, hall, hstands hcomment, ?_, ?_, ?_⟩
  · rw [hwraps.inserted, ho]
    simp [hpoptional, hqrequired, hptype, hqpet, hspelled]
  · rw [hwraps.invoked, hid]
  · rw [hbound, ho]
    simp [hptype, hqpet]

/-- A parameter that is called as the variable is hidden behind it. -/
theorem args_bound_twice :
    ∃ doc c w m, Document.ofJson (petDocument "args") = .ok doc ∧
      (Client.build doc {}).outcome = .ok c ∧
      (ofClient c "Pets" : Logged WrapperError Wrapper).outcome = .ok w ∧ m ∈ allMethods w ∧
      methodLines m <:+: linesOf w.render ∧
      boundNames (methodLines m) = ["self", "pet_id", "args", "args"] := by
  obtain ⟨⟨c, typeName⟩, hnamed, h⟩ := Option.map_eq_some_iff.1 petDocument_operations.2
  simp only [Prod.mk.injEq, decide_eq_true_eq] at h
  obtain ⟨hone, h⟩ := h
  obtain ⟨doc, hdoc, hc, hname⟩ := exists_of_named? hnamed
  obtain ⟨m, hm, hnames⟩ := List.map_eq_singleton_iff.1 h
  have hmem : m ∈ allMethods (forClient c "Pets") := by
    have hmethods : allMethods (forClient c "Pets") = [m] := by
      rw [← hm, allMethods_forClient, allMethods_forClient]
    rw [hmethods]
    exact List.mem_singleton_self m
  refine ⟨doc, c, _, m, hdoc, hc, outcome_ofClient c "Pets", hmem, ?_, hnames⟩
  rw [(linesOf_render_forClient_iff hc (by decide)).2 hone]
  exact infix_lines hmem

end Pets

end Wrapper

end OpenApi
