import OpenApi.Proofs.Text.Literal
import OpenApi.Proofs.Text.Words
import OpenApi.Proofs.Wrapper.Definitions
import OpenApi.Proofs.Wrapper.Lines

/-!
# The names of a wrapper

The methods of a group have different names, and so have the groups. Names can meet between the
title and the groups, between two groups whose types are spelled alike, and in the client's type.
-/

namespace OpenApi

namespace Wrapper

open Text (IsSnake marks)

/-! ## Identifiers -/

/-- The name behind an identifier. -/
def nameBehind : List Char → List Char
  | 'r' :: '#' :: rest => rest
  | '_' :: rest => rest
  | name => if name.getLast? = some '_' then name.dropLast else name

theorem nameBehind_of_isSnake {name : String} (h : IsSnake name) :
    nameBehind name.toList = name.toList := by
  obtain ⟨c, hc, hfirst⟩ := h.first
  obtain ⟨d, hd, hlast⟩ := h.last
  unfold nameBehind
  split
  · rename_i rest hname
    have hmark := h.plain '#' (by simp [hname]) (by decide)
    exact absurd hmark (by decide)
  · rename_i rest hname
    rw [hname] at hfirst
    cases hfirst
    exact absurd (by decide) hc
  · rw [hlast, if_neg]
    intro heq
    cases heq
    exact absurd (by decide) hd

theorem nameBehind_identifier {name : String} (h : IsSnake name) :
    nameBehind (identifier name).toList = name.toList := by
  unfold identifier
  split
  · rename_i hpath
    have hall : ∀ name ∈ pathKeywords, nameBehind (name ++ "_").toList = name.toList := by decide
    exact hall name hpath
  · split
    · rw [String.toList_append]
      rfl
    · split
      · rw [String.toList_append]
        rfl
      · exact nameBehind_of_isSnake h

theorem identifier_inj {name name' : String} (h : IsSnake name) (h' : IsSnake name')
    (same : identifier name = identifier name') : name = name' := by
  have hlist := nameBehind_identifier h
  rw [same, nameBehind_identifier h'] at hlist
  exact (String.toList_inj.1 hlist).symm

theorem not_mem_identifier {name : String} (h : IsSnake name) {mark : Char}
    (mem : mark ∈ ['\n', '(']) : mark ∉ (identifier name).toList := by
  obtain ⟨hmark, hunderscore, hr, hhash⟩ :
      mark ∈ marks ∧ mark ≠ '_' ∧ mark ≠ 'r' ∧ mark ≠ '#' := by
    simp only [List.mem_cons, List.not_mem_nil, or_false] at mem
    rcases mem with rfl | rfl <;> decide
  have hname : mark ∉ name.toList := fun hmem => hunderscore (h.plain mark hmem hmark)
  unfold identifier
  split
  · simp [hname, hunderscore]
  · split
    · simp [hname, hr, hhash]
    · split
      · simp [hname, hunderscore]
      · exact hname

/-! ## The names of a client -/

variable {doc : Document} {options : ClientOptions} {c : Client}

/-- The callables of a group that have a method. -/
def wrapped (c : Client) (g : Group) : List String :=
  (g.callables.filter fun p => (methodFor? c p.2).isSome).map Prod.fst

/-- The names of the groups, under which the client's type leads to them. -/
def groupNames (c : Client) : List String :=
  (OrderedMap.values c.groups.named).map (·.name)

/-- The names of the groups' types. -/
def groupTypes (c : Client) : List String :=
  (groupNames c).map fun name => Text.pascalCase (Text.words name) ++ "Api"

section Groups

variable (built : (Client.build doc options).outcome = .ok c) {name : Option String} {g : Group}
  (found : c.groups.group? name = some g)

include built found

theorem name_of_methodFor? {callable : String × String} (listed : callable ∈ g.callables)
    {m : Method} (h : methodFor? c callable.2 = some m) : m.name = identifier callable.1 := by
  obtain ⟨o, rfl, hname, _, hfiled⟩ := Client.exists_of_callable built found listed
  obtain ⟨o', ho', hm⟩ := Option.bind_eq_some_iff.1 h
  -- An id with a method leads to one operation, which is the one of the callable.
  have hsame : o' = o := by
    rw [Json.Typed.toOption_eq_some_iff, Client.operation] at ho'
    split at ho'
    · cases ho'
    · rename_i only hbucket
      cases ho'
      rw [hbucket, List.mem_singleton] at hfiled
      exact hfiled.symm
    · cases ho'
  rw [method?] at hm
  split at hm
  · cases hm
    rw [hsame, hname]
  · cases hm

theorem map_name_methods :
    ((OrderedMap.values g.callables).filterMap (methodFor? c)).map (·.name) =
      (wrapped c g).map identifier := by
  have hnames : ∀ callable ∈ g.callables, ∀ m, methodFor? c callable.2 = some m →
      m.name = identifier callable.1 :=
    fun callable listed m => name_of_methodFor? built found listed
  rw [wrapped, OrderedMap.values]
  generalize g.callables = callables at hnames
  induction callables with
  | nil => rfl
  | cons callable rest ih =>
    obtain ⟨hcallable, hrest⟩ := List.forall_mem_cons.1 hnames
    rw [List.map_cons]
    cases hm : methodFor? c callable.2 with
    | none =>
      rw [List.filterMap_cons_none hm, List.filter_cons_of_neg (by simp [hm])]
      exact ih hrest
    | some m =>
      rw [List.filterMap_cons_some hm, List.filter_cons_of_pos (by simp [hm]), List.map_cons,
        List.map_cons, List.map_cons, ih hrest, hcallable m hm]

theorem nodup_wrapped : (wrapped c g).Nodup := by
  have honce := (Client.assembled_of_build built).grouped ▸ found
  have hkeys := Groups.callablesOnce_ofOperations _ name g honce
  exact (List.filter_sublist.map Prod.fst).nodup hkeys

theorem isSnake_of_mem_wrapped {callable : String} (mem : callable ∈ wrapped c g) :
    IsSnake callable := by
  obtain ⟨p, hp, rfl⟩ := List.mem_map.1 mem
  obtain ⟨o, rfl, _⟩ := Client.exists_of_callable built found (List.mem_filter.1 hp).1
  exact isSnake_localName o.id

theorem nodup_methods :
    (((OrderedMap.values g.callables).filterMap (methodFor? c)).map (·.name)).Nodup := by
  rw [map_name_methods built found]
  refine List.Nodup.map_on (fun a ha b hb => identifier_inj ?_ ?_) (nodup_wrapped built found)
  · exact isSnake_of_mem_wrapped built found ha
  · exact isSnake_of_mem_wrapped built found hb

theorem clear_methods : ∀ m ∈ (OrderedMap.values g.callables).filterMap (methodFor? c),
    '(' ∉ m.name.toList := by
  intro m hm
  have hname : m.name ∈ (wrapped c g).map identifier := by
    rw [← map_name_methods built found]
    exact List.mem_map_of_mem hm
  obtain ⟨callable, hcallable, hname⟩ := List.mem_map.1 hname
  rw [← hname]
  exact not_mem_identifier (isSnake_of_mem_wrapped built found hcallable) (by decide)

end Groups

section Client

variable (built : (Client.build doc options).outcome = .ok c)

include built

theorem wellNamed_groups : c.groups.WellNamed := by
  rw [(Client.assembled_of_build built).grouped]
  exact Groups.wellNamed_ofOperations _

theorem nodup_groupNames : (groupNames c).Nodup :=
  (wellNamed_groups built).nodup_names

theorem exists_tag_of_mem_groupNames {name : String} (mem : name ∈ groupNames c) :
    ∃ tag, localName tag = name := by
  obtain ⟨g, hg, rfl⟩ := List.mem_map.1 mem
  have hfound : c.groups.group? (some g.name) = some g := (wellNamed_groups built).get?_name hg
  obtain ⟨p, hp, rfl⟩ := List.mem_map.1 hg
  obtain ⟨callable, hcallable⟩ := List.exists_mem_of_ne_nil _ ((wellNamed_groups built).filled p hp)
  obtain ⟨o, _, _, hgroup, _⟩ := Client.exists_of_callable built hfound hcallable
  obtain ⟨tag, _, hlocal⟩ := Option.map_eq_some_iff.1 hgroup
  exact ⟨tag, hlocal⟩

theorem isSnake_of_mem_groupNames {name : String} (mem : name ∈ groupNames c) : IsSnake name := by
  obtain ⟨tag, rfl⟩ := exists_tag_of_mem_groupNames built mem
  exact isSnake_localName tag

theorem nodup_root_iff :
    ("new" :: ((groupNames c).map identifier ++ (wrapped c c.groups.root).map identifier)).Nodup ↔
      "new" ∉ groupNames c ∧ "new" ∉ wrapped c c.groups.root ∧
        ∀ name ∈ groupNames c, name ∉ wrapped c c.groups.root := by
  have hroot : c.groups.group? none = some c.groups.root := rfl
  have hsnake : ∀ name ∈ "new" :: (groupNames c ++ wrapped c c.groups.root), IsSnake name := by
    refine List.forall_mem_cons.2 ⟨isSnake_localName "new", List.forall_mem_append.2 ⟨?_, ?_⟩⟩
    · exact fun name => isSnake_of_mem_groupNames built
    · exact fun name => isSnake_of_mem_wrapped built hroot
  -- The constructor's name is its own identifier, so that the three kinds are spelled alike.
  have hmap : "new" :: ((groupNames c).map identifier ++ (wrapped c c.groups.root).map identifier) =
      ("new" :: (groupNames c ++ wrapped c c.groups.root)).map identifier := by
    rw [List.map_cons, List.map_append]
    rfl
  have hiff : (("new" :: (groupNames c ++ wrapped c c.groups.root)).map identifier).Nodup ↔
      ("new" :: (groupNames c ++ wrapped c c.groups.root)).Nodup :=
    ⟨List.Nodup.of_map identifier, List.Nodup.map_on fun a ha b hb =>
      identifier_inj (hsnake a ha) (hsnake b hb)⟩
  have hgroups := nodup_groupNames built
  have hwrapped := nodup_wrapped built hroot
  rw [hmap, hiff, List.nodup_cons, List.mem_append, not_or, List.nodup_append]
  constructor
  · rintro ⟨⟨hnewGroup, hnew⟩, _, _, hapart⟩
    exact ⟨hnewGroup, hnew, fun name hname hmem => hapart name hname name hmem rfl⟩
  · rintro ⟨hnewGroup, hnew, hapart⟩
    exact ⟨⟨hnewGroup, hnew⟩, hgroups, hwrapped,
      fun a ha b hb heq => hapart a ha (heq ▸ hb)⟩

end Client

theorem not_mem_pascalCase (s : String) {mark : Char} (mem : mark ∈ marks) :
    mark ∉ (Text.pascalCase (Text.words s)).toList :=
  fun hmem => Text.plain_pascalCase (fun _ => Text.isWord_of_mem_words) _ hmem mem

theorem not_mem_clientName {title typeName : String} {options : WrapperOptions}
    (named : clientName title options = .ok typeName) {mark : Char} (mem : mark ∈ ['\n', '<']) :
    mark ∉ typeName.toList := by
  obtain ⟨hmark, hfallback, hvalid⟩ : mark ∈ marks ∧ mark ∉ fallbackName.toList ∧
      ¬(mark.isAlphanum || mark == '_') = true := by
    simp only [List.mem_cons, List.not_mem_nil, or_false] at mem
    rcases mem with rfl | rfl <;> decide
  unfold clientName at named
  split at named
  · rename_i name _
    split at named
    · rename_i hname
      obtain rfl := Except.ok.inj named
      rw [isValidName, Bool.and_eq_true, List.all_eq_true] at hname
      exact fun hmem => hvalid (hname.2 mark hmem)
    · cases named
  · rw [← Except.ok.inj named, nameOfTitle]
    split
    · exact not_mem_pascalCase title hmark
    · exact hfallback

theorem clear_forClient (built : (Client.build doc options).outcome = .ok c) {typeName : String}
    (one : '<' ∉ typeName.toList) : Clear (forClient c typeName) := by
  have hroot : c.groups.group? none = some c.groups.root := rfl
  refine ⟨one, clear_methods built hroot, List.forall_mem_map.2 fun g hg => ?_⟩
  have hfound : c.groups.group? (some g.name) = some g := (wellNamed_groups built).get?_name hg
  have hsnake := isSnake_of_mem_groupNames built (List.mem_map_of_mem hg)
  refine ⟨?_, not_mem_identifier hsnake (by decide), clear_methods built hfound⟩
  have hwords := not_mem_pascalCase g.name (by decide : '<' ∈ marks)
  simp [sectionFor, hwords]

theorem structNames_forClient (built : (Client.build doc options).outcome = .ok c)
    {typeName : String} (one : '<' ∉ typeName.toList) :
    (forClient c typeName).lines.filterMap structName? = typeName :: groupTypes c := by
  rw [structNames_lines (clear_forClient built one), groupTypes, groupNames, forClient,
    List.map_map, List.map_map]
  rfl

theorem not_imported_of_mem_groupTypes {name : String} (mem : name ∈ groupTypes c) :
    name ∉ imported := by
  obtain ⟨group, _, rfl⟩ := List.mem_map.1 mem
  intro himported
  have hends : ∀ name ∈ imported, ¬"Api".toList <:+ name.toList := by decide
  refine hends _ himported ?_
  rw [String.toList_append]
  exact List.suffix_append _ _

/-! ## Line feeds -/

/-- Nothing that the comment of an operation takes over as it stands has a line feed. -/
structure OneLineComment (r : Registry) (o : Operation) : Prop where
  path : OneLine o.path
  types : ∀ p ∈ o.parameters, OneLine (describe r p.type)

/-- Nothing that the comments of a module take over as it stands has a line feed. -/
structure OneLineComments (c : Client) : Prop where
  title : OneLine c.title
  version : OneLine c.version
  operations : ∀ o ∈ wrappedOperations c, OneLineComment c.registry o

instance (r : Registry) (o : Operation) : Decidable (OneLineComment r o) :=
  decidable_of_iff (OneLine o.path ∧ ∀ p ∈ o.parameters, OneLine (describe r p.type))
    ⟨fun h => ⟨h.1, h.2⟩, fun h => ⟨h.path, h.types⟩⟩

instance (c : Client) : Decidable (OneLineComments c) :=
  decidable_of_iff ((OneLine c.title ∧ OneLine c.version) ∧
      ∀ o ∈ wrappedOperations c, OneLineComment c.registry o)
    ⟨fun h => ⟨h.1.1, h.1.2, h.2⟩, fun h => ⟨⟨h.title, h.version⟩, h.operations⟩⟩

theorem oneLine_of_isSnake {name : String} (h : IsSnake name) : OneLine name :=
  fun hmem => absurd (h.plain '\n' hmem (by decide)) (by decide)

theorem oneLine_argumentType (ty : DataType) : OneLine (argumentType ty) := by
  fun_induction argumentType ty with
  | case8 element ih => simpa [OneLine] using ih
  | _ => decide

theorem oneLine_argumentOf {p : Parameter} (h : IsSnake p.localName) :
    OneLine (argumentOf p).identifier ∧ OneLine (argumentOf p).key ∧
      OneLine (argumentOf p).type := by
  refine ⟨not_mem_identifier h (by decide), Text.not_mem_quoted p.localName, ?_⟩
  have htype := oneLine_argumentType p.type
  unfold argumentOf
  dsimp only
  split
  · exact htype
  · simpa [OneLine] using htype

section Operation

variable {doc : Document} {names : RecordNames} {r : Registry} {o : Operation}
  (built : Operation.Built doc names o)

include built

theorem isSnake_of_mem_parameters {p : Parameter} (mem : p ∈ o.parameters) :
    IsSnake p.localName :=
  built.localName_eq mem ▸ isSnake_localName p.wireName

theorem oneLined_of_method? {m : Method} (h : method? r o = some m) : m.OneLined := by
  obtain ⟨_, harguments, hid, hname⟩ := parts_of_method? h
  refine ⟨?_, hid ▸ Text.not_mem_quoted o.id, ?_⟩
  · rw [hname, built.name_eq]
    exact not_mem_identifier (isSnake_localName o.id) (by decide)
  · rw [harguments]
    exact List.forall_mem_map.2 fun p hp =>
      oneLine_argumentOf (isSnake_of_mem_parameters built (mem_signature.1 hp))

theorem oneLine_docLines_iff : (∀ line ∈ docLines r o, OneLine line) ↔ OneLineComment r o := by
  have hmethod : OneLine o.method.name := by
    cases o.method <;> decide
  have hhead : OneLine s!"`{o.method.name} {o.path}`" ↔ OneLine o.path := by
    unfold OneLine at hmethod ⊢
    simp [toString, hmethod]
  have htexts : ∀ texts : List String,
      ∀ line ∈ texts.flatMap fun text => "" :: textLines text, OneLine line := fun texts =>
    List.forall_mem_flatMap.2 fun text _ =>
      List.forall_mem_cons.2 ⟨by decide, fun _ => oneLine_of_mem_textLines⟩
  have hparameter : ∀ p ∈ o.parameters, (OneLine
      s!"* `{p.localName}` ({p.location.name}): {describe r p.type}" ↔
        OneLine (describe r p.type)) := by
    intro p hp
    have hname := oneLine_of_isSnake (isSnake_of_mem_parameters built hp)
    have hlocation : OneLine p.location.name := by
      cases p.location <;> decide
    unfold OneLine at hname hlocation ⊢
    simp [toString, hname, hlocation]
  have hlist : ∀ lines : List String,
      (∀ line ∈ (if lines.isEmpty then [] else "" :: lines), OneLine line) ↔
        ∀ line ∈ lines, OneLine line := by
    intro lines
    split
    · rename_i hempty
      rw [List.isEmpty_iff.1 hempty]
    · rw [List.forall_mem_cons, and_iff_right (by decide)]
  have hparameters : (∀ line ∈ o.signature.map fun p =>
      s!"* `{p.localName}` ({p.location.name}): {describe r p.type}", OneLine line) ↔
        ∀ p ∈ o.parameters, OneLine (describe r p.type) := by
    rw [List.forall_mem_map]
    simp only [mem_signature]
    exact forall₂_congr hparameter
  rw [docLines, List.forall_mem_append, List.forall_mem_cons, hhead, and_iff_left (htexts _), hlist,
    hparameters]
  exact ⟨fun h => ⟨h.1, h.2⟩, fun h => ⟨h.path, h.types⟩⟩

end Operation

section Client

variable (built : (Client.build doc options).outcome = .ok c)

include built

theorem oneLined_methods (typeName : String) :
    ∀ m ∈ allMethods (forClient c typeName), m.OneLined := by
  rw [allMethods_forClient]
  intro m hm
  obtain ⟨o, ho, hm⟩ := List.mem_filterMap.1 hm
  exact oneLined_of_method? (exists_of_mem_wrappedOperations built ho).1 hm

theorem oneLined_forClient {typeName : String} (one : OneLine typeName) :
    OneLined (forClient c typeName) := by
  obtain ⟨hroot, hgroups⟩ := List.forall_mem_append.1 (oneLined_methods built typeName)
  refine ⟨one, hroot, List.forall_mem_map.2 fun g hg => ?_⟩
  have hsnake := isSnake_of_mem_groupNames built (List.mem_map_of_mem hg)
  refine ⟨oneLine_of_isSnake hsnake, not_mem_identifier hsnake (by decide), ?_, ?_⟩
  · have hwords := not_mem_pascalCase g.name (by decide : '\n' ∈ marks)
    simp [sectionFor, OneLine, hwords]
  · exact List.forall_mem_flatMap.1 hgroups _ (List.mem_map_of_mem hg)

/-- A client's module is read line by line as it is written if and only if nothing brings a line
feed into its comments. -/
theorem linesOf_render_forClient_iff {typeName : String} (one : OneLine typeName) :
    linesOf (forClient c typeName).render = (forClient c typeName).lines ↔ OneLineComments c := by
  have hdocs : (∀ m ∈ allMethods (forClient c typeName), ∀ line ∈ m.doc, OneLine line) ↔
      ∀ o ∈ wrappedOperations c, OneLineComment c.registry o := by
    refine forall_allMethods_iff built (fun o ho m hm => ?_) typeName
    rw [doc_of_method? hm]
    exact oneLine_docLines_iff (exists_of_mem_wrappedOperations built ho).1
  rw [linesOf_render_iff, (oneLined_forClient built one).lines_iff, hdocs]
  exact ⟨fun h => ⟨h.1.1, h.1.2, h.2⟩, fun h => ⟨⟨h.title, h.version⟩, h.operations⟩⟩

/-! ## Names that are defined once -/

theorem definesOnce_lines_iff {typeName : String} (one : '<' ∉ typeName.toList) :
    DefinesOnce (forClient c typeName).lines ↔
      typeName ∉ imported ∧ typeName ∉ groupTypes c ∧ (groupTypes c).Nodup ∧
        "new" ∉ groupNames c ∧ "new" ∉ wrapped c c.groups.root ∧
          ∀ name ∈ groupNames c, name ∉ wrapped c c.groups.root := by
  have hroot : c.groups.group? none = some c.groups.root := rfl
  have hstructs := structNames_forClient built one
  have haccessors : (forClient c typeName).sections.map (·.accessor) =
      (groupNames c).map identifier := by
    rw [groupNames, forClient, List.map_map, List.map_map]
    rfl
  have hmethods := implMethods_lines (clear_forClient built one)
  rw [haccessors, show (forClient c typeName).methods.map (·.name) = _ from
    map_name_methods built hroot] at hmethods
  have hsections : ∀ names ∈ (forClient c typeName).sections.map fun s => s.methods.map (·.name),
      names.Nodup := by
    refine List.forall_mem_map.2 (List.forall_mem_map.2 fun g hg => ?_)
    have hfound : c.groups.group? (some g.name) = some g := (wellNamed_groups built).get?_name hg
    exact nodup_methods built hfound
  constructor
  · rintro ⟨hnodup, himports, hblocks⟩
    rw [hstructs] at hnodup himports
    rw [hmethods] at hblocks
    obtain ⟨hgroup, htypes⟩ := List.nodup_cons.1 hnodup
    have hcallables := (nodup_root_iff built).1 (hblocks _ List.mem_cons_self)
    exact ⟨himports typeName List.mem_cons_self, hgroup, htypes, hcallables⟩
  · rintro ⟨himport, hgroup, htypes, hcallables⟩
    constructor
    · rw [hstructs]
      exact List.nodup_cons.2 ⟨hgroup, htypes⟩
    · rw [hstructs]
      exact List.forall_mem_cons.2 ⟨himport, fun _ => not_imported_of_mem_groupTypes⟩
    · rw [hmethods]
      exact List.forall_mem_cons.2 ⟨(nodup_root_iff built).2 hcallables, hsections⟩

/-- Where nothing brings a line feed into its comments, the module of a client defines every name
once, unless the client's type is named as what is imported or as a group's type, two groups have
types of one name, or one name in the client's type stands for two of its constructor, the groups
and the operations without a tag. -/
theorem definesOnce_iff {wrapperOptions : WrapperOptions} {typeName : String}
    (named : clientName c.title wrapperOptions = .ok typeName) (one : OneLineComments c) :
    ∃ w : Wrapper, (ofClient c typeName : Logged WrapperError Wrapper).outcome = .ok w ∧
      (DefinesOnce (linesOf w.render) ↔
        typeName ∉ imported ∧ typeName ∉ groupTypes c ∧ (groupTypes c).Nodup ∧
          "new" ∉ groupNames c ∧ "new" ∉ wrapped c c.groups.root ∧
            ∀ name ∈ groupNames c, name ∉ wrapped c c.groups.root) := by
  refine ⟨_, outcome_ofClient c typeName, ?_⟩
  rw [(linesOf_render_forClient_iff built (not_mem_clientName named (by decide))).2 one]
  exact definesOnce_lines_iff built (not_mem_clientName named (by decide))

end Client

-- A line feed ends a comment, and what stands behind it can define a method.
example : (linesOf (commentLine "`GET /health\n    pub fn get_health(&self)`")).filterMap methodName? =
    ["get_health"] := by
  decide

section Shop

/-- A document with an operation of a group and one without a tag. -/
def shop (title health : String) : Json :=
  .object [("openapi", .string "3.0.0"),
    ("info", .object [("title", .string title), ("version", .string "1.0")]),
    ("paths", .object
      [("/pets", .object [("get", .object
        [("operationId", .string "listPets"), ("tags", .array [.string "pets"])])]),
      (health, .object [("get", .object [("operationId", .string "getHealth")])])])]

/-- The client of a document with the name of its type. -/
def named? (raw : Json) : Option (Client × String) :=
  (Document.ofJson raw).toOption.bind fun doc =>
    (Client.build doc {}).outcome.toOption.bind fun c =>
      (clientName c.title {}).toOption.map fun typeName => (c, typeName)

theorem exists_of_named? {raw : Json} {c : Client} {typeName : String}
    (h : named? raw = some (c, typeName)) :
    ∃ doc, Document.ofJson raw = .ok doc ∧ (Client.build doc {}).outcome = .ok c ∧
      clientName c.title {} = .ok typeName := by
  obtain ⟨doc, hdoc, h⟩ := Option.bind_eq_some_iff.1 h
  obtain ⟨c', hc, h⟩ := Option.bind_eq_some_iff.1 h
  obtain ⟨_, hname, h⟩ := Option.map_eq_some_iff.1 h
  cases h
  rw [Json.Typed.toOption_eq_some_iff] at hdoc hc hname
  exact ⟨doc, hdoc, hc, hname⟩

theorem shop_named :
    (named? (shop "Pet Shop" "/health")).map (fun p => (p.2, decide (OneLineComments p.1),
        groupNames p.1, groupTypes p.1, wrapped p.1 p.1.groups.root)) =
      some ("PetShop", true, ["pets"], ["PetsApi"], ["get_health"]) ∧
    (named? (shop "Pets API" "/health")).map
        (fun p => (p.2, decide (OneLineComments p.1), groupTypes p.1)) =
      some ("PetsApi", true, ["PetsApi"]) := by
  decide +kernel

theorem definesOnce_iff_shop :
    ∃ doc c w, Document.ofJson (shop "Pet Shop" "/health") = .ok doc ∧
      (Client.build doc {}).outcome = .ok c ∧ clientName c.title {} = .ok "PetShop" ∧
      OneLineComments c ∧
      (ofClient c "PetShop" : Logged WrapperError Wrapper).outcome = .ok w ∧
      DefinesOnce (linesOf w.render) := by
  obtain ⟨⟨c, typeName⟩, hnamed, h⟩ := Option.map_eq_some_iff.1 shop_named.1
  simp only [Prod.mk.injEq, decide_eq_true_eq] at h
  obtain ⟨rfl, hone, hnames, htypes, hwrapped⟩ := h
  obtain ⟨doc, hdoc, hc, hname⟩ := exists_of_named? hnamed
  obtain ⟨w, hw, hiff⟩ := definesOnce_iff hc hname hone
  refine ⟨doc, c, w, hdoc, hc, hname, hone, hw, hiff.2 ?_⟩
  rw [hnames, htypes, hwrapped]
  decide

/-- A title that names a group and ends in what the groups' types end in. -/
theorem title_meets_group :
    ∃ doc c w, Document.ofJson (shop "Pets API" "/health") = .ok doc ∧
      (Client.build doc {}).outcome = .ok c ∧ clientName c.title {} = .ok "PetsApi" ∧
      (ofClient c "PetsApi" : Logged WrapperError Wrapper).outcome = .ok w ∧
      (linesOf w.render).filterMap structName? = ["PetsApi", "PetsApi"] ∧
      ¬DefinesOnce (linesOf w.render) := by
  obtain ⟨⟨c, typeName⟩, hnamed, h⟩ := Option.map_eq_some_iff.1 shop_named.2
  simp only [Prod.mk.injEq, decide_eq_true_eq] at h
  obtain ⟨rfl, hone, htypes⟩ := h
  obtain ⟨doc, hdoc, hc, hname⟩ := exists_of_named? hnamed
  have hlines := (linesOf_render_forClient_iff hc (not_mem_clientName hname (by decide))).2 hone
  have hstructs := structNames_forClient hc (not_mem_clientName hname (by decide))
  rw [htypes, ← hlines] at hstructs
  refine ⟨doc, c, _, hdoc, hc, hname, outcome_ofClient c "PetsApi", hstructs, fun once => ?_⟩
  have hnodup := once.structs
  rw [hstructs] at hnodup
  exact absurd hnodup (by decide)

end Shop

end Wrapper

end OpenApi
