import OpenApi.Proofs.Client.Groups
import OpenApi.Wrapper.Printer

/-!
# The wrapper of a client

A client always has a wrapper. It has a method for each callable whose id leads to one operation
with parameters that can be told apart.
-/

namespace OpenApi.Wrapper

variable {ε : Type}

/-- The method of an operation, if its parameters can be told apart. -/
def method? (r : Registry) (o : Operation) : Option Method :=
  if firstRepeated? [] (o.signature.map (·.localName)) = none then some {
    name := identifier o.name.snake
    operationId := Text.quoted o.id
    deprecated := o.deprecated
    doc := docLines r o
    arguments := o.signature.map argumentOf }
  else none

theorem outcome_methodOf (r : Registry) (o : Operation) :
    (methodOf r o : Logged ε (Option Method)).outcome = .ok (method? r o) := by
  unfold methodOf method?
  cases firstRepeated? [] (o.signature.map (·.localName)) <;> rfl

/-- The method of the operation that an id leads to. -/
def methodFor? (c : Client) (id : String) : Option Method :=
  (c.operation id).toOption.bind (method? c.registry)

theorem outcome_methodsOf_cons (c : Client) (id : String) (rest : List String) :
    (methodsOf c (id :: rest) : Logged ε (List Method)).outcome =
      (methodsOf c rest : Logged ε (List Method)).outcome.map
        ((methodFor? c id).toList ++ ·) := by
  rw [methodFor?, methodsOf]
  cases c.operation id with
  | error e =>
    rw [Logged.outcome_bind_of_ok (Logged.outcome_notice _),
      Logged.outcome_bind_of_ok (Logged.outcome_pure _)]
    exact Logged.outcome_bind_pure _ _
  | ok o =>
    rw [Logged.outcome_bind_of_ok (outcome_methodOf c.registry o)]
    exact Logged.outcome_bind_pure _ _

theorem outcome_methodsOf (c : Client) (ids : List String) :
    (methodsOf c ids : Logged ε (List Method)).outcome = .ok (ids.filterMap (methodFor? c)) := by
  induction ids with
  | nil => rfl
  | cons id rest ih =>
    rw [outcome_methodsOf_cons, ih, List.filterMap_cons]
    cases methodFor? c id <;> rfl

theorem flatten_intersperse_cons {α : Type} (separator part : List α) (rest : List (List α)) :
    (List.intersperse separator (part :: rest)).flatten =
      part ++ rest.flatMap (separator ++ ·) := by
  induction rest generalizing part with
  | nil => simp
  | cons next rest ih =>
    rw [List.intersperse_cons_cons, List.flatten_cons, List.flatten_cons, ih, List.flatMap_cons,
      List.append_assoc]

/-- The type of a group. -/
def sectionFor (c : Client) (g : Group) : Section where
  tag := g.name
  accessor := identifier g.name
  typeName := Text.pascalCase (Text.words g.name) ++ "Api"
  methods := (OrderedMap.values g.callables).filterMap (methodFor? c)

theorem outcome_sectionsOf (c : Client) (groups : List Group) :
    (sectionsOf c groups : Logged ε (List Section)).outcome = .ok (groups.map (sectionFor c)) := by
  induction groups with
  | nil => rfl
  | cons g rest ih =>
    rw [sectionsOf, Logged.outcome_bind_of_ok (outcome_methodsOf c _),
      Logged.outcome_bind_of_ok ih]
    rfl

/-- The wrapper of a client under a name. -/
def forClient (c : Client) (typeName : String) : Wrapper where
  title := c.title
  version := c.version
  typeName
  methods := (OrderedMap.values c.groups.root.callables).filterMap (methodFor? c)
  sections := (OrderedMap.values c.groups.named).map (sectionFor c)

theorem outcome_ofClient (c : Client) (typeName : String) :
    (ofClient c typeName : Logged ε Wrapper).outcome = .ok (forClient c typeName) := by
  rw [ofClient, Logged.outcome_bind_of_ok (outcome_methodsOf c _),
    Logged.outcome_bind_of_ok (outcome_sectionsOf c _)]
  rfl

/-! ## The operations of a client -/

theorem nodup_of_firstRepeated? {seen names : List String} (h : firstRepeated? seen names = none) :
    names.Nodup ∧ ∀ name ∈ names, name ∉ seen := by
  fun_induction firstRepeated? seen names with
  | case1 => simp
  | case2 => cases h
  | case3 seen name rest fresh ih =>
    obtain ⟨hrest, hseen⟩ := ih h
    refine ⟨List.nodup_cons.2 ⟨fun hmem => hseen name hmem List.mem_cons_self, hrest⟩, ?_⟩
    exact List.forall_mem_cons.2
      ⟨fresh, fun other hother hmem => hseen other hother (List.mem_cons_of_mem _ hmem)⟩

theorem mem_signature {o : Operation} {p : Parameter} : p ∈ o.signature ↔ p ∈ o.parameters := by
  rw [Operation.signature, List.mem_append, List.mem_filter, List.mem_filter]
  cases p.required <;> simp

theorem parts_of_method? {r : Registry} {o : Operation} {m : Method} (h : method? r o = some m) :
    (o.signature.map (·.localName)).Nodup ∧ m.arguments = o.signature.map argumentOf ∧
      m.operationId = Text.quoted o.id ∧ m.name = identifier o.name.snake := by
  unfold method? at h
  split at h
  · rename_i hdistinct
    cases h
    exact ⟨(nodup_of_firstRepeated? hdistinct).1, rfl, rfl, rfl⟩
  · cases h

theorem doc_of_method? {r : Registry} {o : Operation} {m : Method} (h : method? r o = some m) :
    m.doc = docLines r o := by
  unfold method? at h
  split at h
  · cases h
    rfl
  · cases h

/-- The operation that an id leads to, if it has a method. -/
def operationFor? (c : Client) (id : String) : Option Operation :=
  (c.operation id).toOption.filter fun o => (method? c.registry o).isSome

/-- The operations with a method, in the order of the methods. -/
def wrappedOperations (c : Client) : List Operation :=
  (c.groups.root :: OrderedMap.values c.groups.named).flatMap fun g =>
    (OrderedMap.values g.callables).filterMap (operationFor? c)

/-- The methods of operations, those of the client's type before those of its groups. -/
def allMethods (w : Wrapper) : List Method :=
  w.methods ++ w.sections.flatMap (·.methods)

theorem methodFor?_eq (c : Client) (id : String) :
    methodFor? c id = (operationFor? c id).bind (method? c.registry) := by
  unfold methodFor? operationFor?
  cases (c.operation id).toOption with
  | none => rfl
  | some o =>
    cases hm : method? c.registry o <;> simp [Option.filter, hm]

theorem allMethods_forClient (c : Client) (typeName : String) :
    allMethods (forClient c typeName) =
      (wrappedOperations c).filterMap (method? c.registry) := by
  have hgroup (ids : List String) : ids.filterMap (methodFor? c) =
      (ids.filterMap (operationFor? c)).filterMap (method? c.registry) := by
    rw [List.filterMap_filterMap]
    exact List.filterMap_congr fun id _ => methodFor?_eq c id
  rw [allMethods, forClient, List.flatMap_map, wrappedOperations, List.flatMap_cons,
    List.filterMap_append, List.filterMap_flatMap, hgroup]
  exact congrArg _ (List.flatMap_congr fun g _ => hgroup _)

section Client

variable {doc : Document} {options : ClientOptions} {c : Client}
  (built : (Client.build doc options).outcome = .ok c)

include built

theorem built_of_operation {id : String} {o : Operation} (h : c.operation id = .ok o) :
    Operation.Built doc c.registry.names o ∧ o.id = id := by
  have htable := (Client.assembled_of_build built).filed
  obtain ⟨ops, _, _, hgrouped⟩ := OperationTable.exists_grouped_of_build htable
  rw [Client.operation_of_grouped hgrouped] at h
  split at h
  · cases h
  · rename_i only hfilter
    cases h
    have hmem : o ∈ ops.filter (·.id == id) := hfilter ▸ List.mem_singleton_self o
    obtain ⟨hops, hid⟩ := List.mem_filter.1 hmem
    refine ⟨OperationTable.built_of_mem htable ?_, eq_of_beq hid⟩
    rw [hgrouped]
    exact OperationTable.mem_operations_grouped.2 hops
  · cases h

theorem exists_of_mem_wrappedOperations {o : Operation} (mem : o ∈ wrappedOperations c) :
    Operation.Built doc c.registry.names o ∧ c.operation o.id = .ok o ∧
      ∃ m, method? c.registry o = some m := by
  obtain ⟨g, _, hmem⟩ := List.mem_flatMap.1 mem
  obtain ⟨id, _, hfor⟩ := List.mem_filterMap.1 hmem
  obtain ⟨hfound, hm⟩ := Option.filter_eq_some_iff.1 hfor
  rw [Json.Typed.toOption_eq_some_iff] at hfound
  obtain ⟨hbuilt, hid⟩ := built_of_operation built hfound
  exact ⟨hbuilt, hid ▸ hfound, Option.isSome_iff_exists.1 hm⟩

theorem forall_allMethods_iff {P : Method → Prop} {Q : Operation → Prop}
    (same : ∀ o ∈ wrappedOperations c, ∀ m, method? c.registry o = some m → (P m ↔ Q o))
    (typeName : String) :
    (∀ m ∈ allMethods (forClient c typeName), P m) ↔ ∀ o ∈ wrappedOperations c, Q o := by
  rw [allMethods_forClient]
  constructor
  · intro h o ho
    obtain ⟨_, _, m, hm⟩ := exists_of_mem_wrappedOperations built ho
    exact (same o ho m hm).1 (h m (List.mem_filterMap.2 ⟨o, ho, hm⟩))
  · intro h m hmem
    obtain ⟨o, ho, hm⟩ := List.mem_filterMap.1 hmem
    exact (same o ho m hm).2 (h o ho)

end Client

end OpenApi.Wrapper
