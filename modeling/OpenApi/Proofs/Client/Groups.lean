import OpenApi.Proofs.Operation.Table

/-!
# The groups of a client

A client lists its operations under callable names, group by group. A name belongs to the first
operation of the table that claims it in its group.
-/

namespace OpenApi

namespace Group

/-- The group after an operation has claimed its callable name. -/
def claim (g : Group) (o : Operation) : Group :=
  if OrderedMap.contains g.callables o.name.snake then g
  else { g with callables := OrderedMap.insert g.callables o.name.snake o.id }

theorem outcome_attach {ε : Type} (g : Group) (o : Operation) :
    (g.attach o : Logged ε Group).outcome = .ok (g.claim o) := by
  unfold attach claim OrderedMap.contains
  cases OrderedMap.get? g.callables o.name.snake with
  | none => rfl
  | some existing => by_cases h : existing = o.id <;> simp [h, Except.bind]

theorem get?_claim (g : Group) (o : Operation) (callable : String) :
    OrderedMap.get? (g.claim o).callables callable =
      (OrderedMap.get? g.callables callable).or
        (if o.name.snake = callable then some o.id else none) := by
  unfold claim OrderedMap.contains
  by_cases e : o.name.snake = callable
  · subst e
    cases h : OrderedMap.get? g.callables o.name.snake <;> simp [h]
  · rw [if_neg e, Option.or_none]
    split
    · rfl
    · exact OrderedMap.get?_insert_of_ne _ _ (Ne.symm e)

theorem name_claim (g : Group) (o : Operation) : (g.claim o).name = g.name := by
  unfold claim
  split <;> rfl

theorem claim_ne_nil (g : Group) (o : Operation) : (g.claim o).callables ≠ [] := by
  intro h
  have hget := get?_claim g o o.name.snake
  rw [h, if_pos rfl] at hget
  cases hown : OrderedMap.get? g.callables o.name.snake <;> simp [hown] at hget

theorem nodup_claim {g : Group} (h : (OrderedMap.keys g.callables).Nodup) (o : Operation) :
    (OrderedMap.keys (g.claim o).callables).Nodup := by
  unfold claim
  split
  · exact h
  · exact OrderedMap.nodup_keys_insert h _ _

/-- Each callable of the group leads to an id under which the table has an operation of this name
that belongs to the group. -/
def Offers (g : Group) (table : OperationTable) (Belongs : Operation → Prop) : Prop :=
  ∀ callable ∈ OrderedMap.keys g.callables, ∃ id,
    OrderedMap.get? g.callables callable = some id ∧
      ∃ o ∈ (OrderedMap.get? table id).getD [], o.name.snake = callable ∧ Belongs o

end Group

namespace Groups

/-- The group of a name, or the one of the operations without a tag. -/
def group? (g : Groups) : Option String → Option Group
  | none => some g.root
  | some name => OrderedMap.get? g.named name

/-- The id behind a callable name of a group. -/
def idOf? (g : Groups) (name : Option String) (callable : String) : Option String :=
  (g.group? name).bind fun group => OrderedMap.get? group.callables callable

/-- The operation claims the callable name in the group. -/
def Claims (name : Option String) (callable : String) (o : Operation) : Prop :=
  o.group? = name ∧ o.name.snake = callable

instance (name : Option String) (callable : String) : DecidablePred (Claims name callable) :=
  fun o => inferInstanceAs (Decidable (o.group? = name ∧ o.name.snake = callable))

/-! ## One operation -/

/-- The groups after an operation has claimed its callable name. -/
def claim (g : Groups) (o : Operation) : Groups :=
  match o.group? with
  | none => { g with root := g.root.claim o }
  | some name =>
    let group := (OrderedMap.get? g.named name).getD ⟨name, []⟩
    { g with named := OrderedMap.insert g.named name (group.claim o) }

theorem claim_of_none {g : Groups} {o : Operation} (h : o.group? = none) :
    g.claim o = { g with root := g.root.claim o } := by
  rw [claim, h]

theorem claim_of_some {g : Groups} {o : Operation} {name : String} (h : o.group? = some name) :
    g.claim o = ⟨g.root, OrderedMap.insert g.named name
      (((OrderedMap.get? g.named name).getD ⟨name, []⟩).claim o)⟩ := by
  rw [claim, h]

theorem outcome_attach {ε : Type} (g : Groups) (o : Operation) :
    (g.attach o : Logged ε Groups).outcome = .ok (g.claim o) := by
  unfold attach claim
  cases o.group? with
  | none => exact Logged.outcome_bind_of_ok (Group.outcome_attach g.root o) _
  | some name => exact Logged.outcome_bind_of_ok (Group.outcome_attach _ o) _

theorem outcome_attachAll {ε : Type} (ops : List Operation) (g : Groups) :
    (attachAll ops g : Logged ε Groups).outcome = .ok (ops.foldl claim g) := by
  induction ops generalizing g with
  | nil => rfl
  | cons o rest ih =>
    rw [attachAll, Logged.outcome_bind_of_ok (outcome_attach g o), ih, List.foldl_cons]

theorem idOf?_claim (g : Groups) (o : Operation) (name : Option String) (callable : String) :
    (g.claim o).idOf? name callable =
      (g.idOf? name callable).or
        (if o.group? = name ∧ o.name.snake = callable then some o.id else none) := by
  unfold idOf?
  cases hgroup : o.group? with
  | none =>
    rw [claim_of_none hgroup]
    cases name with
    | none => simp [group?, Group.get?_claim]
    | some name => simp [group?]
  | some own =>
    rw [claim_of_some hgroup]
    cases name with
    | none => simp [group?]
    | some name =>
      by_cases e : own = name
      · subst e
        simp only [group?, OrderedMap.get?_insert_self, Option.bind_some, Group.get?_claim,
          true_and]
        cases OrderedMap.get? g.named own <;> simp
      · simp [group?, OrderedMap.get?_insert_of_ne _ _ (Ne.symm e), e]

/-- No name of a group stands twice, each group stands under its own name, and none is empty. -/
structure WellNamed (g : Groups) : Prop where
  once : (OrderedMap.keys g.named).Nodup
  named : ∀ p ∈ g.named, p.2.name = p.1
  filled : ∀ p ∈ g.named, p.2.callables ≠ []

theorem WellNamed.claim {g : Groups} (h : WellNamed g) (o : Operation) : WellNamed (g.claim o) := by
  unfold Groups.claim
  cases o.group? with
  | none => exact ⟨h.once, h.named, h.filled⟩
  | some name =>
    refine ⟨OrderedMap.nodup_keys_insert h.once _ _, fun p hp => ?_, fun p hp => ?_⟩
    · rcases OrderedMap.mem_insert hp with hp | rfl
      · exact h.named p hp
      · rw [Group.name_claim]
        cases hget : OrderedMap.get? g.named name with
        | none => rfl
        | some group => exact h.named _ (OrderedMap.mem_of_get? hget)
    · rcases OrderedMap.mem_insert hp with hp | rfl
      · exact h.filled p hp
      · exact Group.claim_ne_nil _ o

/-- No callable name stands twice in a group. -/
def CallablesOnce (g : Groups) : Prop :=
  ∀ name group, g.group? name = some group → (OrderedMap.keys group.callables).Nodup

theorem CallablesOnce.claim {g : Groups} (h : CallablesOnce g) (o : Operation) :
    CallablesOnce (g.claim o) := by
  intro name group found
  cases hgroup : o.group? with
  | none =>
    rw [claim_of_none hgroup] at found
    cases name with
    | none =>
      cases found
      exact Group.nodup_claim (h none _ rfl) o
    | some name => exact h (some name) group found
  | some own =>
    rw [claim_of_some hgroup] at found
    cases name with
    | none => exact h none group found
    | some name =>
      by_cases e : name = own
      · subst e
        rw [group?, OrderedMap.get?_insert_self] at found
        cases found
        refine Group.nodup_claim ?_ o
        cases hget : OrderedMap.get? g.named name with
        | none => exact List.nodup_nil
        | some group => exact h (some name) group hget
      · rw [group?, OrderedMap.get?_insert_of_ne _ _ e] at found
        exact h (some name) group found

/-! ## All operations -/

/-- The groups of the operations of a table. -/
def ofOperations (ops : List Operation) : Groups :=
  ops.foldl claim {}

theorem idOf?_foldl (ops : List Operation) (g : Groups) (name : Option String)
    (callable : String) :
    (ops.foldl claim g).idOf? name callable =
      (g.idOf? name callable).or ((ops.find? (Claims name callable)).map (·.id)) := by
  induction ops generalizing g with
  | nil => simp
  | cons o rest ih =>
    rw [List.foldl_cons, ih, idOf?_claim, Option.or_assoc]
    by_cases h : o.group? = name ∧ o.name.snake = callable <;> simp [Claims, h]

theorem idOf?_ofOperations (ops : List Operation) (name : Option String) (callable : String) :
    (ofOperations ops).idOf? name callable =
      (ops.find? (Claims name callable)).map (·.id) := by
  have hempty : ({} : Groups).idOf? name callable = none := by
    cases name <;> rfl
  rw [ofOperations, idOf?_foldl, hempty, Option.none_or]

theorem wellNamed_ofOperations (ops : List Operation) : WellNamed (ofOperations ops) :=
  List.foldlRecOn ops claim ⟨List.nodup_nil, by simp, by simp⟩ fun _ h o _ => h.claim o

theorem callablesOnce_ofOperations (ops : List Operation) : CallablesOnce (ofOperations ops) := by
  refine List.foldlRecOn ops claim (fun name group found => ?_) fun _ h o _ => h.claim o
  cases name with
  | none =>
    cases found
    exact List.nodup_nil
  | some name => cases found

theorem WellNamed.get?_name {g : Groups} (h : WellNamed g) {group : Group}
    (mem : group ∈ OrderedMap.values g.named) :
    OrderedMap.get? g.named group.name = some group := by
  obtain ⟨p, hp, rfl⟩ := List.mem_map.1 mem
  rw [h.named p hp]
  exact OrderedMap.get?_of_mem h.once hp

theorem WellNamed.nodup_names {g : Groups} (h : WellNamed g) :
    ((OrderedMap.values g.named).map (·.name)).Nodup := by
  have hnames : (OrderedMap.values g.named).map (·.name) = OrderedMap.keys g.named := by
    rw [OrderedMap.values, OrderedMap.keys, List.map_map]
    exact List.map_congr_left h.named
  rw [hnames]
  exact h.once

theorem exists_of_callable {ops : List Operation} {name : Option String} {group : Group}
    (found : (ofOperations ops).group? name = some group) {callable : String}
    (listed : callable ∈ OrderedMap.keys group.callables) :
    ∃ o ∈ ops, OrderedMap.get? group.callables callable = some o.id ∧
      o.name.snake = callable ∧ o.group? = name := by
  obtain ⟨id, hid⟩ := Option.isSome_iff_exists.1
    ((OrderedMap.isSome_get?_iff group.callables callable).2 listed)
  have hclaimed : (ofOperations ops).idOf? name callable = some id := by
    rw [idOf?, found, Option.bind_some, hid]
  rw [idOf?_ofOperations] at hclaimed
  obtain ⟨o, ho, rfl⟩ := Option.map_eq_some_iff.1 hclaimed
  have hclaims : Claims name callable o := by simpa using List.find?_some ho
  exact ⟨o, List.mem_of_find?_eq_some ho, hid, hclaims.2, hclaims.1⟩

end Groups

/-! ## The order of a table -/

namespace OperationTable

theorem operations_grouped (ops : List Operation) :
    operations (grouped ops) =
      (ops.map (·.id)).eraseDups.flatMap fun id => ops.filter (·.id == id) := by
  unfold operations grouped
  rw [OrderedMap.values, List.map_map, List.flatMap_def]
  rfl

theorem mem_operations_grouped {ops : List Operation} {o : Operation} :
    o ∈ operations (grouped ops) ↔ o ∈ ops := by
  rw [operations_grouped, List.mem_flatMap]
  constructor
  · rintro ⟨_, _, ho⟩
    exact (List.mem_filter.1 ho).1
  · intro ho
    refine ⟨o.id, List.mem_eraseDups.2 (List.mem_map_of_mem ho), ?_⟩
    exact List.mem_filter.2 ⟨ho, beq_self_eq_true o.id⟩

theorem mem_bucket {ops : List Operation} {o : Operation} (h : o ∈ operations (grouped ops)) :
    o ∈ (OrderedMap.get? (grouped ops) o.id).getD [] := by
  rw [bucket_grouped]
  exact List.mem_filter.2 ⟨mem_operations_grouped.1 h, beq_self_eq_true o.id⟩

theorem pairwise_operations (ops : List Operation) :
    (operations (grouped ops)).Pairwise fun a b =>
      (ops.map (·.id)).eraseDups.idxOf a.id ≤ (ops.map (·.id)).eraseDups.idxOf b.id := by
  rw [operations_grouped, List.pairwise_flatMap]
  constructor
  · intro id _
    refine List.pairwise_of_forall_mem_list fun a ha b hb => Nat.le_of_eq ?_
    rw [beq_iff_eq.1 (List.mem_filter.1 ha).2, beq_iff_eq.1 (List.mem_filter.1 hb).2]
  · have hnodup := nodup_eraseDups (ops.map (·.id))
    refine List.pairwise_iff_getElem.2 fun i j hi hj hij a ha b hb => ?_
    rw [beq_iff_eq.1 (List.mem_filter.1 ha).2, beq_iff_eq.1 (List.mem_filter.1 hb).2,
      hnodup.idxOf_getElem, hnodup.idxOf_getElem]
    exact Nat.le_of_lt hij

theorem id_of_between {ops before between after : List Operation} {a b o : Operation}
    (h : operations (grouped ops) = before ++ a :: (between ++ b :: after)) (same : a.id = b.id)
    (ho : o ∈ between) : o.id = a.id := by
  have hmem : o ∈ ops := by
    rw [← mem_operations_grouped, h]
    simp [ho]
  have hpairs := pairwise_operations ops
  rw [h, List.pairwise_append, List.pairwise_cons, List.pairwise_append] at hpairs
  obtain ⟨_, ⟨hfirst, _, _, hlast⟩, _⟩ := hpairs
  have hle := hfirst o (List.mem_append_left _ ho)
  have hge := hlast o ho b List.mem_cons_self
  refine List.idxOf_inj (List.mem_eraseDups.2 (List.mem_map_of_mem hmem)) |>.1 ?_
  rw [← same] at hge
  exact Nat.le_antisymm hge hle

end OperationTable

/-! ## The groups of a client -/

namespace Groups

open OperationTable (grouped operations)

theorem find?_claims {ops before after : List Operation} {o : Operation}
    (h : operations (grouped ops) = before ++ o :: after) :
    ((operations (grouped ops)).find? (Claims o.group? o.name.snake)).map (·.id) =
      some ((before.find? fun o' =>
        Claims o.group? o.name.snake o' ∧ o'.id ≠ o.id).getD o).id := by
  have hown : Claims o.group? o.name.snake o := ⟨rfl, rfl⟩
  rw [h, List.find?_append, List.find?_cons_of_pos (by simpa using hown)]
  cases hfirst : before.find? (Claims o.group? o.name.snake) with
  | none =>
    have hnone : before.find? (fun o' => Claims o.group? o.name.snake o' ∧ o'.id ≠ o.id) = none :=
      by
        rw [List.find?_eq_none] at hfirst ⊢
        intro o' ho' hrival
        have hclaims := (of_decide_eq_true hrival).1
        exact hfirst o' ho' (by simpa using hclaims)
    rw [hnone]
    rfl
  | some first =>
    obtain ⟨hclaims, early, between, rfl, hearly⟩ := List.find?_eq_some_iff_append.1 hfirst
    have hskip : ∀ o' ∈ early, ¬decide (Claims o.group? o.name.snake o' ∧ o'.id ≠ o.id) = true := by
      intro o' ho' hrival
      have hnot := hearly o' ho'
      simp [(of_decide_eq_true hrival).1] at hnot
    rw [List.find?_append, List.find?_eq_none.2 hskip, Option.none_or]
    by_cases e : first.id = o.id
    · -- From the first claim to this one there is no other id.
      have hbetween : ∀ o' ∈ first :: between,
          ¬decide (Claims o.group? o.name.snake o' ∧ o'.id ≠ o.id) = true := by
        intro o' ho' hrival
        have hne := (of_decide_eq_true hrival).2
        rcases List.mem_cons.1 ho' with rfl | ho'
        · exact hne e
        · rw [List.append_assoc, List.cons_append] at h
          exact hne ((OperationTable.id_of_between h e ho').trans e)
      rw [List.find?_eq_none.2 hbetween]
      simp [e]
    · rw [List.find?_cons_of_pos (by simpa [e] using hclaims)]
      rfl

end Groups

namespace Client

/-- What a client is put together from. -/
structure Assembled (doc : Document) (c : Client) : Prop where
  registered : (Registry.build doc).outcome = .ok c.registry
  filed : (OperationTable.build doc c.registry.names).outcome = .ok c.operations
  grouped : c.groups = Groups.ofOperations c.operations.operations
  title : c.title = doc.description.info.title
  version : c.version = doc.description.info.version

theorem assembled_of_build {doc : Document} {options : ClientOptions} {c : Client}
    (h : (build doc options).outcome = .ok c) : Assembled doc c := by
  obtain ⟨r, hr, h⟩ := Logged.outcome_bind_eq_ok_iff.1 h
  obtain ⟨table, htable, h⟩ := Logged.outcome_bind_eq_ok_iff.1 h
  obtain ⟨groups, hgroups, h⟩ := Logged.outcome_bind_eq_ok_iff.1 h
  obtain ⟨server, _, h⟩ := Logged.outcome_bind_eq_ok_iff.1 h
  obtain ⟨_, _, h⟩ := Logged.outcome_bind_eq_ok_iff.1 h
  cases h
  rw [Groups.outcome_attachAll] at hgroups
  exact ⟨hr, htable, (Except.ok.inj hgroups).symm, rfl, rfl⟩

theorem exists_of_callable {doc : Document} {options : ClientOptions} {c : Client}
    (built : (build doc options).outcome = .ok c) {name : Option String} {g : Group}
    (found : c.groups.group? name = some g) {callable : String × String}
    (listed : callable ∈ g.callables) :
    ∃ o, callable = (localName o.id, o.id) ∧ o.name.snake = localName o.id ∧ o.group? = name ∧
      o ∈ (OrderedMap.get? c.operations o.id).getD [] := by
  obtain ⟨_, htable, hgroups, _, _⟩ := assembled_of_build built
  obtain ⟨ops, _, _, hgrouped⟩ := OperationTable.exists_grouped_of_build htable
  rw [hgroups] at found
  obtain ⟨o, ho, hid, hname, hgroup⟩ :=
    Groups.exists_of_callable found (List.mem_map_of_mem listed)
  have hget := OrderedMap.get?_of_mem (Groups.callablesOnce_ofOperations _ name g found) listed
  have hspelled := (OperationTable.built_of_mem htable ho).name_eq
  have hsnake : o.name.snake = localName o.id := by
    rw [hspelled]
    rfl
  have hsame : callable.2 = o.id := Option.some.inj (hget.symm.trans hid)
  refine ⟨o, Prod.ext (hname.symm.trans hsnake) hsame, hsnake, hgroup, ?_⟩
  rw [hgrouped] at ho ⊢
  exact OperationTable.mem_bucket ho

/-- Each callable leads to an operation of its name and group. Each operation is found under its
callable name in its group, unless an earlier one of the group with another id claims the name; then
the first such operation is found. -/
theorem groups_index_operations {doc : Document} {options : ClientOptions} {c : Client}
    (built : (build doc options).outcome = .ok c) :
    c.groups.root.Offers c.operations (fun o => o.tags = []) ∧
      (∀ g ∈ OrderedMap.values c.groups.named, g.Offers c.operations fun o =>
        ∃ tag others, o.tags = tag :: others ∧ localName tag = g.name) ∧
      (∀ before o after, c.operations.operations = before ++ o :: after →
        c.groups.idOf? o.group? o.name.snake = some ((before.find? fun o' =>
          Groups.Claims o.group? o.name.snake o' ∧ o'.id ≠ o.id).getD o).id) ∧
      ((OrderedMap.values c.groups.named).map (·.name)).Nodup ∧
      ∀ g ∈ OrderedMap.values c.groups.named, g.callables ≠ [] := by
  obtain ⟨_, htable, hgroups, _, _⟩ := assembled_of_build built
  obtain ⟨ops, _, _, hgrouped⟩ := OperationTable.exists_grouped_of_build htable
  have hnamed : c.groups.WellNamed := hgroups ▸ Groups.wellNamed_ofOperations _
  have hfiled : ∀ o ∈ c.operations.operations,
      o ∈ (OrderedMap.get? c.operations o.id).getD [] := by
    rw [hgrouped]
    exact fun o => OperationTable.mem_bucket
  refine ⟨?_, ?_, ?_, hnamed.nodup_names, ?_⟩
  · intro callable hcallable
    have hroot : (Groups.ofOperations c.operations.operations).group? none =
        some c.groups.root := by
      rw [← hgroups]
      rfl
    obtain ⟨o, ho, hid, hname, hgroup⟩ := Groups.exists_of_callable hroot hcallable
    refine ⟨o.id, hid, o, hfiled o ho, hname, ?_⟩
    simpa [Operation.group?] using hgroup
  · intro g hg callable hcallable
    have hfound : (Groups.ofOperations c.operations.operations).group? (some g.name) = some g := by
      rw [← hgroups]
      exact hnamed.get?_name hg
    obtain ⟨o, ho, hid, hname, hgroup⟩ := Groups.exists_of_callable hfound hcallable
    refine ⟨o.id, hid, o, hfiled o ho, hname, ?_⟩
    obtain ⟨tag, htag, hlocal⟩ := Option.map_eq_some_iff.1 hgroup
    obtain ⟨others, htags⟩ := List.head?_eq_some_iff.1 htag
    exact ⟨tag, others, htags, hlocal⟩
  · intro before o after hsplit
    rw [hgroups, Groups.idOf?_ofOperations]
    rw [hgrouped] at hsplit ⊢
    exact Groups.find?_claims hsplit
  · intro g hg
    obtain ⟨p, hp, rfl⟩ := List.mem_map.1 hg
    exact hnamed.filled p hp

section Kennel

/-- Two tags that fold into one group, in which two ids fold into one callable name. -/
def kennel : Json :=
  .object [("openapi", .string "3.0.0"), ("info", .object []), ("paths", .object
    [("/dogs", .object
      [("get", .object [("operationId", .string "listDogs"), ("tags", .array [.string "Dogs"])]),
        ("post", .object
          [("operationId", .string "list_dogs"), ("tags", .array [.string "dogs"])])]),
      ("/health", .object [("get", .object [("operationId", .string "getHealth")])])])]

theorem kennel_built :
    ((Document.ofJson kennel).toOption.bind fun doc =>
      (build doc {}).outcome.toOption.map fun c =>
        c.operations.operations.map fun o => (o.id, o.group?, o.name.snake)) =
      some [("listDogs", some "dogs", "list_dogs"), ("list_dogs", some "dogs", "list_dogs"),
        ("getHealth", none, "get_health")] := by
  decide +kernel

theorem groups_index_operations_kennel :
    ∃ doc c, Document.ofJson kennel = .ok doc ∧ (build doc {}).outcome = .ok c ∧
      c.groups.root.Offers c.operations (fun o => o.tags = []) ∧
      c.groups.idOf? (some "dogs") "list_dogs" = some "listDogs" ∧
      (∃ o ∈ c.operations.operations, o.id = "list_dogs" ∧
        c.groups.idOf? o.group? o.name.snake = some "listDogs") ∧
      ∀ g ∈ OrderedMap.values c.groups.named, g.callables ≠ [] := by
  obtain ⟨doc, hdoc, h⟩ := Option.bind_eq_some_iff.1 kennel_built
  obtain ⟨c, hc, h⟩ := Option.map_eq_some_iff.1 h
  rw [Json.Typed.toOption_eq_some_iff] at hdoc hc
  obtain ⟨first, rest, hops, hfirst, hrest⟩ := List.map_eq_cons_iff.1 h
  obtain ⟨second, rest, rfl, hsecond, -⟩ := List.map_eq_cons_iff.1 hrest
  simp only [Prod.mk.injEq] at hfirst hsecond
  obtain ⟨hroot, _, hfound, _, hfilled⟩ := groups_index_operations hc
  have hlisted := hfound [] first (second :: rest) hops
  have htaken := hfound [first] second rest hops
  have hclaims : Groups.Claims second.group? second.name.snake first ∧ first.id ≠ second.id := by
    simp [Groups.Claims, hfirst, hsecond]
  rw [hfirst.2.1, hfirst.2.2, List.find?_nil, Option.getD_none, hfirst.1] at hlisted
  rw [List.find?_cons_of_pos (by simpa using hclaims), Option.getD_some, hfirst.1] at htaken
  exact ⟨doc, c, hdoc, hc, hroot, hlisted, ⟨second, by simp [hops], hsecond.1, htaken⟩, hfilled⟩

end Kennel

end Client

end OpenApi
