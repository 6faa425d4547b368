import OpenApi.Proofs.Invocation.Collected
import OpenApi.Proofs.Operation.Table

/-!
# Layers of a request

Arguments stand above options, and these above defaults. What is below shows wherever nothing of the
same name is above, also under a parameter whose argument is an empty list.
-/

namespace OpenApi

/-- The entries at a place, of those in the query, the headers and the cookies. -/
def entriesAt (place : Location) (query headers cookies : List (String × String)) :
    List (String × String) :=
  match place with
  | .query => query
  | .header => headers
  | .cookie => cookies
  | .path | .body => []

def Request.entries (r : Request) (place : Location) : List (String × String) :=
  entriesAt place r.query r.headers r.cookies

def RequestOptions.entries (o : RequestOptions) (place : Location) : List (String × String) :=
  entriesAt place o.query o.headers o.cookies

namespace Invocation

open Json.Typed (bind_eq_ok_iff toOption_eq_some_iff)

def Collected.entries (c : Collected) (place : Location) : List (String × String) :=
  entriesAt place c.query c.headers c.cookies

/-! ## Entries of one name -/

/-- The entries whose names have the same key. -/
def named (key : String → String) (name : String) (entries : List (String × String)) :
    List (String × String) :=
  entries.filter fun entry => key entry.1 == key name

section Named

variable {key : String → String} {name : String}

theorem named_underlay (upper lower : List (String × String)) :
    named key name (underlay (fun a b => key a == key b) upper lower) =
      if named key name upper = [] then named key name lower else named key name upper := by
  unfold underlay
  rw [named, List.filter_append, List.filter_filter]
  by_cases hupper : named key name upper = []
  · have hshown : (lower.filter fun entry => key entry.1 == key name &&
        !upper.any fun taken => key taken.1 == key entry.1) = named key name lower := by
      refine List.filter_congr fun entry _ => ?_
      unfold named at hupper
      rw [List.filter_eq_nil_iff] at hupper
      by_cases hname : key entry.1 = key name
      · simpa [hname] using hupper
      · simp [hname]
    rw [if_pos hupper, hshown]
    unfold named at hupper
    rw [hupper, List.nil_append]
  · have hhidden : (lower.filter fun entry => key entry.1 == key name &&
        !upper.any fun taken => key taken.1 == key entry.1) = [] := by
      obtain ⟨taken, htaken⟩ := List.exists_mem_of_ne_nil _ hupper
      obtain ⟨hmem, hkey⟩ := List.mem_filter.1 htaken
      rw [List.filter_eq_nil_iff]
      intro entry _ hboth
      rw [Bool.and_eq_true, Bool.not_eq_true', List.any_eq_false] at hboth
      refine hboth.2 taken hmem ?_
      rw [beq_iff_eq] at hkey hboth ⊢
      exact hkey.trans hboth.1.symm
    rw [if_neg hupper, hhidden, List.append_nil]
    rfl

theorem named_layer (arguments options defaults : List (String × String)) :
    named key name (layer (fun a b => key a == key b) arguments options defaults) =
      if named key name arguments ≠ [] then named key name arguments
      else if named key name options ≠ [] then named key name options
      else named key name defaults := by
  unfold layer
  rw [named_underlay, named_underlay]
  split <;> simp_all

/-- What a request makes of three collections of entries, where `same` compares names. -/
structure Layered (same : String → String → Bool)
    (arguments options defaults result : List (String × String)) : Prop where
  /-- Of each name, the entries of the first collection that has any, all of them in order. -/
  first : ∀ name, result.filter (same ·.1 name) =
    (([arguments, options, defaults].map fun entries => entries.filter (same ·.1 name)).find?
      fun entries => !entries.isEmpty).getD []
  /-- The arguments lead, then some of the options and some of the defaults, in their orders. -/
  order : ∃ shown below, shown.Sublist options ∧ below.Sublist defaults ∧
    result = arguments ++ shown ++ below

theorem layered_of_key (key : String → String) (arguments options defaults : List (String × String)) :
    Layered (fun a b => key a == key b) arguments options defaults
      (layer (fun a b => key a == key b) arguments options defaults) := by
  constructor
  · intro name
    change named key name (layer _ arguments options defaults) =
      (([arguments, options, defaults].map (named key name)).find? fun entries =>
        !entries.isEmpty).getD []
    rw [named_layer]
    simp only [List.map_cons, List.map_nil]
    by_cases harguments : named key name arguments = []
    · by_cases hoptions : named key name options = []
      · by_cases hdefaults : named key name defaults = []
        · simp [harguments, hoptions, hdefaults]
        · simp [harguments, hoptions, hdefaults]
      · simp [harguments, hoptions]
    · simp [harguments]
  · exact ⟨_, _, List.filter_sublist, List.filter_sublist, rfl⟩

/-- Names are compared as they are in the query and in cookies, and without regard to the case of
ASCII letters in headers. Either way the layers are told apart name by name. -/
theorem layer_layered (arguments options defaults : List (String × String)) :
    Layered (· == ·) arguments options defaults (layer (· == ·) arguments options defaults) ∧
      Layered sameHeader arguments options defaults
        (layer sameHeader arguments options defaults) :=
  ⟨layered_of_key id arguments options defaults, layered_of_key asciiLower arguments options defaults⟩

end Named

/-! ## Entries of the arguments -/

variable {s : Setting} {codec : Codec} {o : Operation} {args : Arguments}
  {options : RequestOptions} {request : Request} {p : Parameter} {ps : List Parameter} {v : Value}
  {place : Location}

/-- The entries that a parameter with a wire value makes at a place. -/
def entriesOf (place : Location) (w : Parameter × Json) : List (String × String) :=
  (({} : Collected).put w.1 w.2).entries place

/-- The entries that the arguments make at a place. -/
def argumentEntries (codec : Codec) (args : Arguments) (ps : List Parameter) (place : Location) :
    List (String × String) :=
  (sent codec args ps).flatMap (entriesOf place)

theorem entries_put (c : Collected) (w : Parameter × Json) :
    (c.put w.1 w.2).entries place = c.entries place ++ entriesOf place w := by
  unfold entriesOf Collected.put
  split <;> cases place <;> simp [Collected.entries, entriesAt]

theorem entries_foldl (ws : List (Parameter × Json)) (c : Collected) :
    (ws.foldl (fun c w => c.put w.1 w.2) c).entries place =
      c.entries place ++ ws.flatMap (entriesOf place) := by
  induction ws generalizing c with
  | nil => simp
  | cons w rest ih => rw [List.foldl_cons, ih, entries_put, List.flatMap_cons, List.append_assoc]

theorem entries_of_collect {c : Collected} (h : collect codec args ps {} = .ok c) :
    c.entries place = argumentEntries codec args ps place := by
  rw [collect_eq_ok h, entries_foldl]
  cases place <;> rfl

theorem name_of_mem_entriesOf {w : Parameter × Json} {entry : String × String}
    (h : entry ∈ entriesOf place w) : entry.1 = w.1.wireName ∧ w.1.location = place := by
  unfold entriesOf Collected.put at h
  split at h <;> cases place <;> simp_all [Collected.entries, entriesAt]
  obtain ⟨item, _, rfl⟩ := h
  rfl

theorem entriesOf_query {items : List Json} (query : p.location = .query) :
    entriesOf .query (p, .array items) = items.map fun item => (p.wireName, wireText item) := by
  simp [entriesOf, Collected.put, query, Collected.entries, entriesAt]

theorem ne_nil_of_entriesOf {wire : Json} (outside : p.location ≠ .path ∧ p.location ≠ .body)
    (filled : ¬(p.location = .query ∧ wire = .array [])) : entriesOf p.location (p, wire) ≠ [] := by
  unfold entriesOf Collected.put
  split <;> simp_all [Collected.entries, entriesAt]

theorem eq_nil_of_encode {ty : DataType} (h : codec.encode v ty = .ok (.array [])) :
    v = .array [] := by
  rw [Codec.encode.eq_def] at h
  cases v with
  | array items =>
    obtain ⟨wires, hwires, h⟩ := bind_eq_ok_iff.1 h
    cases h
    cases items with
    | nil => rfl
    | cons item rest =>
      obtain ⟨wire, _, hrest⟩ := bind_eq_ok_iff.1 hwires
      obtain ⟨wires, _, hcons⟩ := bind_eq_ok_iff.1 hrest
      cases hcons
  | record id name fields =>
    cases ty with
    | union field mapping =>
      obtain ⟨_, _, h⟩ := bind_eq_ok_iff.1 h
      cases h
    | _ =>
      obtain ⟨_, _, h⟩ := bind_eq_ok_iff.1 h
      cases h
  | object fields =>
    obtain ⟨_, _, h⟩ := bind_eq_ok_iff.1 h
    cases h
  | _ => cases h

theorem encode_nil (codec : Codec) (ty : DataType) :
    codec.encode (.array []) ty = .ok (.array []) := by
  rw [Codec.encode.eq_def]
  rfl

/-- What is compared of the names at a place. -/
def nameKey : Location → String → String
  | .header => asciiLower
  | _ => id

theorem entries_of_buildRequest (h : buildRequest s o args options = .ok request)
    (place : Location) :
    request.entries place = layer (fun a b => nameKey place a == nameKey place b)
      (argumentEntries s.codec args o.parameters place) (options.entries place)
      (s.defaults.entries place) := by
  obtain ⟨c, hc, h⟩ := bind_eq_ok_iff.1 h
  obtain ⟨path, _, h⟩ := bind_eq_ok_iff.1 h
  cases h
  rw [← entries_of_collect hc]
  cases place <;> rfl

/-! ## Arguments above options and defaults -/

theorem named_argumentEntries_ne_nil {c : Collected} (h : collect codec args ps {} = .ok c)
    (hp : p ∈ ps) (hv : Supplied args p v) (outside : p.location ≠ .path ∧ p.location ≠ .body)
    (filled : ¬(p.location = .query ∧ v = .array [])) :
    named (nameKey p.location) p.wireName (argumentEntries codec args ps p.location) ≠ [] := by
  obtain ⟨wire, hsent⟩ := exists_sent h hp hv
  obtain ⟨_, v', hv', hwire⟩ := mem_sent.1 hsent
  rw [hv'.unique hv] at hwire
  have hfilled : ¬(p.location = .query ∧ wire = .array []) := by
    rintro ⟨hquery, rfl⟩
    exact filled ⟨hquery, eq_nil_of_encode hwire⟩
  obtain ⟨entry, hentry⟩ := List.exists_mem_of_ne_nil _ (ne_nil_of_entriesOf outside hfilled)
  have hname := (name_of_mem_entriesOf hentry).1
  refine List.ne_nil_of_mem (List.mem_filter.2 ⟨List.mem_flatMap.2 ⟨_, hsent, hentry⟩, ?_⟩)
  rw [hname, beq_iff_eq]

theorem named_argumentEntries_eq_nil {doc : Document} {names : RecordNames}
    (built : Operation.Built doc names o) (hp : p ∈ o.parameters)
    (hv : Supplied args p (.array [])) (query : p.location = .query) :
    named id p.wireName (argumentEntries codec args o.parameters .query) = [] := by
  unfold named
  rw [List.filter_eq_nil_iff]
  intro entry hentry hname
  obtain ⟨⟨q, wire⟩, hsent, hentry⟩ := List.mem_flatMap.1 hentry
  obtain ⟨hq, v, hv', hwire⟩ := mem_sent.1 hsent
  obtain ⟨hentryName, hplace⟩ := name_of_mem_entriesOf hentry
  rw [beq_iff_eq, id_eq, id_eq, hentryName] at hname
  dsimp only at hq hv' hwire hplace hname
  obtain rfl := built.eq_of_wireName hq hp (hplace.trans query.symm) (by rw [hplace]; simp) hname
  rw [hv'.unique hv, encode_nil] at hwire
  cases hwire
  rw [entriesOf_query query] at hentry
  cases hentry

/-- A supplied argument hides what options and defaults have under its name, and an empty list in
the query hides nothing. -/
theorem supplied_over_layers (h : buildRequest s o args options = .ok request)
    (hp : p ∈ o.parameters) (hv : Supplied args p v)
    (hplace : p.location = .query ∨ p.location = .header ∨ p.location = .cookie) :
    (¬(p.location = .query ∧ v = .array []) →
      named (nameKey p.location) p.wireName (request.entries p.location) =
        named (nameKey p.location) p.wireName
          (argumentEntries s.codec args o.parameters p.location)) ∧
    ∀ doc names, Operation.Built doc names o → p.location = .query → v = .array [] →
      named id p.wireName request.query =
        if named id p.wireName options.query ≠ [] then named id p.wireName options.query
        else named id p.wireName s.defaults.query := by
  obtain ⟨c, hc, _⟩ := bind_eq_ok_iff.1 h
  constructor
  · intro hfilled
    have houtside : p.location ≠ .path ∧ p.location ≠ .body := by
      rcases hplace with hplace | hplace | hplace <;> simp [hplace]
    have hshown := named_argumentEntries_ne_nil hc hp hv houtside hfilled
    rw [entries_of_buildRequest h, named_layer, if_pos hshown]
  · rintro doc names built hquery rfl
    have hnone : named id p.wireName (argumentEntries s.codec args o.parameters .query) = [] :=
      named_argumentEntries_eq_nil built hp hv hquery
    have hentries : request.query = layer (fun a b => id a == id b)
        (argumentEntries s.codec args o.parameters .query) options.query s.defaults.query :=
      entries_of_buildRequest h .query
    rw [hentries, named_layer, if_neg (not_not.2 hnone)]

section Search

/-- A list of tags in the query, and a header. -/
def search : Json :=
  .object [("openapi", .string "3.0.0"), ("info", .object []), ("paths", .object
    [("/pets", .object [("get", .object [("operationId", .string "findPets"),
      ("parameters", .array
        [.object [("name", .string "tag"), ("in", .string "query"),
            ("schema", .object [("type", .string "array"),
              ("items", .object [("type", .string "string")])])],
          .object [("name", .string "X-Trace"), ("in", .string "header")]])])])])]

/-- No tags, and an empty header. -/
def searchArguments : Arguments :=
  [("tag", .array []), ("x_trace", .string "")]

def searchOptions : RequestOptions where
  headers := [("x-trace", "7")]
  query := [("tag", "new")]

theorem search_request :
    ((OperationTable.firstOffered? search).map fun (r, o) =>
      (o.parameters.map fun p => (p.localName, p.wireName, p.location),
        (buildRequest ⟨⟨r, .wire⟩, "", {}⟩ o searchArguments searchOptions).toOption.map (·.query),
        argumentEntries ⟨r, .wire⟩ searchArguments o.parameters .query)) =
      some ([("tag", "tag", .query), ("x_trace", "X-Trace", .header)],
        some [("tag", "new")], []) := by
  decide +kernel

/-- A request of `findPets`, with its parameters. -/
structure Searched (r : Registry) (o : Operation) (tag trace : Parameter) (request : Request) :
    Prop where
  parameters : o.parameters = [tag, trace]
  tag_location : tag.location = .query
  tag_wireName : tag.wireName = "tag"
  tag_supplied : Supplied searchArguments tag (.array [])
  trace_location : trace.location = .header
  trace_wireName : trace.wireName = "X-Trace"
  trace_supplied : Supplied searchArguments trace (.string "")
  sends : buildRequest ⟨⟨r, .wire⟩, "", {}⟩ o searchArguments searchOptions = .ok request
  query : request.query = [("tag", "new")]
  arguments : argumentEntries ⟨r, .wire⟩ searchArguments o.parameters .query = []

theorem exists_searched :
    ∃ doc r o tag trace request, OperationTable.Offered search doc r o ∧
      Searched r o tag trace request := by
  obtain ⟨doc, r, o, hoffered, h⟩ := OperationTable.exists_offered search_request
  obtain ⟨hparameters, h⟩ := Prod.mk.inj h
  obtain ⟨hrequest, harguments⟩ := Prod.mk.inj h
  obtain ⟨request, hrequest, hquery⟩ := Option.map_eq_some_iff.1 hrequest
  obtain ⟨tag, rest, hps, htag, hrest⟩ := List.map_eq_cons_iff.1 hparameters
  obtain ⟨trace, rest, rfl, htrace, hnil⟩ := List.map_eq_cons_iff.1 hrest
  obtain rfl := List.map_eq_nil_iff.1 hnil
  simp only [Prod.mk.injEq] at htag htrace
  refine ⟨doc, r, o, tag, trace, request, hoffered, hps, htag.2.2, htag.2.1, ⟨.inl ?_, rfl⟩,
    htrace.2.2, htrace.2.1, ⟨.inl ?_, rfl⟩, toOption_eq_some_iff.1 hrequest, hquery, harguments⟩
  · rw [htag.1]
    rfl
  · rw [htrace.1]
    rfl

theorem supplied_over_layers_search :
    ∃ doc r o tag trace request, OperationTable.Offered search doc r o ∧
      Searched r o tag trace request ∧
      named asciiLower "X-Trace" request.headers =
        named asciiLower "X-Trace"
          (argumentEntries ⟨r, .wire⟩ searchArguments o.parameters .header) ∧
      named id "tag" request.query = [("tag", "new")] := by
  obtain ⟨doc, r, o, tag, trace, request, hoffered, hs⟩ := exists_searched
  have htrace := (supplied_over_layers hs.sends (by simp [hs.parameters]) hs.trace_supplied
    (by simp [hs.trace_location])).1 (by simp [hs.trace_location])
  have htag := (supplied_over_layers hs.sends (by simp [hs.parameters]) hs.tag_supplied
    (by simp [hs.tag_location])).2 doc r.names hoffered.built hs.tag_location rfl
  rw [hs.trace_location, hs.trace_wireName] at htrace
  rw [hs.tag_wireName, if_pos (by decide)] at htag
  exact ⟨doc, r, o, tag, trace, request, hoffered, hs, htrace, htag.trans (by decide)⟩

/-- The option goes out though the argument is there, and no argument made it. -/
theorem empty_list_hides_nothing :
    ∃ doc r o tag trace request, OperationTable.Offered search doc r o ∧
      Searched r o tag trace request ∧ tag ∈ o.parameters ∧
      ∃ entry ∈ request.query, entry.1 = tag.wireName ∧
        entry ∉ argumentEntries ⟨r, .wire⟩ searchArguments o.parameters .query ∧
        entry ∈ searchOptions.query := by
  obtain ⟨doc, r, o, tag, trace, request, hoffered, hs⟩ := exists_searched
  refine ⟨doc, r, o, tag, trace, request, hoffered, hs, by simp [hs.parameters], ("tag", "new"), ?_,
    hs.tag_wireName.symm, ?_, ?_⟩
  · simp [hs.query]
  · simp [hs.arguments]
  · simp [searchOptions]

end Search

end Invocation

end OpenApi
