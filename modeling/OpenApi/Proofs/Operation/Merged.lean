import OpenApi.Proofs.Operation.Built

/-!
# Merged parameters

The parameters of a path and those of its operation make one list, in which a name has one parameter
at each place. An operation declares a parameter of its path anew and leaves it where it stands.
-/

namespace OpenApi

/-- What tells a parameter from the others. -/
def ParameterEntry.key (e : ParameterEntry) : String × Location :=
  (e.name, e.location)

namespace Operation

/-- The place at which one list and then another first have a key. -/
def rank (common own : List ParameterEntry) (key : String × Location) : Nat :=
  ((common ++ own).map (·.key)).idxOf key

/-- The list has each parameter of the two once. -/
structure Merges (common own merged : List ParameterEntry) : Prop where
  distinct : (merged.map (·.key)).Nodup
  occurs : ∀ key, key ∈ merged.map (·.key) ↔ key ∈ common.map (·.key) ∨ key ∈ own.map (·.key)
  /-- The parameters stand in the order in which the two lists first have them. -/
  ranked : merged.Pairwise fun e e' => rank common own e.key < rank common own e'.key
  /-- A parameter is the last of its key in the second list, or else in the first. -/
  defined : ∀ e ∈ merged, (own.reverse.find? (·.key = e.key)).or
    (common.reverse.find? (·.key = e.key)) = some e

variable {doc : Document} {location : String} {common own : List (Referable ParameterEntry)}
  {path operation merged merged' : List ParameterEntry}

/-! ## The merged list -/

/-- The parameters in the order of their first definitions, each with its last one. -/
def mergeEntries (entries : List ParameterEntry) : List ParameterEntry :=
  OrderedMap.values (OrderedMap.ofList (entries.map fun e => (e.key, e)))

theorem mergeParameters_of_settled
    (settled : List.Forall₂ (fun p e => settleParameter doc location p = .ok e) common path)
    (settled' : List.Forall₂ (fun p e => settleParameter doc location p = .ok e) own operation) :
    mergeParameters doc location common own = .ok (mergeEntries (path ++ operation)) := by
  unfold mergeParameters
  rw [Json.Typed.mapM_eq_ok_iff.2 (List.rel_append settled settled')]
  rfl

theorem keys_mergeEntries (entries : List ParameterEntry) :
    (mergeEntries entries).map (·.key) =
      OrderedMap.keys (OrderedMap.ofList (entries.map fun e => (e.key, e))) :=
  OrderedMap.map_key_values_ofList _ entries

theorem keys_map_key (entries : List ParameterEntry) :
    OrderedMap.keys (entries.map fun e => (e.key, e)) = entries.map (·.key) := by
  rw [OrderedMap.keys, List.map_map]
  rfl

theorem find?_of_mem_mergeEntries {entries : List ParameterEntry} {e : ParameterEntry}
    (h : e ∈ mergeEntries entries) : entries.reverse.find? (·.key = e.key) = some e := by
  have hmem : (e.key, e) ∈ OrderedMap.ofList (entries.map fun e => (e.key, e)) := by
    rw [OrderedMap.ofList_eq_map_values]
    exact List.mem_map_of_mem h
  have hfound := OrderedMap.get?_of_mem (OrderedMap.nodup_keys_ofList _) hmem
  rwa [OrderedMap.get?_ofList, ← List.map_reverse, OrderedMap.get?_map_key] at hfound

theorem merges_mergeEntries (path operation : List ParameterEntry) :
    Merges path operation (mergeEntries (path ++ operation)) := by
  constructor
  · rw [keys_mergeEntries]
    exact OrderedMap.nodup_keys_ofList _
  · intro key
    rw [keys_mergeEntries, OrderedMap.mem_keys_ofList, keys_map_key, List.map_append,
      List.mem_append]
  · have hpairwise :=
      OrderedMap.pairwise_idxOf_ofList ((path ++ operation).map fun e => (e.key, e))
    rwa [keys_map_key, ← keys_mergeEntries, List.pairwise_map] at hpairwise
  · intro e he
    have hfound := find?_of_mem_mergeEntries he
    rwa [List.reverse_append, List.find?_append] at hfound

/-- No other list has the parameters so. -/
theorem Merges.unique (h : Merges path operation merged) (h' : Merges path operation merged') :
    merged = merged' := by
  have hperm : (merged.map (·.key)).Perm (merged'.map (·.key)) := by
    rw [List.perm_ext_iff_of_nodup h.distinct h'.distinct]
    intro key
    rw [h.occurs, h'.occurs]
  have hkeys : merged.map (·.key) = merged'.map (·.key) := by
    have hranked : (merged.map (·.key)).Pairwise
        fun a b => rank path operation a < rank path operation b := List.pairwise_map.2 h.ranked
    refine hperm.eq_of_pairwise ?_ hranked (List.pairwise_map.2 h'.ranked)
    intro a b _ _ hless hgreater
    omega
  -- The same keys in the same order, and the definition goes by the key.
  have hlength : merged.length = merged'.length := by
    simpa using congrArg List.length hkeys
  refine List.ext_getElem hlength ?_
  intro i hi hi'
  have hkey : merged[i].key = merged'[i].key := by
    have hat := congrArg (·[i]?) hkeys
    simpa [hi, hi'] using hat
  have hdefined := h.defined _ (List.getElem_mem hi)
  rw [hkey, h'.defined _ (List.getElem_mem hi')] at hdefined
  exact (Option.some.inj hdefined).symm

/-- Where every parameter of a path and of its operation leads to an entry, the two lists are merged
into the one list that has each name at each place once, where it first stands and as it is last
declared. So an operation replaces the parameters of its path that have its names and places, and
none at another place. -/
theorem parameters_merge
    (settled : List.Forall₂ (fun p e => settleParameter doc location p = .ok e) common path)
    (settled' : List.Forall₂ (fun p e => settleParameter doc location p = .ok e) own operation) :
    ∃ merged, mergeParameters doc location common own = .ok merged ∧
      ∀ entries, Merges path operation entries ↔ entries = merged := by
  refine ⟨_, mergeParameters_of_settled settled settled', ?_⟩
  intro entries
  constructor
  · exact fun h => h.unique (merges_mergeEntries path operation)
  · rintro rfl
    exact merges_mergeEntries path operation

section Repos

/-- The parameter that names an organisation, as it stands in the components. -/
def repos : Document where
  raw := .object [("components", .object [("parameters", .object
    [("Org", .object [("name", .string "org"), ("in", .string "path")])])])]
  description := { openapi := "3.0.0", info := {} }

def org : ParameterEntry where
  name := "org"
  location := .path

def page : ParameterEntry where
  name := "page"
  location := .query

theorem parameters_merge_repos :
    mergeParameters repos "" [.reference "#/components/parameters/Org", .inline page]
        [.inline { page with location := .header }, .inline { page with required := true }] =
      .ok [org, { page with required := true }, { page with location := .header }] ∧
    ∀ entries, Merges [org, page] [{ page with location := .header }, { page with required := true }]
        entries ↔
      entries = [org, { page with required := true }, { page with location := .header }] := by
  have hcommon : List.Forall₂ (fun p e => settleParameter repos "" p = .ok e)
      [.reference "#/components/parameters/Org", .inline page] [org, page] :=
    .cons rfl (.cons rfl .nil)
  have hown : List.Forall₂ (fun p e => settleParameter repos "" p = .ok e)
      [.inline { page with location := .header }, .inline { page with required := true }]
      [{ page with location := .header }, { page with required := true }] :=
    .cons rfl (.cons rfl .nil)
  obtain ⟨merged, hmerged, hmerges⟩ := parameters_merge hcommon hown
  obtain rfl : [org, { page with required := true }, { page with location := .header }] = merged :=
    Except.ok.inj hmerged
  exact ⟨hmerged, hmerges⟩

end Repos

end Operation

end OpenApi
