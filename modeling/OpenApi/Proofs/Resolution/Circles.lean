import Mathlib.Data.List.Perm.Subperm
import Mathlib.Logic.Relation
import OpenApi.Proofs.Resolution.Denotes

/-!
# Circles of references

The resolution computes the rules: it never runs out of references to follow, it finds the types
that the rules give and no others, and it tells of a circle only where there is one.
-/

namespace OpenApi.Resolution

open Relation

variable {raw : Json} {names : RecordNames}

/-- The type of the first reference depends on the second. -/
def Leads (raw : Json) (names : RecordNames) (path path' : String) : Prop :=
  recordOf? names path = none ∧ ∃ s, LeadsTo raw path s ∧ s.Consults path'

/-- A reference with those through which it is reached, none of them twice. -/
inductive Trail (raw : Json) (names : RecordNames) : List String → String → Prop where
  | start (path : String) : Trail raw names [] path
  | step {chain : List String} {path path' : String} (trail : Trail raw names chain path)
      (new : path ∉ chain) (leads : Leads raw names path path') :
      Trail raw names (path :: chain) path'

variable {jumps : Nat} {chain : List String} {path location : String}

/-- A reference within the document that names no record and is not on the chain. -/
structure IsNew (names : RecordNames) (chain : List String) (path : String) : Prop where
  start : Text.startsWith path "#" = true
  unnamed : recordOf? names path = none
  new : path ∉ chain

theorem follow_named {id : RecordId} (h : recordOf? names path = some id) :
    follow raw names jumps chain path location = pure (.record id) := by
  have hstart := startsWith_of_recordOf? h
  rw [follow.eq_def]
  simp [hstart, h]

theorem follow_zero (h : IsNew names chain path) :
    follow raw names 0 chain path location =
      target raw path location >>= fun _ => unsupported location (.tooManyReferences path) := by
  rw [follow.eq_def]
  simp [h.start, h.unnamed, h.new]

theorem follow_succ (h : IsNew names chain path) :
    follow raw names (jumps + 1) chain path location =
      target raw path location >>= fun s =>
        resolveSchema (follow raw names jumps (path :: chain)) s path := by
  rw [follow.eq_def]
  simp [h.start, h.unnamed, h.new]

theorem follow_cases (raw : Json) (names : RecordNames) (chain : List String)
    (path location : String) :
    IsNew names chain path ∨
      (∃ id, recordOf? names path = some id ∧
        ∀ jumps, follow raw names jumps chain path location = pure (.record id)) ∨
      ∃ e, (∀ jumps, follow raw names jumps chain path location = throw e) ∧
        (TellsChain e → e = .unsupported location (.circularReference path) ∧ path ∈ chain) := by
  by_cases hstart : Text.startsWith path "#" = true
  · cases hnamed : recordOf? names path with
    | some id => exact .inr (.inl ⟨id, rfl, fun _ => follow_named hnamed⟩)
    | none =>
      by_cases hmem : path ∈ chain
      · refine .inr (.inr ⟨.unsupported location (.circularReference path), fun jumps => ?_,
          fun _ => ⟨rfl, hmem⟩⟩)
        rw [follow.eq_def]
        simp [hstart, hnamed, hmem, unsupported]
      · exact .inl ⟨hstart, hnamed, hmem⟩
  · refine .inr (.inr ⟨.unsupported location (.foreignReference path), fun jumps => ?_, nofun⟩)
    rw [follow.eq_def]
    simp [hstart, unsupported]

/-! ## The length of a trail -/

theorem mem_references_of_consults {v : Json} {s : Schema} (read : Schema.read? v = some s)
    {path : String} (h : s.Consults path) : path ∈ v.references := by
  induction h generalizing v with
  | reference path => exact Schema.mem_references_of_read? read
  | branch stands _ ih =>
    obtain ⟨w, hw, hread⟩ := Schema.read?_of_mem_children read stands.mem_children
    exact Json.references_subset_of_below hw (ih hread)
  | member _ mem _ ih =>
    have hmem := SchemaObject.mem_children_of_oneOf mem
    obtain ⟨w, hw, hread⟩ := Schema.read?_of_mem_children read hmem
    exact Json.references_subset_of_below hw (ih hread)
  | items _ items _ ih =>
    have hmem := SchemaObject.mem_children_of_items items
    obtain ⟨w, hw, hread⟩ := Schema.read?_of_mem_children read hmem
    exact Json.references_subset_of_below hw (ih hread)

theorem mem_references_of_leads {path path' : String} (h : Leads raw names path path') :
    path' ∈ raw.references := by
  obtain ⟨_, s, ⟨pointer, v, _, hv, hread⟩, hconsults⟩ := h
  have hmem := mem_references_of_consults (Schema.read?_of_read hread) hconsults
  rcases Json.below_of_pointer? hv with rfl | hbelow
  · exact hmem
  · exact Json.references_subset_of_below hbelow hmem

theorem Trail.nodup {chain : List String} {path : String} (h : Trail raw names chain path) :
    chain.Nodup := by
  induction h with
  | start path => exact List.nodup_nil
  | step _ new _ ih => exact List.nodup_cons.2 ⟨new, ih⟩

theorem Trail.dropLast_subset {chain : List String} {path : String}
    (h : Trail raw names chain path) : (path :: chain).dropLast ⊆ raw.references := by
  induction h with
  | start path => exact List.nil_subset _
  | step _ _ leads ih =>
    rw [List.dropLast_cons_cons]
    exact List.cons_subset.2 ⟨mem_references_of_leads leads, ih⟩

theorem Trail.length_le {chain : List String} {path : String} (h : Trail raw names chain path)
    (new : path ∉ chain) : chain.length ≤ countReferences raw := by
  have hnodup : (path :: chain).dropLast.Nodup :=
    (List.nodup_cons.2 ⟨new, h.nodup⟩).sublist (List.dropLast_sublist _)
  have hlength := (List.subperm_of_subset hnodup h.dropLast_subset).length_le
  rw [List.length_dropLast, List.length_cons] at hlength
  have := length_references_le raw
  omega

theorem Trail.leads_of_mem {chain : List String} {path : String} (h : Trail raw names chain path)
    {path' : String} (mem : path' ∈ chain) : TransGen (Leads raw names) path' path := by
  induction h with
  | start path => cases mem
  | @step chain path path'' trail new leads ih =>
    rcases List.mem_cons.1 mem with rfl | mem
    · exact .single leads
    · exact (ih mem).tail leads

/-! ## Enough references to follow -/

theorem bind_congr_of_ok {ε α β : Type} {x : Logged ε α} {f g : α → Logged ε β}
    (h : ∀ a, x.outcome = .ok a → f a = g a) : x >>= f = x >>= g := by
  change Logged.bind x f = Logged.bind x g
  unfold Logged.bind
  cases hx : x.outcome with
  | error e => rfl
  | ok a => simp only [h a hx]

/-- A trail has no more references than the document, so the number of jumps does not matter. -/
theorem follow_add (trail : Trail raw names chain path)
    (enough : countReferences raw + 1 ≤ jumps + chain.length) (extra : Nat) (location : String) :
    follow raw names (jumps + extra) chain path location =
      follow raw names jumps chain path location := by
  induction jumps generalizing chain path location with
  | zero =>
    rcases follow_cases raw names chain path location with hnew | ⟨id, _, hid⟩ | ⟨e, he, _⟩
    · have := trail.length_le hnew.new
      omega
    · rw [hid, hid]
    · rw [he, he]
  | succ jumps ih =>
    rcases follow_cases raw names chain path location with hnew | ⟨id, _, hid⟩ | ⟨e, he, _⟩
    · rw [Nat.add_right_comm, follow_succ hnew, follow_succ hnew]
      apply bind_congr_of_ok
      intro s hs
      apply resolveSchema_congr
      intro path' hconsults below
      have hleads : Leads raw names path path' := ⟨hnew.unnamed, s, target_ok_iff.1 hs, hconsults⟩
      refine ih (.step trail hnew.new hleads) ?_ below
      rw [List.length_cons]
      omega
    · rw [hid, hid]
    · rw [he, he]

theorem resolve_eq_add (doc : Document) (names : RecordNames) (s : Schema) (location : String)
    (extra : Nat) :
    resolveSchema (follow doc.raw names (countReferences doc.raw + 1 + extra) []) s location =
      resolve doc names s location := by
  unfold resolve
  apply resolveSchema_congr
  intro path _ below
  exact follow_add (.start path) (Nat.le_refl _) extra below

/-! ## The types that are found -/

theorem denotes_of_follow {ty : DataType}
    (h : (follow raw names jumps chain path location).outcome = .ok ty) :
    Denotes raw names path ty := by
  induction jumps generalizing chain path location ty with
  | zero =>
    rcases follow_cases raw names chain path location with hnew | ⟨id, hnamed, hid⟩ | ⟨e, he, _⟩
    · rw [follow_zero hnew] at h
      obtain ⟨_, _, h⟩ := Logged.outcome_bind_eq_ok_iff.1 h
      cases h
    · rw [hid] at h
      cases h
      exact .named hnamed
    · rw [he] at h
      cases h
  | succ jumps ih =>
    rcases follow_cases raw names chain path location with hnew | ⟨id, hnamed, hid⟩ | ⟨e, he, _⟩
    · rw [follow_succ hnew] at h
      obtain ⟨s, hs, h⟩ := Logged.outcome_bind_eq_ok_iff.1 h
      have hfollow : ∀ path' below ty,
          (follow raw names jumps (path :: chain) path' below).outcome = .ok ty →
            Denotes raw names path' ty := fun _ _ _ => ih
      exact .followed hnew.unnamed (target_ok_iff.1 hs) (typed_of_resolveSchema hfollow h)
    · rw [hid] at h
      cases h
      exact .named hnamed
    · rw [he] at h
      cases h

theorem follow_of_within {n : Nat} {ty : DataType} (h : DenotesWithin raw names n path ty)
    (enough : n ≤ jumps)
    (free : ∀ path' ∈ chain, ∀ ty', ¬DenotesWithin raw names n path' ty') (location : String) :
    (follow raw names jumps chain path location).outcome = .ok ty := by
  induction n generalizing jumps chain path location ty with
  | zero => exact h.elim
  | succ n ih =>
    have hfree : ∀ path' ∈ chain, ∀ ty', ¬DenotesWithin raw names n path' ty' :=
      fun path' hmem ty' h' => free path' hmem ty' (denotesWithin_succ h')
    by_cases hless : ∃ ty', DenotesWithin raw names n path ty'
    · obtain ⟨ty', hty'⟩ := hless
      obtain rfl := denotesWithin_unique h (denotesWithin_succ hty')
      exact ih hty' (by omega) hfree location
    · -- The reference needs all the steps, so those below it cannot come back to it.
      rcases h with ⟨id, hid, rfl⟩ | ⟨hunnamed, s, hleads, htyped⟩
      · rw [follow_named hid]
        rfl
      · have hnew : IsNew names chain path := by
          refine ⟨startsWith_of_leadsTo hleads, hunnamed, ?_⟩
          intro hmem
          exact free path hmem ty (.inr ⟨hunnamed, s, hleads, htyped⟩)
        obtain ⟨j, rfl⟩ : ∃ j, jumps = j + 1 := ⟨jumps - 1, by omega⟩
        rw [follow_succ hnew, Logged.outcome_bind_of_ok (target_ok_iff.2 hleads)]
        refine resolveSchema_of_typed ?_ htyped path
        intro path' below ty' hty'
        refine ih hty' (by omega) ?_ below
        rw [List.forall_mem_cons]
        exact ⟨fun ty' h' => hless ⟨ty', h'⟩, hfree⟩

theorem follow_of_denotes {ty : DataType} (h : Denotes raw names path ty) (location : String) :
    (follow raw names (countReferences raw + 1) [] path location).outcome = .ok ty := by
  obtain ⟨n, hn⟩ := within_of_denotes h
  rw [← follow_add (.start path) (Nat.le_refl _) n]
  exact follow_of_within hn (by omega) (by simp) location

theorem resolve_ok_iff {doc : Document} {s : Schema} {location : String} {ty : DataType} :
    (resolve doc names s location).outcome = .ok ty ↔ HasType doc.raw names s ty := by
  have hfollow : ∀ path below ty,
      (follow doc.raw names (countReferences doc.raw + 1) [] path below).outcome = .ok ty ↔
        Denotes doc.raw names path ty :=
    fun _ below _ => ⟨denotes_of_follow, fun h => follow_of_denotes h below⟩
  constructor
  · exact typed_of_resolveSchema fun path below ty => (hfollow path below ty).1
  · intro h
    exact resolveSchema_of_typed (fun path below ty => (hfollow path below ty).2) h location

theorem HasType.unique {s : Schema} {a b : DataType} (ha : HasType raw names s a)
    (hb : HasType raw names s b) : a = b := by
  refine Schema.Typed.unique ?_ ha hb
  intro path a b ha hb
  have hok := follow_of_denotes ha ""
  rw [follow_of_denotes hb ""] at hok
  exact (Except.ok.inj hok).symm

/-! ## Where a circle is told of -/

theorem target_error {e : SchemaError} (h : (target raw path location).outcome = .error e) :
    ¬TellsChain e := by
  unfold target at h
  split at h
  · cases h
    nofun
  · rename_i v _
    rw [Logged.outcome_ofExcept] at h
    cases hread : Schema.read v with
    | error m =>
      rw [hread] at h
      cases h
      nofun
    | ok s =>
      rw [hread] at h
      cases h

/-- With jumps enough no trail is too long, so that what is told of is a circle. -/
theorem circle_of_follow_error {e : SchemaError}
    (h : (follow raw names jumps chain path location).outcome = .error e) (tells : TellsChain e)
    (trail : Trail raw names chain path)
    (enough : countReferences raw + 1 ≤ jumps + chain.length) :
    ∃ below path', e = .unsupported below (.circularReference path') ∧
      ReflTransGen (Leads raw names) path path' ∧ TransGen (Leads raw names) path' path' := by
  induction jumps generalizing chain path location with
  | zero =>
    rcases follow_cases raw names chain path location with hnew | ⟨id, _, hid⟩ | ⟨e', he, htells⟩
    · have := trail.length_le hnew.new
      omega
    · rw [hid] at h
      cases h
    · rw [he] at h
      cases h
      obtain ⟨hcircle, hmem⟩ := htells tells
      exact ⟨location, path, hcircle, .refl, trail.leads_of_mem hmem⟩
  | succ jumps ih =>
    rcases follow_cases raw names chain path location with hnew | ⟨id, _, hid⟩ | ⟨e', he, htells⟩
    · rw [follow_succ hnew] at h
      rcases Logged.outcome_bind_eq_error_iff.1 h with h | ⟨s, hs, h⟩
      · exact absurd tells (target_error h)
      · obtain ⟨path'', hconsults, below, hbelow⟩ := consults_of_error h tells
        have hleads : Leads raw names path path'' :=
          ⟨hnew.unnamed, s, target_ok_iff.1 hs, hconsults⟩
        obtain ⟨below', path', he, hreach, hcircle⟩ :=
          ih hbelow (.step trail hnew.new hleads) (by
            rw [List.length_cons]
            omega)
        exact ⟨below', path', he, .head hleads hreach, hcircle⟩
    · rw [hid] at h
      cases h
    · rw [he] at h
      cases h
      obtain ⟨hcircle, hmem⟩ := htells tells
      exact ⟨location, path, hcircle, .refl, trail.leads_of_mem hmem⟩

theorem circle_of_resolve_error {doc : Document} {s : Schema} {e : SchemaError}
    (h : (resolve doc names s location).outcome = .error e) (tells : TellsChain e) :
    ∃ below path, e = .unsupported below (.circularReference path) ∧
      (∃ path', s.Consults path' ∧ ReflTransGen (Leads doc.raw names) path' path) ∧
      TransGen (Leads doc.raw names) path path := by
  obtain ⟨path', hconsults, _, hfollow⟩ := consults_of_error h tells
  obtain ⟨below, path, he, hreach, hcircle⟩ :=
    circle_of_follow_error hfollow tells (.start path') (Nat.le_refl _)
  exact ⟨below, path, he, ⟨path', hconsults, hreach⟩, hcircle⟩

/-- For every document, table and schema the resolution ends before it runs out of references to
follow, finds exactly the types that the rules give, and tells of a circle only at a reference on
one, so that the schema has no type. -/
theorem resolve_computes_rules (doc : Document) (names : RecordNames) (s : Schema)
    (location : String) :
    (∀ extra, resolveSchema (follow doc.raw names (countReferences doc.raw + 1 + extra) []) s
        location = resolve doc names s location) ∧
      (∀ below path, (resolve doc names s location).outcome ≠
        .error (.unsupported below (.tooManyReferences path))) ∧
      (∀ ty, (resolve doc names s location).outcome = .ok ty ↔ HasType doc.raw names s ty) ∧
      ∀ below path, (resolve doc names s location).outcome =
          .error (.unsupported below (.circularReference path)) →
        (∃ path', s.Consults path' ∧ ReflTransGen (Leads doc.raw names) path' path) ∧
          TransGen (Leads doc.raw names) path path ∧ ¬∃ ty, HasType doc.raw names s ty := by
  refine ⟨resolve_eq_add doc names s location, fun below path h => ?_, fun _ => resolve_ok_iff,
    fun below path h => ?_⟩
  · obtain ⟨_, _, he, _⟩ := circle_of_resolve_error h (.tooMany below path)
    cases he
  · obtain ⟨_, _, he, hreach, hcircle⟩ := circle_of_resolve_error h (.circle below path)
    cases he
    refine ⟨hreach, hcircle, fun ⟨ty, hty⟩ => ?_⟩
    rw [resolve_ok_iff.2 hty] at h
    cases h

section Aliases

/-- Two component schemas that stand for each other. -/
def aliases : Document where
  raw := .object [("components", .object [("schemas", .object
    [("A", .object [("$ref", .string "#/components/schemas/B")]),
      ("B", .object [("$ref", .string "#/components/schemas/A")])])])]
  description := { openapi := "3.0.0", info := {} }

/-- Where a circle is told of, and the reference that is named. -/
def circle? : Except SchemaError DataType → Option (String × String)
  | .error (.unsupported below (.circularReference path)) => some (below, path)
  | _ => none

theorem error_of_circle? {x : Except SchemaError DataType} {below path : String}
    (h : circle? x = some (below, path)) :
    x = .error (.unsupported below (.circularReference path)) := by
  unfold circle? at h
  split at h
  · cases h
    rfl
  · cases h

theorem aliases_circle :
    circle? (resolve aliases [] (.reference "#/components/schemas/A") "").outcome =
      some ("#/components/schemas/B", "#/components/schemas/A") := by
  decide +kernel

theorem resolve_computes_rules_aliases :
    (resolve aliases [] (.reference "#/components/schemas/A") "").outcome = .error
        (.unsupported "#/components/schemas/B" (.circularReference "#/components/schemas/A")) ∧
      TransGen (Leads aliases.raw []) "#/components/schemas/A" "#/components/schemas/A" ∧
      ¬∃ ty, HasType aliases.raw [] (.reference "#/components/schemas/A") ty := by
  have herror := error_of_circle? aliases_circle
  obtain ⟨_, _, _, hcircle⟩ :=
    resolve_computes_rules aliases [] (.reference "#/components/schemas/A") ""
  exact ⟨herror, (hcircle _ _ herror).2⟩

end Aliases

end OpenApi.Resolution
