import OpenApi.Proofs.Document.Parts
import OpenApi.Proofs.Resolution.Rules

/-!
# The types of references

The rules alone, with no guard against circles: a reference denotes the record that it names, or
else the type of its target. A reference on a circle denotes nothing.
-/

namespace OpenApi

/-- The type of a schema depends on the references that it consults and on no others. -/
theorem Schema.Typed.mono_of_consults {refers refers' : String → DataType → Prop} {s : Schema}
    {ty : DataType} (h : ∀ path, s.Consults path → ∀ ty, refers path ty → refers' path ty)
    (typed : s.Typed refers ty) : s.Typed refers' ty := by
  induction typed with
  | reference has => exact .reference (h _ (.reference _) _ has)
  | branch stands _ ih => exact .branch stands (ih fun path hpath => h path (.branch stands hpath))
  | allOf anyOf several => exact .allOf anyOf several
  | union told _ listed ih =>
    exact .union told (fun s hs => ih s hs fun path hpath => h path (.member told hs hpath)) listed
  | array plain items _ ih =>
    exact .array plain items (ih fun path hpath => h path (.items plain items hpath))
  | arrayOfAny plain items => exact .arrayOfAny plain items
  | dateTime plain format => exact .dateTime plain format
  | primitive plain format => exact .primitive plain format

theorem Schema.Typed.mono {refers refers' : String → DataType → Prop} {s : Schema} {ty : DataType}
    (h : ∀ path ty, refers path ty → refers' path ty) (typed : s.Typed refers ty) :
    s.Typed refers' ty :=
  typed.mono_of_consults fun path _ => h path

theorem Schema.Typed.unique {refers : String → DataType → Prop}
    (h : ∀ path a b, refers path a → refers path b → a = b) {s : Schema} {a b : DataType}
    (ha : s.Typed refers a) (hb : s.Typed refers b) : a = b := by
  classical
  let follow : String → String → Resolution.Resolved DataType := fun path _ =>
    if hty : ∃ ty, refers path ty then pure hty.choose else throw (.unsupported path .noType)
  have hfollow : ∀ path location ty, refers path ty →
      (follow path location).outcome = .ok ty := by
    intro path location ty hty
    have hex : ∃ ty, refers path ty := ⟨ty, hty⟩
    simp only [follow, dif_pos hex, Logged.outcome_pure]
    rw [h path _ _ hex.choose_spec hty]
  have hok := Resolution.resolveSchema_of_typed hfollow ha ""
  rw [Resolution.resolveSchema_of_typed hfollow hb ""] at hok
  exact (Except.ok.inj hok).symm

theorem Schema.Typed.bound {refers : Nat → String → DataType → Prop}
    (mono : ∀ n path ty, refers n path ty → refers (n + 1) path ty) {s : Schema} {ty : DataType}
    (typed : s.Typed (fun path ty => ∃ n, refers n path ty) ty) : ∃ n, s.Typed (refers n) ty := by
  have hadd : ∀ n k path ty, refers n path ty → refers (n + k) path ty := by
    intro n k path ty h
    induction k with
    | zero => exact h
    | succ k ih => exact mono _ path ty ih
  induction typed with
  | reference has =>
    obtain ⟨n, hn⟩ := has
    exact ⟨n, .reference hn⟩
  | branch stands _ ih =>
    obtain ⟨n, hn⟩ := ih
    exact ⟨n, .branch stands hn⟩
  | allOf anyOf several => exact ⟨0, .allOf anyOf several⟩
  | @union o d member told _ listed ih =>
    have hall : ∀ schemas ⊆ o.oneOf, ∃ n, ∀ s ∈ schemas, s.Typed (refers n) (member s) := by
      intro schemas
      induction schemas with
      | nil =>
        intro _
        exact ⟨0, by simp⟩
      | cons s rest ihrest =>
        intro hsub
        obtain ⟨n, hn⟩ := ih s (hsub List.mem_cons_self)
        obtain ⟨k, hk⟩ := ihrest fun s' hs' => hsub (List.mem_cons_of_mem _ hs')
        refine ⟨n + k, ?_⟩
        intro s' hs'
        rcases List.mem_cons.1 hs' with rfl | hs'
        · exact hn.mono (hadd n k)
        · rw [Nat.add_comm]
          exact (hk s' hs').mono (hadd k n)
    obtain ⟨n, hn⟩ := hall o.oneOf (List.Subset.refl _)
    exact ⟨n, .union told hn listed⟩
  | array plain items _ ih =>
    obtain ⟨n, hn⟩ := ih
    exact ⟨n, .array plain items hn⟩
  | arrayOfAny plain items => exact ⟨0, .arrayOfAny plain items⟩
  | dateTime plain format => exact ⟨0, .dateTime plain format⟩
  | primitive plain format => exact ⟨0, .primitive plain format⟩

namespace Resolution

/-- A reference within the document leads to the schema at its pointer. -/
def LeadsTo (raw : Json) (path : String) (s : Schema) : Prop :=
  ∃ pointer v, path = "#" ++ pointer ∧ raw.pointer? pointer = some v ∧ Schema.read v = .ok s

/-- The type of a reference, by the rules alone. -/
inductive Denotes (raw : Json) (names : RecordNames) : String → DataType → Prop where
  | named {path : String} {id : RecordId} (found : recordOf? names path = some id) :
      Denotes raw names path (.record id)
  | followed {path : String} {s : Schema} {ty : DataType} (unnamed : recordOf? names path = none)
      (leads : LeadsTo raw path s) (typed : s.Typed (Denotes raw names) ty) :
      Denotes raw names path ty

/-- The type of a schema, by the rules alone. -/
def HasType (raw : Json) (names : RecordNames) (s : Schema) (ty : DataType) : Prop :=
  s.Typed (Denotes raw names) ty

variable {raw : Json} {names : RecordNames}

theorem Denotes.induct {P : String → DataType → Prop}
    (named : ∀ path id, recordOf? names path = some id → P path (.record id))
    (followed : ∀ path s ty, recordOf? names path = none → LeadsTo raw path s →
      s.Typed (fun path ty => Denotes raw names path ty ∧ P path ty) ty → P path ty)
    {path : String} {ty : DataType} (h : Denotes raw names path ty) : P path ty := by
  refine @Denotes.rec raw names (fun path ty _ => P path ty)
    (fun s ty _ => s.Typed (fun path ty => Denotes raw names path ty ∧ P path ty) ty)
    ?_ ?_ ?_ ?_ ?_ ?_ ?_ ?_ ?_ ?_ path ty h
  · exact fun found => named _ _ found
  · exact fun unnamed leads _ ih => followed _ _ _ unnamed leads ih
  · exact fun has ih => .reference ⟨has, ih⟩
  · exact fun stands _ ih => .branch stands ih
  · exact fun anyOf several => .allOf anyOf several
  · exact fun told _ listed ih => .union told ih listed
  · exact fun plain items _ ih => .array plain items ih
  · exact fun plain items => .arrayOfAny plain items
  · exact fun plain format => .dateTime plain format
  · exact fun plain format => .primitive plain format

theorem target_ok_iff {path location : String} {s : Schema} :
    (target raw path location).outcome = .ok s ↔ LeadsTo raw path s := by
  have hpath : ∀ pointer, Text.dropStart? ['#'] path.toList = some pointer ↔
      path = "#" ++ String.ofList pointer := by
    intro pointer
    rw [Text.dropStart?_eq_some_iff, ← String.toList_inj, String.toList_append,
      String.toList_ofList, String.toList_ofList]
  unfold target LeadsTo
  constructor
  · intro h
    split at h
    · cases h
    · rename_i v hv
      obtain ⟨pointer, hpointer, hv⟩ := Option.bind_eq_some_iff.1 hv
      refine ⟨String.ofList pointer, v, (hpath pointer).1 hpointer, hv, ?_⟩
      rw [Logged.outcome_ofExcept] at h
      cases hread : Schema.read v with
      | error m =>
        rw [hread] at h
        cases h
      | ok s' =>
        rw [hread] at h
        cases h
        rfl
  · rintro ⟨pointer, v, he, hv, hread⟩
    have hdrop : Text.dropStart? ['#'] path.toList = some pointer.toList := by
      rw [hpath, String.ofList_toList]
      exact he
    rw [hdrop, Option.bind_some, String.ofList_toList, hv]
    simp only [Logged.outcome_ofExcept, hread]
    rfl

theorem startsWith_of_leadsTo {path : String} {s : Schema} (h : LeadsTo raw path s) :
    Text.startsWith path "#" = true := by
  obtain ⟨pointer, _, rfl, _⟩ := h
  exact Text.startsWith_iff.2 ⟨pointer.toList, String.toList_append⟩

theorem startsWith_of_recordOf? {path : String} {id : RecordId}
    (h : recordOf? names path = some id) : Text.startsWith path "#" = true := by
  obtain ⟨name, hname, _⟩ := Option.bind_eq_some_iff.1 h
  obtain ⟨token, htoken, _⟩ := Option.map_eq_some_iff.1 hname
  rw [Text.dropStart?_eq_some_iff] at htoken
  exact Text.startsWith_iff.2 ⟨"/components/schemas/".toList ++ token, htoken⟩

theorem leadsTo_unique {path : String} {s s' : Schema} (h : LeadsTo raw path s)
    (h' : LeadsTo raw path s') : s = s' := by
  have hok : (target raw path "").outcome = .ok s := target_ok_iff.2 h
  rw [target_ok_iff.2 h'] at hok
  exact (Except.ok.inj hok).symm

/-! ## Counting the references that are followed -/

/-- The type of a reference, found by following at most so many references in turn. -/
def DenotesWithin (raw : Json) (names : RecordNames) : Nat → String → DataType → Prop
  | 0, _, _ => False
  | n + 1, path, ty =>
    (∃ id, recordOf? names path = some id ∧ ty = .record id) ∨
      recordOf? names path = none ∧
        ∃ s, LeadsTo raw path s ∧ s.Typed (DenotesWithin raw names n) ty

theorem denotesWithin_succ {n : Nat} {path : String} {ty : DataType}
    (h : DenotesWithin raw names n path ty) : DenotesWithin raw names (n + 1) path ty := by
  induction n generalizing path ty with
  | zero => exact h.elim
  | succ n ih =>
    rcases h with hnamed | ⟨hunnamed, s, hleads, htyped⟩
    · exact .inl hnamed
    · exact .inr ⟨hunnamed, s, hleads, htyped.mono fun _ _ => ih⟩

theorem denotesWithin_unique {n : Nat} {path : String} {a b : DataType}
    (ha : DenotesWithin raw names n path a) (hb : DenotesWithin raw names n path b) : a = b := by
  induction n generalizing path a b with
  | zero => exact ha.elim
  | succ n ih =>
    rcases ha with ⟨id, hid, rfl⟩ | ⟨hunnamed, s, hleads, htyped⟩
    · rcases hb with ⟨id', hid', rfl⟩ | ⟨hunnamed, _⟩
      · rw [Option.some.inj (hid.symm.trans hid')]
      · rw [hid] at hunnamed
        cases hunnamed
    · rcases hb with ⟨id, hid, _⟩ | ⟨_, s', hleads', htyped'⟩
      · rw [hid] at hunnamed
        cases hunnamed
      · obtain rfl := leadsTo_unique hleads hleads'
        have hunique : ∀ path a b, DenotesWithin raw names n path a →
            DenotesWithin raw names n path b → a = b := fun _ _ _ => ih
        exact htyped.unique hunique htyped'

theorem within_of_denotes {path : String} {ty : DataType} (h : Denotes raw names path ty) :
    ∃ n, DenotesWithin raw names n path ty := by
  refine Denotes.induct (P := fun path ty => ∃ n, DenotesWithin raw names n path ty) ?_ ?_ h
  · intro path id found
    exact ⟨1, .inl ⟨id, found, rfl⟩⟩
  · intro path s ty unnamed leads typed
    have htyped : s.Typed (fun path ty => ∃ n, DenotesWithin raw names n path ty) ty :=
      typed.mono fun _ _ h => h.2
    obtain ⟨n, hn⟩ := htyped.bound fun _ _ _ => denotesWithin_succ
    exact ⟨n + 1, .inr ⟨unnamed, s, leads, hn⟩⟩

end Resolution

end OpenApi
