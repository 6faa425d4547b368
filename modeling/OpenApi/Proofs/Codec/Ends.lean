import Mathlib.Order.Filter.AtTopBot.Basic
import Mathlib.Order.Monotone.Basic
import OpenApi.Proofs.Codec.Outcomes
import OpenApi.Proofs.Registry.Reordered

/-!
# Where decoding ends

The decoder gives up on defaults that nest deeper than there are defaults. By then the recursion has
come to an end, or there is none: each further level lets another default end, or else nothing.
-/

namespace OpenApi.Codec

/-- As `Decodes`, with defaults nested less than so deep. -/
def DecodesWithin (c : Codec) : Nat → Json → DataType → Except CodecError Value → Prop
  | 0 => fun _ _ _ => False
  | depth + 1 => DecodesBy c (DecodesWithin c depth)

variable {c : Codec} {fallback : Json → DataType → Decoded Value} {wire : Json} {ty : DataType}
  {o : Except CodecError Value}

/-! ## One level -/

/-- Whether the computation has given up on a default. -/
def gaveUp (x : Decoded Value) : Bool :=
  match x.outcome with
  | .error .endlessDefault => true
  | _ => false

theorem outcome_of_gaveUp {x : Decoded Value} (h : gaveUp x = true) :
    x.outcome = .error .endlessDefault := by
  unfold gaveUp at h
  split at h
  · assumption
  · cases h

/-- The outcome of a computation that has not given up. -/
def EndsIn (x : Decoded Value) (o : Except CodecError Value) : Prop :=
  x.outcome = o ∧ o ≠ .error .endlessDefault

theorem endsIn_decodeWith_iff :
    EndsIn (decodeWith c fallback wire ty) o ↔
      DecodesBy c (fun wire ty o => EndsIn (fallback wire ty) o) wire ty o := by
  constructor
  · rintro ⟨ho, hended⟩
    have hderived : DecodesBy c (fun wire ty o => (fallback wire ty).outcome = o) wire ty o :=
      ho ▸ decodesBy_decodeWith (fun _ _ => rfl) wire ty
    -- A default that gives up would be the outcome of the whole.
    have hrefine : OnDefaults c (fun wire ty o => (fallback wire ty).outcome = o) fun wire ty o =>
        EndsIn (fallback wire ty) o ∨ o = .error .endlessDefault ∧ True := by
      intro wire ty _ o ho
      by_cases h : o = .error .endlessDefault
      · exact .inr ⟨h, trivial⟩
      · exact .inl ⟨ho, h⟩
    rcases hderived.refine hrefine with hderived | ⟨hendless, _⟩
    · exact hderived
    · exact absurd hendless hended
  · intro hderived
    refine ⟨hderived.outcome fun _ _ _ _ h => h.1, ?_⟩
    intro hendless
    cases hderived.faultBy _ hendless with
    | fallback _ fault => exact fault.2 rfl

theorem decodesWithin_succ_iff (depth : Nat) :
    DecodesWithin c (depth + 1) wire ty o ↔ EndsIn (decodeWithin c depth wire ty) o := by
  induction depth generalizing wire ty o with
  | zero =>
    rw [decodeWithin, endsIn_decodeWith_iff]
    refine ⟨.mono fun _ _ _ _ h => h.elim, .mono fun _ _ _ _ h => ?_⟩
    exact h.2 h.1.symm
  | succ depth ih =>
    rw [decodeWithin, endsIn_decodeWith_iff]
    exact ⟨.mono fun _ _ _ _ h => ih.1 h, .mono fun _ _ _ _ h => ih.2 h⟩

theorem DecodesWithin.succ {depth : Nat} (h : DecodesWithin c depth wire ty o) :
    DecodesWithin c (depth + 1) wire ty o := by
  induction depth generalizing wire ty o with
  | zero => exact h.elim
  | succ depth ih => exact DecodesBy.mono (fun _ _ _ _ h => ih h) h

theorem DecodesWithin.mono {depth depth' : Nat} (hle : depth ≤ depth')
    (h : DecodesWithin c depth wire ty o) : DecodesWithin c depth' wire ty o := by
  induction hle with
  | refl => exact h
  | step _ ih => exact ih.succ

/-! ## All levels -/

theorem Decodes.of_within {depth : Nat} (h : DecodesWithin c depth wire ty o) :
    Decodes c wire ty o := by
  induction depth generalizing wire ty o with
  | zero => exact h.elim
  | succ depth ih => exact .intro (DecodesBy.mono (fun _ _ _ _ h => ih h) h)

mutual

theorem Decodes.eventually {wire : Json} {ty : DataType} {o : Except CodecError Value} :
    Decodes c wire ty o → ∀ᶠ depth in .atTop, DecodesWithin c depth wire ty o
  | .intro derived => by
    -- The defaults of the derivation stand one level further down.
    rw [← Filter.map_add_atTop_eq_nat 1, Filter.eventually_map]
    exact derived.eventually

theorem DecodesBy.eventually {wire : Json} {ty : DataType} {o : Except CodecError Value} :
    DecodesBy c (Decodes c) wire ty o →
      ∀ᶠ depth in .atTop, DecodesBy c (DecodesWithin c depth) wire ty o
  | .null ty => .of_forall fun _ => .null ty
  | .primitive wire kind => .of_forall fun _ => .primitive wire kind
  | .any wire => .of_forall fun _ => .any wire
  | .dateTime s => .of_forall fun _ => .dateTime s
  | .notText other => .of_forall fun _ => .notText other
  | .array each => each.eventually.mono fun _ => .array
  | .notArray element other => .of_forall fun _ => .notArray element other
  | .record found each => each.eventually.mono fun _ => .record found
  | .notObject found present other => .of_forall fun _ => .notObject found present other
  | .foreign unknown present => .of_forall fun _ => .foreign unknown present
  | .member tagged listed decodes => decodes.eventually.mono fun _ => .member tagged listed
  | .untagged mapping present untagged => .of_forall fun _ => .untagged mapping present untagged
  | .unlisted tagged unlisted => .of_forall fun _ => .unlisted tagged unlisted

theorem ItemsBy.eventually {element : DataType} {items : List Json}
    {o : Except CodecError (List Value)} :
    ItemsBy c (Decodes c) element items o →
      ∀ᶠ depth in .atTop, ItemsBy c (DecodesWithin c depth) element items o
  | .nil element => .of_forall fun _ => .nil element
  | .cons first others =>
    (first.eventually.and others.eventually).mono fun _ h => .cons h.1 h.2
  | .fault rest first => first.eventually.mono fun _ => .fault rest

theorem FieldsBy.eventually {entries : List (String × Json)} {fs : List Field} {r : Record}
    {o : Except CodecError Record} :
    FieldsBy c (Decodes c) entries fs r o →
      ∀ᶠ depth in .atTop, FieldsBy c (DecodesWithin c depth) entries fs r o
  | .nil entries r => .of_forall fun _ => .nil entries r
  | .cons first others =>
    (first.eventually.and others.eventually).mono fun _ h => .cons h.1 h.2
  | .fault rest r first => first.eventually.mono fun _ => .fault rest r

theorem FieldBy.eventually {entries : List (String × Json)} {f : Field}
    {o : Except CodecError (Option Value)} :
    FieldBy c (Decodes c) entries f o →
      ∀ᶠ depth in .atTop, FieldBy c (DecodesWithin c depth) entries f o
  | .entry stands decodes => decodes.eventually.mono fun _ => .entry stands
  | .fallback lacks default decodes => decodes.eventually.mono fun _ => .fallback lacks default
  | .held lacks default => .of_forall fun _ => .held lacks default
  | .absent lacks default => .of_forall fun _ => .absent lacks default

end

theorem decodes_iff_within : Decodes c wire ty o ↔ ∃ depth, DecodesWithin c depth wire ty o := by
  refine ⟨?_, fun ⟨_, h⟩ => .of_within h⟩
  intro h
  obtain ⟨depth, hdepth⟩ := Filter.eventually_atTop.1 h.eventually
  exact ⟨depth, hdepth depth le_rfl⟩

/-! ## The last level -/

theorem DecodesWithin.unique {depth depth' : Nat} {o' : Except CodecError Value}
    (h : DecodesWithin c depth wire ty o) (h' : DecodesWithin c depth' wire ty o') : o = o' := by
  have hends := (decodesWithin_succ_iff _).1 ((h.mono (Nat.le_max_left depth depth')).succ)
  have hends' := (decodesWithin_succ_iff _).1 ((h'.mono (Nat.le_max_right depth depth')).succ)
  exact hends.1.symm.trans hends'.1

/-- The field has a default, which ends with so many levels. -/
def DefaultEnds (c : Codec) (depth : Nat) (f : Field) : Prop :=
  ∃ wire, f.default = some (.wire wire) ∧ ∃ o, DecodesWithin c depth wire f.type o

theorem DefaultEnds.mono {depth depth' : Nat} (hle : depth ≤ depth') {f : Field}
    (h : DefaultEnds c depth f) : DefaultEnds c depth' f :=
  have ⟨wire, default, o, ho⟩ := h
  ⟨wire, default, o, ho.mono hle⟩

open Classical in
/-- The fields whose defaults end with so many levels. -/
noncomputable def endedDefaults (c : Codec) (depth : Nat) : List Field :=
  (c.registry.records.flatMap (·.fields)).filter (DefaultEnds c depth ·)

theorem mem_endedDefaults {depth : Nat} {f : Field} :
    f ∈ endedDefaults c depth ↔ IsField c f ∧ DefaultEnds c depth f := by
  classical
  rw [endedDefaults, List.mem_filter, List.mem_flatMap, decide_eq_true_eq, IsField]

theorem endedDefaults_sublist {depth depth' : Nat}
    (h : ∀ f, DefaultEnds c depth f → DefaultEnds c depth' f) :
    (endedDefaults c depth).Sublist (endedDefaults c depth') := by
  classical
  refine List.monotone_filter_right _ fun f hf => ?_
  rw [decide_eq_true_eq] at hf ⊢
  exact h f hf

theorem length_endedDefaults_le (c : Codec) (depth : Nat) :
    (endedDefaults c depth).length ≤ defaultDepth c.registry := by
  classical
  rw [endedDefaults, ← List.countP_eq_length_filter]
  refine List.countP_mono_left fun f _ h => ?_
  obtain ⟨wire, default, _⟩ := of_decide_eq_true h
  rw [default]

theorem decodesWithin_of_length_eq {depth : Nat}
    (h : (endedDefaults c depth).length = (endedDefaults c (depth + 1)).length)
    (hwithin : DecodesWithin c (depth + 2) wire ty o) : DecodesWithin c (depth + 1) wire ty o := by
  have hsame : endedDefaults c depth = endedDefaults c (depth + 1) :=
    (endedDefaults_sublist fun f hf => hf.mono depth.le_succ).eq_of_length h
  refine DecodesBy.mono ?_ hwithin
  rintro wire _ ⟨f, field, default, rfl⟩ o hdefault
  have hended : f ∈ endedDefaults c depth := by
    rw [hsame, mem_endedDefaults]
    exact ⟨field, wire, default, o, hdefault⟩
  obtain ⟨_, wire', default', o', ho'⟩ := mem_endedDefaults.1 hended
  obtain rfl : wire' = wire := by
    rw [default] at default'
    cases default'
    rfl
  obtain rfl := ho'.unique hdefault
  exact ho'

/-- With as many levels as there are defaults, every one ends that ends at all. -/
theorem length_endedDefaults_eq {depth : Nat} (hle : defaultDepth c.registry ≤ depth) :
    (endedDefaults c depth).length = (endedDefaults c (depth + 1)).length := by
  have hmono : Monotone fun n => (endedDefaults c n).length := fun n m hnm =>
    (endedDefaults_sublist fun f hf => hf.mono hnm).length_le
  -- A level at which no further default ends is followed by others like it.
  have hstable : ∀ n, (endedDefaults c n).length = (endedDefaults c (n + 1)).length →
      (endedDefaults c (n + 1)).length = (endedDefaults c (n + 2)).length := by
    intro n hn
    refine Nat.le_antisymm (hmono (Nat.le_succ _)) (endedDefaults_sublist ?_).length_le
    rintro f ⟨wire, default, o, ho⟩
    exact ⟨wire, default, o, decodesWithin_of_length_eq hn ho⟩
  have hlast : ∀ n, defaultDepth c.registry ≤ n →
      (endedDefaults c n).length = (endedDefaults c (defaultDepth c.registry)).length := fun n hn =>
    Nat.stabilises_of_monotone hmono (length_endedDefaults_le c) hstable hn
  rw [hlast depth hle, hlast (depth + 1) (Nat.le_succ_of_le hle)]

theorem DecodesWithin.of_deeper {depth : Nat} (h : DecodesWithin c depth wire ty o) :
    DecodesWithin c (defaultDepth c.registry + 1) wire ty o := by
  have hless : ∀ n, DecodesWithin c (defaultDepth c.registry + n + 1) wire ty o →
      DecodesWithin c (defaultDepth c.registry + 1) wire ty o := by
    intro n hn
    induction n with
    | zero => exact hn
    | succ n ih =>
      have hequal := @length_endedDefaults_eq c _ (Nat.le_add_right (defaultDepth c.registry) n)
      exact ih (decodesWithin_of_length_eq hequal hn)
  refine hless depth (h.mono ?_)
  exact Nat.le_succ_of_le (Nat.le_add_left _ _)

/-- The decoder computes what the rules derive, and gives up only where they derive nothing. -/
theorem decodes_iff :
    Decodes c wire ty o ↔ EndsIn (c.decode wire ty) o := by
  rw [decodes_iff_within]
  constructor
  · rintro ⟨depth, h⟩
    exact (decodesWithin_succ_iff _).1 h.of_deeper
  · intro h
    exact ⟨_, (decodesWithin_succ_iff _).2 h⟩

/-- Decoding ends for every payload and every type exactly if it ends for the defaults of the
registry's own fields, which running the decoder on them tells. -/
theorem decodes_total_iff (c : Codec) :
    (∀ wire ty, ∃ o, Decodes c wire ty o) ↔
      ∀ record ∈ c.registry.records, ∀ f ∈ record.fields, ∀ wire,
        f.default = some (.wire wire) →
          (c.decode wire f.type).outcome ≠ .error .endlessDefault := by
  constructor
  · intro h record _ f _ wire _
    obtain ⟨o, ho⟩ := h wire f.type
    obtain ⟨rfl, hended⟩ := decodes_iff.1 ho
    exact hended
  · intro h wire ty
    have hderived : DecodesBy c (fun wire ty o => (c.decode wire ty).outcome = o) wire ty
        (decodeWith c c.decode wire ty).outcome := decodesBy_decodeWith (fun _ _ => rfl) wire ty
    -- The payload is taken apart by the rules in any case, and its defaults end by assumption.
    refine ⟨_, .intro (hderived.mono ?_)⟩
    rintro wire _ ⟨f, ⟨record, hrecord, hf⟩, default, rfl⟩ o rfl
    exact decodes_iff.2 ⟨rfl, h record hrecord f hf wire default⟩

/-! ## A default that needs itself -/

/-- A node has a next node, by default one that leaves out its next. -/
def chainNode : String × Json :=
  ("Node", .object [("type", .string "object"), ("properties", .object [("next", .object
    [("allOf", .array [Registry.referTo "Node"]), ("default", .object [])])])])

theorem chainNode_endless :
    (Registry.ofJson? (Registry.documentOf [chainNode])).map (fun r =>
      [NameMode.wire, .local].map fun mode =>
        gaveUp (decode ⟨r, mode⟩ (.object []) (.record ⟨0⟩))) = some [true, true] := by
  decide +kernel

/-- The empty object is no node, in either mode: its next would be an empty object again. -/
theorem chainNode_decodes_to_nothing :
    ∃ doc r, Document.ofJson (Registry.documentOf [chainNode]) = .ok doc ∧
      (Registry.build doc).outcome = .ok r ∧
      ∀ mode, ¬∃ o, Decodes ⟨r, mode⟩ (.object []) (.record ⟨0⟩) o := by
  obtain ⟨r, hr, hendless⟩ := Option.map_eq_some_iff.1 chainNode_endless
  obtain ⟨doc, hread, hbuilt⟩ := Registry.ofJson?_eq_some hr
  refine ⟨doc, r, hread, hbuilt, ?_⟩
  rintro mode ⟨o, ho⟩
  obtain ⟨rfl, hended⟩ := decodes_iff.1 ho
  simp only [List.map_cons, List.map_nil, List.cons.injEq] at hendless
  cases mode with
  | wire => exact hended (outcome_of_gaveUp hendless.1)
  | «local» => exact hended (outcome_of_gaveUp hendless.2.1)

end OpenApi.Codec
