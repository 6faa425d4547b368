import OpenApi.Proofs.Codec.Decodes
import OpenApi.Proofs.DataType
import OpenApi.Proofs.Json.Typed

/-!
# What decoding can end in

Where a fault comes from, and what can be said of a decoded value by induction on how it was
decoded.
-/

namespace OpenApi.Codec

variable {c : Codec} {defaults defaults' : Json → DataType → Except CodecError Value → Prop}

/-! ## Other defaults -/

section Refine

variable {e : CodecError} {bad : Prop}

mutual

theorem DecodesBy.refine
    (h : OnDefaults c defaults fun wire ty o => defaults' wire ty o ∨ o = .error e ∧ bad)
    {wire : Json} {ty : DataType} {o : Except CodecError Value} :
    DecodesBy c defaults wire ty o → DecodesBy c defaults' wire ty o ∨ o = .error e ∧ bad
  | .null ty => .inl (.null ty)
  | .primitive wire kind => .inl (.primitive wire kind)
  | .any wire => .inl (.any wire)
  | .dateTime s => .inl (.dateTime s)
  | .notText other => .inl (.notText other)
  | .array each => (each.refine h).imp .array fun ⟨he, hbad⟩ => ⟨by rw [he]; rfl, hbad⟩
  | .notArray element other => .inl (.notArray element other)
  | .record found each =>
    (each.refine h (isField_of_found found)).imp (.record found)
      fun ⟨he, hbad⟩ => ⟨by rw [he]; rfl, hbad⟩
  | .notObject found present other => .inl (.notObject found present other)
  | .foreign unknown present => .inl (.foreign unknown present)
  | .member tagged listed decodes => (decodes.refine h).imp_left (.member tagged listed)
  | .untagged mapping present untagged => .inl (.untagged mapping present untagged)
  | .unlisted tagged unlisted => .inl (.unlisted tagged unlisted)

theorem ItemsBy.refine
    (h : OnDefaults c defaults fun wire ty o => defaults' wire ty o ∨ o = .error e ∧ bad)
    {element : DataType} {items : List Json} {o : Except CodecError (List Value)} :
    ItemsBy c defaults element items o → ItemsBy c defaults' element items o ∨ o = .error e ∧ bad
  | .nil element => .inl (.nil element)
  | .cons first others => by
    rcases first.refine h with hfirst | ⟨he, _⟩
    · exact (others.refine h).imp (.cons hfirst) fun ⟨he, hbad⟩ => ⟨by rw [he]; rfl, hbad⟩
    · cases he
  | .fault rest first =>
    (first.refine h).imp (.fault rest) fun ⟨he, hbad⟩ => ⟨by rw [Except.error.inj he], hbad⟩

theorem FieldsBy.refine
    (h : OnDefaults c defaults fun wire ty o => defaults' wire ty o ∨ o = .error e ∧ bad)
    {entries : List (String × Json)} {fs : List Field} {r : Record} {o : Except CodecError Record}
    (fields : ∀ f ∈ fs, IsField c f) :
    FieldsBy c defaults entries fs r o → FieldsBy c defaults' entries fs r o ∨ o = .error e ∧ bad
  | .nil entries r => .inl (.nil entries r)
  | .cons first others => by
    rcases first.refine h (fields _ List.mem_cons_self) with hfirst | ⟨he, _⟩
    · exact (others.refine h fun f hf => fields f (List.mem_cons_of_mem _ hf)).imp_left
        (.cons hfirst)
    · cases he
  | .fault rest r first =>
    (first.refine h (fields _ List.mem_cons_self)).imp (.fault rest r)
      fun ⟨he, hbad⟩ => ⟨by rw [Except.error.inj he], hbad⟩

theorem FieldBy.refine
    (h : OnDefaults c defaults fun wire ty o => defaults' wire ty o ∨ o = .error e ∧ bad)
    {entries : List (String × Json)} {f : Field} {o : Except CodecError (Option Value)}
    (field : IsField c f) :
    FieldBy c defaults entries f o → FieldBy c defaults' entries f o ∨ o = .error e ∧ bad
  | .entry stands decodes =>
    (decodes.refine h).imp (.entry stands) fun ⟨he, hbad⟩ => ⟨by rw [he]; rfl, hbad⟩
  | .fallback lacks default decodes =>
    (h _ _ ⟨_, field, default, rfl⟩ _ decodes).imp (.fallback lacks default)
      fun ⟨he, hbad⟩ => ⟨by rw [he]; rfl, hbad⟩
  | .held lacks default => .inl (.held lacks default)
  | .absent lacks default => .inl (.absent lacks default)

end

end Refine

theorem DecodesBy.mono (h : OnDefaults c defaults defaults') {wire : Json} {ty : DataType}
    {o : Except CodecError Value} (derived : DecodesBy c defaults wire ty o) :
    DecodesBy c defaults' wire ty o := by
  -- No fault is excepted here, so that it does not matter which one is named.
  have hrefine : OnDefaults c defaults fun wire ty o =>
      defaults' wire ty o ∨ o = .error .endlessDefault ∧ False :=
    fun wire ty hdefault o ho => .inl (h wire ty hdefault o ho)
  rcases derived.refine hrefine with hderived | ⟨_, hfalse⟩
  · exact hderived
  · exact hfalse.elim

/-! ## Faults -/

/-- The record stands in the type, or in the type of a field of the registry. -/
def Reaches (c : Codec) (ty : DataType) (id : RecordId) : Prop :=
  ty.Mentions id ∨ ∃ f, IsField c f ∧ f.type.Mentions id

/-- What a fault of decoding under a type comes from: the payload, a record of the type that is not
in the registry, or the default of a field. -/
inductive FaultBy (c : Codec) (defaults : Json → DataType → Except CodecError Value → Prop)
    (ty : DataType) : CodecError → Prop where
  | discriminatorMissing (field : String) : FaultBy c defaults ty (.discriminatorMissing field)
  | unknownTag (tag : String) : FaultBy c defaults ty (.unknownTag tag)
  | invalidDateTime (text : String) (fault : DateTime.Fault) :
      FaultBy c defaults ty (.invalidDateTime text fault)
  | expectedObject (record : String) : FaultBy c defaults ty (.expectedObject record)
  | foreignRecord {id : RecordId} (reached : Reaches c ty id)
      (unknown : c.registry.record? id = none) : FaultBy c defaults ty (.foreignRecord id)
  | fallback {wire : Json} {ty' : DataType} {e : CodecError} (default : IsDefault c wire ty')
      (fault : defaults wire ty' (.error e)) : FaultBy c defaults ty e

theorem FaultBy.mono {ty ty' : DataType} {e : CodecError}
    (h : ∀ id, ty.Mentions id → Reaches c ty' id) (fault : FaultBy c defaults ty e) :
    FaultBy c defaults ty' e := by
  cases fault with
  | foreignRecord reached unknown =>
    exact .foreignRecord (reached.elim (h _) .inr) unknown
  | discriminatorMissing field => exact .discriminatorMissing field
  | unknownTag tag => exact .unknownTag tag
  | invalidDateTime text fault => exact .invalidDateTime text fault
  | expectedObject record => exact .expectedObject record
  | fallback default fault => exact .fallback default fault

theorem faultBy_of_payloadTag {field : String} {wire : Json} {e : CodecError} (ty : DataType)
    (h : c.payloadTag field wire = .error e) : FaultBy c defaults ty e := by
  unfold payloadTag at h
  split at h
  · cases h
  · cases h
    exact .discriminatorMissing _

theorem faultBy_of_readDateTime {s : String} {e : CodecError} (ty : DataType)
    (h : readDateTime s = .error e) : FaultBy c defaults ty e := by
  unfold readDateTime at h
  cases hread : DateTime.ofText s with
  | ok t =>
    rw [hread] at h
    cases h
  | error fault =>
    rw [hread] at h
    cases h
    exact .invalidDateTime s fault

mutual

theorem DecodesBy.faultBy {wire : Json} {ty : DataType} {o : Except CodecError Value} :
    DecodesBy c defaults wire ty o → ∀ e, o = .error e → FaultBy c defaults ty e
  | .null ty, _, h | .primitive _ _, _, h | .any _, _, h | .notText _, _, h | .notArray _ _, _, h =>
    nomatch h
  | .dateTime s, e, h => faultBy_of_readDateTime _ (error_of_map h)
  | .array each, e, h =>
    (each.faultBy e (error_of_map h)).mono fun _ hid => .inl (.array hid)
  | .record found each, e, h => each.faultBy (isField_of_found found) _ e (error_of_map h)
  | .notObject found present other, e, h => by
    cases h
    exact .expectedObject _
  | .foreign unknown present, e, h => by
    cases h
    exact .foreignRecord (.inl (.record _)) unknown
  | .member tagged listed decodes, e, h =>
    (decodes.faultBy e h).mono fun _ hid => .inl (.of_get? listed hid)
  | .untagged mapping present untagged, e, h => by
    cases h
    exact faultBy_of_payloadTag _ untagged
  | .unlisted tagged unlisted, e, h => by
    cases h
    exact .unknownTag _

theorem ItemsBy.faultBy {element : DataType} {items : List Json}
    {o : Except CodecError (List Value)} :
    ItemsBy c defaults element items o → ∀ e, o = .error e → FaultBy c defaults element e
  | .nil _, _, h => nomatch h
  | .cons _ others, e, h => others.faultBy e (error_of_map h)
  | .fault _ first, e, h => first.faultBy e (congrArg Except.error (Except.error.inj h))

theorem FieldsBy.faultBy {entries : List (String × Json)} {fs : List Field} {r : Record}
    {o : Except CodecError Record} (fields : ∀ f ∈ fs, IsField c f) (ty : DataType) :
    FieldsBy c defaults entries fs r o → ∀ e, o = .error e → FaultBy c defaults ty e
  | .nil _ _, _, h => nomatch h
  | .cons _ others, e, h =>
    others.faultBy (fun f hf => fields f (List.mem_cons_of_mem _ hf)) ty e h
  | .fault _ _ first, e, h =>
    first.faultBy (fields _ List.mem_cons_self) ty e (congrArg Except.error (Except.error.inj h))

theorem FieldBy.faultBy {entries : List (String × Json)} {f : Field}
    {o : Except CodecError (Option Value)} (field : IsField c f) (ty : DataType) :
    FieldBy c defaults entries f o → ∀ e, o = .error e → FaultBy c defaults ty e
  | .entry _ decodes, e, h =>
    (decodes.faultBy e (error_of_map h)).mono fun _ hid => .inr ⟨f, field, hid⟩
  | .fallback _ default decodes, _, h =>
    .fallback ⟨f, field, default, rfl⟩ (error_of_map h ▸ decodes)
  | .held _ _, _, h | .absent _ _, _, h => nomatch h

end

end OpenApi.Codec
