import OpenApi.Proofs.Codec.Decodes
import OpenApi.Proofs.Codec.RoundTrip

/-!
# What the decoder does not read

Of an object that stands for a record only the declared fields are read, and its tag where it stands
for a union. The order of the keys and all other keys have no part in the result, so that a server
may add to what it sends.
-/

namespace OpenApi.Codec

/-- Payloads that agree on all that the type declares. -/
inductive Alike (c : Codec) : DataType → Json → Json → Prop where
  | refl (ty : DataType) (wire : Json) : Alike c ty wire wire
  | array {element : DataType} {items items' : List Json} (length : items.length = items'.length)
      (each : ∀ p ∈ items.zip items', Alike c element p.1 p.2) :
      Alike c (.array element) (.array items) (.array items')
  /-- A declared key stands in both objects or in neither. -/
  | record {id : RecordId} {entries entries' : List (String × Json)}
      (stands : ∀ f, Declares c id f →
        OrderedMap.contains entries (c.fieldKey f) = OrderedMap.contains entries' (c.fieldKey f))
      (each : ∀ f, Declares c id f → ∀ v v',
        OrderedMap.get? entries (c.fieldKey f) = some v →
        OrderedMap.get? entries' (c.fieldKey f) = some v' → Alike c f.type v v') :
      Alike c (.record id) (.object entries) (.object entries')
  /-- The tag is the same, and the payloads agree on all that its member declares. -/
  | union {field : String} {mapping : OrderedMap String DataType} {wire wire' : Json}
      (present : wire ≠ .null) (present' : wire' ≠ .null)
      (tagged : wire.field? (c.tagKey field) = wire'.field? (c.tagKey field))
      (member : ∀ tag ty, c.payloadTag field wire = .ok tag →
        OrderedMap.get? mapping tag = some ty → Alike c ty wire wire') :
      Alike c (.union field mapping) wire wire'

variable {c : Codec} {fallback : Json → DataType → Decoded Value}

theorem alike_record_of_found {id : RecordId} {record : RecordType}
    {entries entries' : List (String × Json)} (found : c.registry.record? id = some record)
    (each : ∀ f ∈ record.fields, Option.Rel (Alike c f.type)
      (OrderedMap.get? entries (c.fieldKey f)) (OrderedMap.get? entries' (c.fieldKey f))) :
    Alike c (.record id) (.object entries) (.object entries') := by
  have heach : ∀ f, Declares c id f → Option.Rel (Alike c f.type)
      (OrderedMap.get? entries (c.fieldKey f)) (OrderedMap.get? entries' (c.fieldKey f)) := by
    rintro f ⟨record', found', hf⟩
    obtain rfl := Option.some.inj (found.symm.trans found')
    exact each f hf
  refine .record (fun f hf => ?_) fun f hf v v' hv hv' => ?_
  · have hrel := heach f hf
    unfold OrderedMap.contains
    generalize OrderedMap.get? entries (c.fieldKey f) = entry at hrel ⊢
    generalize OrderedMap.get? entries' (c.fieldKey f) = entry' at hrel ⊢
    cases hrel <;> rfl
  · have hrel := heach f hf
    rw [hv, hv'] at hrel
    cases hrel with
    | some h => exact h

/-! ## Parts that decode alike -/

theorem decodeItems_congr {element : DataType} {items items' : List Json}
    (length : items.length = items'.length)
    (each : ∀ p ∈ items.zip items',
      decodeWith c fallback p.1 element = decodeWith c fallback p.2 element) :
    decodeItems c fallback items element = decodeItems c fallback items' element := by
  induction items generalizing items' with
  | nil =>
    obtain rfl := List.eq_nil_of_length_eq_zero length.symm
    rfl
  | cons v rest ih =>
    cases items' with
    | nil => cases length
    | cons v' rest' =>
      obtain ⟨hfirst, hothers⟩ := List.forall_mem_cons.1 each
      rw [decodeItems, decodeItems, hfirst, ih (Nat.succ.inj length) hothers]

theorem decodeFields_congr {parts parts' : OrderedMap String (DataType → Decoded Value)}
    {fs : List Field}
    (each : ∀ f ∈ fs, (OrderedMap.get? parts (c.fieldKey f)).map (· f.type) =
      (OrderedMap.get? parts' (c.fieldKey f)).map (· f.type)) (r : Record) :
    decodeFields c fallback parts fs r = decodeFields c fallback parts' fs r := by
  induction fs generalizing r with
  | nil => rfl
  | cons f rest ih =>
    obtain ⟨hf, hrest⟩ := List.forall_mem_cons.1 each
    have hnext : ∀ r, decodeFields c fallback parts rest r = decodeFields c fallback parts' rest r :=
      ih hrest
    rw [decodeFields, decodeFields]
    cases hpart : OrderedMap.get? parts (c.fieldKey f) with
    | none =>
      rw [hpart, Option.map_none] at hf
      rw [Option.map_eq_none_iff.1 hf.symm]
      cases f.default with
      | none => exact hnext r
      | some default => cases default <;> simp only [hnext]
    | some part =>
      rw [hpart, Option.map_some] at hf
      obtain ⟨part', hpart', htype⟩ := Option.map_eq_some_iff.1 hf.symm
      simp only [hpart', htype, hnext]

theorem decodeWith_record_congr {id : RecordId} {entries entries' : List (String × Json)}
    (each : ∀ f, Declares c id f →
      (OrderedMap.get? entries (c.fieldKey f)).map (decodeWith c fallback · f.type) =
        (OrderedMap.get? entries' (c.fieldKey f)).map (decodeWith c fallback · f.type)) :
    decodeWith c fallback (.object entries) (.record id) =
      decodeWith c fallback (.object entries') (.record id) := by
  have hparts : decodeRecordParts c fallback (fieldParts c fallback entries) id =
      decodeRecordParts c fallback (fieldParts c fallback entries') id := by
    unfold decodeRecordParts
    cases hfound : c.registry.record? id with
    | none =>
      rw [Codec.record, hfound]
      rfl
    | some record =>
      have hfields : ∀ r, decodeFields c fallback (fieldParts c fallback entries) record.fields r =
          decodeFields c fallback (fieldParts c fallback entries') record.fields r := by
        refine decodeFields_congr fun f hf => ?_
        rw [get?_fieldParts, get?_fieldParts, Option.map_map, Option.map_map]
        exact each f ⟨record, hfound, hf⟩
      rw [record_of_found hfound]
      exact hfields ⟨id, record.name, []⟩
  change (decodeRecordParts c fallback (fieldParts c fallback entries) id >>= _) =
    (decodeRecordParts c fallback (fieldParts c fallback entries') id >>= _)
  rw [hparts]

theorem payloadTag_congr {field : String} {wire wire' : Json}
    (tagged : wire.field? (c.tagKey field) = wire'.field? (c.tagKey field)) :
    c.payloadTag field wire = c.payloadTag field wire' := by
  rw [payloadTag, tagged, payloadTag]

/-! ## Payloads -/

theorem decodeWith_congr_of_select_error {wire wire' : Json} {ty : DataType} {e : CodecError}
    (present : wire ≠ .null) (present' : wire' ≠ .null) (h : c.select wire ty = .error e)
    (h' : c.select wire' ty = .error e) :
    decodeWith c fallback wire ty = decodeWith c fallback wire' ty := by
  have hthrow : ∀ {wire}, wire ≠ .null → c.select wire ty = .error e →
      decodeWith c fallback wire ty = ⟨[], .error e⟩ := by
    intro wire present h
    obtain ⟨parts, hparts⟩ := @exists_parts c fallback wire present
    rw [hparts]
    unfold decodeParts
    rw [h]
    rfl
  rw [hthrow present h, hthrow present' h']

theorem decodeWith_union_congr {field : String} {mapping : OrderedMap String DataType}
    {wire wire' : Json} (present : wire ≠ .null) (present' : wire' ≠ .null)
    (tagged : wire.field? (c.tagKey field) = wire'.field? (c.tagKey field))
    (member : ∀ tag ty, c.payloadTag field wire = .ok tag →
      OrderedMap.get? mapping tag = some ty →
      decodeWith c fallback wire ty = decodeWith c fallback wire' ty) :
    decodeWith c fallback wire (.union field mapping) =
      decodeWith c fallback wire' (.union field mapping) := by
  have hsame := payloadTag_congr tagged
  cases htag : c.payloadTag field wire with
  | error e =>
    have hselect : ∀ {wire}, c.payloadTag field wire = .error e →
        c.select wire (.union field mapping) = .error e := by
      intro wire h
      rw [select, h]
      rfl
    exact decodeWith_congr_of_select_error present present' (hselect htag)
      (hselect (hsame.symm.trans htag))
  | ok tag =>
    cases hlisted : OrderedMap.get? mapping tag with
    | none =>
      have hselect : ∀ {wire}, c.payloadTag field wire = .ok tag →
          c.select wire (.union field mapping) = .error (.unknownTag tag) := by
        intro wire h
        rw [select, h]
        exact selectMember_of_unlisted wire hlisted
      exact decodeWith_congr_of_select_error present present' (hselect htag)
        (hselect (hsame.symm.trans htag))
    | some ty =>
      rw [decodeWith_congr (select_union htag hlisted),
        decodeWith_congr (select_union (hsame.symm.trans htag) hlisted)]
      exact member tag ty htag hlisted

theorem decodeWith_eq_of_alike {ty : DataType} {wire wire' : Json} (h : Alike c ty wire wire') :
    decodeWith c fallback wire ty = decodeWith c fallback wire' ty := by
  induction h with
  | refl ty wire => rfl
  | @array element items items' length each ih =>
    have hitems : decodeItems c fallback items element = decodeItems c fallback items' element :=
      decodeItems_congr length ih
    change (decodeItems c fallback items element >>= fun vs => pure (Value.array vs)) =
      (decodeItems c fallback items' element >>= fun vs => pure (Value.array vs))
    rw [hitems]
  | @record id entries entries' stands each ih =>
    refine decodeWith_record_congr fun f hf => ?_
    have hstands := stands f hf
    unfold OrderedMap.contains at hstands
    cases hentry : OrderedMap.get? entries (c.fieldKey f) with
    | none =>
      rw [hentry, Option.isSome_none, eq_comm, Option.isSome_eq_false_iff,
        Option.isNone_iff_eq_none] at hstands
      rw [hstands]
    | some v =>
      rw [hentry, Option.isSome_some, eq_comm, Option.isSome_iff_exists] at hstands
      obtain ⟨v', hentry'⟩ := hstands
      rw [hentry']
      exact congrArg some (ih f hf v v' hentry hentry')
  | union present present' tagged member ih =>
    exact decodeWith_union_congr present present' tagged ih

/-- Payloads that agree on all that the type declares are decoded to the same value, or fail in the
same way, with the same notices. -/
theorem decode_eq_of_alike (c : Codec) {ty : DataType} {wire wire' : Json}
    (h : Alike c ty wire wire') : c.decode wire ty = c.decode wire' ty := by
  unfold decode
  cases defaultDepth c.registry with
  | zero => exact decodeWith_eq_of_alike h
  | succ depth => exact decodeWith_eq_of_alike h

section Newcomer

/-- A cat with a dog in its litter. -/
def motherCat : Json :=
  .object
    [("pet_type", .string "a"), ("nick_name", .string "Tom"),
      ("litter", .array [.object [("pet_type", .string "b"), ("good_boy", .bool true)]])]

/-- The same cat from a server that tells more of it and of the dog. -/
def collaredCat : Json :=
  .object
    [("collar", .string "red"),
      ("litter", .array
        [.object [("good_boy", .bool true), ("age", .ofNat 3), ("pet_type", .string "b")]]),
      ("nick_name", .string "Tom"), ("pet_type", .string "a")]

theorem motherCat_alike : Alike cattery petType motherCat collaredCat := by
  refine .union (by simp [motherCat]) (by simp [collaredCat]) rfl fun tag ty htag hlisted => ?_
  obtain rfl : "a" = tag := Except.ok.inj htag
  obtain rfl := Option.some.inj hlisted
  refine alike_record_of_found rfl fun f hf => ?_
  simp only [List.mem_cons, List.not_mem_nil, or_false] at hf
  rcases hf with rfl | rfl | rfl | rfl
  · exact .some (.refl _ _)
  · exact .some (.refl _ _)
  · exact .none
  · refine .some (.array rfl fun p hp => ?_)
    obtain rfl := List.mem_singleton.1 hp
    refine .union (by simp) (by simp) rfl fun tag ty htag hlisted => ?_
    obtain rfl : "b" = tag := Except.ok.inj htag
    obtain rfl := Option.some.inj hlisted
    refine alike_record_of_found rfl fun f hf => ?_
    obtain rfl := List.mem_singleton.1 hf
    exact .some (.refl _ _)

theorem decode_eq_of_alike_motherCat :
    Alike cattery petType motherCat collaredCat ∧
      cattery.decode motherCat petType = cattery.decode collaredCat petType :=
  ⟨motherCat_alike, decode_eq_of_alike cattery motherCat_alike⟩

end Newcomer

end OpenApi.Codec
