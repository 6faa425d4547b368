import OpenApi.Proofs.Codec.MemberTags
import OpenApi.Proofs.Registry.History

/-!
# The shape of encoded records

An encoded record has one entry for each field that is set or may not be left out, in the order of
the fields, and no other. As a member of a union it has its tag besides.
-/

namespace OpenApi.Codec

open Json.Typed (bind_eq_ok_iff)

variable {c : Codec} {record : RecordType} {v : Record} {fs : List Field} {f : Field}
  {out out' : OrderedMap String Json} {key tag : String}

/-! ## Entries -/

/-- The fields that are written: those that are set, and those that are required or nullable. -/
def shown (record : RecordType) (v : Record) (fs : List Field) : List Field :=
  fs.filter fun f => (v.get? f.localName).isSome || record.isRequired f.localName ||
    record.isNullable f.localName

/-- The entry of a field: its value, encoded under the type of the field, or null. -/
structure EntryOf (c : Codec) (v : Record) (f : Field) (entry : String × Json) : Prop where
  key : entry.1 = c.fieldKey f
  value : match v.get? f.localName with
    | some x => c.encode x f.type = .ok entry.2
    | none => entry.2 = .null

theorem shown_cons_set {x : Value} (set : v.get? f.localName = some x) (fs : List Field) :
    shown record v (f :: fs) = f :: shown record v fs :=
  List.filter_cons_of_pos (by simp [set])

theorem shown_cons_unset (unset : v.get? f.localName = none) (fs : List Field) :
    shown record v (f :: fs) =
      if record.isOptional f.localName then shown record v fs else f :: shown record v fs := by
  unfold shown RecordType.isOptional
  rw [List.filter_cons, unset]
  cases record.isRequired f.localName <;> cases record.isNullable f.localName <;> rfl

theorem encodeFields_step (once : (OrderedMap.keys v.fields).Nodup)
    (new : c.fieldKey f ∉ OrderedMap.keys out) :
    encodeFields c record (encodeParts c v.fields) (f :: fs) out =
      match v.get? f.localName with
      | some x => do
        let j ← c.encode x f.type
        encodeFields c record (encodeParts c v.fields) fs (out ++ [(c.fieldKey f, j)])
      | none =>
        if record.isOptional f.localName then
          encodeFields c record (encodeParts c v.fields) fs out
        else encodeFields c record (encodeParts c v.fields) fs
          (out ++ [(c.fieldKey f, .null)]) := by
  have hget : OrderedMap.get? (encodeParts c v.fields) f.localName =
      (v.get? f.localName).map (encode c) :=
    get?_encodeParts once f.localName
  rw [encodeFields, hget]
  cases v.get? f.localName with
  | none => simp only [Option.map_none, OrderedMap.insert_eq_append new]
  | some x => simp only [Option.map_some, OrderedMap.insert_eq_append new]

theorem encodeFields_shape (once : (OrderedMap.keys v.fields).Nodup)
    (keys : (fs.map c.fieldKey).Nodup) (new : ∀ f ∈ fs, c.fieldKey f ∉ OrderedMap.keys out)
    (h : encodeFields c record (encodeParts c v.fields) fs out = .ok out') :
    ∃ entries, out' = out ++ entries ∧
      List.Forall₂ (EntryOf c v) (shown record v fs) entries := by
  induction fs generalizing out with
  | nil =>
    cases h
    exact ⟨[], (List.append_nil _).symm, .nil⟩
  | cons f rest ih =>
    obtain ⟨hf, hrest⟩ := List.nodup_cons.1 keys
    obtain ⟨hnew, hnews⟩ := List.forall_mem_cons.1 new
    have hnext : ∀ j, ∀ g ∈ rest, c.fieldKey g ∉ OrderedMap.keys (out ++ [(c.fieldKey f, j)]) := by
      intro j g hg hmem
      rw [OrderedMap.keys, List.map_append, List.mem_append] at hmem
      rcases hmem with hmem | hmem
      · exact hnews g hg hmem
      · have hsame : c.fieldKey g = c.fieldKey f := List.mem_singleton.1 hmem
        exact hf (hsame ▸ List.mem_map_of_mem hg)
    rw [encodeFields_step once hnew] at h
    cases hv : v.get? f.localName with
    | some x =>
      rw [hv] at h
      obtain ⟨j, hj, h⟩ := bind_eq_ok_iff.1 h
      obtain ⟨entries, rfl, hentries⟩ := ih hrest (hnext j) h
      rw [shown_cons_set hv, List.append_assoc]
      exact ⟨_, rfl, .cons ⟨rfl, by rw [hv]; exact hj⟩ hentries⟩
    | none =>
      rw [hv] at h
      rw [shown_cons_unset hv]
      by_cases hoptional : record.isOptional f.localName = true
      · simp only [if_pos hoptional] at h ⊢
        exact ih hrest hnews h
      · simp only [if_neg hoptional] at h ⊢
        obtain ⟨entries, rfl, hentries⟩ := ih hrest (hnext .null) h
        rw [List.append_assoc]
        exact ⟨_, rfl, .cons ⟨rfl, by rw [hv]⟩ hentries⟩

theorem keys_of_entries (h : List.Forall₂ (EntryOf c v) fs out) :
    OrderedMap.keys out = fs.map c.fieldKey := by
  induction h with
  | nil => rfl
  | cons entry _ ih =>
    rw [List.map_cons, ← ih, ← entry.key]
    rfl

/-! ## Tags -/

/-- The entries of a member of a union: a tag that is there stands, one that is null is set where it
is, and one that is not there is added at the end. -/
inductive Tagged (key tag : String) (out : OrderedMap String Json) :
    OrderedMap String Json → Prop where
  | held {j : Json} (mem : (key, j) ∈ out) (present : j.isNull = false) : Tagged key tag out out
  | set {before after : OrderedMap String Json} (split : out = before ++ (key, .null) :: after) :
      Tagged key tag out (before ++ (key, .string tag) :: after)
  | added (new : key ∉ OrderedMap.keys out) : Tagged key tag out (out ++ [(key, .string tag)])

theorem tagged_insert (unset : ∀ j, OrderedMap.get? out key = some j → j.isNull = true) :
    Tagged key tag out (out.insert key (.string tag)) := by
  cases hget : OrderedMap.get? out key with
  | none =>
    have hnew : key ∉ OrderedMap.keys out := (OrderedMap.get?_eq_none_iff out key).1 hget
    rw [OrderedMap.insert_eq_append hnew]
    exact .added hnew
  | some j =>
    obtain ⟨before, after, rfl, hnew⟩ := OrderedMap.exists_append_of_get? hget
    rw [OrderedMap.insert_append_cons hnew]
    obtain rfl : j = .null := by
      have hnull := unset j hget
      cases j <;> first | rfl | cases hnull
    exact .set rfl

theorem exists_tagged {field : String} {mapping : OrderedMap String DataType}
    (listed : DataType.tagOf? mapping v.id = some tag) (encoded : c.encodeRecord v = .ok out) :
    ∃ entries, c.encode v.toValue (.union field mapping) = .ok (.object entries) ∧
      Tagged (c.tagKey field) tag out entries := by
  have hmember : ∃ entries, encodeMember c field mapping v.id v.typeName
      (encodeParts c v.fields) = .ok entries ∧ Tagged (c.tagKey field) tag out entries := by
    cases hheld : (OrderedMap.get? out (c.tagKey field)).filter (!·.isNull) with
    | some j =>
      obtain ⟨hget, hpresent⟩ := Option.filter_eq_some_iff.1 hheld
      have hpresent : j.isNull = false := by simpa using hpresent
      exact ⟨out, encodeMember_of_tag v.typeName listed encoded hget hpresent,
        .held (OrderedMap.mem_of_get? hget) hpresent⟩
    | none =>
      refine ⟨out.insert (c.tagKey field) (.string tag), ?_, tagged_insert fun j hget => ?_⟩
      · rw [encodeRecord] at encoded
        have hnone :
            ¬((OrderedMap.get? out (c.tagKey field)).filter (!·.isNull)).isSome = true := by
          rw [hheld]
          exact Bool.false_ne_true
        simp only [encodeMember, listed, encoded]
        exact if_neg hnone
      · simpa [hget] using hheld
  obtain ⟨entries, hentries, htagged⟩ := hmember
  refine ⟨entries, ?_, htagged⟩
  rw [Record.toValue, encode_union, hentries]
  rfl

theorem encode_notAMember {field : String} {mapping : OrderedMap String DataType}
    (unlisted : DataType.tagOf? mapping v.id = none) :
    c.encode v.toValue (.union field mapping) = .error (.notAMember v.typeName) := by
  rw [Record.toValue, encode_union, encodeMember, unlisted]
  rfl

/-! ## Encoded records -/

/-- An encoded record has the keys of the fields that are shown, each once and in their order, with
the values of the fields or null. As a member of a union it has its tag besides. -/
theorem encodeRecord_shape {r : Registry} (grown : r.Grown) (mode : NameMode) {v : Record}
    (once : (OrderedMap.keys v.fields).Nodup) {out : OrderedMap String Json}
    (encoded : encodeRecord ⟨r, mode⟩ v = .ok out) :
    (∃ record, r.record? v.id = some record ∧
      OrderedMap.keys out = (shown record v record.fields).map (fieldKey ⟨r, mode⟩) ∧
      (OrderedMap.keys out).Nodup ∧
      List.Forall₂ (EntryOf ⟨r, mode⟩ v) (shown record v record.fields) out) ∧
    ∀ field mapping, match DataType.tagOf? mapping v.id with
      | some tag => ∃ entries,
        encode ⟨r, mode⟩ v.toValue (.union field mapping) = .ok (.object entries) ∧
          Tagged (tagKey ⟨r, mode⟩ field) tag out entries
      | none => encode ⟨r, mode⟩ v.toValue (.union field mapping) =
        .error (.notAMember v.typeName) := by
  constructor
  · obtain ⟨record, hrecord, hfields⟩ := bind_eq_ok_iff.1 encoded
    have hfound : r.record? v.id = some record := found_of_record hrecord
    have hkeys : (record.fields.map (fieldKey ⟨r, mode⟩)).Nodup :=
      fieldKeys_nodup (grown.namesOnce record (List.mem_of_getElem? hfound))
    obtain ⟨entries, rfl, hentries⟩ :=
      encodeFields_shape once hkeys (by simp [OrderedMap.keys]) hfields
    have hall := keys_of_entries hentries
    refine ⟨record, hfound, hall, ?_, hentries⟩
    rw [hall]
    exact hkeys.sublist (List.filter_sublist.map _)
  · intro field mapping
    split
    · exact exists_tagged ‹_› encoded
    · exact encode_notAMember ‹_›

section Toys

def maker : Field := { localName := "maker_name", wireName := "makerName", type := .any }

def price : Field := { localName := "price", wireName := "price", type := .any }

def note : Field := { localName := "note", wireName := "note", type := .any }

/-- The maker of a toy is required, and there may be no note. -/
def toyType : RecordType where
  name := "Toy"
  fields := [maker, price, note]
  required := ["maker_name"]
  nullable := ["note"]

theorem toyType_assembled : toyType.Assembled := by
  have hmaker : RecordType.addField { name := "Toy" } maker true false =
    .ok { name := "Toy", fields := [maker], required := ["maker_name"] } := rfl
  have hprice : RecordType.addField
    { name := "Toy", fields := [maker], required := ["maker_name"] } price false false =
    .ok { name := "Toy", fields := [maker, price], required := ["maker_name"] } := rfl
  have hnote : RecordType.addField
    { name := "Toy", fields := [maker, price], required := ["maker_name"] } note false true =
    .ok toyType := rfl
  exact (((RecordType.Assembled.new "Toy").extended hmaker).extended hprice).extended hnote

def petRegistry : Registry where
  records :=
    [{ name := "Pet"
       fields := [{ localName := "name", wireName := "name", type := .primitive .string }] }]
  names := [("Pet", ⟨0⟩)]
  sources := ["Pet"]

def toyRegistry : Registry where
  records := petRegistry.records ++ [toyType]
  names := [("Pet", ⟨0⟩), ("Toy", ⟨1⟩)]
  sources := ["Pet", "Toy"]

theorem toyRegistry_grown : toyRegistry.Grown := by
  have hpet : Registry.ofJson? (Registry.documentOf [Registry.pet]) = some petRegistry := rfl
  have htoy : petRegistry.insert toyType = .ok (⟨1⟩, toyRegistry) := rfl
  obtain ⟨doc, _, hbuilt⟩ := Registry.ofJson?_eq_some hpet
  exact (Registry.Grown.built hbuilt).inserted toyType_assembled htoy

/-- A toy without a price or a note, with something else. -/
def toy : Record :=
  ⟨⟨1⟩, "Toy", [("colour", .string "red"), ("note", .null), ("maker_name", .string "ACME")]⟩

theorem encodeRecord_shape_toy :
    toyRegistry.Grown ∧
      encodeRecord ⟨toyRegistry, .wire⟩ toy = .ok [("makerName", .string "ACME"), ("note", .null)] ∧
      List.Forall₂ (EntryOf ⟨toyRegistry, .wire⟩ toy) [maker, note]
        [("makerName", .string "ACME"), ("note", .null)] ∧
      ∃ entries, encode ⟨toyRegistry, .wire⟩ toy.toValue
          (.union "note" [("toy", .record ⟨1⟩)]) = .ok (.object entries) ∧
        Tagged "note" "toy" [("makerName", .string "ACME"), ("note", .null)] entries := by
  have encoded : encodeRecord ⟨toyRegistry, .wire⟩ toy =
      .ok [("makerName", .string "ACME"), ("note", .null)] := rfl
  obtain ⟨⟨record, hrecord, _, _, hentries⟩, htagged⟩ :=
    encodeRecord_shape toyRegistry_grown .wire (v := toy) (by decide) encoded
  obtain rfl : toyType = record := Option.some.inj hrecord
  exact ⟨toyRegistry_grown, encoded, hentries, htagged "note" [("toy", .record ⟨1⟩)]⟩

end Toys

end OpenApi.Codec
