import OpenApi.Proofs.Codec.Decoded
import OpenApi.Proofs.Registry.WellFormed

/-!
# Defaults in the two modes

The default of a field is decoded in the mode of the codec, like the payload that lacks the field.
It means the same in both modes if both read the same in it. A default that uses the wire names of
other fields is not read in the local mode where their local names differ.
-/

namespace OpenApi.Codec

variable {c : Codec} {r : Registry} {wire : Json} {ty element : DataType} {f : Field}
  {fs : List Field} {entries entries' : List (String × Json)} {α β : Type}

/-! ## What a field is decoded to -/

/-- What the decoder makes of a field of an object: nothing if nothing stands for it. -/
def fieldOutcome (c : Codec) (entries : List (String × Json)) (f : Field) :
    Except CodecError (Option Value) :=
  match standsFor c entries f with
  | some (.wire v) => (c.decode v f.type).outcome.map some
  | some (.held v) => .ok (some v)
  | none => .ok none

theorem fieldOutcome_of_fieldBy {o : Except CodecError (Option Value)}
    (h : FieldBy c (Decodes c) entries f o) : fieldOutcome c entries f = o := by
  unfold fieldOutcome
  cases h with
  | entry stands decodes =>
    rw [standsFor_of_some stands, ← (decodes_iff.1 (.intro decodes)).1]
  | fallback lacks default decodes =>
    rw [standsFor_of_none lacks, default, ← (decodes_iff.1 decodes).1]
  | held lacks default => rw [standsFor_of_none lacks, default]
  | absent lacks default => rw [standsFor_of_none lacks, default]

theorem get?_of_fieldsBy (once : (fs.map (·.localName)).Nodup) {x y : Record}
    (h : FieldsBy c (Decodes c) entries fs x (.ok y)) :
    (∀ name, name ∉ fs.map (·.localName) →
      OrderedMap.get? y.fields name = OrderedMap.get? x.fields name) ∧
    ∀ f ∈ fs, f.localName ∉ OrderedMap.keys x.fields →
      fieldOutcome c entries f = .ok (OrderedMap.get? y.fields f.localName) := by
  induction fs generalizing x with
  | nil =>
    cases h
    exact ⟨fun _ _ => rfl, by simp⟩
  | cons f rest ih =>
    obtain ⟨hf, hrest⟩ := List.nodup_cons.1 once
    cases h with
    | cons first others =>
      obtain ⟨hsame, heach⟩ := ih hrest others
      refine ⟨fun name hname => ?_, List.forall_mem_cons.2 ⟨fun hnew => ?_, fun g hg hnew => ?_⟩⟩
      · rw [List.map_cons, List.mem_cons, not_or] at hname
        rw [hsame name hname.2, get?_put_of_ne x _ hname.1]
      · rw [hsame _ hf, get?_put_self _ hnew]
        exact fieldOutcome_of_fieldBy first
      · have hne : g.localName ≠ f.localName := fun e => hf (List.mem_map.2 ⟨g, hg, e⟩)
        refine heach g hg ?_
        rw [← OrderedMap.get?_eq_none_iff, get?_put_of_ne x _ hne, OrderedMap.get?_eq_none_iff]
        exact hnew

theorem exists_fieldsBy {id : RecordId} {record : RecordType} {o : Except CodecError Value}
    (found : c.registry.record? id = some record)
    (h : DecodesBy c (Decodes c) (.object entries) (.record id) o) :
    ∃ o', FieldsBy c (Decodes c) entries record.fields ⟨id, record.name, []⟩ o' ∧
      o = o'.map Record.toValue := by
  cases h with
  | record found' each =>
    obtain rfl := Option.some.inj (found.symm.trans found')
    exact ⟨_, each, rfl⟩
  | notObject found' present other => exact absurd rfl (other entries)
  | foreign unknown present =>
    rw [found] at unknown
    cases unknown

theorem fieldOutcome_of_decode {id : RecordId} {record : RecordType}
    (found : c.registry.record? id = some record) (once : record.NamesOnce) {v : Value}
    (h : (c.decode (.object entries) (.record id)).outcome = .ok v) :
    ∃ y : Record, v = y.toValue ∧ ∀ f ∈ record.fields,
      fieldOutcome c entries f = .ok (OrderedMap.get? y.fields f.localName) := by
  obtain ⟨derived⟩ : Decodes c (.object entries) (.record id) (.ok v) :=
    decodes_iff.2 ⟨h, by simp⟩
  obtain ⟨o, hfields, ho⟩ := exists_fieldsBy found derived
  obtain ⟨y, rfl, rfl⟩ := ok_of_map ho.symm
  refine ⟨y, rfl, fun f hf => (get?_of_fieldsBy once.1 hfields).2 f hf ?_⟩
  simp [OrderedMap.keys]

/-! ## Two modes -/

/-- Something comes to an end in both modes, with the same result in both or with none. -/
def SameInBoth (ends : NameMode → Except CodecError α → Prop) : Prop :=
  (∃ a, ∀ mode, ends mode (.ok a)) ∨ ∀ mode, ∃ e, ends mode (.error e)

theorem SameInBoth.of_both {ends : NameMode → Except CodecError α → Prop}
    {o : Except CodecError α} (h : ∀ mode, ends mode o) : SameInBoth ends := by
  cases o with
  | ok a => exact .inl ⟨a, h⟩
  | error e => exact .inr fun mode => ⟨e, h mode⟩

section SameInBoth

variable {ends : NameMode → Except CodecError α → Prop}

theorem SameInBoth.bind {ends' : NameMode → Except CodecError β → Prop} (h : SameInBoth ends)
    (fault : ∀ mode e, ends mode (.error e) → ends' mode (.error e))
    (next : ∀ a, (∀ mode, ends mode (.ok a)) → SameInBoth ends') : SameInBoth ends' := by
  rcases h with ⟨a, ha⟩ | he
  · exact next a ha
  · refine .inr fun mode => ?_
    obtain ⟨e, he⟩ := he mode
    exact ⟨e, fault mode e he⟩

theorem SameInBoth.map {ends' : NameMode → Except CodecError β → Prop} {g : α → β}
    (h : SameInBoth ends) (step : ∀ mode o, ends mode o → ends' mode (o.map g)) :
    SameInBoth ends' :=
  h.bind (fun mode _ => step mode _) fun a ha => .inl ⟨g a, fun mode => step mode _ (ha mode)⟩

theorem SameInBoth.imp {ends' : NameMode → Except CodecError α → Prop} (h : SameInBoth ends)
    (step : ∀ mode o, ends mode o → ends' mode o) : SameInBoth ends' :=
  h.bind (fun mode _ => step mode _) fun a ha => .inl ⟨a, fun mode => step mode _ (ha mode)⟩

end SameInBoth

/-- The two modes read the same in a payload. -/
inductive Bilingual (r : Registry) : DataType → Json → Prop where
  | null (ty : DataType) : Bilingual r ty .null
  | primitive (kind : Primitive) (wire : Json) : Bilingual r (.primitive kind) wire
  | any (wire : Json) : Bilingual r .any wire
  | dateTime (wire : Json) : Bilingual r .dateTime wire
  | array {element : DataType} {items : List Json}
      (each : ∀ wire ∈ items, Bilingual r element wire) :
      Bilingual r (.array element) (.array items)
  | notArray {element : DataType} {wire : Json} (other : ∀ items, wire ≠ .array items) :
      Bilingual r (.array element) wire
  /-- The same stands under the wire name and the local name of every field, and the modes read the
  same in it, or in the default of the field. -/
  | record {id : RecordId} {record : RecordType} {entries : List (String × Json)}
      (found : r.record? id = some record)
      (stands : ∀ f ∈ record.fields,
        OrderedMap.get? entries f.localName = OrderedMap.get? entries f.wireName)
      (each : ∀ f ∈ record.fields, ∀ wire,
        standsFor ⟨r, .wire⟩ entries f = some (.wire wire) → Bilingual r f.type wire) :
      Bilingual r (.record id) (.object entries)
  | notObject {id : RecordId} {wire : Json} (other : ∀ entries, wire ≠ .object entries) :
      Bilingual r (.record id) wire
  | union {field : String} {mapping : OrderedMap String DataType} {wire : Json}
      (tagged : SameInBoth fun mode o => payloadTag ⟨r, mode⟩ field wire = o)
      (member : ∀ tag ty, payloadTag ⟨r, .wire⟩ field wire = .ok tag →
        OrderedMap.get? mapping tag = some ty → Bilingual r ty wire) :
      Bilingual r (.union field mapping) wire

/-! ## Defaults that mean the same -/

theorem sameInBoth_items {items : List Json}
    (each : ∀ wire ∈ items, SameInBoth fun mode => Decodes ⟨r, mode⟩ wire element) :
    SameInBoth fun mode => ItemsBy ⟨r, mode⟩ (Decodes ⟨r, mode⟩) element items := by
  induction items with
  | nil => exact .of_both fun _ => .nil element
  | cons wire rest ih =>
    obtain ⟨hwire, hrest⟩ := List.forall_mem_cons.1 each
    refine hwire.bind (fun _ _ ⟨first⟩ => .fault rest first) fun v hv => ?_
    exact (ih hrest).map fun mode _ others =>
      have ⟨first⟩ := hv mode
      .cons first others

theorem sameInBoth_fields
    (each : ∀ f ∈ fs, SameInBoth fun mode => FieldBy ⟨r, mode⟩ (Decodes ⟨r, mode⟩) entries f)
    (x : Record) :
    SameInBoth fun mode => FieldsBy ⟨r, mode⟩ (Decodes ⟨r, mode⟩) entries fs x := by
  induction fs generalizing x with
  | nil => exact .of_both fun _ => .nil entries x
  | cons f rest ih =>
    obtain ⟨hf, hrest⟩ := List.forall_mem_cons.1 each
    refine hf.bind (fun _ _ first => .fault rest x first) fun v? hv => ?_
    exact (ih hrest (x.put f.localName v?)).imp fun mode _ others => .cons (hv mode) others

theorem sameInBoth_field
    (stands : OrderedMap.get? entries f.localName = OrderedMap.get? entries f.wireName)
    (each : ∀ wire, standsFor ⟨r, .wire⟩ entries f = some (.wire wire) →
      SameInBoth fun mode => Decodes ⟨r, mode⟩ wire f.type) :
    SameInBoth fun mode => FieldBy ⟨r, mode⟩ (Decodes ⟨r, mode⟩) entries f := by
  have hkey : ∀ mode, OrderedMap.get? entries (fieldKey ⟨r, mode⟩ f) =
      OrderedMap.get? entries f.wireName := by
    rintro (_ | _)
    · rfl
    · exact stands
  cases hentry : OrderedMap.get? entries f.wireName with
  | some wire =>
    exact (each wire (standsFor_of_some hentry)).map fun mode _ ⟨derived⟩ =>
      .entry ((hkey mode).trans hentry) derived
  | none =>
    have hlacks : ∀ mode, OrderedMap.get? entries (fieldKey ⟨r, mode⟩ f) = none :=
      fun mode => (hkey mode).trans hentry
    cases hdefault : f.default with
    | none => exact .of_both fun mode => .absent (hlacks mode) hdefault
    | some default =>
      cases default with
      | held v => exact .of_both fun mode => .held (hlacks mode) hdefault
      | wire wire =>
        have hstands := (standsFor_of_none (hlacks .wire)).trans hdefault
        exact (each wire hstands).map fun mode _ decodes => .fallback (hlacks mode) hdefault decodes

theorem sameInBoth_union {field : String} {mapping : OrderedMap String DataType}
    (present : wire ≠ .null) (tagged : SameInBoth fun mode o => payloadTag ⟨r, mode⟩ field wire = o)
    (member : ∀ tag ty, payloadTag ⟨r, .wire⟩ field wire = .ok tag →
      OrderedMap.get? mapping tag = some ty → SameInBoth fun mode => Decodes ⟨r, mode⟩ wire ty) :
    SameInBoth fun mode => Decodes ⟨r, mode⟩ wire (.union field mapping) := by
  refine tagged.bind (fun _ _ h => .intro (.untagged mapping present h)) fun tag htag => ?_
  cases hlisted : OrderedMap.get? mapping tag with
  | none => exact .of_both fun mode => .intro (.unlisted (htag mode) hlisted)
  | some ty =>
    exact (member tag ty (htag .wire) hlisted).imp fun mode _ ⟨derived⟩ =>
      .intro (.member (htag mode) hlisted derived)

theorem Bilingual.sameInBoth (h : Bilingual r ty wire) :
    SameInBoth fun mode => Decodes ⟨r, mode⟩ wire ty := by
  induction h with
  | null ty => exact .of_both fun _ => .intro (.null ty)
  | primitive kind wire => exact .of_both fun _ => .intro (.primitive wire kind)
  | any wire => exact .of_both fun _ => .intro (.any wire)
  | dateTime wire =>
    by_cases htext : ∃ s, wire = .string s
    · obtain ⟨s, rfl⟩ := htext
      exact .of_both fun _ => .intro (.dateTime s)
    · exact .of_both fun _ => .intro (.notText (not_exists.1 htext))
  | array _ ih => exact (sameInBoth_items ih).map fun _ _ each => .intro (.array each)
  | notArray other => exact .of_both fun _ => .intro (.notArray _ other)
  | @record id record entries found stands _ ih =>
    have hfields : ∀ f ∈ record.fields, SameInBoth fun mode =>
        FieldBy ⟨r, mode⟩ (Decodes ⟨r, mode⟩) entries f :=
      fun f hf => sameInBoth_field (stands f hf) (ih f hf)
    exact (sameInBoth_fields hfields ⟨id, record.name, []⟩).map fun _ _ each =>
      .intro (.record found each)
  | @notObject id wire other =>
    by_cases present : wire = .null
    · subst present
      exact .of_both fun _ => .intro (.null _)
    · cases hfound : r.record? id with
      | none => exact .of_both fun _ => .intro (.foreign hfound present)
      | some record => exact .of_both fun _ => .intro (.notObject hfound present other)
  | @union field mapping wire tagged _ ih =>
    by_cases present : wire = .null
    · subst present
      exact .of_both fun _ => .intro (.null _)
    · exact sameInBoth_union present tagged ih

theorem fieldOutcome_of_default (lacks : OrderedMap.get? entries (c.fieldKey f) = none)
    (default : f.default = some (.wire wire)) :
    fieldOutcome c entries f = (c.decode wire f.type).outcome.map some := by
  rw [fieldOutcome, standsFor_of_none lacks, default]

/-! ## Defaults that do not -/

theorem DecodesTo.isNull {v : Value} (h : DecodesTo c wire ty v) : v.isNull = wire.isNull := by
  induction h with
  | null _ => rfl
  | primitive wire _ | any wire => exact Value.isNull_ofJson wire
  | notText _ | notArray _ _ => exact Value.isNull_ofJson _
  | dateTime _ | array _ _ | record _ _ _ _ _ _ => rfl
  | member _ _ _ ih => exact ih

theorem same_record_eq_false {a b : List (String × Value)} {id id' : RecordId} {n m name : String}
    {v : Value} (stands : OrderedMap.get? a name = some v) (present : v.isNull = false)
    (lacks : OrderedMap.get? b name = none) :
    Value.same (.record id n a) (.record id' m b) = false := by
  have hsame : Value.samePresent a b = false := by
    rw [Bool.eq_false_iff, ne_eq, Value.samePresent_iff]
    intro h
    rcases h (name, v) (OrderedMap.mem_of_get? stands) with ⟨_, hget, _⟩ | ⟨_, hnull⟩
    · rw [lacks] at hget
      cases hget
    · rw [present] at hnull
      cases hnull
  rw [Value.same, hsame, Bool.and_false, Bool.false_and]

/-- The object has a field of the record, one without a default, under its wire name alone. -/
def OnlyOnWire (r : Registry) (id : RecordId) (entries : List (String × Json)) : Prop :=
  ∃ record f wire, r.record? id = some record ∧ f ∈ record.fields ∧ f.default = none ∧
    OrderedMap.get? entries f.wireName = some wire ∧ wire.isNull = false ∧
    OrderedMap.get? entries f.localName = none

theorem OnlyOnWire.same_eq_false (names : ∀ record ∈ r.records, record.NamesOnce) {id : RecordId}
    (h : OnlyOnWire r id entries) {v v' : Value}
    (hv : (Codec.decode ⟨r, .wire⟩ (.object entries) (.record id)).outcome = .ok v)
    (hv' : (Codec.decode ⟨r, .local⟩ (.object entries) (.record id)).outcome = .ok v') :
    Value.same v v' = false := by
  obtain ⟨record, f, wire, found, mem, default, stands, present, lacks⟩ := h
  have once : record.NamesOnce := names record (List.mem_of_getElem? found)
  obtain ⟨x, rfl, hx⟩ := fieldOutcome_of_decode found once hv
  obtain ⟨x', rfl, hx'⟩ := fieldOutcome_of_decode found once hv'
  have hread := hx f mem
  have hunread := hx' f mem
  rw [fieldOutcome, standsFor_of_some stands] at hread
  rw [fieldOutcome, standsFor_of_none lacks, default] at hunread
  obtain ⟨w, hw, hheld⟩ := ok_of_map hread
  refine same_record_eq_false hheld.symm ?_ (Except.ok.inj hunread).symm
  rw [(decodesTo_of_decode names hw).isNull]
  exact present

/-! ## Defaults -/

/-- A field with a default that an object lacks is the default, decoded in the mode of the codec. It
is the same in both modes if they read the same in the default. It is not where a record is given by
a wire name alone. -/
theorem default_same_if_bilingual (names : ∀ record ∈ r.records, record.NamesOnce) {id : RecordId}
    {record : RecordType} (found : r.record? id = some record) (mem : f ∈ record.fields)
    (default : f.default = some (.wire wire)) :
    (∀ mode entries, OrderedMap.get? entries (fieldKey ⟨r, mode⟩ f) = none →
      fieldOutcome ⟨r, mode⟩ entries f = (decode ⟨r, mode⟩ wire f.type).outcome.map some ∧
      ∀ v, (decode ⟨r, mode⟩ (.object entries) (.record id)).outcome = .ok v →
        ∃ x : Record, v = x.toValue ∧
          fieldOutcome ⟨r, mode⟩ entries f = .ok (OrderedMap.get? x.fields f.localName)) ∧
    ∀ entries : NameMode → List (String × Json),
      (∀ mode, OrderedMap.get? (entries mode) (fieldKey ⟨r, mode⟩ f) = none) →
      (Bilingual r f.type wire → SameInBoth fun mode o =>
        fieldOutcome ⟨r, mode⟩ (entries mode) f = o ∧ o ≠ .error .endlessDefault) ∧
      ∀ id' ds v v', f.type = .record id' → wire = .object ds → OnlyOnWire r id' ds →
        fieldOutcome ⟨r, .wire⟩ (entries .wire) f = .ok (some v) →
        fieldOutcome ⟨r, .local⟩ (entries .local) f = .ok (some v') → Value.same v v' = false := by
  refine ⟨fun mode entries lacks => ⟨fieldOutcome_of_default lacks default, fun v hv => ?_⟩,
    fun entries lacks => ⟨fun h => ?_, ?_⟩⟩
  · obtain ⟨x, hx, heach⟩ :=
      fieldOutcome_of_decode found (names record (List.mem_of_getElem? found)) hv
    exact ⟨x, hx, heach f mem⟩
  · refine h.sameInBoth.map (g := some) fun mode o ho => ?_
    obtain ⟨rfl, hended⟩ := decodes_iff.1 ho
    exact ⟨fieldOutcome_of_default (lacks mode) default, fun he => hended (error_of_map he)⟩
  · rintro id' ds v v' htype rfl honly hv hv'
    rw [fieldOutcome_of_default (lacks _) default, htype] at hv hv'
    obtain ⟨_, hv, he⟩ := ok_of_map hv
    obtain ⟨_, hv', he'⟩ := ok_of_map hv'
    exact honly.same_eq_false names (Option.some.inj he ▸ hv) (Option.some.inj he' ▸ hv')

section Owners

def ownerType : RecordType where
  name := "Owner"
  fields :=
    [{ localName := "first_name", wireName := "firstName", type := .any },
      { localName := "city", wireName := "city", type := .any }]

/-- The keeper of a cat, by default someone from Rome. -/
def keeper : Field where
  localName := "cat_keeper"
  wireName := "catKeeper"
  type := .array (.record ⟨0⟩)
  default := some (.wire (.array [.object [("city", .string "Rome")]]))

def keptCats : Registry where
  records := [ownerType, { name := "Cat", fields := [keeper] }]
  names := [("Owner", ⟨0⟩), ("Cat", ⟨1⟩)]
  sources := ["Owner", "Cat"]

theorem keptCats_namesOnce : ∀ record ∈ keptCats.records, record.NamesOnce := by
  intro record hrecord
  simp only [keptCats, List.mem_cons, List.not_mem_nil, or_false] at hrecord
  rcases hrecord with rfl | rfl
  · exact ⟨by decide, by decide⟩
  · exact ⟨by decide, by decide⟩

theorem rome_bilingual : Bilingual keptCats (.array (.record ⟨0⟩))
    (.array [.object [("city", .string "Rome")]]) := by
  refine .array fun wire hwire => ?_
  obtain rfl := List.mem_singleton.1 hwire
  have howner : keptCats.record? ⟨0⟩ = some ownerType := rfl
  refine .record howner ?_ ?_
  · intro f hf
    simp only [ownerType, List.mem_cons, List.not_mem_nil, or_false] at hf
    rcases hf with rfl | rfl <;> rfl
  · intro f hf wire _
    simp only [ownerType, List.mem_cons, List.not_mem_nil, or_false] at hf
    rcases hf with rfl | rfl
    · exact .any _
    · exact .any _

theorem default_same_if_bilingual_rome :
    Bilingual keptCats keeper.type (.array [.object [("city", .string "Rome")]]) ∧
      SameInBoth fun mode o => fieldOutcome ⟨keptCats, mode⟩ [("city", .null)] keeper = o ∧
        o ≠ .error .endlessDefault := by
  have hcat : keptCats.record? ⟨1⟩ = some { name := "Cat", fields := [keeper] } := rfl
  have hkeeper : keeper ∈ [keeper] := List.mem_singleton_self keeper
  obtain ⟨_, hsame⟩ := default_same_if_bilingual keptCats_namesOnce hcat hkeeper rfl
  have hlacks : ∀ mode, OrderedMap.get? [("city", Json.null)] (fieldKey ⟨keptCats, mode⟩ keeper) =
      none := by
    rintro (_ | _) <;> rfl
  exact ⟨rome_bilingual, (hsame (fun _ => [("city", .null)]) hlacks).1 rome_bilingual⟩

/-- Cats have an owner, by default Ann. -/
def annsCat : Json :=
  Registry.documentOf
    [("Owner", .object [("type", .string "object"), ("properties", .object
      [("firstName", .object [("type", .string "string")])])]),
    ("Cat", .object [("type", .string "object"), ("properties", .object
      [("owner", .object [("allOf", .array [Registry.referTo "Owner"]),
        ("default", .object [("firstName", .string "Ann")])])])])]

/-- The default of the field is decoded to different values in the two modes. -/
def defaultDiffers (r : Registry) (f : Field) : Bool :=
  match f.default, fieldOutcome ⟨r, .wire⟩ [] f, fieldOutcome ⟨r, .local⟩ [] f with
  | some (.wire _), .ok (some v), .ok (some v') => !Value.same v v'
  | _, _, _ => false

theorem annsCat_differs :
    ((Registry.ofJson? annsCat).bind fun r =>
      (r.record? ⟨1⟩).map fun record => record.fields.any (defaultDiffers r)) = some true := by
  decide +kernel

/-- A cat without an owner is Ann's in the wire mode, and a nameless owner's in the local mode. -/
theorem owner_default_lost :
    ∃ doc r record f wire v v', Document.ofJson annsCat = .ok doc ∧
      (Registry.build doc).outcome = .ok r ∧ r.record? ⟨1⟩ = some record ∧ f ∈ record.fields ∧
      f.default = some (.wire wire) ∧ fieldOutcome ⟨r, .wire⟩ [] f = .ok (some v) ∧
      fieldOutcome ⟨r, .local⟩ [] f = .ok (some v') ∧ Value.same v v' = false := by
  obtain ⟨r, hr, h⟩ := Option.bind_eq_some_iff.1 annsCat_differs
  obtain ⟨record, hrecord, h⟩ := Option.map_eq_some_iff.1 h
  obtain ⟨f, hf, hdiffers⟩ := List.any_eq_true.1 h
  obtain ⟨doc, hdoc, hbuilt⟩ := Registry.ofJson?_eq_some hr
  unfold defaultDiffers at hdiffers
  split at hdiffers
  · rename_i wire v v' hdefault hv hv'
    exact ⟨doc, r, record, f, wire, v, v', hdoc, hbuilt, hrecord, hf, hdefault, hv, hv',
      by simpa using hdiffers⟩
  · cases hdiffers

end Owners

end OpenApi.Codec
