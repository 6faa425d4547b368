import Mathlib.Data.List.Induction
import OpenApi.Proofs.Document.AnyOf
import OpenApi.Proofs.Operation.References

/-!
# Response types

The type of a status is that of the last response with a JSON schema whose key is read as the
status, else that of the default response. Keys are read leniently: one status has several texts.
-/

namespace OpenApi

/-! ## Decimal digits -/

theorem value_of_isDigit {c : Char} (h : c.isDigit = true) :
    c.toNat - '0'.toNat < 10 ∧ Nat.digitChar (c.toNat - '0'.toNat) = c := by
  obtain ⟨hle, hle'⟩ := Char.isDigit_iff_toNat.1 h
  have hzero : '0'.toNat = 48 := rfl
  have hnine : '9'.toNat = 57 := rfl
  have hlt : c.toNat - '0'.toNat < 10 := by omega
  refine ⟨hlt, Char.toNat_inj.1 ?_⟩
  rw [Nat.toNat_digitChar_of_lt_ten hlt]
  omega

theorem exists_zeros {digits : List Char} (ne : digits ≠ [])
    (all : ∀ c ∈ digits, c.isDigit = true) :
    ∃ zeros, digits =
      List.replicate zeros '0' ++ Nat.toDigits 10 (Nat.ofDigitChars 10 digits 0) := by
  induction digits using List.reverseRecOn with
  | nil => exact absurd rfl ne
  | append_singleton digits c ih =>
    obtain ⟨hinit, hlast⟩ := List.forall_mem_append.1 all
    obtain ⟨hlt, hc⟩ := value_of_isDigit (hlast c (List.mem_singleton_self c))
    have hvalue : Nat.ofDigitChars 10 (digits ++ [c]) 0 =
        10 * Nat.ofDigitChars 10 digits 0 + (c.toNat - '0'.toNat) := Nat.ofDigitChars_append 0
    have hsingle : Nat.toDigits 10 (c.toNat - '0'.toNat) = [c] := by
      rw [Nat.toDigits_of_lt_base hlt, hc]
    rw [hvalue]
    by_cases hnil : digits = []
    · subst hnil
      rw [Nat.ofDigitChars_nil, Nat.mul_zero, Nat.zero_add, hsingle]
      exact ⟨0, rfl⟩
    · obtain ⟨zeros, hdigits⟩ := ih hnil hinit
      rcases Nat.eq_zero_or_pos (Nat.ofDigitChars 10 digits 0) with hzero | hpos
      · refine ⟨zeros + 1, ?_⟩
        rw [hzero] at hdigits ⊢
        rw [hdigits, Nat.mul_zero, Nat.zero_add, hsingle, List.replicate_succ',
          Nat.toDigits_zero]
      · refine ⟨zeros, ?_⟩
        rw [← Nat.toDigits_append_toDigits (by decide) hpos hlt, hsingle, ← List.append_assoc,
          ← hdigits]

namespace ResponseKey

/-- The texts of a key: a status may have a plus sign, and zeros before its decimal text. -/
inductive Spelled : ResponseKey → String → Prop where
  | default : Spelled .default "default"
  | status {code : Nat} (lt : code < 65536) {sign : String} (plus : sign = "" ∨ sign = "+")
      (zeros : Nat) :
      Spelled (.status code) (sign ++ String.ofList (List.replicate zeros '0') ++ toString code)

theorem isDigit_of_mem_digits {zeros code : Nat} {c : Char}
    (mem : c ∈ List.replicate zeros '0' ++ Nat.toDigits 10 code) : c.isDigit = true := by
  rcases List.mem_append.1 mem with hzero | hdigit
  · rw [List.eq_of_mem_replicate hzero]
    rfl
  · exact Nat.isDigit_of_mem_toDigits (by decide) (by decide) hdigit

/-- What is left of a number without its plus sign. -/
def unsigned : List Char → List Char
  | '+' :: rest => rest
  | cs => cs

theorem ofText?_of_ne {s : String} (ne : s ≠ "default") :
    ofText? s =
      if !(unsigned s.toList).isEmpty && (unsigned s.toList).all Char.isDigit &&
          Nat.ofDigitChars 10 (unsigned s.toList) 0 < 65536 then
        some (.status (Nat.ofDigitChars 10 (unsigned s.toList) 0)) else none := by
  rw [ofText?, if_neg ne]
  rfl

theorem exists_sign_unsigned (s : String) :
    ∃ sign, (sign = "" ∨ sign = "+") ∧ s = sign ++ String.ofList (unsigned s.toList) := by
  by_cases h : ∃ rest, s.toList = '+' :: rest
  · obtain ⟨rest, hrest⟩ := h
    refine ⟨"+", .inr rfl, ?_⟩
    rw [hrest, unsigned, ← String.toList_inj, hrest]
    simp
  · refine ⟨"", .inl rfl, ?_⟩
    rw [unsigned.eq_2 _ fun rest hrest => h ⟨rest, hrest⟩]
    simp

theorem unsigned_of_digits {sign : String} (plus : sign = "" ∨ sign = "+") {digits : List Char}
    (all : ∀ c ∈ digits, c.isDigit = true) :
    unsigned (sign ++ String.ofList digits).toList = digits := by
  rcases plus with rfl | rfl
  · rw [String.empty_append, String.toList_ofList, unsigned]
    rintro rest rfl
    exact absurd (all '+' List.mem_cons_self) (by decide)
  · rw [String.toList_append]
    change unsigned ('+' :: (String.ofList digits).toList) = digits
    rw [unsigned, String.toList_ofList]

theorem ne_default_of_digits {sign : String} (plus : sign = "" ∨ sign = "+") {digits : List Char}
    (all : ∀ c ∈ digits, c.isDigit = true) : sign ++ String.ofList digits ≠ "default" := by
  intro h
  have hdigits := unsigned_of_digits plus all
  rw [h] at hdigits
  have hd : 'd' ∈ digits := by
    rw [← hdigits]
    decide
  exact absurd (all 'd' hd) (by decide)

theorem ofText?_eq_some_iff {s : String} {key : ResponseKey} :
    ofText? s = some key ↔ key.Spelled s := by
  constructor
  · intro h
    by_cases hname : s = "default"
    · subst hname
      cases h
      exact .default
    · rw [ofText?_of_ne hname, Option.ite_none_right_eq_some] at h
      obtain ⟨hdigits, h⟩ := h
      simp only [Bool.and_eq_true, Bool.not_eq_true', List.isEmpty_eq_false_iff, List.all_eq_true,
        decide_eq_true_eq] at hdigits
      obtain ⟨⟨ne, all⟩, lt⟩ := hdigits
      obtain rfl := Option.some.inj h
      obtain ⟨sign, plus, hs⟩ := exists_sign_unsigned s
      obtain ⟨zeros, hzeros⟩ := exists_zeros ne all
      generalize Nat.ofDigitChars 10 (unsigned s.toList) 0 = code at lt hzeros ⊢
      rw [hzeros, String.ofList_append, ← String.append_assoc] at hs
      rw [hs]
      exact .status lt plus zeros
  · rintro (_ | @⟨code, lt, sign, plus, zeros⟩)
    · rfl
    · have all : ∀ c ∈ List.replicate zeros '0' ++ Nat.toDigits 10 code, c.isDigit = true :=
        fun c hc => isDigit_of_mem_digits hc
      have hcode : Nat.ofDigitChars 10 (List.replicate zeros '0' ++ Nat.toDigits 10 code) 0 =
          code := by
        rw [Nat.ofDigitChars_append, Nat.ofDigitChars_replicate_zero, Nat.mul_zero,
          Nat.ofDigitChars_ten_toDigits]
      rw [Nat.toString_eq_ofList_toDigits, String.append_assoc, ← String.ofList_append,
        ofText?_of_ne (ne_default_of_digits plus all), unsigned_of_digits plus all, hcode,
        List.all_eq_true.2 all]
      simp [lt]

theorem ofText?_toString {code : Nat} (lt : code < 65536) :
    ofText? (toString code) = some (.status code) := by
  have hspelled := Spelled.status lt (.inl rfl) 0
  rw [List.replicate_zero, String.ofList_nil, String.empty_append, String.empty_append] at hspelled
  exact ofText?_eq_some_iff.2 hspelled

end ResponseKey

namespace Operation

open Resolution

variable {doc : Document} {names : RecordNames} {location : String}

/-! ## The responses of an operation -/

/-- The JSON schema of a response that stands in place or behind a reference. -/
def jsonSchemaOf? (doc : Document) (response : Referable ResponseEntry) : Option Schema :=
  (settleResponse doc "" response).toOption.bind fun entry => Content.jsonSchema? entry.content

/-- The JSON schema of the last response that has one and whose key is read so. -/
def lastSchema? (doc : Document) :
    List (String × Referable ResponseEntry) → ResponseKey → Option Schema
  | [], _ => none
  | (text, response) :: rest, key =>
    (lastSchema? doc rest key).or
      (if ResponseKey.ofText? text = some key then jsonSchemaOf? doc response else none)

theorem jsonSchemaOf?_of_settles {response : Referable ResponseEntry} {entry : ResponseEntry}
    (h : settleResponse doc location response = .ok entry) :
    jsonSchemaOf? doc response = Content.jsonSchema? entry.content := by
  rw [jsonSchemaOf?, settleResponse_congr h]
  rfl

theorem get?_of_buildResponses {responses : List (String × Referable ResponseEntry)}
    {types out : OrderedMap ResponseKey DataType}
    (h : (buildResponses doc names location responses types).outcome = .ok out)
    (key : ResponseKey) :
    (lastSchema? doc responses key = none ∧ out.get? key = types.get? key) ∨
      ∃ s ty, lastSchema? doc responses key = some s ∧ out.get? key = some ty ∧
        HasType doc.raw names s ty := by
  induction responses generalizing types with
  | nil =>
    cases h
    exact .inl ⟨rfl, rfl⟩
  | cons p rest ih =>
    obtain ⟨text, response⟩ := p
    rw [buildResponses] at h
    cases hkey : ResponseKey.ofText? text with
    | none =>
      simp only [hkey] at h
      obtain ⟨_, _, h⟩ := Logged.outcome_bind_eq_ok_iff.1 h
      simpa [lastSchema?, hkey] using ih h
    | some read =>
      simp only [hkey] at h
      obtain ⟨entry, hentry, h⟩ := Logged.outcome_bind_eq_ok_iff.1 h
      have hjson := jsonSchemaOf?_of_settles hentry
      cases hschema : Content.jsonSchema? entry.content with
      | none =>
        rw [hschema] at h hjson
        simpa [lastSchema?, hjson] using ih h
      | some s =>
        rw [hschema] at h hjson
        obtain ⟨ty, hty, h⟩ := Logged.outcome_bind_eq_ok_iff.1 h
        rcases ih h with ⟨hnone, hget⟩ | ⟨s', ty', hsome, hget⟩
        · by_cases e : read = key
          · subst e
            refine .inr ⟨s, ty, ?_, ?_, resolve_ok_iff.1 hty⟩
            · simp [lastSchema?, hnone, hkey, hjson]
            · rw [hget, OrderedMap.get?_insert_self]
          · refine .inl ⟨?_, ?_⟩
            · simp [lastSchema?, hnone, hkey, e]
            · rw [hget, OrderedMap.get?_insert_of_ne _ _ (Ne.symm e)]
        · exact .inr ⟨s', ty', by simp [lastSchema?, hsome], hget⟩

theorem hasType_responseType? {responses : List (String × Referable ResponseEntry)} {o : Operation}
    (h : (buildResponses doc names location responses []).outcome = .ok o.responses)
    (status : Nat) :
    Option.Rel (HasType doc.raw names)
      ((lastSchema? doc responses (.status status)).or (lastSchema? doc responses .default))
      (o.responseType? status) := by
  rw [responseType?]
  rcases get?_of_buildResponses h (.status status) with ⟨hnone, hget⟩ | ⟨s, ty, hsome, hget, hty⟩
  · rw [hnone, hget]
    rcases get?_of_buildResponses h .default with ⟨hnone, hget⟩ | ⟨s, ty, hsome, hget, hty⟩
    · rw [hnone, hget]
      exact .none
    · rw [hsome, hget]
      exact .some hty
  · rw [hsome, hget]
    exact .some hty

/-- The keys under which JSON schemas stand are the plain texts of what they are read as. -/
def PlainKeys (doc : Document) (responses : List (String × Referable ResponseEntry)) : Prop :=
  ∀ p ∈ responses, (jsonSchemaOf? doc p.2).isSome →
    ∀ key, ResponseKey.ofText? p.1 = some key → p.1 = key.render

theorem lastSchema?_of_plain {responses : List (String × Referable ResponseEntry)}
    (once : (OrderedMap.keys responses).Nodup) (plain : PlainKeys doc responses)
    (key : ResponseKey) (read : ResponseKey.ofText? key.render = some key) :
    lastSchema? doc responses key =
      (OrderedMap.get? responses key.render).bind (jsonSchemaOf? doc) := by
  induction responses with
  | nil => rfl
  | cons p rest ih =>
    obtain ⟨text, response⟩ := p
    obtain ⟨hnew, honce⟩ := List.nodup_cons.1 once
    obtain ⟨hplain, hrest⟩ := List.forall_mem_cons.1 plain
    rw [lastSchema?, ih honce hrest, OrderedMap.get?_cons]
    by_cases e : text = key.render
    · subst e
      rw [(OrderedMap.get?_eq_none_iff rest _).2 hnew, if_pos read, if_pos rfl]
      rfl
    · rw [if_neg e]
      -- A text other than the plain one has no schema to offer.
      have hnone : (if ResponseKey.ofText? text = some key then jsonSchemaOf? doc response
          else none) = none := by
        split
        · rename_i hkey
          exact Option.not_isSome_iff_eq_none.1 fun hsome => e (hplain hsome key hkey)
        · rfl
      rw [hnone, Option.or_none]

/-- The type of a status is that of the JSON schema under its decimal text, else under `default`,
as long as keys with JSON schemas have no plus signs and no zeros in front. In general the last of
the texts of a status decides. -/
theorem response_types_declared {path : String} {method : Method} {entry : OperationEntry}
    {common : List (Referable ParameterEntry)} {o : Operation}
    (built : (build doc names path method entry common).outcome = .ok (some o)) :
    (∀ text key, ResponseKey.ofText? text = some key ↔ key.Spelled text) ∧
    (∀ status, Option.Rel (HasType doc.raw names)
      ((lastSchema? doc entry.responses (.status status)).or
        (lastSchema? doc entry.responses .default)) (o.responseType? status)) ∧
    ((OrderedMap.keys entry.responses).Nodup → PlainKeys doc entry.responses →
      ∀ status < 65536, Option.Rel (HasType doc.raw names)
        (((OrderedMap.get? entry.responses (toString status)).bind (jsonSchemaOf? doc)).or
          ((OrderedMap.get? entry.responses "default").bind (jsonSchemaOf? doc)))
        (o.responseType? status)) := by
  obtain ⟨location, merged, declared, body, parts⟩ := assembled_of_build built
  refine ⟨fun _ _ => ResponseKey.ofText?_eq_some_iff, hasType_responseType? parts.responses, ?_⟩
  intro once plain status lt
  have htype := hasType_responseType? parts.responses status
  rw [lastSchema?_of_plain once plain (.status status) (ResponseKey.ofText?_toString lt),
    lastSchema?_of_plain once plain .default rfl] at htype
  exact htype

section Till

def countContent : Json :=
  .object [("content", .object
    [("application/json", .object [("schema", .object [("type", .string "integer")])])])]

def count : ResponseEntry where
  content := [("application/json", { schema := some (.inline { types := some (.one "integer") }) })]

/-- An answer with a text, and one with a number under another spelling of its status. -/
def tally : OperationEntry where
  operationId := some "tally"
  responses := [("200", .inline receipt), ("0200", .inline count)]

def tillJson : Json :=
  .object [("openapi", .string "3.0.0"), ("info", .object []),
    ("paths", .object [("/till", .object [("get", .object
      [("operationId", .string "tally"),
        ("responses", .object [("200", textContent), ("0200", countContent)])])])])]

def till : Document where
  raw := tillJson
  description :=
    { openapi := "3.0.0"
      info := {}
      paths := [("/till", { operations := [(.get, tally)] })] }

/-- The text of the status is answered with a text, and yet its type is that of a number. -/
theorem zeros_replace_status :
    Document.ofJson tillJson = .ok till ∧
      ∃ o, (build till [] "/till" .get tally []).outcome = .ok (some o) ∧
        o.responseType? 200 = some (.primitive .integer) ∧
        ¬Option.Rel (HasType till.raw [])
          (((OrderedMap.get? tally.responses (toString 200)).bind (jsonSchemaOf? till)).or
            ((OrderedMap.get? tally.responses "default").bind (jsonSchemaOf? till)))
          (o.responseType? 200) := by
  refine ⟨rfl, _, rfl, rfl, fun h => ?_⟩
  cases h with
  | some hty =>
    have htext : (resolve till [] (.inline { types := some (.one "string") }) "").outcome =
        .ok (.primitive .string) := rfl
    rw [resolve_ok_iff.2 hty] at htext
    cases htext

/-- A text for one status, a number for most others, and a range that is not looked at. -/
def ledger : OperationEntry where
  operationId := some "ledger"
  responses :=
    [("404", .inline {}), ("200", .inline receipt), ("2XX", .inline count),
      ("default", .inline count)]

theorem ledger_plainKeys : PlainKeys till ledger.responses := by
  have hplain : ∀ text key key', ResponseKey.ofText? text = some key' → text = key'.render →
      ResponseKey.ofText? text = some key → text = key.render := by
    intro text key key' hread htext h
    rwa [← Option.some.inj (hread.symm.trans h)]
  have hrange : ResponseKey.ofText? "2XX" = none := rfl
  simp only [PlainKeys, ledger, List.forall_mem_cons]
  refine ⟨fun _ key => hplain _ key (.status 404) rfl rfl,
    fun _ key => hplain _ key (.status 200) rfl rfl, fun _ key h => ?_,
    fun _ key => hplain _ key .default rfl rfl, by simp⟩
  rw [hrange] at h
  cases h

theorem response_types_declared_ledger :
    ∃ o, (build till [] "/till" .get ledger []).outcome = .ok (some o) ∧
      (OrderedMap.keys ledger.responses).Nodup ∧ PlainKeys till ledger.responses ∧
      o.responseType? 200 = some (.primitive .string) ∧
      o.responseType? 404 = some (.primitive .integer) ∧
      ∀ status < 65536, Option.Rel (HasType till.raw [])
        (((OrderedMap.get? ledger.responses (toString status)).bind (jsonSchemaOf? till)).or
          ((OrderedMap.get? ledger.responses "default").bind (jsonSchemaOf? till)))
        (o.responseType? status) := by
  obtain ⟨o, built, htext, hnumber⟩ :
      ∃ o, (build till [] "/till" .get ledger []).outcome = .ok (some o) ∧
        o.responseType? 200 = some (.primitive .string) ∧
        o.responseType? 404 = some (.primitive .integer) := ⟨_, rfl, rfl, rfl⟩
  have once : (OrderedMap.keys ledger.responses).Nodup := by decide
  exact ⟨o, built, once, ledger_plainKeys, htext, hnumber,
    (response_types_declared built).2.2 once ledger_plainKeys⟩

end Till

end Operation

end OpenApi
