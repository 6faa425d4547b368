import OpenApi.Text.Percent

/-!
# Percent-decoding

A percent sign with two hexadecimal digits stands for a byte, and every other character for its own
encoding. What was percent-encoded is read back, and holds no character that means something in an
address but the percent sign.
-/

namespace OpenApi.Text

/-! ## Reading back -/

def hexValue? (c : Char) : Option Nat :=
  if '0' ≤ c ∧ c ≤ '9' then some (c.toNat - '0'.toNat)
  else if 'A' ≤ c ∧ c ≤ 'F' then some (c.toNat - 'A'.toNat + 10)
  else if 'a' ≤ c ∧ c ≤ 'f' then some (c.toNat - 'a'.toNat + 10)
  else none

/-- The bytes of a text. A percent sign without two digits behind it stands for itself. -/
def decodedBytes : List Char → List UInt8
  | '%' :: high :: low :: rest =>
    match hexValue? high, hexValue? low with
    | some h, some l => UInt8.ofNat (16 * h + l) :: decodedBytes rest
    | _, _ => String.utf8EncodeChar '%' ++ decodedBytes (high :: low :: rest)
  | c :: rest => String.utf8EncodeChar c ++ decodedBytes rest
  | [] => []

/-- The text whose bytes these are, if they are those of any. -/
def percentDecode (text : String) : Option String :=
  String.fromUTF8? (decodedBytes text.toList).toByteArray

theorem decodedBytes_cons_of_ne {c : Char} (h : c ≠ '%') (rest : List Char) :
    decodedBytes (c :: rest) = String.utf8EncodeChar c ++ decodedBytes rest := by
  rw [decodedBytes]
  rintro _ _ _ rfl
  exact absurd rfl h

/-! ## Bytes -/

theorem forall_byte {P : UInt8 → Prop} (h : ∀ n < 256, P (UInt8.ofNat n)) (b : UInt8) : P b := by
  have hb := h b.toNat b.toNat_lt
  rwa [UInt8.ofNat_toNat] at hb

theorem unreserved_byte : ∀ b : UInt8, isUnreserved b = true →
    Char.ofNat b.toNat ≠ '%' ∧ String.utf8EncodeChar (Char.ofNat b.toNat) = [b] :=
  forall_byte (by decide +kernel)

theorem hexValue?_capitalHexDigit : ∀ n < 16, hexValue? (capitalHexDigit n) = some n := by
  decide

theorem decodedBytes_percentByte (b : UInt8) (rest : List Char) :
    decodedBytes (percentByte b ++ rest) = b :: decodedBytes rest := by
  rw [percentByte]
  split
  · rename_i hkept
    obtain ⟨hpercent, hbyte⟩ := unreserved_byte b hkept
    rw [List.singleton_append, decodedBytes_cons_of_ne hpercent, hbyte, List.singleton_append]
  · have hb : b.toNat < 256 := b.toNat_lt
    have hhigh := hexValue?_capitalHexDigit (b.toNat / 16) (by omega)
    have hlow := hexValue?_capitalHexDigit (b.toNat % 16) (by omega)
    simp only [List.cons_append, List.nil_append, decodedBytes, hhigh, hlow]
    rw [Nat.div_add_mod, UInt8.ofNat_toNat]

theorem decodedBytes_percentBytes (bytes : List UInt8) (rest : List Char) :
    decodedBytes (bytes.flatMap percentByte ++ rest) = bytes ++ decodedBytes rest := by
  induction bytes with
  | nil => rfl
  | cons b bytes ih =>
    rw [List.flatMap_cons, List.append_assoc, decodedBytes_percentByte, ih, List.cons_append]

/-! ## Texts -/

theorem fromUTF8?_toByteArray (s : String) : String.fromUTF8? s.toByteArray = some s := by
  rw [String.fromUTF8?, dif_pos s.isValidUTF8]
  rfl

theorem decodedBytes_percentEncode (s : String) :
    (decodedBytes (percentEncode s).toList).toByteArray = s.toByteArray := by
  have hbytes : (percentEncode s).toList = (s.toList.flatMap String.utf8EncodeChar).flatMap
      percentByte ++ [] := by
    rw [percentEncode, String.toList_ofList, List.append_nil, List.flatMap_assoc]
  rw [hbytes, decodedBytes_percentBytes, decodedBytes, List.append_nil, ← List.utf8Encode,
    ← String.toByteArray_ofList, String.ofList_toList]

/-- A percent-encoded text is read back. -/
theorem percentDecode_percentEncode (s : String) : percentDecode (percentEncode s) = some s := by
  rw [percentDecode, decodedBytes_percentEncode, fromUTF8?_toByteArray]

theorem percentEncode_inj {s t : String} : percentEncode s = percentEncode t ↔ s = t := by
  constructor
  · intro h
    have hread := congrArg percentDecode h
    rw [percentDecode_percentEncode, percentDecode_percentEncode] at hread
    exact Option.some.inj hread
  · exact congrArg percentEncode

/-- A letter, a digit or one of `-_.~`, or the percent sign. -/
def IsPercentText (c : Char) : Prop :=
  c.isAlphanum = true ∨ c ∈ ['-', '_', '.', '~', '%']

instance : DecidablePred IsPercentText := fun c =>
  inferInstanceAs (Decidable (c.isAlphanum = true ∨ c ∈ ['-', '_', '.', '~', '%']))

theorem isPercentText_percentByte (b : UInt8) : ∀ c ∈ percentByte b, IsPercentText c := by
  have hall : ∀ b : UInt8, (percentByte b).all (IsPercentText ·) = true :=
    forall_byte (by decide +kernel)
  intro c hc
  exact of_decide_eq_true (List.all_eq_true.1 (hall b) c hc)

theorem isPercentText_percentEncode (s : String) :
    ∀ c ∈ (percentEncode s).toList, IsPercentText c := by
  intro c hc
  rw [percentEncode, String.toList_ofList] at hc
  obtain ⟨_, _, hc⟩ := List.mem_flatMap.1 hc
  obtain ⟨b, _, hc⟩ := List.mem_flatMap.1 hc
  exact isPercentText_percentByte b c hc

example : ['/', '?', '#', '\x7b', '\x7d'].filter (IsPercentText ·) = [] := by decide

end OpenApi.Text
