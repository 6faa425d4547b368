import OpenApi.Proofs.Text.Percent
import OpenApi.Text.Quoted

/-!
# Literals

What is written as a literal is read as the text that it was written of, whatever stands behind it.
-/

namespace OpenApi.Text

/-- Where a reader of a literal stands: at a character, behind a backslash, before a number or in
one. -/
inductive LiteralState where
  | plain | escape | brace
  | number (n : Nat)

def escapedChar? : Char → Option Char
  | '0' => some '\x00'
  | 't' => some '\t'
  | 'r' => some '\r'
  | 'n' => some '\n'
  | '\\' => some '\\'
  | '"' => some '"'
  | _ => none

/-- The text up to the closing quote and what stands behind it; `read` is what has been read of the
text, in reverse. -/
def literalFrom : LiteralState → List Char → List Char → Option (String × List Char)
  | _, _, [] => none
  | .plain, read, c :: rest =>
    if c = '"' then some (String.ofList read.reverse, rest)
    else if c = '\\' then literalFrom .escape read rest
    else literalFrom .plain (c :: read) rest
  | .escape, read, c :: rest =>
    if c = 'u' then literalFrom .brace read rest
    else (escapedChar? c).bind fun d => literalFrom .plain (d :: read) rest
  | .brace, read, c :: rest =>
    if c = '\x7b' then literalFrom (.number 0) read rest else none
  | .number n, read, c :: rest =>
    if c = '\x7d' then literalFrom .plain (Char.ofNat n :: read) rest
    else (hexValue? c).bind fun d => literalFrom (.number (16 * n + d)) read rest

def literal? : List Char → Option (String × List Char)
  | '"' :: rest => literalFrom .plain [] rest
  | _ => none

/-! ## Numbers -/

theorem hexValue?_digitChar : ∀ d < 16, hexValue? d.digitChar = some d ∧ d.digitChar ≠ '\x7d' := by
  decide

theorem literalFrom_digitChar {d : Nat} (h : d < 16) (n : Nat) (read rest : List Char) :
    literalFrom (.number n) read (d.digitChar :: rest) =
      literalFrom (.number (16 * n + d)) read rest := by
  obtain ⟨hvalue, hne⟩ := hexValue?_digitChar d h
  rw [literalFrom, if_neg hne, hvalue, Option.bind_some]

theorem literalFrom_hexDigits (n : Nat) (read rest : List Char) :
    literalFrom (.number 0) read (hexDigits n ++ rest) = literalFrom (.number n) read rest := by
  unfold hexDigits
  induction n using Nat.strongRecOn generalizing rest with
  | ind n ih =>
    by_cases hsmall : n < 16
    · rw [Nat.toDigits_of_lt_base hsmall, List.singleton_append, literalFrom_digitChar hsmall,
        Nat.mul_zero, Nat.zero_add]
    · have hlt : n / 16 < n := by omega
      have hvalue : 16 * (n / 16) + n % 16 = n := by omega
      rw [Nat.toDigits_of_base_le (by decide) (Nat.le_of_not_lt hsmall), List.append_assoc,
        ih _ hlt, List.singleton_append, literalFrom_digitChar (Nat.mod_lt n (by decide)), hvalue]

/-! ## Texts -/

theorem literalFrom_quoteChar (c : Char) (read rest : List Char) :
    literalFrom .plain read (quoteChar c ++ rest) = literalFrom .plain (c :: read) rest := by
  unfold quoteChar
  split
  · rfl
  · rfl
  · rfl
  · rfl
  · rfl
  · rfl
  · rename_i hbackslash hquote
    split
    · rw [List.singleton_append, literalFrom, if_neg hquote, if_neg hbackslash]
    · have hclose : literalFrom (.number c.toNat) read ('\x7d' :: rest) =
          literalFrom .plain (c :: read) rest := by
        rw [literalFrom, if_pos rfl, Char.ofNat_toNat]
      rw [List.append_assoc, List.append_assoc, List.singleton_append, ← hclose,
        ← literalFrom_hexDigits]
      rfl

theorem literalFrom_flatMap (cs read rest : List Char) :
    literalFrom .plain read (cs.flatMap quoteChar ++ '"' :: rest) =
      some (String.ofList (read.reverse ++ cs), rest) := by
  induction cs generalizing read with
  | nil => simp [literalFrom]
  | cons c cs ih =>
    rw [List.flatMap_cons, List.append_assoc, literalFrom_quoteChar, ih, List.reverse_cons,
      List.append_assoc, List.singleton_append]

/-- The literal of a text is read as the text. -/
theorem literal?_quoted (s : String) (rest : List Char) :
    literal? ((quoted s).toList ++ rest) = some (s, rest) := by
  have hlist : (quoted s).toList ++ rest = '"' :: (s.toList.flatMap quoteChar ++ '"' :: rest) := by
    simp [quoted]
  rw [hlist, literal?, literalFrom_flatMap, List.reverse_nil, List.nil_append, String.ofList_toList]

/-! ## Line feeds -/

theorem not_mem_hexDigits (n : Nat) : '\n' ∉ hexDigits n := by
  have hdigit : ∀ d < 16, '\n' ≠ d.digitChar := by decide
  unfold hexDigits
  induction n using Nat.strongRecOn with
  | ind n ih =>
    by_cases hsmall : n < 16
    · rw [Nat.toDigits_of_lt_base hsmall, List.mem_singleton]
      exact hdigit n hsmall
    · rw [Nat.toDigits_of_base_le (by decide) (Nat.le_of_not_lt hsmall), List.mem_append, not_or,
        List.mem_singleton]
      exact ⟨ih (n / 16) (by omega), hdigit _ (Nat.mod_lt n (by decide))⟩

theorem not_mem_quoteChar (c : Char) : '\n' ∉ quoteChar c := by
  unfold quoteChar
  split
  · decide
  · decide
  · decide
  · decide
  · decide
  · decide
  · rename_i hfeed _ _
    split
    · simpa using Ne.symm hfeed
    · simp [not_mem_hexDigits]

theorem not_mem_quoted (s : String) : '\n' ∉ (quoted s).toList := by
  simp [quoted, not_mem_quoteChar]

end OpenApi.Text
