import OpenApi.Json.Basic

/-!
# Tokens of pointers

A key is escaped for a pointer and comes back, though the two escapes are undone one after the other.
-/

namespace OpenApi.Json

/-! ## Cutting at slashes -/

theorem splitSlashes_of_not_mem {token : List Char} (h : '/' ∉ token) :
    splitSlashes token = [token] := by
  induction token with
  | nil => rfl
  | cons c rest ih =>
    obtain ⟨hc, hrest⟩ := not_or.1 (mt List.mem_cons.2 h)
    rw [splitSlashes, ih hrest]
    exact fun hslash => hc hslash.symm

theorem splitSlashes_append {token : List Char} (h : '/' ∉ token) (rest : List Char) :
    splitSlashes (token ++ '/' :: rest) = token :: splitSlashes rest := by
  induction token with
  | nil => rfl
  | cons c token ih =>
    obtain ⟨hc, htoken⟩ := not_or.1 (mt List.mem_cons.2 h)
    rw [List.cons_append, splitSlashes, ih htoken]
    exact fun hslash => hc hslash.symm

/-! ## Escapes -/

theorem replaceEscape_cons {c : Char} (h : c ≠ '~') (digit char : Char) (rest : List Char) :
    replaceEscape digit char (c :: rest) = c :: replaceEscape digit char rest := by
  cases rest <;> simp [replaceEscape, h]

theorem slash_not_mem_escapeToken (key : List Char) : '/' ∉ escapeToken key := by
  induction key with
  | nil => exact List.not_mem_nil
  | cons c rest ih =>
    by_cases htilde : c = '~'
    · subst htilde
      simp [escapeToken, ih]
    by_cases hslash : c = '/'
    · subst hslash
      simp [escapeToken, ih]
    rw [escapeToken]
    · simp [Ne.symm hslash, ih]
    · exact htilde
    · exact hslash

/-- What is left of an escaped key when its slashes are back. -/
def escapeTildes : List Char → List Char
  | [] => []
  | c :: rest => if c = '~' then '~' :: '0' :: escapeTildes rest else c :: escapeTildes rest

theorem replaceEscape_slash (key : List Char) :
    replaceEscape '1' '/' (escapeToken key) = escapeTildes key := by
  induction key with
  | nil => rfl
  | cons c rest ih =>
    by_cases htilde : c = '~'
    · -- The digit behind the tilde is no one, so both are passed over.
      subst htilde
      rw [escapeToken, replaceEscape, if_neg (by decide), replaceEscape_cons (by decide), ih]
      rfl
    by_cases hslash : c = '/'
    · subst hslash
      rw [escapeToken, replaceEscape, if_pos rfl, ih]
      rfl
    · rw [escapeToken, replaceEscape_cons htilde, ih, escapeTildes, if_neg htilde]
      · exact htilde
      · exact hslash

theorem replaceEscape_tilde (key : List Char) :
    replaceEscape '0' '~' (escapeTildes key) = key := by
  induction key with
  | nil => rfl
  | cons c rest ih =>
    rw [escapeTildes]
    by_cases htilde : c = '~'
    · rw [if_pos htilde, replaceEscape, if_pos rfl, ih, htilde]
    · rw [if_neg htilde, replaceEscape_cons htilde, ih]

theorem unescapeToken_escapeToken (key : List Char) : unescapeToken (escapeToken key) = key := by
  rw [unescapeToken, replaceEscape_slash, replaceEscape_tilde]

end OpenApi.Json
