import OpenApi.Json.Basic

/-!
# Reading JSON text

A reader takes bytes and gives a value with the bytes that follow it. Brackets nest less than 128
deep. A decimal literal is not read exactly: its first digits make a significand of at most
sixty-four bits, which is rounded to a double and then scaled by a rounded power of ten.
-/

namespace OpenApi.Json

open OpenApi.Number

/-- What is wrong with a text. -/
inductive Fault where
  | eofList | eofObject | eofString | eofValue
  | expectedColon | expectedListEnd | expectedObjectEnd | expectedIdent | expectedValue
  | invalidEscape | invalidNumber | numberOutOfRange | invalidCodePoint
  | controlCharacter | keyNotString | loneSurrogate | hexEscapeEnds
  | trailingComma | trailingCharacters | tooDeep
  deriving DecidableEq, Repr

def Fault.message : Fault → String
  | .eofList => "EOF while parsing a list"
  | .eofObject => "EOF while parsing an object"
  | .eofString => "EOF while parsing a string"
  | .eofValue => "EOF while parsing a value"
  | .expectedColon => "expected `:`"
  | .expectedListEnd => "expected `,` or `]`"
  | .expectedObjectEnd => "expected `,` or `\x7d`"
  | .expectedIdent => "expected ident"
  | .expectedValue => "expected value"
  | .invalidEscape => "invalid escape"
  | .invalidNumber => "invalid number"
  | .numberOutOfRange => "number out of range"
  | .invalidCodePoint => "invalid unicode code point"
  | .controlCharacter => "control character (\\u0000-\\u001F) found while parsing a string"
  | .keyNotString => "key must be a string"
  | .loneSurrogate => "lone leading surrogate in hex escape"
  | .hexEscapeEnds => "unexpected end of hex escape"
  | .trailingComma => "trailing comma"
  | .trailingCharacters => "trailing characters"
  | .tooDeep => "recursion limit exceeded"

/-- A fault at a place: lines count from one, columns are the bytes of the line up to there. -/
structure TextError where
  fault : Fault
  line : Nat
  column : Nat
  deriving DecidableEq, Repr

def TextError.message (e : TextError) : String :=
  s!"{e.fault.message} at line {e.line} column {e.column}"

namespace Reader

/-- A fault, and how many bytes of the text stand after it. -/
structure Stop where
  fault : Fault
  left : Nat

/-- What was read, with the bytes after it. -/
abbrev Read (α : Type) := α × List UInt8

/-- Stops before the bytes `rest`. -/
def stop {α : Type} (fault : Fault) (rest : List UInt8) : Except Stop (Read α) :=
  .error ⟨fault, rest.length⟩

/-- Stops after the first of the bytes `rest`, if there is one. -/
def stopAt {α : Type} (fault : Fault) (rest : List UInt8) : Except Stop (Read α) :=
  .error ⟨fault, rest.length - 1⟩

def byte (c : Char) : UInt8 :=
  c.toNat.toUInt8

def isBlank (b : UInt8) : Bool :=
  b == byte ' ' || b == byte '\n' || b == byte '\t' || b == byte '\r'

def skipBlanks (bs : List UInt8) : List UInt8 :=
  bs.dropWhile isBlank

/-! ## Numbers -/

def digit? (b : UInt8) : Option Nat :=
  if byte '0' ≤ b && b ≤ byte '9' then some (b - byte '0').toNat else none

def startsWithDigit : List UInt8 → Bool
  | b :: _ => (digit? b).isSome
  | [] => false

/-- Takes digits into `n` while it stays below `bound`, counting them. -/
def takeDigits (bound n count : Nat) : List UInt8 → Nat × Nat × List UInt8
  | [] => (n, count, [])
  | b :: rest =>
    match digit? b with
    | some d => if n * 10 + d < bound then takeDigits bound (n * 10 + d) (count + 1) rest
        else (n, count, b :: rest)
    | none => (n, count, b :: rest)

/-- Passes over digits, counting them. -/
def dropDigits (count : Nat) : List UInt8 → Nat × List UInt8
  | [] => (count, [])
  | b :: rest => if (digit? b).isSome then dropDigits (count + 1) rest else (count, b :: rest)

def powerOfTen (e : Nat) : Double :=
  (Double.nearest? (Nat.pow 10 e) 1).getD .zero

/-- Divides by powers of ten, by at most `10 ^ 308` at a time. -/
def divideDown : Nat → Double → Nat → Double
  | 0, _, _ => .zero
  | fuel + 1, d, e =>
    if e ≤ 308 then (d.divMagnitude? (powerOfTen e)).getD .zero
    else if d.isZero then d
    else divideDown fuel ((d.divMagnitude? (powerOfTen 308)).getD .zero) (e - 308)

/-- The double for `significand * 10 ^ e`, each step rounded; none when it is out of range. -/
def scale? (significand : Nat) (e : Int) : Option Double :=
  let d := (Double.ofNat? significand).getD .zero
  if e < 0 then some (divideDown 8 d (-e).toNat)
  else if e ≤ 308 then d.mulMagnitude? (powerOfTen e.toNat)
  else if d.isZero then some d
  else none

def signed (negative : Bool) (d : Double) : Json :=
  .number (.double (if negative then d.negate else d))

def finish (negative : Bool) (significand : Nat) (e : Int) (rest : List UInt8) :
    Except Stop (Read Json) :=
  match scale? significand e with
  | some d => .ok (signed negative d, rest)
  | none => stop .numberOutOfRange rest

/-- The digits of an exponent, after its sign. -/
def readExponentDigits (negative : Bool) (significand : Nat) (start : Int) (negativeExponent : Bool)
    (bs : List UInt8) : Except Stop (Read Json) :=
  match bs with
  | [] => stop .eofValue []
  | b :: rest =>
    if (digit? b).isNone then stop .invalidNumber rest
    else
      let (e, _, rest) := takeDigits 0x80000000 0 0 bs
      if startsWithDigit rest then
        if significand ≠ 0 ∧ !negativeExponent then stopAt .numberOutOfRange rest
        else .ok (signed negative .zero, (dropDigits 0 rest).2)
      else finish negative significand (if negativeExponent then start - e else start + e) rest

/-- What may follow the digits of a number: an exponent, or nothing. -/
def readExponent (negative : Bool) (significand : Nat) (start : Int) (bs : List UInt8) :
    Except Stop (Read Json) :=
  match bs with
  | b :: rest =>
    if b == byte 'e' || b == byte 'E' then
      match rest with
      | s :: more =>
        if s == byte '+' then readExponentDigits negative significand start false more
        else if s == byte '-' then readExponentDigits negative significand start true more
        else readExponentDigits negative significand start false rest
      | [] => readExponentDigits negative significand start false rest
    else finish negative significand start bs
  | [] => finish negative significand start bs

/-- The digits after a point. -/
def readFraction (negative : Bool) (significand : Nat) (start : Int) (bs : List UInt8) :
    Except Stop (Read Json) :=
  let (significand, count, rest) := takeDigits 0x10000000000000000 significand 0 bs
  if count = 0 && !startsWithDigit rest then
    stopAt (if rest.isEmpty then .eofValue else .invalidNumber) rest
  else readExponent negative significand (start - count) (dropDigits 0 rest).2

/-- What follows the whole part of a number, `dropped` digits of which were passed over. -/
def readTail (negative : Bool) (significand dropped : Nat) (bs : List UInt8) :
    Except Stop (Read Json) :=
  let whole : Except Stop (Read Json) :=
    if dropped ≠ 0 then finish negative significand dropped bs
    else if !negative then .ok (.number (.integer significand), bs)
    else if significand = 0 ∨ 0x8000000000000000 < significand then
      .ok (signed true ((Double.ofNat? significand).getD .zero), bs)
    else .ok (.number (.integer (-significand)), bs)
  match bs with
  | b :: rest =>
    if b == byte '.' then readFraction negative significand dropped rest
    else if b == byte 'e' || b == byte 'E' then readExponent negative significand dropped bs
    else whole
  | [] => whole

/-- A number after its sign. -/
def readNumber (negative : Bool) (bs : List UInt8) : Except Stop (Read Json) :=
  match bs with
  | [] => stop .eofValue []
  | b :: rest =>
    if b == byte '0' then
      if startsWithDigit rest then stopAt .invalidNumber rest else readTail negative 0 0 rest
    else if (digit? b).isNone then stop .invalidNumber rest
    else
      let (significand, _, rest) := takeDigits 0x10000000000000000 0 0 bs
      let (dropped, rest) := dropDigits 0 rest
      readTail negative significand dropped rest

/-! ## Strings -/

def hexDigit? (b : UInt8) : Option Nat :=
  if byte '0' ≤ b && b ≤ byte '9' then some (b - byte '0').toNat
  else if byte 'a' ≤ b && b ≤ byte 'f' then some (b - byte 'a' + 10).toNat
  else if byte 'A' ≤ b && b ≤ byte 'F' then some (b - byte 'A' + 10).toNat
  else none

def hexValue? (a b c d : UInt8) : Option Nat := do
  return (((← hexDigit? a) * 16 + (← hexDigit? b)) * 16 + (← hexDigit? c)) * 16 + (← hexDigit? d)

def simpleEscape? (b : UInt8) : Option UInt8 :=
  if b == byte '"' || b == byte '\\' || b == byte '/' then some b
  else if b == byte 'b' then some 0x08
  else if b == byte 'f' then some 0x0c
  else if b == byte 'n' then some (byte '\n')
  else if b == byte 'r' then some (byte '\r')
  else if b == byte 't' then some (byte '\t')
  else none

/-- Puts a character before bytes that are kept in reverse. -/
def pushChar (acc : List UInt8) (code : Nat) : List UInt8 :=
  (String.utf8EncodeChar (Char.ofNat code)).reverse ++ acc

def isHighSurrogate (n : Nat) : Bool :=
  0xD800 ≤ n && n ≤ 0xDBFF

def isLowSurrogate (n : Nat) : Bool :=
  0xDC00 ≤ n && n ≤ 0xDFFF

/-- The bytes of a string up to its closing quote. -/
def readBytes (acc : List UInt8) : List UInt8 → Except Stop (Read (List UInt8))
  | [] => stop .eofString []
  | b :: rest =>
    if b == byte '"' then .ok (acc.reverse, rest)
    else if b == byte '\\' then
      match rest with
      | [] => stop .eofString []
      | e :: rest =>
        if e == byte 'u' then
          match rest with
          | a :: b :: c :: d :: rest =>
            match hexValue? a b c d with
            | none => stop .invalidEscape rest
            | some high =>
              if isLowSurrogate high then stop .loneSurrogate rest
              else if isHighSurrogate high then
                match rest with
                | [] => stop .eofString []
                | s :: rest =>
                  if s != byte '\\' then stop .hexEscapeEnds rest
                  else
                    match rest with
                    | [] => stop .eofString []
                    | u :: rest =>
                      if u != byte 'u' then stop .hexEscapeEnds rest
                      else
                        match rest with
                        | a :: b :: c :: d :: rest =>
                          match hexValue? a b c d with
                          | none => stop .invalidEscape rest
                          | some low =>
                            if isLowSurrogate low then
                              let code := (high - 0xD800) * 0x400 + (low - 0xDC00) + 0x10000
                              readBytes (pushChar acc code) rest
                            else stop .loneSurrogate rest
                        | _ => stop .eofString []
              else readBytes (pushChar acc high) rest
          | _ => stop .eofString []
        else
          match simpleEscape? e with
          | some c => readBytes (c :: acc) rest
          | none => stop .invalidEscape rest
    else if b < 0x20 then stop .controlCharacter rest
    else readBytes (b :: acc) rest

/-- The most bytes of a character. -/
def mostBytes : Nat := 4

/-- Passes over bytes that encode characters. -/
def dropCharacters : Nat → List UInt8 → List UInt8
  | 0, bs => bs
  | fuel + 1, bs =>
    match (List.range' 1 mostBytes).find? fun n => ByteArray.validateUTF8 ⟨(bs.take n).toArray⟩ with
    | some n => dropCharacters fuel (bs.drop n)
    | none => bs

/-- A string after its opening quote. Bytes that encode no characters are told of at the first of
them, once the whole string is read. -/
def readString (bs : List UInt8) : Except Stop (Read String) := do
  let (bytes, rest) ← readBytes [] bs
  match String.fromUTF8? ⟨bytes.toArray⟩ with
  | some s => return (s, rest)
  | none => stopAt .invalidCodePoint (dropCharacters bs.length bs)

/-! ## Values -/

/-- The rest of a word such as `null`. -/
def readWord (value : Json) : List Char → List UInt8 → Except Stop (Read Json)
  | [], bs => .ok (value, bs)
  | _ :: _, [] => stop .eofValue []
  | c :: word, b :: rest =>
    if b == byte c then readWord value word rest else stop .expectedIdent rest

/-- The items of an array after its bracket; `first` before the first of them. -/
def readItems (item : List UInt8 → Except Stop (Read Json)) :
    Nat → Bool → List Json → List UInt8 → Except Stop (Read Json)
  | 0, _, _, bs => stop .eofList bs
  | fuel + 1, first, acc, bs =>
    match skipBlanks bs with
    | [] => stopAt .eofList []
    | b :: rest =>
      if b == byte ']' then .ok (.array acc.reverse, rest)
      else if first then do
        let (v, rest) ← item (b :: rest)
        readItems item fuel false (v :: acc) rest
      else if b == byte ',' then
        match skipBlanks rest with
        | [] => stopAt .eofValue []
        | c :: rest =>
          if c == byte ']' then stopAt .trailingComma (c :: rest)
          else do
            let (v, rest) ← item (c :: rest)
            readItems item fuel false (v :: acc) rest
      else stopAt .expectedListEnd (b :: rest)

/-- A field from its opening quote on. -/
def readField (item : List UInt8 → Except Stop (Read Json)) (bs : List UInt8) :
    Except Stop (Read (String × Json)) := do
  let (key, rest) ← readString (bs.drop 1)
  match skipBlanks rest with
  | [] => stopAt .eofObject []
  | b :: rest =>
    if b == byte ':' then
      let (v, rest) ← item rest
      return ((key, v), rest)
    else stopAt .expectedColon (b :: rest)

/-- The fields of an object after its brace. -/
def readFields (item : List UInt8 → Except Stop (Read Json)) :
    Nat → Bool → List (String × Json) → List UInt8 → Except Stop (Read Json)
  | 0, _, _, bs => stop .eofObject bs
  | fuel + 1, first, acc, bs =>
    match skipBlanks bs with
    | [] => stopAt .eofObject []
    | b :: rest =>
      if b == byte '\x7d' then .ok (.object (OrderedMap.ofList acc.reverse), rest)
      else if first then
        if b == byte '"' then do
          let (field, rest) ← readField item (b :: rest)
          readFields item fuel false (field :: acc) rest
        else stopAt .keyNotString (b :: rest)
      else if b == byte ',' then
        match skipBlanks rest with
        | [] => stopAt .eofValue []
        | c :: rest =>
          if c == byte '"' then do
            let (field, rest) ← readField item (c :: rest)
            readFields item fuel false (field :: acc) rest
          else if c == byte '\x7d' then stopAt .trailingComma (c :: rest)
          else stopAt .keyNotString (c :: rest)
      else stopAt .expectedObjectEnd (b :: rest)

/-- A value; fewer than `depth` brackets may be open at once. -/
def readValue : Nat → List UInt8 → Except Stop (Read Json)
  | 0, bs => stopAt .tooDeep bs
  | depth + 1, bs =>
    match skipBlanks bs with
    | [] => stopAt .eofValue []
    | b :: rest =>
      if b == byte 'n' then readWord .null ['u', 'l', 'l'] rest
      else if b == byte 't' then readWord (.bool true) ['r', 'u', 'e'] rest
      else if b == byte 'f' then readWord (.bool false) ['a', 'l', 's', 'e'] rest
      else if b == byte '-' then readNumber true rest
      else if (digit? b).isSome then readNumber false (b :: rest)
      else if b == byte '"' then do
        let (s, rest) ← readString rest
        return (.string s, rest)
      else if b == byte '[' then
        if depth = 0 then stopAt .tooDeep (b :: rest)
        else readItems (readValue depth) (rest.length + 1) true [] rest
      else if b == byte '\x7b' then
        if depth = 0 then stopAt .tooDeep (b :: rest)
        else readFields (readValue depth) (rest.length + 1) true [] rest
      else stopAt .expectedValue (b :: rest)

/-- A value with nothing but blanks after it. -/
def readAll (bs : List UInt8) : Except Stop Json := do
  let (v, rest) ← readValue 128 bs
  match skipBlanks rest with
  | [] => return v
  | rest => (stopAt .trailingCharacters rest).map Prod.fst

/-- The place of a stop in the whole text. -/
def locate (bs : List UInt8) (s : Stop) : TextError :=
  let before := bs.take (bs.length - s.left)
  ⟨s.fault, before.count (byte '\n') + 1,
    (before.reverse.takeWhile (· != byte '\n')).length⟩

end Reader

/-- Reads bytes, which need not be the bytes of a text. -/
def ofBytes (bs : List UInt8) : Except TextError Json :=
  (Reader.readAll bs).mapError (Reader.locate bs)

def ofText (s : String) : Except TextError Json :=
  ofBytes s.toUTF8.toList

end OpenApi.Json
