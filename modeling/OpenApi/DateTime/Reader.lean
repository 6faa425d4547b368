import OpenApi.DateTime.Basic
import OpenApi.Text.Blank

/-!
# Reading date-times

Three forms are read, the first that fits: a date and a time with an offset; a date and a time
without one, taken at offset zero; a date alone, taken at its midnight. The last two forms allow
blanks before a number, numbers with fewer digits and years of any length after a sign. Only the
first form says what is wrong with a text.
-/

namespace OpenApi.DateTime

open OpenApi.Text

inductive Fault where
  | tooShort | tooLong | invalid | outOfRange
  deriving DecidableEq, Repr

def Fault.message : Fault → String
  | .tooShort => "premature end of input"
  | .tooLong => "trailing input"
  | .invalid => "input contains invalid characters"
  | .outOfRange => "input is out of range"

namespace Reader

def digitValue (c : Char) : Nat :=
  c.toNat - '0'.toNat

/-! ## The form with an offset -/

def twoDigits : List Char → Except Fault (Nat × List Char)
  | a :: b :: rest =>
    if a.isDigit && b.isDigit then .ok (digitValue a * 10 + digitValue b, rest)
    else .error .invalid
  | [a] => .error (if a.isDigit then .tooShort else .invalid)
  | [] => .error .tooShort

def mark (expected : Char) : List Char → Except Fault (List Char)
  | c :: rest => if c = expected then .ok rest else .error .invalid
  | [] => .error .tooShort

/-- Digits after a point: at least one, the tenth and later ones dropped. -/
def fraction (cs : List Char) : Except Fault (Nat × List Char) :=
  let digits := cs.takeWhile Char.isDigit
  let kept := digits.take 9
  match cs, digits with
  | [], _ => .error .tooShort
  | _, [] => .error .invalid
  | _, _ =>
    .ok (Nat.ofDigitChars 10 kept 0 * Nat.pow 10 (9 - kept.length), cs.drop digits.length)

/-- A fraction, if a point stands here. -/
def optionalFraction : List Char → Except Fault (Nat × List Char)
  | '.' :: rest => fraction rest
  | cs => .ok (0, cs)

/-- Minutes of an offset. -/
def offsetMinutes : List Char → Except Fault (Nat × List Char)
  | a :: b :: rest =>
    if a.isDigit && b.isDigit then
      if a ≤ '5' then .ok (digitValue a * 10 + digitValue b, rest) else .error .outOfRange
    else .error .invalid
  | [a] => .error (if a.toNat < 0x80 then .tooShort else .invalid)
  | [] => .error .tooShort

/-- Hours of an offset. -/
def offsetHours : List Char → Except Fault (Nat × List Char)
  | [a] => .error (if a.toNat < 0x80 then .tooShort else .invalid)
  | cs => twoDigits cs

def signedOffset (sign : Int) (cs : List Char) : Except Fault (Int × List Char) := do
  let (hours, cs) ← offsetHours cs
  let cs ← mark ':' cs
  let (minutes, cs) ← offsetMinutes cs
  return (sign * (hours * 3600 + minutes * 60 : Nat), cs)

/-- An offset from universal time, in seconds. The minus sign may be a true one. -/
def offset : List Char → Except Fault (Int × List Char)
  | [] => .error .tooShort
  | c :: rest =>
    if c = 'Z' ∨ c = 'z' then .ok (0, rest)
    else if c = '+' then signedOffset 1 rest
    else if c = '-' ∨ c = '−' then signedOffset (-1) rest
    else .error .invalid

/-- What may stand between the date and the time. -/
def dateMark : List Char → Except Fault (List Char)
  | c :: rest => if c = 'T' ∨ c = 't' ∨ c = ' ' then .ok rest else .error .invalid
  | [] => .error .tooShort

def withOffset (s : String) : Except Fault DateTime := do
  if s.utf8ByteSize < 19 then throw .tooShort
  let (century, cs) ← twoDigits s.toList
  let (year, cs) ← twoDigits cs
  let (month, cs) ← twoDigits (← mark '-' cs)
  let (day, cs) ← twoDigits (← mark '-' cs)
  let date : Date := ⟨(century * 100 + year : Nat), month, day⟩
  if !date.isValid then throw .outOfRange
  let (hour, cs) ← twoDigits (← dateMark cs)
  let (minute, cs) ← twoDigits (← mark ':' cs)
  let (second, cs) ← twoDigits (← mark ':' cs)
  let (nanos, cs) ← optionalFraction cs
  let time : Time := ⟨hour, minute, second, nanos⟩
  if !time.isValid then throw .outOfRange
  let (offset, cs) ← offset cs
  if !cs.isEmpty then throw .tooLong
  if offset.natAbs ≥ 86400 then throw .outOfRange
  return ofLocal date time offset

/-! ## The forms without an offset -/

/-- At least one digit and at most `width`. -/
def number? (width : Nat) (cs : List Char) : Option (Nat × List Char) :=
  let digits := (cs.take width).takeWhile Char.isDigit
  if digits.isEmpty then none
  else some (Nat.ofDigitChars 10 digits 0, cs.drop digits.length)

def year? (cs : List Char) : Option (Int × List Char) :=
  match trimStart cs with
  | '-' :: rest => (number? rest.length rest).map fun (n, rest) => (-(n : Int), rest)
  | '+' :: rest => (number? rest.length rest).map fun (n, rest) => ((n : Int), rest)
  | cs => (number? 4 cs).map fun (n, rest) => ((n : Int), rest)

def shortNumber? (cs : List Char) : Option (Nat × List Char) :=
  number? 2 (trimStart cs)

def mark? (expected : Char) (cs : List Char) : Option (List Char) :=
  (mark expected cs).toOption

def date? (cs : List Char) : Option (Date × List Char) := do
  let (year, cs) ← year? cs
  let (month, cs) ← shortNumber? (← mark? '-' cs)
  let (day, cs) ← shortNumber? (← mark? '-' cs)
  let date : Date := ⟨year, month, day⟩
  if date.isValid then some (date, cs) else none

def time? (cs : List Char) : Option (Time × List Char) := do
  let (hour, cs) ← shortNumber? cs
  let (minute, cs) ← shortNumber? (← mark? ':' cs)
  let (second, cs) ← shortNumber? (← mark? ':' cs)
  let (nanos, cs) ← (optionalFraction cs).toOption
  let time : Time := ⟨hour, minute, second, nanos⟩
  if time.isValid then some (time, cs) else none

def withoutOffset? (s : String) : Option DateTime := do
  let (date, cs) ← date? s.toList
  let (time, cs) ← time? (← mark? 'T' cs)
  if cs.isEmpty then some (ofLocal date time 0) else none

def dateAlone? (s : String) : Option DateTime := do
  let (date, cs) ← date? s.toList
  if cs.isEmpty then some (ofLocal date ⟨0, 0, 0, 0⟩ 0) else none

end Reader

def ofText (s : String) : Except Fault DateTime :=
  match Reader.withOffset s with
  | .ok t => .ok t
  | .error fault =>
    match Reader.withoutOffset? s <|> Reader.dateAlone? s with
    | some t => .ok t
    | none => .error fault

end OpenApi.DateTime
