import OpenApi.DateTime.Basic

/-!
# Date-time text

A date and a time with an offset, which is `Z` at offset zero. The fraction of a second has no
digits, three, six or nine, as few as hold it. A year outside four digits carries its sign.
-/

namespace OpenApi.DateTime

/-- At least `width` digits. -/
def padded (width n : Nat) : String :=
  let digits := Nat.toDigits 10 n
  String.ofList (List.replicate (width - digits.length) '0' ++ digits)

def renderYear (year : Int) : String :=
  let sign := if year < 0 then "-" else if year ≤ 9999 then "" else "+"
  sign ++ padded 4 year.natAbs

def renderDate (d : Date) : String :=
  renderYear d.year ++ "-" ++ padded 2 d.month ++ "-" ++ padded 2 d.day

def renderFraction (nanos : Nat) : String :=
  if nanos = 0 then ""
  else if nanos % 1000000 = 0 then "." ++ padded 3 (nanos / 1000000)
  else if nanos % 1000 = 0 then "." ++ padded 6 (nanos / 1000)
  else "." ++ padded 9 nanos

def renderTime (t : Time) : String :=
  padded 2 t.hour ++ ":" ++ padded 2 t.minute ++ ":" ++ padded 2 t.second ++ renderFraction t.nanos

def renderOffset (offset : Int) : String :=
  if offset = 0 then "Z"
  else
    let minutes := offset.natAbs / 60
    (if offset < 0 then "-" else "+") ++ padded 2 (minutes / 60) ++ ":" ++ padded 2 (minutes % 60)

def render (t : DateTime) : String :=
  renderDate t.localDate ++ "T" ++ renderTime t.localTime ++ renderOffset t.offset

end OpenApi.DateTime
