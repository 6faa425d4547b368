import OpenApi.DateTime.Calendar

/-!
# Date-times

An instant together with the offset at which it was written. A leap second is the last second of
its minute with more than a second's worth of nanoseconds.
-/

namespace OpenApi

structure DateTime where
  /-- Seconds since the start of 1970 in universal time. -/
  seconds : Int
  /-- Nanoseconds within the second; 10^9 or more within a leap second. -/
  nanos : Nat
  /-- Seconds east of universal time. -/
  offset : Int
  deriving DecidableEq, Repr

namespace DateTime

/-- The same instant, whatever the offsets. -/
def sameInstant (a b : DateTime) : Bool :=
  a.seconds == b.seconds && a.nanos == b.nanos

/-- The same instant at offset zero. -/
def toUtc (t : DateTime) : DateTime :=
  { t with offset := 0 }

/-- A time of the day. A leap second is second 60. -/
structure Time where
  hour : Nat
  minute : Nat
  second : Nat
  nanos : Nat
  deriving DecidableEq, Repr

def Time.isValid (t : Time) : Bool :=
  t.hour < 24 && t.minute < 60 && t.second ≤ 60

/-- The date-time that a calendar and a clock at `offset` show. -/
def ofLocal (date : Date) (time : Time) (offset : Int) : DateTime :=
  let leap := time.second == 60
  let second := if leap then 59 else time.second
  ⟨date.toDays * 86400 + (time.hour * 3600 + time.minute * 60 + second : Nat) - offset,
    if leap then time.nanos + 1000000000 else time.nanos, offset⟩

/-- What a calendar at the offset shows. -/
def localDate (t : DateTime) : Date :=
  .ofDays ((t.seconds + t.offset).fdiv 86400)

/-- What a clock at the offset shows. -/
def localTime (t : DateTime) : Time :=
  let s := ((t.seconds + t.offset).fmod 86400).toNat
  let leap := 1000000000 ≤ t.nanos
  ⟨s / 3600, s / 60 % 60, s % 60 + (if leap then 1 else 0),
    if leap then t.nanos - 1000000000 else t.nanos⟩

theorem sameInstant_refl (a : DateTime) : a.sameInstant a := by
  simp [sameInstant]

theorem sameInstant_symm {a b : DateTime} (h : a.sameInstant b) : b.sameInstant a := by
  simp_all [sameInstant]

theorem sameInstant_trans {a b c : DateTime} (hab : a.sameInstant b) (hbc : b.sameInstant c) :
    a.sameInstant c := by
  simp_all [sameInstant]

end DateTime

end OpenApi
