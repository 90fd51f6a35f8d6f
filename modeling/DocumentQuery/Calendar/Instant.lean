import DocumentQuery.Calendar.Date

/-!
# Instants

A point of time in UTC: a day, a second of that day and a part of that second. A part of a
thousand million nanoseconds or more belongs to a leap second, which follows the second it is
counted with. The canonical text has milliseconds, cut off and not rounded.
-/

namespace DocumentQuery

/-- A point of time in UTC. -/
structure Instant where
  days : Int
  second : Nat
  nanosecond : Nat
  deriving DecidableEq, Repr, Inhabited

namespace Instant

/-- The instant at a local time of day, given how many seconds local time is ahead. -/
def ofLocal (date : Date) (second nanosecond : Nat) (ahead : Int) : Instant :=
  let total := date.toDays * 86400 + second - ahead
  ⟨total.fdiv 86400, (total.fmod 86400).toNat, nanosecond⟩

/-- The day of the instant. -/
def date (instant : Instant) : Date := .ofDays instant.days

/-- The instant a number of milliseconds after the start of 1970, if its year has a text. -/
def ofMilliseconds? (milliseconds : Int) : Option Instant :=
  let instant : Instant :=
    ⟨milliseconds.fdiv 86400000,
      ((milliseconds.fmod 86400000) / 1000).toNat,
      ((milliseconds.fmod 1000) * 1000000).toNat⟩
  if Date.inRange instant.date.year then some instant else none

/-- A number in at least a given number of digits. -/
def padded (width value : Nat) : List Char :=
  let digits := Nat.toDigits 10 value
  List.replicate (width - digits.length) '0' ++ digits

/-- A year in four digits, with a sign where it is not one of 0 to 9999. -/
def yearText (year : Int) : List Char :=
  if 0 ≤ year ∧ year ≤ 9999 then padded 4 year.natAbs
  else (if year < 0 then '-' else '+') :: padded 4 year.natAbs

/-- The canonical text, `YYYY-MM-DDTHH:mm:ss.SSSZ`. A leap second is kept as nanoseconds beyond one
second and shown as one second more. -/
def toText (instant : Instant) : String :=
  let date := instant.date
  let isLeap := 1000000000 ≤ instant.nanosecond
  let second := instant.second % 60 + if isLeap then 1 else 0
  let millisecond := instant.nanosecond % 1000000000 / 1000000
  String.ofList (yearText date.year ++ '-' :: padded 2 date.month ++ '-' :: padded 2 date.day
    ++ 'T' :: padded 2 (instant.second / 3600)
    ++ ':' :: padded 2 (instant.second / 60 % 60)
    ++ ':' :: padded 2 second ++ '.' :: padded 3 millisecond ++ ['Z'])

end Instant

end DocumentQuery
