import DocumentQuery.Calendar.Layout
import DocumentQuery.Expression.Fault
import DocumentQuery.Json.Basic

/-!
# Dates among values

A value is a date as an RFC 3339 timestamp, as a bare ISO date, or as a number of milliseconds
since the start of 1970.
-/

namespace DocumentQuery.Expression

/-- The instant that a value names. -/
def instant? : Json → Option Instant
  | .string text =>
    Calendar.readTimestamp? text.toList <|> Calendar.readAs? Calendar.dashedDate text.toList
  | .number value => value.signed?.bind Instant.ofMilliseconds?
  | _ => none

/-- Applies a function of an instant; null has the result null. -/
def onInstant (operator : String) (apply : Instant → Json) : Json → Except Fault Json
  | .null => .ok .null
  | value => match instant? value with
    | some instant => .ok (apply instant)
    | none => .error (.expects operator .date)

/-- The canonical text of a date. -/
def toDate : Json → Except Fault Json :=
  onInstant "$toDate" fun instant => .string instant.toText

/-- The year of a date. -/
def year : Json → Except Fault Json :=
  onInstant "$year" fun instant => .ofInt instant.date.year

/-- The month of a date. -/
def month : Json → Except Fault Json :=
  onInstant "$month" fun instant => .ofNat instant.date.month

/-- The day of the month of a date. -/
def day : Json → Except Fault Json :=
  onInstant "$dayOfMonth" fun instant => .ofNat instant.date.day

end DocumentQuery.Expression
