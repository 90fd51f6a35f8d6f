import DocumentQuery.Calendar.Format
import DocumentQuery.Binary64.Decimal
import DocumentQuery.Json.Form
import DocumentQuery.Json.Path

/-!
# Coercion of dates

Fields of rows that hold dates in one of several forms get the canonical text of the instant.
Texts are read by formats, and numbers as a time since the start of 1970. A value that is no
date is left alone; a number too large for a date is left alone and reported.
-/

namespace DocumentQuery

open Json (Draft Form)

/-- The unit of numbers that stand for dates. -/
inductive EpochUnit where
  /-- Milliseconds above `10^10`, and seconds up to there. -/
  | automatic
  | milliseconds
  | seconds
  deriving DecidableEq, Repr, Inhabited

namespace EpochUnit

/-- The name of a unit in settings. -/
def name : EpochUnit → String
  | automatic => "auto"
  | milliseconds => "ms"
  | seconds => "s"

/-- The unit with a name. -/
def ofName? (name : String) : Option EpochUnit :=
  [automatic, milliseconds, seconds].find? fun unit => unit.name == name

/-- A number as milliseconds, if that is finite. -/
def toMilliseconds (unit : EpochUnit) (raw : Binary64) : Option Binary64 :=
  let fromSeconds := raw.mul (.ofNat 1000)
  match unit with
  | automatic => if raw.compare (.ofNat 10000000000) == .gt then some raw else fromSeconds
  | milliseconds => some raw
  | seconds => fromSeconds

/-- The instant that a number stands for, to the nearest millisecond. It must be within the calendar
and less than `2^63` milliseconds away. -/
def instant? (unit : EpochUnit) (raw : Binary64) : Option Instant := do
  let milliseconds ← unit.toMilliseconds raw
  if Nat.pow 2 63 ≤ milliseconds.wholePart then none
  else Instant.ofMilliseconds? milliseconds.round.truncate

/-- The report on a number that stands for no instant. -/
def outOfRange (raw : Binary64) : String :=
  "epoch value " ++ raw.toText Binary64.plainLayout ++ " is out of range"

end EpochUnit

/-- Which fields of rows are dates, and how they are read. -/
structure Coercion where
  fields : List String := []
  /-- The formats of texts; all of them where the list is empty. -/
  formats : List Calendar.Format := []
  unit : EpochUnit := .automatic
  deriving DecidableEq, Repr, Inhabited

namespace Coercion

/-- A value that stands for a date but could not be converted. -/
structure Fault where
  row : Nat
  field : String
  value : Json
  raw : Binary64
  deriving Inhabited

/-- The report on a fault. -/
def Fault.message (fault : Fault) : String := EpochUnit.outOfRange fault.raw

/-- What coercion has made of some rows: the rows, how many values it changed, and its faults. -/
structure Outcome where
  rows : List Json := []
  changed : Nat := 0
  faults : List Fault := []
  deriving Inhabited

/-- The formats that are tried. -/
def triedFormats (coercion : Coercion) : List Calendar.Format :=
  if coercion.formats.isEmpty then Calendar.Format.all else coercion.formats

/-- The instant that a value stands for, if it is a date at all; a number without an instant is a
failure. -/
def convert (coercion : Coercion) : Json → Except Binary64 (Option Instant)
  | .string text => .ok (Calendar.readFirst? coercion.triedFormats text)
  | .number value => match coercion.unit.instant? value.toBinary64 with
    | some instant => .ok (some instant)
    | none => .error value.toBinary64
  | _ => .ok none

/-- The row in an outcome of one row, after one more field. A missing or empty value is passed over,
as is one that is no date; a number too large for a date is left alone and reported. -/
def coerceField (coercion : Coercion) (index : Nat) (row : Json) (field : String) :
    Json × Nat × List Fault :=
  match (row.valueAt? field).filter fun value => !value.isNull with
  | none => (row, 0, [])
  | some value => match coercion.convert value with
    | .ok none => (row, 0, [])
    | .ok (some instant) => (row.setAt field (.string instant.toText), 1, [])
    | .error raw => (row, 0, [⟨index, field, value, raw⟩])

/-- A row after some fields in turn, with the number of changes and the faults. -/
def coerceFields (coercion : Coercion) (index : Nat) (row : Json) :
    List String → Json × Nat × List Fault
  | [] => (row, 0, [])
  | field :: fields =>
    let (row, changed, faults) := coercion.coerceField index row field
    let (row, moreChanged, moreFaults) := coercion.coerceFields index row fields
    (row, changed + moreChanged, faults ++ moreFaults)

/-- Coerces rows, the first of which has the given index. -/
def coerceFrom (coercion : Coercion) (index : Nat) : List Json → Outcome
  | [] => {}
  | row :: rows =>
    let (row, changed, faults) := coercion.coerceFields index row coercion.fields
    let rest := coercion.coerceFrom (index + 1) rows
    ⟨row :: rest.rows, changed + rest.changed, faults ++ rest.faults⟩

/-- Coerces every field of every row, in order. -/
def coerce (coercion : Coercion) (rows : List Json) : Outcome := coercion.coerceFrom 0 rows

/-- The document of a coercion. -/
def form : Form Coercion :=
  Coercion.mk
    <$> .defaulted "fields" [] (Draft.list Draft.text)
    <*> .defaulted "formats" [] (Draft.list (Draft.choice Calendar.Format.ofName?))
    <*> .defaulted "numeric_epoch" .automatic (Draft.choice EpochUnit.ofName?)

end Coercion

end DocumentQuery
