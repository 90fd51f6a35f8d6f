import DocumentQuery.Calendar.Layout

/-!
# Date formats

The textual forms of dates that settings can name. Each is named by its pattern and reads a
text as an instant; a form without an offset is read as UTC. A text with several readings has
that of the first format in a list that accepts it.
-/

namespace DocumentQuery.Calendar

/-- A textual form of dates. Settings name it by its pattern, and texts are tried in the order in
which the settings list the forms. -/
inductive Format where
  /-- Timestamps of RFC 3339, times without an offset, and bare dates. -/
  | iso
  | yearFirstDashed
  | yearFirstSlashed
  | monthFirst
  | dayFirst
  | utcSeconds
  | utcMilliseconds
  | dayMonthName
  | monthNameDay
  | dotted
  deriving DecidableEq, Repr, Inhabited

namespace Format

/-- The pattern that names a format. -/
def name : Format → String
  | iso => "ISO"
  | yearFirstDashed => "YYYY-MM-DD"
  | yearFirstSlashed => "YYYY/MM/DD"
  | monthFirst => "MM/DD/YYYY"
  | dayFirst => "DD/MM/YYYY"
  | utcSeconds => "YYYY-MM-DDTHH:mm:ssZ"
  | utcMilliseconds => "YYYY-MM-DDTHH:mm:ss.SSSZ"
  | dayMonthName => "DD-MMM-YYYY"
  | monthNameDay => "MMM DD, YYYY"
  | dotted => "DD.MM.YYYY"

/-- All formats, in the order in which they are tried where no list is given. -/
def all : List Format :=
  [iso, yearFirstDashed, yearFirstSlashed, monthFirst, dayFirst, utcSeconds, utcMilliseconds,
    dayMonthName, monthNameDay, dotted]

/-- The format with a name. -/
def ofName? (name : String) : Option Format := all.find? fun format => format.name == name

end Format

/-- The layout of dates with the year first and slashes. -/
def slashedDate : List Item := [.year, .literal '/', .month, .literal '/', .day]

/-- The layout of a date and the hour and minute. -/
def minutes : List Item := dashedDate ++ [.literal 'T', .hour, .literal ':', .minute]

/-- The layout of a date and a time to the second. -/
def seconds : List Item := minutes ++ [.literal ':', .second]

/-- The layouts of a format, tried in turn. Both formats with the year first take dashes as well as
slashes. The fraction of a second may be absent wherever a layout has one. -/
def Format.layouts : Format → List (List Item)
  | .iso => [seconds ++ [.fraction], minutes, dashedDate]
  | .yearFirstDashed | .yearFirstSlashed => [dashedDate, slashedDate]
  | .monthFirst => [[.month, .literal '/', .day, .literal '/', .year]]
  | .dayFirst => [[.day, .literal '/', .month, .literal '/', .year]]
  | .utcSeconds => [seconds ++ [.literal 'Z']]
  | .utcMilliseconds => [seconds ++ [.milliseconds, .literal 'Z']]
  | .dayMonthName => [[.day, .literal '-', .monthName, .literal '-', .year]]
  | .monthNameDay => [[.monthName, .blanks, .day, .literal ',', .blanks, .year]]
  | .dotted => [[.day, .literal '.', .month, .literal '.', .year]]

/-- The instant that a text names in a format. Blanks around the text are passed over. -/
def Format.read? (format : Format) (text : String) : Option Instant :=
  let trimmed := Text.trim text.toList
  let timestamp := if format = .iso then readTimestamp? trimmed else none
  timestamp <|> format.layouts.findSome? fun layout => readAs? layout trimmed

/-- The reading of the first format that accepts a text. -/
def readFirst? (formats : List Format) (text : String) : Option Instant :=
  formats.findSome? fun format => format.read? text

end DocumentQuery.Calendar
