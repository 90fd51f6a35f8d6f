import DocumentQuery.Calendar.Instant
import DocumentQuery.Text.Blank
import DocumentQuery.Text.Numeral
import DocumentQuery.Text.Split

/-!
# Layouts of dates and times

A layout is a sequence of items that read the fields of a date and a time of day off a text:
numbers of bounded width before which blanks are skipped, the short English name of a month,
and literal characters. The timestamps of RFC 3339 have a stricter form of their own, with an
offset from UTC.
-/

namespace DocumentQuery

namespace Calendar

/-- What a layout reads in turn: a part of the date or of the time, any blanks, or one character
that has to stand there. -/
inductive Item where
  | year
  | month
  | day
  | hour
  | minute
  | second
  | fraction
  | milliseconds
  | monthName
  | blanks
  | literal (char : Char)
  deriving DecidableEq, Repr

/-- The fields read so far. A time of day that is not read is midnight. -/
structure Fields where
  year : Int := 0
  month : Nat := 0
  day : Nat := 0
  hour : Nat := 0
  minute : Nat := 0
  second : Nat := 0
  nanosecond : Nat := 0

/-- Up to `width` digits at the start of a text, at least one. -/
def readDigits (width : Nat) (text : List Char) : Option (List Char × List Char) :=
  let digits := (text.take width).takeWhile Char.isDigit
  if digits.isEmpty then none else some (digits, text.drop digits.length)

/-- Exactly `width` digits at the start of a text. -/
def readExactly (width : Nat) (text : List Char) : Option (Nat × List Char) :=
  let digits := text.take width
  if digits.length = width ∧ digits.all Char.isDigit then
    some (Text.digitsValue digits, text.drop width)
  else none

/-- A number of up to `width` digits behind blanks. -/
def readNumber (width : Nat) (text : List Char) : Option (Nat × List Char) :=
  (readDigits width (Text.trimStart text)).map fun (digits, rest) =>
    (Text.digitsValue digits, rest)

/-- A year behind blanks: four digits at most, or a sign and any number of them. -/
def readYear (text : List Char) : Option (Int × List Char) :=
  let unbounded (rest : List Char) : Option (Nat × List Char) :=
    (readDigits rest.length rest).map fun (digits, rest) => (Text.digitsValue digits, rest)
  match Text.trimStart text with
  | '-' :: rest => (unbounded rest).map fun (year, rest) => (-(year : Int), rest)
  | '+' :: rest => (unbounded rest).map fun (year, rest) => (year, rest)
  | rest => (readNumber 4 rest).map fun (year, rest) => (year, rest)

/-- Nanoseconds from the digits of a fraction; digits past the ninth are passed over. -/
def readFraction (text : List Char) : Option (Nat × List Char) :=
  (readDigits 9 text).map fun (digits, rest) =>
    (Text.digitsValue digits * Nat.pow 10 (9 - digits.length), rest.dropWhile Char.isDigit)

/-- The short names of the months in order. -/
def monthNames : List String :=
  ["jan", "feb", "mar", "apr", "may", "jun", "jul", "aug", "sep", "oct", "nov", "dec"]

/-- The number of the month whose short name starts a text, in any letter case. -/
def readMonthName (text : List Char) : Option (Nat × List Char) :=
  let name := String.ofList ((text.take 3).map Char.toLower)
  (monthNames.findIdx? (· == name)).map fun index => (index + 1, text.drop 3)

/-- The value if it lies within bounds. -/
def within (least greatest : Nat) (read : Option (Nat × List Char)) : Option (Nat × List Char) :=
  read.filter fun (value, _) => least ≤ value && value ≤ greatest

/-- Reads one item into the fields that have been read so far. A number is refused outside the range
of its field, while fractions and milliseconds may be left out together with their point. -/
def readItem (fields : Fields) (text : List Char) : Item → Option (Fields × List Char)
  | .year => (readYear text).map fun (year, rest) => ({ fields with year }, rest)
  | .month => (within 1 12 (readNumber 2 text)).map fun (month, rest) =>
      ({ fields with month }, rest)
  | .day => (within 1 31 (readNumber 2 text)).map fun (day, rest) => ({ fields with day }, rest)
  | .hour => (within 0 23 (readNumber 2 text)).map fun (hour, rest) =>
      ({ fields with hour }, rest)
  | .minute => (within 0 59 (readNumber 2 text)).map fun (minute, rest) =>
      ({ fields with minute }, rest)
  | .second => (within 0 60 (readNumber 2 text)).map fun (second, rest) =>
      ({ fields with second }, rest)
  | .fraction => match text with
    | '.' :: rest => (readFraction rest).map fun (nanosecond, rest) =>
        ({ fields with nanosecond }, rest)
    | rest => some (fields, rest)
  | .milliseconds => match text with
    | '.' :: rest => (readExactly 3 rest).map fun (milliseconds, rest) =>
        ({ fields with nanosecond := milliseconds * 1000000 }, rest)
    | rest => some (fields, rest)
  | .monthName => (readMonthName text).map fun (month, rest) => ({ fields with month }, rest)
  | .blanks => some (fields, Text.trimStart text)
  | .literal char => match text with
    | first :: rest => if first = char then some (fields, rest) else none
    | [] => none

/-- The fields of a whole text. -/
def readFields (fields : Fields) : List Item → List Char → Option Fields
  | [], text => if text.isEmpty then some fields else none
  | item :: items, text => (readItem fields text item).bind fun (fields, rest) =>
      readFields fields items rest

/-- The instant that fields name, given how many seconds their time is ahead of UTC. -/
def Fields.instant? (fields : Fields) (ahead : Int) : Option Instant :=
  (Date.of? fields.year fields.month fields.day).map fun date =>
    let isLeap := fields.second = 60
    let second := fields.hour * 3600 + fields.minute * 60 + if isLeap then 59 else fields.second
    .ofLocal date second (fields.nanosecond + if isLeap then 1000000000 else 0) ahead

/-- The instant that a text names in a layout, read as UTC. -/
def readAs? (items : List Item) (text : List Char) : Option Instant :=
  (readFields {} items text).bind fun fields => fields.instant? 0

/-- The text behind a character. -/
def behind? (char : Char) : List Char → Option (List Char)
  | first :: rest => if first = char then some rest else none
  | [] => none

/-- The seconds that an offset is ahead of UTC, from the end of a timestamp. The sign may be the
mathematical minus. -/
def readOffset (text : List Char) : Option Int := do
  let (sign, rest) ← match text with
    | ['Z'] | ['z'] => return 0
    | '+' :: rest => some (1, rest)
    | '-' :: rest => some ((-1 : Int), rest)
    | '−' :: rest => some (-1, rest)
    | _ => none
  let (hours, rest) ← readExactly 2 rest
  let rest ← behind? ':' rest
  let (minutes, rest) ← readExactly 2 rest
  if !rest.isEmpty || 23 < hours || 59 < minutes then none
  return sign * (hours * 3600 + minutes * 60 : Nat)

/-- The instant that an RFC 3339 timestamp names. A blank may stand for the `T`. -/
def readTimestamp? (text : List Char) : Option Instant := do
  let (year, rest) ← readExactly 4 text
  let (month, rest) ← within 1 12 (readExactly 2 (← behind? '-' rest))
  let (day, rest) ← within 1 31 (readExactly 2 (← behind? '-' rest))
  let rest ← match rest with
    | 'T' :: rest | 't' :: rest | ' ' :: rest => some rest
    | _ => none
  let (hour, rest) ← within 0 23 (readExactly 2 rest)
  let (minute, rest) ← within 0 59 (readExactly 2 (← behind? ':' rest))
  let (second, rest) ← within 0 60 (readExactly 2 (← behind? ':' rest))
  let (nanosecond, rest) ← match rest with
    | '.' :: rest => readFraction rest
    | rest => some (0, rest)
  let ahead ← readOffset rest
  Fields.instant? { year, month, day, hour, minute, second, nanosecond } ahead

/-- The layout of bare ISO dates. -/
def dashedDate : List Item := [.year, .literal '-', .month, .literal '-', .day]

end Calendar

end DocumentQuery
