import DocumentQuery.Text.Case
import DocumentQuery.Text.Split

/-!
# Media types

A media type is written as a general type and a subtype with a slash between them, and with
parameters behind semicolons. The subtype may have a suffix behind a plus, which tells how the
content is written. A media type with anything wrong in it, its parameters included, is none.
-/

namespace DocumentQuery

/-- A media type, without its parameters. -/
structure MediaType where
  general : List Char
  subtype : List Char
  suffix : Option (List Char) := none
  deriving DecidableEq, Repr

namespace MediaType

/-- Whether a character may stand in a name. -/
def isToken (char : Char) : Bool :=
  char.isAlphanum || "!#$%&'+-.^_\x60|~".toList.contains char

/-- What a character of the parameters belongs to, and whether it is the first of that. -/
inductive Position where
  | name (begun : Bool)
  | value (begun : Bool)
  | quoted (begun : Bool)
  /-- Behind the closing quote of a value. -/
  | closed
  deriving DecidableEq, Repr

namespace Position

/-- The position behind a character. Blanks may stand before a name and behind a quoted value, and
no quoted value is empty: a quote that stands first in it is part of it. -/
def step : Position → Char → Option Position
  | name false, ' ' => some (name false)
  | name true, '=' => some (value false)
  | name _, char => if isToken char then some (name true) else none
  | value false, '"' => some (quoted false)
  | value true, ';' => some (name false)
  | value _, char => if isToken char then some (value true) else none
  | quoted true, '"' => some closed
  | quoted _, char => if char.val < 32 || char.val == 127 then none else some (quoted true)
  | closed, ' ' => some closed
  | closed, ';' => some (name false)
  | closed, _ => none

/-- Whether the parameters may end at a position. -/
def isFinal : Position → Bool
  | name begun => !begun
  | value _ | closed => true
  | quoted _ => false

end Position

/-- Whether a text lists parameters. -/
def areParameters (text : List Char) : Bool :=
  (text.foldlM Position.step (.name false)).any Position.isFinal

/-- A subtype and its suffix, which stands behind the last plus that is not at the start. -/
def splitSuffix (text : List Char) : List Char × Option (List Char) :=
  let suffix := (text.reverse.takeWhile (· != '+')).reverse
  if suffix.length + 1 < text.length then
    (text.take (text.length - suffix.length - 1), some suffix)
  else (text, none)

/-- The media type of a text. A subtype may be empty only where no semicolon follows. -/
def ofText? (text : List Char) : Option MediaType := do
  let (general, rest) ← Text.cut? '/' text
  let (subtype, parameters) ← match Text.cut? ';' rest with
    | some ([], _) => none
    | some (subtype, parameters) => some (subtype, parameters)
    | none => some (rest, [])
  if general.isEmpty || !general.all isToken || !subtype.all isToken then none
  if !areParameters parameters then none
  let (subtype, suffix) := splitSuffix subtype
  return { general, subtype, suffix }

/-- Whether the content is an application's and written as JSON. Letter case does not count. -/
def isJson (mediaType : MediaType) : Bool :=
  let json (name : List Char) : Bool := Text.equalIgnoringCase name "json".toList
  Text.equalIgnoringCase mediaType.general "application".toList
    && (json mediaType.subtype || mediaType.suffix.any json)

end MediaType

end DocumentQuery
