import DocumentQuery.Text.Percent
import DocumentQuery.Text.Split

/-!
# Parameters of a URL

The query part of a URL as names with values, in order. A plus sign is a blank and escapes are
decoded, in that order; a part that cannot be decoded is kept with its escapes. Of several
parameters with one name the first counts.
-/

namespace DocumentQuery

/-- Names and values in the order of the URL. -/
abbrev Parameters := List (String × String)

namespace Parameters

/-- The text of a name or value as it stands in a URL. -/
def decodePart (raw : List Char) : String :=
  let spaced := raw.map fun char => if char = '+' then ' ' else char
  String.ofList ((Text.percentDecode? spaced).getD spaced)

/-- A parameter from its text; the value is empty where there is no equals sign. -/
def ofPart (part : List Char) : String × String :=
  match Text.cut? '=' part with
  | some (name, value) => (decodePart name, decodePart value)
  | none => (decodePart part, "")

/-- The parameters of a query text. Empty parts are none. -/
def ofQuery (query : List Char) : Parameters :=
  ((Text.split '&' query).filter fun part => !part.isEmpty).map ofPart

/-- The parameters of a URL, which stand behind its first question mark. -/
def ofUrl (url : String) : Parameters :=
  match Text.cut? '?' url.toList with
  | some (_, query) => ofQuery query
  | none => []

/-- The value of the first parameter with a name. -/
def get? (parameters : Parameters) (name : String) : Option String := parameters.lookup name

/-- The value of the first parameter with a name, unless it is empty. -/
def nonEmpty? (parameters : Parameters) (name : String) : Option String :=
  (parameters.get? name).filter fun value => !value.isEmpty

end Parameters

end DocumentQuery
