import DocumentQuery.Json.Basic
import DocumentQuery.Binary64.Decimal

/-!
# Writing JSON

The compact text of a value: no blanks, members in their order, integers in plain digits and
binary64 numbers in the fewest digits that read back.
-/

namespace DocumentQuery.Json

/-- The hexadecimal digit of a value below sixteen. -/
def hexDigit (value : Nat) : Char := (Nat.digitChar value)

/-- A character inside a string: quote, backslash and control characters are escaped. -/
def escapeChar (char : Char) : String :=
  if char == '"' then "\\\""
  else if char == '\\' then "\\\\"
  else if char == '\n' then "\\n"
  else if char == '\r' then "\\r"
  else if char == '\t' then "\\t"
  else if char.toNat == 8 then "\\b"
  else if char.toNat == 12 then "\\f"
  else if char.toNat < 0x20 then
    String.ofList ['\\', 'u', '0', '0', hexDigit (char.toNat / 16), hexDigit (char.toNat % 16)]
  else String.singleton char

/-- A string with its quotes. -/
def quoted (text : String) : String :=
  "\"" ++ text.toList.foldl (fun written char => written ++ escapeChar char) "" ++ "\""

/-- The text of a number. -/
def numberText : Number → String
  | .integer value => if value < 0 then "-" ++ Nat.repr value.natAbs else Nat.repr value.natAbs
  | .float value => value.toText Binary64.jsonLayout

mutual

/-- The compact text of a value, without blanks and with the members in their order. -/
def toText : Json → String
  | .null => "null"
  | .bool true => "true"
  | .bool false => "false"
  | .number value => numberText value
  | .string text => quoted text
  | .array items => "[" ++ itemsText items ++ "]"
  | .object members => "\x7b" ++ membersText members ++ "\x7d"
termination_by structural value => value

/-- The texts of items with commas between them. -/
def itemsText : List Json → String
  | [] => ""
  | [item] => toText item
  | item :: items => toText item ++ "," ++ itemsText items
termination_by structural items => items

/-- The texts of members with commas between them. -/
def membersText : List (String × Json) → String
  | [] => ""
  | [(name, value)] => quoted name ++ ":" ++ toText value
  | (name, value) :: members => quoted name ++ ":" ++ toText value ++ "," ++ membersText members
termination_by structural members => members

end

end DocumentQuery.Json
