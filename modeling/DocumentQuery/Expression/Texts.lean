import DocumentQuery.Expression.Fault
import DocumentQuery.Json.Printer
import DocumentQuery.Text.Blank
import DocumentQuery.Text.Case
import DocumentQuery.Text.Replace

/-!
# Text functions on values

Lengths and positions count characters. Null stands for no text: most functions answer it with
null, and letter case and substrings take it for the empty text.
-/

namespace DocumentQuery.Expression

/-- The texts one after the other; null from the first null on, if no other value precedes. -/
def concat (operands : List Json) : Except Fault Json :=
  go [] operands
where
  /-- `sofar` is what the operands before have given. -/
  go (sofar : List Char) : List Json → Except Fault Json
    | [] => .ok (.string (String.ofList sofar))
    | .null :: _ => .ok .null
    | .string text :: operands => go (sofar ++ text.toList) operands
    | _ :: _ => .error (.expects "$concat" .texts)

/-- A value as a text: null is empty, and what is neither is its JSON text. -/
def textOf : Json → String
  | .null => ""
  | .string text => text
  | other => other.toText

/-- The text in capitals. -/
def toUpper (value : Json) : Except Fault Json :=
  .ok (.string (String.ofList (Text.toUpper (textOf value).toList)))

/-- The text in small letters. -/
def toLower (value : Json) : Except Fault Json :=
  .ok (.string (String.ofList (Text.toLower (textOf value).toList)))

/-- A position or length: the whole part of a number that is not negative. -/
def position (operator : String) (value : Option Json) : Except Fault Nat :=
  match value.bind Json.binary64? with
  | some number =>
    if number.negative && !number.isZero then .error (.expects operator .positions)
    else .ok number.wholePart
  | none => .error (.expects operator .positions)

/-- The text of an operand that may be null or absent. -/
def textOrEmpty (operator : String) : Option Json → Except Fault String
  | none | some .null => .ok ""
  | some (.string text) => .ok text
  | some _ => .error (.expects operator .text)

/-- The characters of a text from a position on, at most a given number of them. -/
def substring (operands : List Json) : Except Fault Json := do
  let text ← textOrEmpty "$substrCP" operands[0]?
  let start ← position "$substrCP" operands[1]?
  let length ← position "$substrCP" operands[2]?
  return .string (String.ofList ((text.toList.drop start).take length))

/-- The number of characters of a text. -/
def length : Json → Except Fault Json
  | .string text => .ok (.ofNat text.length)
  | _ => .error (.expects "$strLenCP" .text)

/-- The text without the blanks at its ends. -/
def trim : List Json → Except Fault Json
  | [.null] => .ok .null
  | [.string text] => .ok (.string (String.ofList (Text.trim text.toList)))
  | _ => .error (.expects "$trim" .text)

/-- The position where the second text first occurs in the first, or -1. -/
def indexOf : List Json → Except Fault Json
  | [] | .null :: _ => .ok .null
  | .string text :: .string needle :: _ =>
    .ok (match Text.find? needle.toList text.toList with
      | some (passed, _) => .ofNat passed
      | none => .ofInt (-1))
  | _ => .error (.expects "$indexOfCP" .texts)

/-- Replaces the second text by the third within the first. -/
def replace (operator : String) (within : List Char → List Char → List Char → List Char) :
    List Json → Except Fault Json
  | [.string text, .string needle, .string replacement] =>
    .ok (.string (String.ofList (within needle.toList replacement.toList text.toList)))
  | operands =>
    if operands.any Json.isNull then .ok .null else .error (.expects operator .texts)

end DocumentQuery.Expression
