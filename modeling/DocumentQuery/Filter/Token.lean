import DocumentQuery.Filter.Fault
import DocumentQuery.Json.Basic
import DocumentQuery.Text.Alphabetic
import DocumentQuery.Text.Blank
import DocumentQuery.Text.Numeral

/-!
# Tokens of filters

A filter text is a sequence of words, literals, parentheses and commas with blanks anywhere
between them. `tokens` reads all of a text before anything is made of it, so a fault in a token
is found before any other.
-/

namespace DocumentQuery.Filter

/-- A token of a filter. -/
inductive Token where
  | word (text : String)
  | literal (value : Json)
  | opening
  | closing
  | comma
  deriving Inhabited

/-- A token and the octet at which it begins. -/
structure Placed where
  token : Token
  position : Nat
  deriving Inhabited

/-- The value of a numeral: an integer if it fits into 64 bits, else a finite binary64 number. -/
def numeral? (text : List Char) : Option Json :=
  match Text.integer64? text with
  | some value => some (.ofInt value)
  | none => (Text.decimal? text).map fun value => .number (.float value)

/-- The rest of a quoted text behind its first quote, with the number of characters it takes up to
its last quote. A doubled quote stands for one. -/
def readQuoted : List Char → Option (List Char × Nat)
  | [] => none
  | '\'' :: '\'' :: rest => (readQuoted rest).map fun (text, size) => ('\'' :: text, size + 2)
  | '\'' :: _ => some ([], 1)
  | char :: rest => (readQuoted rest).map fun (text, size) => (char :: text, size + 1)

/-- Whether a character can begin a word. -/
def startsWord (char : Char) : Bool := Text.isAlphabetic char || char == '_' || char == '$'

/-- Whether a character can continue a word. -/
def continuesWord (char : Char) : Bool :=
  Text.isAlphanumeric char || char == '_' || char == '/' || char == '.' || char == '$'

/-- Whether a character can continue a numeral. -/
def continuesNumeral (char : Char) : Bool :=
  char.isDigit || char == '.' || char == 'e' || char == 'E'

/-- The token that begins with a character, and how many of the characters after it belong to it. -/
def readToken (char : Char) (rest : List Char) : Except Problem (Token × Nat) :=
  if char = '(' then .ok (.opening, 0)
  else if char = ')' then .ok (.closing, 0)
  else if char = ',' then .ok (.comma, 0)
  else if char = '\'' then
    match readQuoted rest with
    | some (text, size) => .ok (.literal (.string (String.ofList text)), size)
    | none => .error .unterminatedText
  else if char.isDigit || char = '-' then
    let others := rest.takeWhile continuesNumeral
    match numeral? (char :: others) with
    | some value => .ok (.literal value, others.length)
    | none => .error .invalidNumber
  else if startsWord char then
    let others := rest.takeWhile continuesWord
    .ok (.word (String.ofList (char :: others)), others.length)
  else .error (.unexpectedChar char)

/-- The tokens of a text that begins at an octet, when `passed` of its first characters belong to a
token that is read already. -/
def tokensFrom (position passed : Nat) : List Char → Except Fault (List Placed)
  | [] => .ok []
  | char :: rest =>
    let next := position + char.utf8Size
    match passed with
    | passed + 1 => tokensFrom next passed rest
    | 0 =>
      if Text.isBlank char then tokensFrom next 0 rest
      else match readToken char rest with
        | .error problem => .error ⟨position, problem⟩
        | .ok (token, size) => do return ⟨token, position⟩ :: (← tokensFrom next size rest)

/-- The tokens of a text. -/
def tokens (text : List Char) : Except Fault (List Placed) := tokensFrom 0 0 text

end DocumentQuery.Filter
