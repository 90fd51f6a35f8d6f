import DocumentQuery.Filter.Condition
import DocumentQuery.Filter.Token
import DocumentQuery.Text.Case

/-!
# Reading conditions

The grammar of filters: alternatives of conjunctions of operands, an operand being negated, in
parentheses, or a comparison, membership or text test. Keywords are read in any letter case. At
most 64 negations and parentheses may be open at once.

Each reader answers with the tokens behind what it has read. `last` is the octet behind the
text, where a filter ends too early.
-/

namespace DocumentQuery.Filter

/-- How many negations and parentheses may be open at once. -/
def maximumLevels : Nat := 64

/-- The octet of the first token, or the one behind the text. -/
def positionOf (last : Nat) : List Placed → Nat
  | [] => last
  | first :: _ => first.position

/-- Whether the first token is a keyword, in any letter case. -/
def startsWith (keyword : String) : List Placed → Bool
  | ⟨.word text, _⟩ :: _ => Text.equalIgnoringCase text.toList keyword.toList
  | _ => false

/-- The word that comes first. -/
def readWord (last : Nat) (wanted : Expected) : List Placed → Except Fault (String × List Placed)
  | ⟨.word text, _⟩ :: rest => .ok (text, rest)
  | first :: _ => .error ⟨first.position, .expected wanted⟩
  | [] => .error ⟨last, .unexpectedEnd⟩

/-- The tokens behind an opening parenthesis. -/
def readOpening (last : Nat) : List Placed → Except Fault (List Placed)
  | ⟨.opening, _⟩ :: rest => .ok rest
  | first :: _ => .error ⟨first.position, .expected .openingMark⟩
  | [] => .error ⟨last, .unexpectedEnd⟩

/-- The tokens behind a closing parenthesis. -/
def readClosing (last : Nat) : List Placed → Except Fault (List Placed)
  | ⟨.closing, _⟩ :: rest => .ok rest
  | first :: _ => .error ⟨first.position, .expected .closingMark⟩
  | [] => .error ⟨last, .unexpectedEnd⟩

/-- The tokens behind a comma. -/
def readComma (last : Nat) : List Placed → Except Fault (List Placed)
  | ⟨.comma, _⟩ :: rest => .ok rest
  | first :: _ => .error ⟨first.position, .expected .comma⟩
  | [] => .error ⟨last, .unexpectedEnd⟩

/-- The value of a word that is a literal. -/
def wordValue? (text : String) : Option Json :=
  match String.ofList (Text.lowerAscii text.toList) with
  | "true" => some (.bool true)
  | "false" => some (.bool false)
  | "null" => some .null
  | _ => none

/-- A literal that comes first: a quoted text, a numeral, a truth value or null. -/
def readLiteral (last : Nat) : List Placed → Except Fault (Json × List Placed)
  | ⟨.literal value, _⟩ :: rest => .ok (value, rest)
  | ⟨.word text, position⟩ :: rest => match wordValue? text with
    | some value => .ok (value, rest)
    | none => .error ⟨position, .expected .literal⟩
  | first :: _ => .error ⟨first.position, .expected .literal⟩
  | [] => .error ⟨last, .unexpectedEnd⟩

/-- Reads the literals behind the first of a list, up to its closing parenthesis. An unexpected
token is reported where it stands, and a missing one at the last place of the text. -/
def readChoices (last : Nat) : List Placed → Except Fault (List Json × List Placed)
  | ⟨.closing, _⟩ :: rest => .ok ([], rest)
  | ⟨.comma, _⟩ :: ⟨.literal value, _⟩ :: rest => do
    let (values, rest) ← readChoices last rest
    return (value :: values, rest)
  | ⟨.comma, _⟩ :: ⟨.word text, position⟩ :: rest => match wordValue? text with
    | some value => do
      let (values, rest) ← readChoices last rest
      return (value :: values, rest)
    | none => .error ⟨position, .expected .literal⟩
  | ⟨.comma, _⟩ :: other :: _ => .error ⟨other.position, .expected .literal⟩
  | [⟨.comma, _⟩] | [] => .error ⟨last, .unexpectedEnd⟩
  | first :: _ => .error ⟨first.position, .expected .commaOrClosingMark⟩

/-- The dotted path that a property name writes with slashes. -/
def memberPath (name : String) : String :=
  String.ofList (name.toList.map fun char => if char = '/' then '.' else char)

/-- The relation of a comparison operator. -/
def relation? : String → Option Relation
  | "eq" => some .equal
  | "ne" => some .unequal
  | "gt" => some .greater
  | "ge" => some .atLeast
  | "lt" => some .less
  | "le" => some .atMost
  | _ => none

/-- The placement that a text function tests. -/
def placement? : String → Option Placement
  | "contains" => some .anywhere
  | "startswith" => some .atStart
  | "endswith" => some .atEnd
  | _ => none

/-- A text test behind its function name, with the truth value it may be compared to. -/
def readTextTest (last : Nat) (placement : Placement) (tokens : List Placed) :
    Except Fault (Condition × List Placed) := do
  let rest ← readOpening last tokens
  let (name, rest) ← readWord last .property rest
  let rest ← readComma last rest
  let position := positionOf last rest
  let (.string needle, rest) ← readLiteral last rest | throw ⟨position, .expected .text⟩
  let rest ← readClosing last rest
  let test := Condition.holdsText (memberPath name) placement needle
  if startsWith "eq" rest then
    let rest := rest.tail
    let position := positionOf last rest
    let (.bool expected, rest) ← readLiteral last rest | throw ⟨position, .expected .boolean⟩
    return (test expected, rest)
  else return (test true, rest)

/-- A comparison or membership behind its property name. The operand of a comparison is read before
its operator is known to be one. -/
def readComparison (last : Nat) (path : String) (tokens : List Placed) :
    Except Fault (Condition × List Placed) := do
  let position := positionOf last tokens
  let (word, rest) ← readWord last .operator tokens
  let operator := String.ofList (Text.lowerAscii word.toList)
  if operator = "in" then
    let rest ← readOpening last rest
    let (first, rest) ← readLiteral last rest
    let (others, rest) ← readChoices last rest
    return (.oneOf path (first :: others), rest)
  else
    let (operand, rest) ← readLiteral last rest
    match relation? operator with
    | some relation => return (.compare path relation operand, rest)
    | none => throw ⟨position, .unsupportedOperator operator⟩

/-- Reads a text test, comparison or membership. A word with a parenthesis behind it has to name a
text test; any other word is a property. -/
def readTest (last : Nat) (tokens : List Placed) : Except Fault (Condition × List Placed) := do
  let position := positionOf last tokens
  let (name, rest) ← readWord last .propertyOrFunction tokens
  match rest with
  | ⟨.opening, _⟩ :: _ =>
    match placement? (String.ofList (Text.lowerAscii name.toList)) with
    | some placement => readTextTest last placement rest
    | none => throw ⟨position, .unsupportedFunction name⟩
  | _ => readComparison last (memberPath name) rest

mutual

/-- Alternatives. `levels` more negations and parentheses may be opened; `steps` bounds the readers
called within one another, of which four stand between two tokens. -/
def readAny (last levels : Nat) : Nat → List Placed → Except Fault (Condition × List Placed)
  | 0, _ => .error ⟨last, .unexpectedEnd⟩
  | steps + 1, tokens => do
    let (first, rest) ← readAll last levels steps tokens
    let (others, rest) ← readAlternatives last levels steps rest
    return (.anyOf first others, rest)

/-- Reads the alternatives behind the first, as long as the keyword stands before another one. -/
def readAlternatives (last levels : Nat) :
    Nat → List Placed → Except Fault (List Condition × List Placed)
  | 0, _ => .error ⟨last, .unexpectedEnd⟩
  | steps + 1, tokens =>
    if startsWith "or" tokens then do
      let (next, rest) ← readAll last levels steps tokens.tail
      let (others, rest) ← readAlternatives last levels steps rest
      return (next :: others, rest)
    else .ok ([], tokens)

/-- A conjunction. -/
def readAll (last levels : Nat) : Nat → List Placed → Except Fault (Condition × List Placed)
  | 0, _ => .error ⟨last, .unexpectedEnd⟩
  | steps + 1, tokens => do
    let (first, rest) ← readOperand last levels steps tokens
    let (others, rest) ← readConjuncts last levels steps rest
    return (.allOf first others, rest)

/-- Reads the operands of a conjunction behind the first, as long as the keyword stands before
another one. -/
def readConjuncts (last levels : Nat) :
    Nat → List Placed → Except Fault (List Condition × List Placed)
  | 0, _ => .error ⟨last, .unexpectedEnd⟩
  | steps + 1, tokens =>
    if startsWith "and" tokens then do
      let (next, rest) ← readOperand last levels steps tokens.tail
      let (others, rest) ← readConjuncts last levels steps rest
      return (next :: others, rest)
    else .ok ([], tokens)

/-- Reads an operand: negated, in parentheses, or a single test. Negations and parentheses share the
levels that are left, and are refused where there is none. -/
def readOperand (last levels : Nat) : Nat → List Placed → Except Fault (Condition × List Placed)
  | 0, _ => .error ⟨last, .unexpectedEnd⟩
  | steps + 1, tokens =>
    if startsWith "not" tokens then
      match levels with
      | 0 => .error ⟨positionOf last tokens, .tooDeep⟩
      | levels + 1 => do
        let (inner, rest) ← readOperand last levels steps tokens.tail
        return (.not inner, rest)
    else match tokens with
      | ⟨.opening, position⟩ :: rest =>
        match levels with
        | 0 => .error ⟨position, .tooDeep⟩
        | levels + 1 => do
          let (inner, rest) ← readAny last levels steps rest
          return (inner, ← readClosing last rest)
      | tokens => readTest last tokens

end

/-- The condition of a token sequence, all of which it takes. -/
def Condition.ofTokens (last : Nat) (tokens : List Placed) : Except Fault Condition := do
  let (condition, rest) ← readAny last maximumLevels (4 * tokens.length + 4) tokens
  match rest with
  | [] => return condition
  | first :: _ => throw ⟨first.position, .trailingInput⟩

/-- The condition that a filter text states. -/
def Condition.ofText (text : String) : Except Fault Condition := do
  Condition.ofTokens text.utf8ByteSize (← tokens text.toList)

end DocumentQuery.Filter
