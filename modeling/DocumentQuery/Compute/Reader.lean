import DocumentQuery.Compute.Formula
import DocumentQuery.Filter.Token
import DocumentQuery.Text.Split

/-!
# Reading computed fields

A clause is a formula, the word `as` and a name. A formula is an operand, which may be followed
by an arithmetic operator and a numeral; an operand is a call, a field or a literal. Calls nest
at most sixteen deep. A list of clauses is cut at the commas outside parentheses and quotes,
and clauses outside the grammar are dropped.
-/

namespace DocumentQuery.Compute

/-- A token of a clause. A word is a field, a function or a keyword, depending on where
it stands. -/
inductive Token where
  | word (text : String)
  | number (value : Json)
  | text (text : String)
  | opening
  | closing
  | comma
  deriving Inhabited

/-- Whether a character can begin a word or a name. -/
def startsWord (char : Char) : Bool := char.isAlpha || char == '_'

/-- Whether a character can continue a name. -/
def continuesName (char : Char) : Bool := char.isAlphanum || char == '_'

/-- Whether a character can continue a word. -/
def continuesWord (char : Char) : Bool := continuesName char || char == '/' || char == '.'

/-- The token that begins with a character, and how many of the characters after it belong to it. -/
def readToken? (char : Char) (rest : List Char) : Option (Token × Nat) :=
  if char = '(' then some (.opening, 0)
  else if char = ')' then some (.closing, 0)
  else if char = ',' then some (.comma, 0)
  else if char = '\'' then
    (Filter.readQuoted rest).map fun (text, size) => (.text (String.ofList text), size)
  else if char.isDigit || (char = '-' && rest.head?.any Char.isDigit) then
    let others := rest.takeWhile fun char => char.isDigit || char == '.'
    (Filter.numeral? (char :: others)).map fun value => (.number value, others.length)
  else if startsWord char then
    let others := rest.takeWhile continuesWord
    some (.word (String.ofList (char :: others)), others.length)
  else none

/-- The tokens of a text when `passed` of its first characters belong to a token that is read
already. -/
def tokensFrom (passed : Nat) : List Char → Option (List Token)
  | [] => some []
  | char :: rest =>
    match passed with
    | passed + 1 => tokensFrom passed rest
    | 0 =>
      if Text.isBlank char then tokensFrom 0 rest
      else (readToken? char rest).bind fun (token, size) =>
        (tokensFrom size rest).map fun tokens => token :: tokens

/-- How many calls may be open at once. -/
def maximumLevels : Nat := 16

mutual

/-- A formula. `levels` more calls may be opened; `steps` bounds the readers called within one
another, of which three stand between two tokens. -/
def readFormula (levels : Nat) : Nat → List Token → Option (Formula × List Token)
  | 0, _ => none
  | steps + 1, tokens => do
    let (left, rest) ← readOperand levels steps tokens
    match rest with
    | .word name :: others =>
      match Function.find? true name with
      | none => return (left, rest)
      | some function => match others with
        | .number value :: others => return (← function.call? [left, .literal value], others)
        | _ => none
    | _ => return (left, rest)

/-- Reads a literal, a call or a field. A word with a parenthesis behind it is a call, which nests
one level deeper; any other word is a field, whose path is dotted. -/
def readOperand (levels : Nat) : Nat → List Token → Option (Formula × List Token)
  | 0, _ => none
  | steps + 1, tokens => match tokens with
    | .number value :: rest => some (.literal value, rest)
    | .text text :: rest => some (.literal (.string text), rest)
    | .word name :: .opening :: rest =>
      match levels with
      | 0 => none
      | levels + 1 => do
        let function ← Function.find? false name
        let (formulas, rest) ← match rest with
          | .closing :: rest => some ([], rest)
          | rest => readOperands levels steps rest
        return (← function.call? formulas, rest)
    | .word name :: rest =>
      let dotted := name.toList.map fun char => if char = '/' then '.' else char
      some (.field (String.ofList dotted), rest)
    | _ => none

/-- Reads the operands of a call up to its closing parenthesis, at least one. A comma has to be
followed by another operand. -/
def readOperands (levels : Nat) : Nat → List Token → Option (List Formula × List Token)
  | 0, _ => none
  | steps + 1, tokens => do
    let (formula, rest) ← readFormula levels steps tokens
    match rest with
    | .comma :: rest =>
      let (formulas, rest) ← readOperands levels steps rest
      return (formula :: formulas, rest)
    | .closing :: rest => return ([formula], rest)
    | _ => none

end

/-- Whether a word is a name: no slash and no dot. -/
def isName (word : String) : Bool :=
  match word.toList with
  | [] => false
  | first :: rest => startsWord first && rest.all continuesName

/-- The clause of a token sequence, all of which it takes: a formula, the keyword, and the name of
the field that it is shown in. -/
def Clause.ofTokens? (tokens : List Token) : Option Clause := do
  let (formula, rest) ← readFormula maximumLevels (3 * tokens.length + 3) tokens
  match rest with
  | [.word keyword, .word name] =>
    if Text.equalIgnoringCase keyword.toList "as".toList && isName name then
      return ⟨formula, name⟩
    else none
  | _ => none

/-- The clause that a text writes. -/
def Clause.ofText? (text : List Char) : Option Clause :=
  (tokensFrom 0 text).bind Clause.ofTokens?

/-- The pieces of a text between the commas that stand outside parentheses and quotes. A closing
parenthesis that closes nothing counts too: up to the next opening one no comma divides the text. -/
def pieces (text : List Char) : List (List Char) :=
  go 0 false text
where
  /-- `depth` counts the parentheses that are open, and `quoted` tells whether a quote is. -/
  go (depth : Int) (quoted : Bool) : List Char → List (List Char)
    | [] => [[]]
    | char :: rest =>
      if char = ',' && !quoted && depth = 0 then [] :: go depth quoted rest
      else
        let depth :=
          if quoted then depth
          else if char = '(' then depth + 1
          else if char = ')' then depth - 1
          else depth
        match go depth (if char = '\'' then !quoted else quoted) rest with
        | [] => [[char]]
        | piece :: others => (char :: piece) :: others

/-- The pieces of a list of clauses without blanks at their ends; empty ones are dropped. -/
def clauseTexts (text : List Char) : List (List Char) :=
  ((pieces text).map Text.trim).filter fun piece => !piece.isEmpty

/-- The clauses of a list, without those outside the grammar. -/
def Clause.listOfText (text : List Char) : List Clause :=
  (clauseTexts text).filterMap Clause.ofText?

end DocumentQuery.Compute
