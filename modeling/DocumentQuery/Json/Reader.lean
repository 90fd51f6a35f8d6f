import DocumentQuery.Json.Draft
import DocumentQuery.Text.Numeral

/-!
# Reading JSON

The draft of a value is read from the start of a text, up to the first place at which the text
is not JSON. Arrays and objects that are values nest at most 127 deep; what nests deeper is
well formed but refused.
-/

namespace DocumentQuery.Json

/-- The deepest nesting of arrays and objects, counted from one. -/
def depthBound : Nat := 128

/-- The text without the blanks at its start; JSON has four of them. -/
def skipBlanks (text : List Char) : List Char :=
  text.dropWhile fun char => char == ' ' || char == '\n' || char == '\t' || char == '\r'

/-- Multiplies by a power of ten, in one rounding step within the powers that are finite. -/
def scaleByTen (value : Binary64) (exponent : Int) : Option Binary64 :=
  go value exponent 4
where
  /-- A power below `10^-308` takes a step each; three of them reach zero from any value. -/
  go (value : Binary64) (exponent : Int) : Nat → Option Binary64
    | 0 => some ⟨false, 0⟩
    | steps + 1 =>
      if exponent.natAbs ≤ 308 then do
        let power ← Binary64.ofDecimal false 1 exponent.natAbs
        if exponent < 0 then value.div power else value.mul power
      else if value.isZero then some value
      else if 0 ≤ exponent then none
      else do
        let power ← Binary64.ofDecimal false 1 308
        go (← value.div power) (exponent + 308) steps

/-- Appends a digit to a significand that has to stay below `2^64`. -/
def appendDigit? (significand : Nat) (digit : Char) : Option Nat :=
  let value := 10 * significand + (digit.toNat - '0'.toNat)
  if value < Nat.pow 2 64 then some value else none

/-- The longest run of digits that fits the significand, and the digits left over. -/
def takeDigits (significand : Nat) : List Char → Nat × List Char
  | [] => (significand, [])
  | digit :: digits =>
    match appendDigit? significand digit with
    | some value => takeDigits value digits
    | none => (significand, digit :: digits)

/-- A number from its digits: an integer where no point or exponent is written and it fits into 64
bits with its sign; else the significand, rounded first, times a power of ten. -/
def ofNumeral (negative : Bool) (whole : List Char) (fraction : Option (List Char))
    (exponent : Option Int) : Option Number :=
  let (significand, dropped) := takeDigits 0 whole
  let isInteger := fraction.isNone && exponent.isNone && dropped.isEmpty
    && (!negative || (0 < significand && significand ≤ Nat.pow 2 63))
  if isInteger then
    some (.integer (if negative then -(significand : Int) else significand))
  else
    let decimals := fraction.getD []
    let (significand, unused) := takeDigits significand decimals
    let shift : Int := dropped.length - (decimals.length - unused.length : Nat)
    (scaleByTen (.ofNat significand) (shift + exponent.getD 0)).map fun value =>
      .float ⟨negative, value.units⟩

/-- The digits at the start of a text, at least one. -/
def readDigits (text : List Char) : Option (List Char × List Char) :=
  let digits := text.takeWhile Char.isDigit
  if digits.isEmpty then none else some (digits, text.dropWhile Char.isDigit)

/-- A numeral at the start of a text, with its number if it is not too large. -/
def readNumeral? (text : List Char) : Option (Option Number × List Char) := do
  let (negative, text) := match text with
    | '-' :: rest => (true, rest)
    | rest => (false, rest)
  let (whole, text) ← readDigits text
  if whole.head? == some '0' && 1 < whole.length then none
  let (fraction, text) ← match text with
    | '.' :: rest => (readDigits rest).map fun (digits, rest) => (some digits, rest)
    | rest => some (none, rest)
  let (exponent, text) ← match text with
    | mark :: rest =>
      if mark == 'e' || mark == 'E' then
        let (below, rest) := match rest with
          | '-' :: rest => (true, rest)
          | '+' :: rest => (false, rest)
          | rest => (false, rest)
        (readDigits rest).map fun (digits, rest) =>
          let value : Int := Text.digitsValue digits
          (some (if below then -value else value), rest)
      else some (none, mark :: rest)
    | [] => some (none, [])
  return (ofNumeral negative whole fraction exponent, text)

/-- The value of a hexadecimal digit. -/
def hexDigit? (char : Char) : Option Nat :=
  if char.isDigit then some (char.toNat - '0'.toNat)
  else if 'a' ≤ char ∧ char ≤ 'f' then some (char.toNat - 'a'.toNat + 10)
  else if 'A' ≤ char ∧ char ≤ 'F' then some (char.toNat - 'A'.toNat + 10)
  else none

/-- A piece of a string: a character, or a code unit that is written by its digits. -/
inductive Piece where
  | char (char : Char)
  | unit (code : Nat)

/-- The character that an escape of one letter stands for. -/
def escaped? : Char → Option Char
  | '"' => some '"'
  | '\\' => some '\\'
  | '/' => some '/'
  | 'b' => some (Char.ofNat 8)
  | 'f' => some (Char.ofNat 12)
  | 'n' => some '\n'
  | 'r' => some '\r'
  | 't' => some '\t'
  | _ => none

/-- The pieces of a string behind its opening quote, and the text behind its closing one. -/
def readPieces? : List Char → Option (List Piece × List Char)
  | [] => none
  | '"' :: rest => some ([], rest)
  | '\\' :: 'u' :: a :: b :: c :: d :: rest => do
    let high := (← hexDigit? a) * 16 + (← hexDigit? b)
    let low := (← hexDigit? c) * 16 + (← hexDigit? d)
    let (pieces, rest) ← readPieces? rest
    return (.unit (high * 256 + low) :: pieces, rest)
  | '\\' :: mark :: rest => do
    let char ← escaped? mark
    let (pieces, rest) ← readPieces? rest
    return (.char char :: pieces, rest)
  | char :: rest =>
    if char == '\\' || char.toNat < 0x20 then none
    else (readPieces? rest).map fun (pieces, rest) => (.char char :: pieces, rest)

/-- The text of pieces, in which every leading surrogate is followed by a trailing one, and no other
stands alone. -/
def joinPieces? : List Piece → Option (List Char)
  | [] => some []
  | .char char :: pieces => (joinPieces? pieces).map fun text => char :: text
  | .unit lead :: .unit trail :: pieces =>
    if 0xd800 ≤ lead && lead < 0xdc00 then
      if 0xdc00 ≤ trail && trail < 0xe000 then
        (joinPieces? pieces).map fun text =>
          Char.ofNat (0x10000 + (lead - 0xd800) * 0x400 + (trail - 0xdc00)) :: text
      else none
    else if 0xdc00 ≤ lead && lead < 0xe000 then none
    else (joinPieces? (.unit trail :: pieces)).map fun text => Char.ofNat lead :: text
  | .unit code :: pieces =>
    if 0xd800 ≤ code && code < 0xe000 then none
    else (joinPieces? pieces).map fun text => Char.ofNat code :: text

/-- A string behind its opening quote: its text, unless it pairs no surrogates, and the text behind
it. -/
def readString? (text : List Char) : Option (Option String × List Char) :=
  (readPieces? text).map fun (pieces, rest) => ((joinPieces? pieces).map String.ofList, rest)

/-- The draft of a word at the start of a text. -/
def readWord (word : String) (draft : Draft) (text : List Char) : Draft × Option (List Char) :=
  if word.toList.isPrefixOf text then (draft, some (text.drop word.length)) else (.broken, none)

/-- The draft of an array or object when `depth` levels may still be opened. -/
def bounded (depth : Nat) : Draft × Option (List Char) → Draft × Option (List Char)
  | (draft, rest) =>
    if 1 < depth then (draft, rest)
    else (if rest.isSome then .refused else .broken, rest)

mutual

/-- The draft of a value at the start of a text, and the text behind it unless the text breaks off.
`depth` levels may still be opened. Two steps for every character are enough. -/
def readDraft (depth : Nat) : Nat → List Char → Draft × Option (List Char)
  | 0, _ => (.broken, none)
  | steps + 1, text => match skipBlanks text with
    | [] => (.broken, none)
    | '"' :: rest => match readString? rest with
      | some (some text, rest) => (.string text, some rest)
      | some (none, rest) => (.refused, some rest)
      | none => (.broken, none)
    | '[' :: rest => match skipBlanks rest with
      | ']' :: rest => bounded depth (.array [], some rest)
      | rest =>
        let (items, rest) := readItems (depth - 1) steps rest
        bounded depth (.array items, rest)
    | '\x7b' :: rest => match skipBlanks rest with
      | '\x7d' :: rest => bounded depth (.object [], some rest)
      | rest =>
        let (members, rest) := readMembers (depth - 1) steps rest
        bounded depth (.object members, rest)
    | 't' :: rest => readWord "rue" (.bool true) rest
    | 'f' :: rest => readWord "alse" (.bool false) rest
    | 'n' :: rest => readWord "ull" .null rest
    | text => match readNumeral? text with
      | some (some value, rest) => (.number value, some rest)
      | some (none, rest) => (.refused, some rest)
      | none => (.broken, none)

/-- Reads the drafts of an array's items up to its closing bracket, at least one. Where an item
breaks off, nothing is left to be read behind it. -/
def readItems (depth : Nat) : Nat → List Char → List Draft × Option (List Char)
  | 0, _ => ([.broken], none)
  | steps + 1, text => match readDraft depth steps text with
    | (item, none) => ([item], none)
    | (item, some rest) => match skipBlanks rest with
      | ',' :: rest =>
        let (items, rest) := readItems depth steps rest
        (item :: items, rest)
      | ']' :: rest => ([item], some rest)
      | _ => ([item, .broken], none)

/-- Reads the drafts of an object's members up to its closing brace, at least one. Where a member
breaks off, nothing is left to be read behind it. -/
def readMembers (depth : Nat) : Nat → List Char →
    List (Option String × Draft) × Option (List Char)
  | 0, _ => ([(none, .broken)], none)
  | steps + 1, text => match skipBlanks text with
    | '"' :: rest => match readString? rest with
      | none => ([(none, .broken)], none)
      | some (name, rest) => match skipBlanks rest with
        | ':' :: rest => match readDraft depth steps rest with
          | (value, none) => ([(name, value)], none)
          | (value, some rest) => match skipBlanks rest with
            | ',' :: rest =>
              let (members, rest) := readMembers depth steps rest
              ((name, value) :: members, rest)
            | '\x7d' :: rest => ([(name, value)], some rest)
            | _ => ([(name, value), (none, .broken)], none)
        | _ => ([(name, .broken)], none)
    | _ => ([(none, .broken)], none)

end

/-- The draft at the start of a text, and the text behind it unless the text breaks off. -/
def Draft.read (text : String) : Draft × Option (List Char) :=
  readDraft depthBound (2 * text.length + 2) text.toList

/-- The draft at the start of a text, whatever stands behind it. -/
def Draft.ofStart (text : String) : Draft := (Draft.read text).1

/-- The draft of a whole text, behind which only blanks may stand. -/
def Draft.ofText? (text : String) : Option Draft :=
  match Draft.read text with
  | (draft, some rest) => if (skipBlanks rest).isEmpty then some draft else none
  | (_, none) => none

/-- The value that a whole text holds. -/
def ofText? (text : String) : Option Json :=
  (Draft.ofText? text).bind fun draft => draft.json.toOption

end DocumentQuery.Json
