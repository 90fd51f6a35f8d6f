import DocumentQuery.Binary64.Decimal

/-!
# Numerals

Reading whole numbers and decimal fractions from the text of a number alone: no blanks, no
separators, ASCII digits only. The machine words of the domain are ranges of these readings.
-/

namespace DocumentQuery.Text

/-- The value of a string of decimal digits. -/
def digitsValue (digits : List Char) : Nat :=
  digits.foldl (fun value digit => 10 * value + (digit.toNat - '0'.toNat)) 0

/-- A natural number, written as one digit or more. -/
def natural? (text : List Char) : Option Nat :=
  if text.isEmpty || !text.all Char.isDigit then none else some (digitsValue text)

/-- A natural number with an optional plus sign. -/
def unsigned? : List Char → Option Nat
  | '+' :: digits => natural? digits
  | digits => natural? digits

/-- An integer with an optional sign. -/
def signed? : List Char → Option Int
  | '-' :: digits => (natural? digits).map fun value => -(value : Int)
  | text => (unsigned? text).map Int.ofNat

/-- An unsigned numeral below `2^64`. -/
def word64? (text : List Char) : Option Nat :=
  (unsigned? text).filter fun value => decide (value < Nat.pow 2 64)

/-- A signed numeral from `-2^63` up to `2^63 - 1`. -/
def integer64? (text : List Char) : Option Int :=
  (signed? text).filter fun value => decide (-Int.pow 2 63 ≤ value ∧ value < Int.pow 2 63)

/-- The power of ten in an exponent mark with its digits; no mark is the power zero. -/
def exponent? : List Char → Option Int
  | [] => some 0
  | mark :: text => if mark == 'e' || mark == 'E' then signed? text else none

/-- The binary64 number nearest to a decimal numeral: an optional sign, digits with at most one
point among them, and an optional exponent. A numeral beyond the finite range has none. -/
def decimal? (text : List Char) : Option Binary64 :=
  match text with
  | '-' :: rest => read true rest
  | '+' :: rest => read false rest
  | rest => read false rest
where
  /-- Reads the numeral behind the sign. -/
  read (negative : Bool) (text : List Char) : Option Binary64 :=
    let whole := text.takeWhile Char.isDigit
    let rest := text.dropWhile Char.isDigit
    let (fraction, rest) := match rest with
      | '.' :: rest => (rest.takeWhile Char.isDigit, rest.dropWhile Char.isDigit)
      | rest => ([], rest)
    let digits := whole ++ fraction
    if digits.isEmpty then none
    else (exponent? rest).bind fun exponent =>
      Binary64.ofDecimal negative (digitsValue digits) (exponent - fraction.length)

end DocumentQuery.Text
