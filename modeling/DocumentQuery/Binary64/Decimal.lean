import DocumentQuery.Binary64.Basic

/-!
# Binary64 numbers and decimal digits

Reading takes a digit string and a power of ten to the nearest number. Writing takes the
fewest digits that read back, found by testing the two neighbours of the value on each decimal
grid, coarsest first. Where the point stands and when an exponent is written is a `Layout`, so
the two texts in use, JSON's and the plain one of messages, differ only in data.
-/

namespace DocumentQuery

namespace Binary64

/-- How many decimal digits a natural number has. -/
def decimalLength (value : Nat) : Nat := (Nat.toDigits 10 value).length

/-- The number nearest to `digits * 10 ^ exponent`. Exponents far outside the finite range are
answered without computing the power. -/
def ofDecimal (negative : Bool) (digits : Nat) (exponent : Int) : Option Binary64 :=
  let size : Int := exponent + decimalLength digits
  if digits = 0 then some ⟨negative, 0⟩
  else if size < -400 then some ⟨negative, 0⟩
  else if 400 < size then none
  else if exponent < 0 then ofQuotient negative (digits * one) (Nat.pow 10 exponent.natAbs)
  else ofQuotient negative (digits * Nat.pow 10 exponent.natAbs * one) 1

/-- A significand and the power of ten it is multiplied with. -/
structure Digits where
  significand : Nat
  exponent : Int
  deriving DecidableEq, Repr, Inhabited

/-- The exponent of the first significant decimal digit of a positive magnitude. -/
def leadingExponent (units : Nat) : Int :=
  if one ≤ units then decimalLength (units / one) - 1
  else -(decimalLength ((one + units - 1) / units - 1) : Int)

/-- The point nearest to the magnitude on the grid of multiples of `10 ^ exponent`, if one of the
magnitude's two neighbours there reads back. Of two that do the nearer is taken, and at equal
distance the even one. -/
def onGrid (units : Nat) (exponent : Int) : Option Digits :=
  let numerator := if exponent < 0 then units * Nat.pow 10 exponent.natAbs else units
  let denominator := if exponent < 0 then one else one * Nat.pow 10 exponent.natAbs
  let lower := numerator / denominator
  let readsBack (significand : Nat) : Bool :=
    ofDecimal false significand exponent == some ⟨false, units⟩
  let closest := roundQuotient numerator denominator
  let other := if closest = lower then lower + 1 else lower
  if readsBack closest then some ⟨closest, exponent⟩
  else if readsBack other then some ⟨other, exponent⟩
  else none

/-- The fewest significant digits that read back as the magnitude. Seventeen always do. -/
def shortest (units : Nat) : Digits :=
  let leading := leadingExponent units
  let grids := (List.range 17).map fun (count : Nat) => leading - (count : Int)
  (grids.findSome? (onGrid units)).getD ⟨0, 0⟩

/-- Where a number's text has its point, and when it is written with an exponent. -/
structure Layout where
  /-- The least decimal exponent that is written out in places. -/
  least : Option Int
  /-- The first decimal exponent that is too large for that. -/
  bound : Option Int
  /-- Whether a whole number keeps one decimal place. -/
  keepsPlace : Bool

/-- JSON text: places from `1e-5` up to `1e16`, always one of them after the point. -/
def jsonLayout : Layout := ⟨some (-5), some 16, true⟩

/-- Message text: every place written, and no point after a whole number. -/
def plainLayout : Layout := ⟨none, none, false⟩

/-- Drops the zeros at the end of a digit string. -/
def dropZeros (digits : List Char) : List Char :=
  (digits.reverse.dropWhile (· == '0')).reverse

/-- The digits of a positional text whose first digit has the decimal exponent `leading`. Zeros fill
the places between the digits and the point on either side, and a whole number keeps a place behind
the point only if that is asked for. -/
def placed (digits : List Char) (leading : Int) (keepsPlace : Bool) : List Char :=
  let (whole, fraction) :=
    if leading < 0 then
      (['0'], List.replicate (leading.natAbs - 1) '0' ++ digits)
    else
      let places := leading.natAbs + 1
      ((digits ++ List.replicate (places - digits.length) '0').take places, digits.drop places)
  if fraction.isEmpty then
    if keepsPlace then whole ++ ['.', '0'] else whole
  else whole ++ '.' :: fraction

/-- The text of a power of ten: one digit, the others after a point, and a signed exponent. -/
def withExponent (digits : List Char) (leading : Int) : List Char :=
  let mantissa := match digits with
    | first :: second :: rest => first :: '.' :: second :: rest
    | short => short
  let sign := if leading < 0 then '-' else '+'
  mantissa ++ 'e' :: sign :: Nat.toDigits 10 leading.natAbs

/-- The text of a number in a layout. The digits are the fewest that read back as the number; the
layout decides whether they stand in their places or with an exponent. -/
def toText (number : Binary64) (layout : Layout) : String :=
  let sign := if number.negative then ['-'] else []
  if number.units = 0 then String.ofList (sign ++ placed ['0'] 0 layout.keepsPlace)
  else
    let fewest := shortest number.units
    let written := Nat.toDigits 10 fewest.significand
    let leading : Int := fewest.exponent + written.length - 1
    let digits := dropZeros written
    let positional := (layout.least.all fun least => decide (least ≤ leading))
      && (layout.bound.all fun bound => decide (leading < bound))
    let body := if positional then placed digits leading layout.keepsPlace
      else withExponent digits leading
    String.ofList (sign ++ body)

end Binary64

end DocumentQuery
