/-!
# Binary64 numbers as counts of the smallest unit

Every finite binary64 number is a whole multiple of `2^-1074`. A number is held here as its
sign and that count, so comparison is comparison of integers and each operation is exact
arithmetic on naturals followed by one rounding, `nearest`. Infinities and NaN are not numbers
of this type: an operation whose result is not finite has no value.
-/

namespace DocumentQuery

/-- A finite binary64 number: its sign, and its magnitude in units of `2^-1074`. Zero has both
signs. -/
structure Binary64 where
  negative : Bool
  units : Nat
  deriving DecidableEq, Repr, Inhabited

namespace Binary64

/-- The units in one. -/
def one : Nat := Nat.pow 2 1074

/-- The least magnitude that is too large to be finite. -/
def ceiling : Nat := Nat.pow 2 2098

/-- The whole number nearest to a quotient; of two equally near, the even one. -/
def roundQuotient (numerator denominator : Nat) : Nat :=
  let quotient := numerator / denominator
  let twice := 2 * (numerator % denominator)
  if twice < denominator ∨ (twice = denominator ∧ quotient % 2 = 0) then quotient
  else quotient + 1

/-- The magnitude nearest to a quotient of units: 53 significant bits are kept, all of them when the
quotient has no more. -/
def nearest (numerator denominator : Nat) : Nat :=
  let dropped := (numerator / denominator).log2 + 1 - 53
  roundQuotient numerator (denominator * Nat.pow 2 dropped) * Nat.pow 2 dropped

/-- The number nearest to a quotient of units, unless that is not finite. -/
def ofQuotient (negative : Bool) (numerator denominator : Nat) : Option Binary64 :=
  let units := nearest numerator denominator
  if units < ceiling then some ⟨negative, units⟩ else none

/-- The signed count of units. -/
def scaled (number : Binary64) : Int :=
  if number.negative then -(number.units : Int) else number.units

/-- Zero. -/
def zero : Binary64 := ⟨false, 0⟩

/-- The number nearest to a natural number. -/
def ofNat (value : Nat) : Binary64 := ⟨false, nearest (value * one) 1⟩

/-- The number nearest to an integer. -/
def ofInt (value : Int) : Binary64 := ⟨value < 0, nearest (value.natAbs * one) 1⟩

/-- Order by value; the two zeros are equal. -/
def compare (left right : Binary64) : Ordering := Ord.compare left.scaled right.scaled

/-- Equality by value; the two zeros are equal. -/
def equal (left right : Binary64) : Bool := left.scaled == right.scaled

/-- Whether the value is zero, of either sign. -/
def isZero (number : Binary64) : Bool := number.units == 0

/-- The number with the other sign. -/
def neg (number : Binary64) : Binary64 := ⟨!number.negative, number.units⟩

/-- Sum. An exact zero is negative only when both summands are. -/
def add (left right : Binary64) : Option Binary64 :=
  let total := left.scaled + right.scaled
  let negative := if total = 0 then left.negative && right.negative else total < 0
  ofQuotient negative total.natAbs 1

/-- Difference. -/
def sub (left right : Binary64) : Option Binary64 := left.add right.neg

/-- Product. -/
def mul (left right : Binary64) : Option Binary64 :=
  ofQuotient (left.negative != right.negative) (left.units * right.units) one

/-- Quotient; a zero divisor leaves no finite value. -/
def div (left right : Binary64) : Option Binary64 :=
  if right.units = 0 then none
  else ofQuotient (left.negative != right.negative) (left.units * one) right.units

/-- The whole units-in-one of the magnitude, the fraction dropped. -/
def wholePart (number : Binary64) : Nat := number.units / one

/-- Whether the value is an integer. -/
def isWhole (number : Binary64) : Bool := number.units % one == 0

/-- The nearest integer toward zero. -/
def truncate (number : Binary64) : Int :=
  if number.negative then -(number.wholePart : Int) else number.wholePart

/-- The greatest integral number that is not above. -/
def floor (number : Binary64) : Binary64 :=
  if number.negative && !number.isWhole then ⟨true, (number.wholePart + 1) * one⟩
  else ⟨number.negative, number.wholePart * one⟩

/-- The least integral number that is not below. -/
def ceil (number : Binary64) : Binary64 :=
  if !number.negative && !number.isWhole then ⟨false, (number.wholePart + 1) * one⟩
  else ⟨number.negative, number.wholePart * one⟩

/-- The nearest integral number; a half goes away from zero. -/
def round (number : Binary64) : Binary64 :=
  if one ≤ 2 * (number.units % one) then ⟨number.negative, (number.wholePart + 1) * one⟩
  else ⟨number.negative, number.wholePart * one⟩

/-- Whether the value lies exactly between two integers. -/
def isHalf (number : Binary64) : Bool := 2 * (number.units % one) == one

/-- A power by repeated squaring, each product rounded. Every square that is taken also enters the
result, so a power that overflows has no finite value. -/
def powNat (base : Binary64) (exponent : Nat) : Option Binary64 :=
  go exponent base (ofNat 1) exponent
where
  /-- One binary digit of the exponent a step; `steps` only bounds their number. -/
  go (exponent : Nat) (square accumulated : Binary64) : Nat → Option Binary64
    | 0 => some accumulated
    | steps + 1 => do
      let accumulated ← if exponent % 2 = 1 then accumulated.mul square else some accumulated
      if exponent / 2 = 0 then some accumulated
      else go (exponent / 2) (← square.mul square) accumulated steps

/-- An integral power; a negative one is the reciprocal of the positive. -/
def powInt (base : Binary64) (exponent : Int) : Option Binary64 := do
  let power ← base.powNat exponent.natAbs
  if exponent < 0 then (ofNat 1).div power else some power

end Binary64

end DocumentQuery
