import DocumentQuery.Json.Basic
import DocumentQuery.Expression.Fault

/-!
# Arithmetic on values

Numbers are taken as binary64 numbers, and a null among the operands makes the result null. So
does a result that is not finite.
-/

namespace DocumentQuery.Expression

/-- The numbers that an operator is applied to. -/
def numbers (operator : String) : List Json → Except Fault (List Binary64)
  | [] => .ok []
  | value :: values => do
    let some number := value.binary64? | throw (.expects operator .numbers)
    return number :: (← numbers operator values)

/-- Applies a function of numbers, unless an operand is null. -/
def withNumbers (operator : String) (apply : List Binary64 → Except Fault (Option Binary64))
    (operands : List Json) : Except Fault Json := do
  if operands.any Json.isNull then return .null
  return .ofArithmetic (← apply (← numbers operator operands))

/-- The sum of numbers, each partial sum rounded. -/
def total (numbers : List Binary64) : Option Binary64 :=
  numbers.foldl (fun sum number => sum.bind fun sum => sum.add number) (some Binary64.zero)

/-- The product of numbers, each partial product rounded. -/
def product (numbers : List Binary64) : Option Binary64 :=
  numbers.foldl (fun sofar number => sofar.bind fun sofar => sofar.mul number)
    (some (Binary64.ofNat 1))

/-- Sum. -/
def add (operands : List Json) : Except Fault Json :=
  withNumbers "$add" (fun numbers => .ok (total numbers)) operands

/-- Product. -/
def multiply (operands : List Json) : Except Fault Json :=
  withNumbers "$multiply" (fun numbers => .ok (product numbers)) operands

/-- Difference of two numbers. -/
def subtract (operands : List Json) : Except Fault Json :=
  withNumbers "$subtract" difference operands
where
  /-- The first number less the second. -/
  difference : List Binary64 → Except Fault (Option Binary64)
    | [left, right] => .ok (left.sub right)
    | _ => .error (.expects "$subtract" .two)

/-- Quotient of two numbers; the second must not be zero. -/
def divide (operands : List Json) : Except Fault Json :=
  withNumbers "$divide" quotient operands
where
  /-- The first number by the second. -/
  quotient : List Binary64 → Except Fault (Option Binary64)
    | [left, right] => if right.isZero then .error .divisionByZero else .ok (left.div right)
    | _ => .error (.expects "$divide" .two)

/-- Applies a function of one number; null and no operand at all have the result null. -/
def onNumber (operator : String) (apply : Binary64 → Option Binary64) :
    Option Json → Except Fault Json
  | none | some .null => .ok .null
  | some value => match value.binary64? with
    | some number => .ok (.ofArithmetic (apply number))
    | none => .error (.expects operator .number)

/-- A number rounded to decimal places: it is scaled by a power of ten, rounded with halves to the
even neighbour, and scaled back, all in binary64 arithmetic. -/
def roundToPlaces (places : Int) (number : Binary64) : Option Binary64 := do
  let factor ← (Binary64.ofNat 10).powInt places
  let scaled ← number.mul factor
  let rounded ←
    if scaled.isHalf then do
      let half ← scaled.div (.ofNat 2)
      half.round.mul (.ofNat 2)
    else some scaled.round
  rounded.div factor

/-- Rounds the first operand to the places of the second, none when it is no integer. The places are
a 32-bit signed integer. -/
def round (operands : List Json) : Except Fault Json :=
  let places := match operands[1]? with
    | some (.number value) => value.signed?.getD 0
    | _ => 0
  onNumber "$round" (roundToPlaces (places.bmod (Nat.pow 2 32))) operands.head?

/-- The greatest integer that is not above. -/
def floor (value : Json) : Except Fault Json :=
  onNumber "$floor" (fun number => some number.floor) (some value)

/-- The least integer that is not below. -/
def ceil (value : Json) : Except Fault Json :=
  onNumber "$ceil" (fun number => some number.ceil) (some value)

end DocumentQuery.Expression
