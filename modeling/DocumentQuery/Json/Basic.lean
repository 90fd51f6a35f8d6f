import DocumentQuery.Binary64.Basic
import DocumentQuery.Json.Members

/-!
# JSON values

Documents, predicates and expressions are JSON values. Integers and binary64 numbers are told
apart, so that a number is written back as it was read, and object members keep their order.
A reader builds integers between `-2^63` and `2^64 - 1` only; larger ones are read as
binary64 numbers.
-/

namespace DocumentQuery

/-- A JSON number in one of its two representations. -/
inductive Number where
  | integer (value : Int)
  | float (value : Binary64)
  deriving DecidableEq, Repr, Inhabited

namespace Number

/-- The value as a 64-bit signed integer, where it is held as one. -/
def signed? : Number → Option Int
  | .integer value => if -Int.pow 2 63 ≤ value ∧ value < Int.pow 2 63 then some value else none
  | .float _ => none

/-- The value as a 64-bit unsigned integer, where it is held as one. -/
def unsigned? : Number → Option Nat
  | .integer value => if 0 ≤ value ∧ value < Int.pow 2 64 then some value.toNat else none
  | .float _ => none

/-- The nearest binary64 number. -/
def toBinary64 : Number → Binary64
  | .integer value => .ofInt value
  | .float value => value

end Number

/-- A JSON value. An object lists its members in order and, read from a text, has each name once. -/
inductive Json where
  | null
  | bool (value : Bool)
  | number (value : Number)
  | string (text : String)
  | array (items : List Json)
  | object (members : List (String × Json))
  deriving Inhabited, Repr

namespace Json

instance : Coe String Json := ⟨.string⟩

/-- An integer as a JSON value. -/
def ofInt (value : Int) : Json := .number (.integer value)

/-- A natural number as a JSON value. -/
def ofNat (value : Nat) : Json := ofInt value

/-- The result of arithmetic as a JSON value: whole numbers below `9e15` become integers, and a
result that is not finite becomes null. -/
def ofArithmetic : Option Binary64 → Json
  | none => .null
  | some value =>
    if value.isWhole && value.wholePart < 9000000000000000 then ofInt value.truncate
    else .number (.float value)

/-- Whether the value is null. -/
def isNull : Json → Bool
  | .null => true
  | _ => false

/-- The truth value of a Boolean. -/
def bool? : Json → Option Bool
  | .bool value => some value
  | _ => none

/-- The text of a string. -/
def string? : Json → Option String
  | .string text => some text
  | _ => none

/-- The items of an array. -/
def array? : Json → Option (List Json)
  | .array items => some items
  | _ => none

/-- The members of an object. -/
def object? : Json → Option (Members Json)
  | .object members => some members
  | _ => none

/-- The members of an object, and none for any other value. -/
def members : Json → Members Json
  | .object members => members
  | _ => []

/-- The binary64 number nearest to a number. -/
def binary64? : Json → Option Binary64
  | .number value => some value.toBinary64
  | _ => none

/-- The value of an object's member. -/
def member? (name : String) (value : Json) : Option Json := value.members.get? name

end Json

end DocumentQuery
