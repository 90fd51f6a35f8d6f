import DocumentQuery.Json.Basic

/-!
# Equality and order of values

Two relations on values. Equality by value takes numbers of both representations and objects up
to the order of their members. The order ranks values by their kind, missing values lowest,
and does not tell two objects apart. Numbers are compared as integers where both are 64-bit
signed integers and as binary64 numbers otherwise.
-/

namespace DocumentQuery

namespace Number

/-- Equality by value. Signed integers are compared exactly, and all other pairs as binary64. -/
def equal (left right : Number) : Bool :=
  match left.signed?, right.signed? with
  | some left, some right => left == right
  | _, _ => left.toBinary64.equal right.toBinary64

/-- Order by value. Signed integers are compared exactly, and all other pairs as binary64. -/
def compare (left right : Number) : Ordering :=
  match left.signed?, right.signed? with
  | some left, some right => Ord.compare left right
  | _, _ => left.toBinary64.compare right.toBinary64

end Number

namespace Json

mutual

/-- Equality by value. Numbers are equal by value and not by form, and members are compared without
regard to their order. -/
def equal : Json → Json → Bool
  | .null, .null => true
  | .bool left, .bool right => left == right
  | .number left, .number right => left.equal right
  | .string left, .string right => left == right
  | .array left, .array right => equalItems left right
  | .object left, .object right => left.length == right.length && within left right
  | _, _ => false
termination_by structural left => left

/-- Equality item by item. -/
def equalItems : List Json → List Json → Bool
  | [], [] => true
  | left :: lefts, right :: rights => equal left right && equalItems lefts rights
  | _, _ => false
termination_by structural lefts => lefts

/-- Whether each member has an equal one of its name on the other side. Together with equal numbers
of members this is equality in any order. -/
def within : List (String × Json) → List (String × Json) → Bool
  | [], _ => true
  | (name, left) :: lefts, rights =>
    (match Members.get? name rights with
      | some right => equal left right
      | none => false)
    && within lefts rights
termination_by structural lefts => lefts

end

/-- The rank of a value's kind. -/
def rank : Json → Nat
  | .null => 1
  | .bool _ => 2
  | .number _ => 3
  | .string _ => 4
  | .array _ => 5
  | .object _ => 6

mutual

/-- The order of values. -/
def compare : Json → Json → Ordering
  | .bool left, .bool right => Ord.compare left right
  | .number left, .number right => left.compare right
  | .string left, .string right => Ord.compare left right
  | .array left, .array right => compareItems left right
  | left, right => Ord.compare left.rank right.rank
termination_by structural left => left

/-- The first difference decides, and a shorter list that has none comes first. -/
def compareItems : List Json → List Json → Ordering
  | [], [] => .eq
  | [], _ :: _ => .lt
  | _ :: _, [] => .gt
  | left :: lefts, right :: rights =>
    match compare left right with
    | .eq => compareItems lefts rights
    | unequal => unequal
termination_by structural lefts => lefts

end

/-- The order of values that may be missing. -/
def compareOptional : Option Json → Option Json → Ordering
  | none, none => .eq
  | none, some _ => .lt
  | some _, none => .gt
  | some left, some right => compare left right

/-- The order of two numbers or two strings; other values are not comparable. -/
def compareLike? : Json → Json → Option Ordering
  | .number left, .number right => some (left.compare right)
  | .string left, .string right => some (Ord.compare left right)
  | _, _ => none

end Json

end DocumentQuery
