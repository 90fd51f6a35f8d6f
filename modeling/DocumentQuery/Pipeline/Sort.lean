import DocumentQuery.Json.Order
import DocumentQuery.Json.Path
import DocumentQuery.Query.Basic

/-!
# Sorting rows

Rows are compared by their values at the sort keys in turn, a descending key the other way
round. Sorting inserts the rows one by one, each behind the rows that are not greater, so rows
that compare equal keep their order.
-/

namespace DocumentQuery

/-- The order of two rows at one key. -/
def SortKey.compare (key : SortKey) (left right : Json) : Ordering :=
  let order := Json.compareOptional (left.valueAt? key.field) (right.valueAt? key.field)
  match key.direction with
  | .ascending => order
  | .descending => order.swap

/-- The order of two rows at several keys: the first key that tells them apart decides. -/
def compareRows : List SortKey → Json → Json → Ordering
  | [], _, _ => .eq
  | key :: keys, left, right =>
    match key.compare left right with
    | .eq => compareRows keys left right
    | order => order

/-- Inserts a row into rows in reversed order, before the first that is not greater. -/
def insertRow (keys : List SortKey) (row : Json) : List Json → List Json
  | [] => [row]
  | last :: others =>
    if compareRows keys row last = .lt then last :: insertRow keys row others
    else row :: last :: others

/-- The rows in the order of the keys. -/
def sortRows (keys : List SortKey) (rows : List Json) : List Json :=
  (rows.foldl (fun sorted row => insertRow keys row sorted) []).reverse

end DocumentQuery
