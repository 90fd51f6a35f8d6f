import DocumentQuery.Plan.Settings
import DocumentQuery.Query.Basic
import DocumentQuery.Text.Percent
import DocumentQuery.Text.Split

/-!
# Pages

How many rows a page has, where it begins, and the link to the page behind it. A link repeats
the query's parameters with the place where the next page begins, which is a 64-bit number.
-/

namespace DocumentQuery

/-- The size of a page: what is asked for, or the usual size, but not more than the greatest. A size
of zero bounds nothing. -/
def pageLimit (top : Option Nat) (limits : Limits) : Option Nat := do
  let requested ← top <|> limits.pageSize
  let size := min requested limits.hardMaximum
  if size = 0 then none else some size

/-- How many rows are passed over; zero is none. -/
def pageSkip (skip : Option Nat) : Option Nat := skip.filter (· != 0)

namespace Query

/-- A parameter of a link with its value escaped. -/
def linkPart (name : String) (value : String) : String :=
  name ++ "=" ++ String.ofList (Text.percentEncode value.toList)

/-- The parameters of the link to the page behind one of `top` rows. The page begins behind this
one, counted in 64 bits, and everything that is repeated is written as it was read. -/
def linkParts (query : Query) (top : Nat) : List String :=
  let skip := (query.skip.getD 0 + top) % Nat.pow 2 64
  let many (name : String) (values : List String) : List String :=
    if values.isEmpty then [] else [linkPart name (",".intercalate values)]
  ["$top=" ++ Nat.repr top, "$skip=" ++ Nat.repr skip]
    ++ many "$select" query.select
    ++ many "$orderby" (query.orderBy.map fun key => key.field ++ " " ++ key.direction.name)
    ++ (query.count.map fun count => "$count=" ++ if count then "true" else "false").toList
    ++ (query.filterText?.map (linkPart "$filter")).toList
    ++ many "$expand" query.expand

/-- The link to the next page. There is one only when a page size was asked for and the page has
that many rows. -/
def nextLink? (query : Query) (base : Option String) (returned : Nat) : Option String := do
  let top ← query.top.filter (· != 0)
  if returned < top then none
  else some (base.getD "" ++ "?" ++ "&".intercalate (query.linkParts top))

end Query

end DocumentQuery
