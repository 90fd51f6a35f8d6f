import DocumentQuery.Compute.Reader
import DocumentQuery.Query.Basic
import DocumentQuery.Query.Parameters

/-!
# Reading queries

A query is read from the parameters of a URL. Nothing here fails: a value that cannot be read
leaves its part of the query absent, and entries of a list that cannot be read are dropped.
-/

namespace DocumentQuery.Query

/-- The entries of a comma-separated list without blanks at their ends; empty ones are dropped. -/
def readList (value : String) : List String :=
  (((Text.split ',' value.toList).map Text.trim).filter fun entry => !entry.isEmpty).map
    String.ofList

/-- A sort key: a field and an optional direction, ascending where it is not `desc`. -/
def readSortKey? (entry : List Char) : Option SortKey :=
  match Text.words entry with
  | [] => none
  | field :: direction =>
    let isDescending := direction.head?.any fun word =>
      Text.equalIgnoringCase word "desc".toList
    some ⟨String.ofList field, if isDescending then .descending else .ascending⟩

/-- The sort keys of a comma-separated list. -/
def readSortKeys (value : String) : List SortKey :=
  (Text.split ',' value.toList).filterMap readSortKey?

/-- A truth value in any letter case. -/
def readFlag? (value : String) : Option Bool :=
  if Text.equalIgnoringCase value.toList "true".toList then some true
  else if Text.equalIgnoringCase value.toList "false".toList then some false
  else none

/-- A numeral below `2^64` with blanks around it. -/
def readNumber? (value : String) : Option Nat := Text.word64? (Text.trim value.toList)

/-- The rest of a text that begins with a keyword, letters being compared up to case. -/
def dropKeyword? (keyword : String) (text : List Char) : Option (List Char) :=
  let start := text.take keyword.length
  if start.map Text.fold == keyword.toList then some (text.drop keyword.length) else none

/-- What stands before the first closing parenthesis, which has to be there with one character
before it at least, and the text from the parenthesis on. -/
def readEnclosed? (text : List Char) : Option (List Char × List Char) :=
  let inside := text.takeWhile (· != ')')
  let rest := text.drop inside.length
  if inside.isEmpty || rest.isEmpty then none else some (inside, rest)

/-- The texts of the keys and of the aggregate of a grouping that begins here. -/
def readGroupingHere? (text : List Char) : Option (List Char × List Char) := do
  let (keys, rest) ← readEnclosed? (← dropKeyword? "groupby((" text)
  let (aggregate, rest) ← readEnclosed? (← dropKeyword? "),aggregate(" rest)
  let _ ← dropKeyword? "))" rest
  return (keys, aggregate)

/-- The first of the readings from each character of a text on. -/
def firstFrom? {Part : Type} (read : List Char → Option Part) : List Char → Option Part
  | [] => read []
  | char :: rest => read (char :: rest) <|> firstFrom? read rest

/-- The text behind one blank or more. -/
def dropBlanks? : List Char → Option (List Char)
  | [] => none
  | char :: rest => if Text.isBlank char then some (Text.trimStart rest) else none

/-- One word character or more, and the text behind them. -/
def readWord? (text : List Char) : Option (String × List Char) :=
  let word := text.takeWhile Text.isWord
  if word.isEmpty then none else some (String.ofList word, text.drop word.length)

/-- The name of an aggregation as it is written, and the text behind it. -/
def readAggregation? (text : List Char) : Option (String × List Char) :=
  ["sum", "avg", "min", "max", "count"].findSome? fun name =>
    (dropKeyword? name text).map fun rest => (String.ofList (text.take name.length), rest)

/-- The source, aggregation and name of an aggregate that begins here. -/
def readAggregateHere? (text : List Char) : Option (String × String × String) := do
  let (source, rest) ← readWord? text
  let rest ← dropKeyword? "with" (← dropBlanks? rest)
  let (aggregation, rest) ← readAggregation? (← dropBlanks? rest)
  let rest ← dropKeyword? "as" (← dropBlanks? rest)
  let (name, _) ← readWord? (← dropBlanks? rest)
  return (source, aggregation, name)

/-- The first grouping in a text, with its first aggregate. The texts around them are
passed over. -/
def readGrouping? (value : String) : Option Grouping := do
  let (keys, aggregate) ← firstFrom? readGroupingHere? value.toList
  let (source, written, name) ← firstFrom? readAggregateHere? aggregate
  let aggregation ← Aggregation.find? (String.ofList (Text.lowerAscii written.toList))
  return ⟨readList (String.ofList keys), [⟨source, aggregation, name⟩]⟩

/-- The marks of functions in filters that are not fully supported, in the order in which they are
reported. -/
def unsupportedMarks : List String :=
  ["geo.", "startswith(", "endswith(", "substring(", "tolower(", "toupper(", "round(", "floor(",
    "ceiling("]

/-- The marks that occur in a filter's text. -/
def readUnsupported (text : String) : List String :=
  unsupportedMarks.filter fun mark => Text.contains mark.toList text.toList

/-- The query that parameters ask for. Of a parameter that is given twice the first one counts, and
a value that cannot be read is passed over without a fault. -/
def ofParameters (parameters : Parameters) : Query :=
  let filter := parameters.nonEmpty? "$filter"
  let listOf {Entry : Type} (read : String → List Entry) (name : String) : List Entry :=
    ((parameters.get? name).map read).getD []
  { top := (parameters.get? "$top").bind readNumber?
    skip := (parameters.get? "$skip").bind readNumber?
    filter := filter.map Filter.Source.text
    orderBy := listOf readSortKeys "$orderby"
    select := listOf readList "$select"
    expand := listOf readList "$expand"
    count := (parameters.get? "$count").bind readFlag?
    search := parameters.nonEmpty? "$search"
    apply := (parameters.get? "$apply").bind readGrouping?
    compute := listOf (fun value => Compute.Clause.listOfText value.toList) "$compute"
    unsupported := (filter.map readUnsupported).getD [] }

/-- The query that a URL asks for. -/
def ofUrl (url : String) : Query := ofParameters (.ofUrl url)

end DocumentQuery.Query
