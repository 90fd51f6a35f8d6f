import DocumentQuery.Compute.Document
import DocumentQuery.Query.Basic

/-!
# Documents of queries

The written form of a query as a JSON object. Parts that are absent or empty are not written.
-/

namespace DocumentQuery

open Json (Draft Form)

/-- The document of a sort key. -/
def SortKey.document (key : SortKey) : Json :=
  .object [("field", .string key.field), ("direction", .string key.direction.name)]

/-- The direction with a name. -/
def Direction.ofName? (name : String) : Option Direction :=
  [Direction.ascending, .descending].find? fun direction => direction.name == name

/-- The document of a sort key, as it is read. -/
def SortKey.form : Form SortKey :=
  SortKey.mk
    <$> .required "field" Draft.text
    <*> .required "direction" (Draft.choice Direction.ofName?)

/-- The document of an aggregate. -/
def Aggregate.document (aggregate : Aggregate) : Json :=
  .object [("source", .string aggregate.source), ("op", .string aggregate.aggregation.name),
    ("alias", .string aggregate.name)]

/-- The document of an aggregate, as it is read. -/
def Aggregate.form : Form Aggregate :=
  Aggregate.mk
    <$> .required "source" Draft.text
    <*> .required "op" (Draft.choice Aggregation.find?)
    <*> .required "alias" Draft.text

/-- The document of a grouping. -/
def Grouping.document (grouping : Grouping) : Json :=
  .object [("group_by", .array (grouping.keys.map Json.string)),
    ("aggregates", .array (grouping.aggregates.map Aggregate.document))]

/-- The document of a grouping, as it is read. -/
def Grouping.form : Form Grouping :=
  Grouping.mk
    <$> .required "group_by" (Draft.list Draft.text)
    <*> .required "aggregates" (Draft.list Aggregate.form.read)

namespace Query

/-- The document of a filter. -/
def filterDocument : Filter.Source → Json
  | .text text => .string text
  | .predicate predicate => predicate

/-- The filter of a draft: a text, or a predicate of any other kind. -/
def readFilter (draft : Draft) : Except Draft.Fault Filter.Source :=
  draft.json.map fun
    | .string text => .text text
    | predicate => .predicate predicate

/-- The document of a query, which shows the options that are present, in this order. -/
def document (query : Query) : Json :=
  let one (name : String) (value : Option Json) : List (String × Json) :=
    (value.map fun value => (name, value)).toList
  let many (name : String) (items : List Json) : List (String × Json) :=
    if items.isEmpty then [] else [(name, .array items)]
  .object (one "top" (query.top.map Json.ofNat)
    ++ one "skip" (query.skip.map Json.ofNat)
    ++ one "filter" (query.filter.map filterDocument)
    ++ many "order_by" (query.orderBy.map SortKey.document)
    ++ many "select" (query.select.map Json.string)
    ++ many "expand" (query.expand.map fun path => .object [("path", .string path)])
    ++ one "count" (query.count.map Json.bool)
    ++ one "search" (query.search.map Json.string)
    ++ one "apply" (query.apply.map Grouping.document)
    ++ many "compute" (query.compute.map Compute.Clause.document)
    ++ many "unimplemented_functions" (query.unsupported.map Json.string))

/-- The document of an expansion, which gives its path. -/
def expansionForm : Form String := .required "path" Draft.text

/-- The document of a query, as it is read. Every member may be left out, and some may be null. -/
def form : Form Query :=
  Query.mk
    <$> .nullable "top" (Draft.natural 64)
    <*> .nullable "skip" (Draft.natural 64)
    <*> .nullable "filter" readFilter
    <*> .defaulted "order_by" [] (Draft.list SortKey.form.read)
    <*> .defaulted "select" [] (Draft.list Draft.text)
    <*> .defaulted "expand" [] (Draft.list expansionForm.read)
    <*> .nullable "count" Draft.truth
    <*> .nullable "search" Draft.text
    <*> .nullable "apply" Grouping.form.read
    <*> .defaulted "compute" [] (Draft.list Compute.Clause.form.read)
    <*> .defaulted "unimplemented_functions" [] (Draft.list Draft.text)

end Query

end DocumentQuery
