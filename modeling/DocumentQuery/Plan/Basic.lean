import DocumentQuery.Compute.Lowering
import DocumentQuery.Plan.Paging

/-!
# Plans

A query is run in one of two forms. The direct form is a single find; the pipeline form is
taken when the query searches, groups, computes or joins, and the collection can aggregate. The
stages of a pipeline stand in this order: the filter, the search, grouping, computed fields,
sorting, paging, joins, and the selection of fields. Joins come behind paging, so only the rows
of the page are joined.

The count of a query has a predicate of its own, which all rows on all pages meet.
-/

namespace DocumentQuery

/-- What a find does with the rows that its predicate keeps. -/
structure FindOptions where
  projection : Option Projection := none
  sort : List SortKey := []
  limit : Option Nat := none
  skip : Option Nat := none
  deriving Inhabited

/-- The form in which a query is run. -/
inductive Plan.Form where
  | direct (options : FindOptions)
  | pipeline (stages : List Stage)
  deriving Inhabited

/-- How a query is run: the predicate of the direct form, that of the count, and the form. -/
structure Plan where
  predicate : Json
  countPredicate : Json
  form : Plan.Form
  deriving Inhabited

namespace FindOptions

/-- The stages of a find: its predicate, sorting, paging and the projection. -/
def stages (options : FindOptions) (predicate : Json) : List Stage :=
  [.matching predicate]
    ++ (if options.sort.isEmpty then [] else [.sort options.sort])
    ++ (options.skip.map Stage.skip).toList
    ++ (options.limit.map Stage.limit).toList
    ++ (options.projection.map Stage.project).toList

end FindOptions

namespace Plan

/-- The projection that keeps selected fields; the identity is dropped unless it is selected. -/
def selection? (fields : List String) : Option Projection :=
  if fields.isEmpty then none
  else
    let kept : Projection := fields.map fun field => (field, .kept)
    some (if fields.contains identityField then kept else kept ++ [(identityField, .dropped)])

/-- The predicate of a search: one of the searched fields holds the term, up to case. -/
def searchPredicate? (settings : Settings) (query : Query) : Option Json := do
  let term ← query.search.filter fun term => !term.isEmpty
  if settings.searched.isEmpty then none
  else
    let pattern := Json.string (String.ofList (Pattern.escape term.toList))
    let condition := Json.object [("$regex", pattern), ("$options", "i")]
    some (Predicate.clause "$or" (.array (settings.searched.map fun field =>
      Predicate.clause field condition)))

/-- The native operator and input of an aggregate. Counting sums ones. -/
def accumulator (aggregate : Aggregate) : Accumulator :=
  let source := fieldReference aggregate.source
  match aggregate.aggregation with
  | .sum => ⟨aggregate.name, "$sum", source⟩
  | .average => ⟨aggregate.name, "$avg", source⟩
  | .minimum => ⟨aggregate.name, "$min", source⟩
  | .maximum => ⟨aggregate.name, "$max", source⟩
  | .count => ⟨aggregate.name, "$sum", .ofNat 1⟩

/-- The stages of a grouping: the groups, then their keys as fields of their own. -/
def groupStages (grouping : Grouping) : List Stage :=
  let keys : Projection := grouping.keys.map fun key =>
    (key, .computed (fieldReference (identityField ++ "." ++ key)))
  let results : Projection := grouping.aggregates.map fun aggregate => (aggregate.name, .kept)
  [.group grouping.keys (grouping.aggregates.map accumulator),
    .project (keys ++ results ++ [(identityField, .dropped)])]

/-- The stages of one expansion: the join, and its row alone where it is single. -/
def expansionStages (expansion : Expansion) : List Stage :=
  let output := expansion.outputField
  let join : Join :=
    ⟨expansion.collection, expansion.localField, expansion.foreignField, output⟩
  if expansion.single then [.lookup join, .unwind output true] else [.lookup join]

/-- Whether a predicate is the one that every row meets, with no clause. -/
def isAlways : Json → Bool
  | .object [] => true
  | _ => false

/-- The stages of a query whose filter and search have the given predicates. Paths that no expansion
is laid down for are passed over. -/
def pipelineStages (settings : Settings) (query : Query) (predicate : Json)
    (search : Option Json) (options : FindOptions) : List Stage :=
  (if isAlways predicate then [] else [.matching predicate])
    ++ (search.map Stage.matching).toList
    ++ ((query.grouping?.map groupStages).getD [])
    ++ Compute.stages query.compute
    ++ (if options.sort.isEmpty then [] else [.sort options.sort])
    ++ (options.skip.map Stage.skip).toList
    ++ (options.limit.map Stage.limit).toList
    ++ (query.expand.filterMap fun path => settings.expansions.get? path).flatMap expansionStages
    ++ (options.projection.map Stage.project).toList

/-- Whether a query needs more than a find. -/
def needsPipeline (query : Query) (search : Option Json) : Bool :=
  !query.expand.isEmpty || search.isSome || query.grouping?.isSome || !query.compute.isEmpty

/-- The plan of a query. Where the collection cannot aggregate, a query that needs a pipeline is
reduced to a find with its filter and search. -/
def ofQuery (settings : Settings) (canAggregate : Bool) (query : Query) :
    Except Filter.Refusal Plan := do
  let predicate ← settings.policy.compile query.filter
  let search := searchPredicate? settings query
  let countPredicate := match search with
    | some search => Predicate.both predicate search
    | none => predicate
  let options : FindOptions :=
    { projection := selection? query.select
      sort := query.orderBy
      limit := pageLimit query.top settings.limits
      skip := pageSkip query.skip }
  if !needsPipeline query search then return ⟨predicate, countPredicate, .direct options⟩
  else if !canAggregate then return ⟨countPredicate, countPredicate, .direct options⟩
  else
    let stages := pipelineStages settings query predicate search options
    return ⟨predicate, countPredicate, .pipeline stages⟩

/-- The document of a plan, by its form. A direct plan shows the options that it has, and a pipeline
all of its stages. -/
def document (plan : Plan) : Json :=
  let one (name : String) (value : Option Json) : List (String × Json) :=
    (value.map fun value => (name, value)).toList
  match plan.form with
  | .direct options =>
    .object ([("form", Json.string "direct"), ("filter", plan.predicate)]
      ++ one "projection" (options.projection.map Projection.document)
      ++ one "sort" (if options.sort.isEmpty then none else some (sortDocument options.sort))
      ++ one "limit" (options.limit.map Json.ofNat)
      ++ one "skip" (options.skip.map Json.ofNat)
      ++ [("countFilter", plan.countPredicate)])
  | .pipeline stages =>
    .object [("form", "pipeline"), ("pipeline", .array (stages.map Stage.document)),
      ("countFilter", plan.countPredicate)]

end Plan

end DocumentQuery
