import DocumentQuery.Proofs.Execution.Forms
import DocumentQuery.Proofs.Json.Sameness
import DocumentQuery.Proofs.Pipeline.Flattening
import DocumentQuery.Query.Reader

/-!
# Answers in groups

A query that groups is answered with one row for each combination of keys among the rows that its
filter and its search keep. The combinations stand in the order in which they first appear, and then
in that which is asked for. A row shows the keys without dots and the result of the aggregate over
exactly the rows of its combination. What it shows at a dotted key is null.
-/

namespace DocumentQuery

/-- Whether a query groups by keys with an aggregate, and does nothing else with the groups than to
sort them. -/
structure Query.OnlyGroups (query : Query) (settings : Settings) (keys : List String)
    (aggregate : Aggregate) : Prop where
  grouping : query.apply = some ⟨keys, [aggregate]⟩
  keyed : keys ≠ []
  compute : query.compute = []
  joins : ∀ path ∈ query.expand, settings.expansions.get? path = none
  select : query.select = []
  skip : query.skip.getD 0 = 0
  limit : pageLimit query.top settings.limits = none

section Groups

variable (store : Store) (collection : Collection) {settings : Settings} {query : Query}
  {keys : List String} {aggregate : Aggregate}

/-- A query that only groups is run as a pipeline that chooses rows and then groups them. -/
theorem Query.OnlyGroups.making_eq (groups : query.OnlyGroups settings keys aggregate)
    (predicate : Json) :
    settings.making query true predicate =
      settings.choosing query predicate ++ Plan.groupStages ⟨keys, [aggregate]⟩ := by
  have usable : query.grouping? = some ⟨keys, [aggregate]⟩ := by
    simp [Query.grouping?, groups.grouping, Grouping.isUsable, groups.keyed]
  have needed : Plan.needsPipeline query (Plan.searchPredicate? settings query) = true := by
    simp [Plan.needsPipeline, usable]
  have uncomputed : Compute.stages query.compute = [] := by
    rw [groups.compute]
    rfl
  simp [Settings.making, needed, usable, uncomputed]

/-- The rows that a query only groups are not paged or shaped, but sorted. -/
theorem Query.OnlyGroups.page_eq (groups : query.OnlyGroups settings keys aggregate)
    (rows : List Json) : query.page settings.limits rows = sortRows query.orderBy rows := by
  have unchanged : shown [] = id := rfl
  simp [Query.page, groups.limit, Query.answer, groups.skip, groups.select, unchanged]

/-- A query that groups the rows of a collection that can aggregate is answered with one row for
each combination of keys among the rows that it keeps, in the order in which the combinations first
appear, and sorted as is asked for. Each row has the values of the keys without dots, null at the
dotted ones, and the aggregate over the rows of the combination.

Proof: the stages choose the rows that the query keeps, group them, and flatten each group into its
row, which `run_grouping` takes together. A key with dots is stored as one member and looked up as a
path, so nothing is found there. The page behind it does no more than to sort. -/
theorem groups_answered (groups : query.OnlyGroups settings keys aggregate)
    (able : collection.canAggregate = true) (apart : KeysApart keys)
    (beside : IsBeside keys aggregate.name)
    (fields : ∀ field ∈ settings.searched, Predicate.isOperator field = false)
    (predicate : Json) (compiled : settings.policy.compile query.filter = .ok predicate)
    (kept : List Json)
    (selected : Predicate.select (settings.joined query predicate)
      (store.rows collection.name) = .ok kept)
    (small : kept.length < 9000000000000000) :
    ∃ all rows count link,
      execute store collection settings query = .ok ⟨sortRows query.orderBy rows, count, link⟩ ∧
      AreCombinations keys kept all ∧
      List.Forall₂ (Combination.IsShown keys aggregate) all rows := by
  have unjoined : settings.joins query = [] := List.filterMap_eq_nil_iff.mpr groups.joins
  obtain ⟨rows, ran, shows⟩ := run_grouping keys store.rows aggregate apart beside kept small
  have chosen : Pipeline.run store.rows (settings.choosing query predicate)
      (store.rows collection.name) = .ok kept := by
    rw [settings.run_choosing_joined query store.rows predicate _ fields, Pipeline.run_matching,
      selected]
    rfl
  have made : Pipeline.run store.rows
      (settings.stages query collection.canAggregate predicate) (store.rows collection.name) =
        .ok (sortRows query.orderBy rows) := by
    rw [settings.run_stages_unjoined query store.rows unjoined, able, groups.making_eq,
      Pipeline.run_append, chosen, ok_bind, ran]
    exact congrArg Except.ok (groups.page_eq rows)
  have counted : ∃ count, (if query.count = some true then
      (store.count collection.name (settings.joined query predicate)).map some
    else .ok none) = .ok count := by
    have total : store.count collection.name (settings.joined query predicate) =
        .ok kept.length := by
      rw [Store.count, selected]
    split
    · exact ⟨some kept.length, by rw [total]; rfl⟩
    · exact ⟨none, rfl⟩
  obtain ⟨count, counted⟩ := counted
  exact ⟨combinations keys kept, rows, count, _,
    (execute_ok_iff store collection settings query _).mpr
      ⟨predicate, _, count, compiled, made, counted, rfl⟩,
    combinations_are keys kept, shows⟩

end Groups

/-- Three visits to two towns, which stand in the rows and within a member as well. -/
def visits : Store :=
  let visit (identity : Nat) (town : String) (hours : Nat) : Json :=
    .object [("_id", .ofNat identity), ("town", .string town),
      ("c", .object [("city", .string town)]), ("t", .ofNat hours)]
  { collections := [("items", [visit 1 "Oslo" 5, visit 2 "Rome" 7, visit 3 "Oslo" 1])] }

/-- The request for the hours in each town, the most first. -/
def hoursByTown : String :=
  "/odata/Items?$apply=groupby((town),aggregate(t%20with%20sum%20as%20s))&$orderby=s%20desc"

/-- The request for the hours in each town, by the path to it. -/
def hoursByCity : String :=
  "/odata/Items?$apply=groupby((c.city),aggregate(t%20with%20sum%20as%20s))"

/-- The visits are told apart by their towns. All of the towns are texts, and texts are equal as
keys only if they are the same. -/
theorem visits_told : TellsApart ["town"] (visits.rows "items") := by
  have clear : Number.Clear fun _ => False := nofun
  refine TellsApart.of_proper clear fun row here key listed => ?_
  obtain rfl := List.mem_singleton.mp listed
  have town : keyValue row "town" = .string "Oslo" ∨ keyValue row "town" = .string "Rome" := by
    simp only [visits, Store.rows, Members.get?, if_true, Option.getD_some, List.mem_cons,
      List.not_mem_nil, or_false] at here
    rcases here with rfl | rfl | rfl
    · exact .inl rfl
    · exact .inr rfl
    · exact .inl rfl
  rcases town with town | town <;> exact town ▸ .string _

/-- The hours in each town are summed, and the town with the most of them is shown first. Two of the
three visits are to the town that appears first. -/
theorem hoursByTown_answered :
    (Query.ofUrl hoursByTown).OnlyGroups {} ["town"] ⟨"t", .sum, "s"⟩ ∧
    TellsApart ["town"] (visits.rows "items") ∧
    ∃ all rows count link,
      execute visits ⟨"items", true⟩ {} (Query.ofUrl hoursByTown) =
        .ok ⟨sortRows [⟨"s", .descending⟩] rows, count, link⟩ ∧
      AreCombinations ["town"] (visits.rows "items") all ∧
      List.Forall₂ (Combination.IsShown ["town"] ⟨"t", .sum, "s"⟩) all rows ∧
      sortRows [⟨"s", .descending⟩] rows =
        [.object [("town", .string "Rome"), ("s", .ofNat 7)],
          .object [("town", .string "Oslo"), ("s", .ofNat 6)]] := by
  have asked : (Query.ofUrl hoursByTown).apply = some ⟨["town"], [⟨"t", .sum, "s"⟩]⟩ ∧
      (Query.ofUrl hoursByTown).compute = [] ∧ (Query.ofUrl hoursByTown).select = [] ∧
      (Query.ofUrl hoursByTown).skip = none ∧ (Query.ofUrl hoursByTown).top = none ∧
      (Query.ofUrl hoursByTown).filter.isNone = true ∧
      (Query.ofUrl hoursByTown).orderBy = [⟨"s", .descending⟩] := by decide +kernel
  obtain ⟨grouping, compute, select, skip, top, unfiltered, orderBy⟩ := asked
  have groups : (Query.ofUrl hoursByTown).OnlyGroups {} ["town"] ⟨"t", .sum, "s"⟩ :=
    ⟨grouping, by decide, compute, fun _ _ => rfl, select, by rw [skip]; rfl, by rw [top]; rfl⟩
  have compiled : ({} : Settings).policy.compile (Query.ofUrl hoursByTown).filter =
      .ok Predicate.always := by
    rw [Option.isNone_iff_eq_none.mp unfiltered]
    rfl
  obtain ⟨all, rows, count, link, answered, combined, shows⟩ :=
    groups_answered visits ⟨"items", true⟩ groups rfl (List.pairwise_singleton _ _)
      ⟨by decide, by decide, by decide +kernel⟩ nofun _ compiled (visits.rows "items") rfl
      (by decide)
  have shown : (execute visits ⟨"items", true⟩ {} (Query.ofUrl hoursByTown)).toOption.map
      Envelope.rows =
        some [.object [("town", .string "Rome"), ("s", .ofNat 7)],
          .object [("town", .string "Oslo"), ("s", .ofNat 6)]] := by decide +kernel
  rw [orderBy] at answered
  rw [answered] at shown
  exact ⟨groups, visits_told, all, rows, count, link, answered, combined, shows,
    Option.some.inj shown⟩

/-- The hours in each town are summed as well where a path leads to it, but no town is shown. -/
theorem hoursByCity_answered :
    (Query.ofUrl hoursByCity).OnlyGroups {} ["c.city"] ⟨"t", .sum, "s"⟩ ∧
    (visits.rows "items").map (fun row => row.valueAt? "c.city") =
      [some (.string "Oslo"), some (.string "Rome"), some (.string "Oslo")] ∧
    (execute visits ⟨"items", true⟩ {} (Query.ofUrl hoursByCity)).toOption.map Envelope.rows =
      some [.object [("c", .object [("city", .null)]), ("s", .ofNat 6)],
        .object [("c", .object [("city", .null)]), ("s", .ofNat 7)]] := by
  have asked : (Query.ofUrl hoursByCity).apply = some ⟨["c.city"], [⟨"t", .sum, "s"⟩]⟩ ∧
      (Query.ofUrl hoursByCity).compute = [] ∧ (Query.ofUrl hoursByCity).select = [] ∧
      (Query.ofUrl hoursByCity).skip = none ∧ (Query.ofUrl hoursByCity).top = none := by
    decide +kernel
  obtain ⟨grouping, compute, select, skip, top⟩ := asked
  exact ⟨⟨grouping, by decide, compute, fun _ _ => rfl, select, by rw [skip]; rfl,
    by rw [top]; rfl⟩, rfl, by decide +kernel⟩

end DocumentQuery
