import DocumentQuery.Proofs.Execution.Pages
import DocumentQuery.Proofs.Execution.Stages

/-!
# What the link behind a page asks for

The link of an answer, in whichever form the query was run, asks for the same query at the place
behind the page. Searches, groupings and computed fields are not repeated; every other part is
read back as it was. The place is a number of 64 bits, and it does not overflow: rows are passed
over before any of them is taken apart, so a page that is not empty begins within the collection.
-/

namespace DocumentQuery

/-- What a query makes of rows is made by stages that narrow. Joins, which may multiply rows, come
behind the page. -/
theorem Settings.making_narrows (settings : Settings) (query : Query) (canAggregate : Bool)
    (predicate : Json) :
    ∀ stage ∈ settings.making query canAggregate predicate, stage.Narrows := by
  have choosing : ∀ stage ∈ settings.choosing query predicate, stage.Narrows := by
    intro stage inside
    rcases List.mem_append.mp inside with filtered | searched
    · split at filtered
      · exact absurd filtered List.not_mem_nil
      · exact List.mem_singleton.mp filtered ▸ trivial
    · obtain ⟨search, -, rfl⟩ := Option.map_eq_some_iff.mp (Option.mem_toList.mp searched)
      trivial
  have groups : ∀ stage ∈ (query.grouping?.map Plan.groupStages).getD [], stage.Narrows := by
    cases query.grouping? with
    | none => exact fun stage inside => absurd inside List.not_mem_nil
    | some grouping =>
      exact List.forall_mem_cons.mpr ⟨trivial, List.forall_mem_singleton.mpr trivial⟩
  have computes : ∀ stage ∈ Compute.stages query.compute, stage.Narrows := fun stage inside =>
    (Compute.stagesFrom_single 0 query.compute stage inside).narrows
  unfold making
  split
  · simp only [List.forall_mem_append]
    exact ⟨⟨choosing, groups⟩, computes⟩
  · exact List.forall_mem_singleton.mpr trivial

/-- Behind the last row there is an empty page. -/
theorem Query.paged_beyond (query : Query) (limits : Limits) (rows : List Json)
    (beyond : rows.length ≤ query.skip.getD 0) : query.paged limits rows = [] := by
  have passed : (sortRows query.orderBy rows).drop (query.skip.getD 0) = [] := by
    rw [List.drop_eq_nil_iff, (sortRows_perm query.orderBy rows).length_eq]
    exact beyond
  rw [paged, passed]
  cases pageLimit query.top limits with
  | none => rfl
  | some size => exact List.take_nil

/-- A page that is not empty begins within the collection. What is made of the rows is not more than
these, since choosing, grouping and computing add no rows, and joins come behind the page. -/
theorem page_begins_within (store : Store) (collection : Collection) (settings : Settings)
    (query : Query) (envelope : Envelope)
    (answered : execute store collection settings query = .ok envelope)
    (some : envelope.rows ≠ []) :
    query.skip.getD 0 < (store.rows collection.name).length := by
  obtain ⟨predicate, rows, count, -, ran, -, rfl⟩ :=
    (execute_ok_iff store collection settings query envelope).mp answered
  rw [settings.run_stages query store.rows] at ran
  obtain ⟨made, chosen, rfl⟩ := (map_ok_iff _ _ _).mp ran
  have fewer := Pipeline.run_length store.rows _ _ made
    (settings.making_narrows query collection.canAggregate predicate) chosen
  by_contra beyond
  apply some
  rw [query.paged_beyond settings.limits made (by omega)]
  rfl

/-- The link of an answer is read as the query that was answered, with the place moved on by the
size of the page, and without the parts that links do not repeat: the search, the grouping and the
computed fields. The new place is the sum itself, and not its remainder, wherever the collection and
the page are lists that a machine can hold.

Proof: there is a link only for a page that is full, so its parts are those of `linkParts`. They
are read back as the query that they were made of, because a query that was read from a URL can
be written again. A page that has rows begins within the collection, which bounds the place
behind it. -/
theorem link_moves_query_on (store : Store) (collection : Collection) (settings : Settings)
    (url : String) (size : Nat) (asked : (Query.ofUrl url).top = some size)
    (noQuery : '?' ∉ (settings.base.getD "").toList) (envelope : Envelope)
    (answered : execute store collection settings (Query.ofUrl url) = .ok envelope)
    (link : String) (linked : envelope.nextLink = some link) :
    Query.ofUrl link =
      { Query.ofUrl url with
        skip := some (((Query.ofUrl url).skip.getD 0 + size) % 2 ^ 64)
        search := none
        apply := none
        compute := [] } ∧
    ((store.rows collection.name).length < 2 ^ 63 → envelope.rows.length < 2 ^ 63 →
      (Query.ofUrl url).skip.getD 0 + size < 2 ^ 64) := by
  obtain ⟨plan, -, -, -, made⟩ := execute_ok store collection settings _ envelope answered
  rw [linked] at made
  have positive : 0 < size := by
    by_contra none
    obtain rfl : size = 0 := by omega
    have unsized : (Query.ofUrl url).top.filter (· != 0) = .none := by
      rw [asked]
      rfl
    simp [Query.nextLink?, unsized] at made
  rw [nextLink_sized _ _ size _ asked positive] at made
  have full : size ≤ envelope.rows.length := by
    by_contra short
    rw [if_pos (by omega)] at made
    exact absurd made (by simp)
  rw [if_neg (by omega)] at made
  obtain rfl := Option.some.inj made
  constructor
  · rw [Query.ofUrl_link _ _ size (Query.ofUrl_rereadable url)
      (Query.ofUrl_top_bounded url size asked) noQuery, Query.behind, ← asked]
  · intro held paged
    have some : envelope.rows ≠ [] := by
      intro none
      rw [none, List.length_nil] at full
      omega
    have within := page_begins_within store collection settings _ envelope answered some
    omega

/-- What the link of an answer that may have failed asks for. -/
def linkedQuery? (answer : Except Failure Envelope) : Option Query :=
  (answer.toOption.bind Envelope.nextLink).map Query.ofUrl

/-- An answer with a link was given. -/
theorem linkedQuery?_some (answer : Except Failure Envelope)
    (linked : (linkedQuery? answer).isSome = true) :
    ∃ envelope link, answer = .ok envelope ∧ envelope.nextLink = some link ∧
      linkedQuery? answer = some (Query.ofUrl link) := by
  cases answer with
  | error failure => exact absurd linked Bool.false_ne_true
  | ok envelope =>
    obtain ⟨query, found⟩ := Option.isSome_iff_exists.mp linked
    obtain ⟨link, given, rfl⟩ := Option.map_eq_some_iff.mp found
    exact ⟨envelope, link, rfl, given, found⟩

/-- A request that searches, joins, counts, sorts and selects, for the second page of one row. -/
def secondSearched : String :=
  "/odata/Items?$top=1&$skip=1&$count=true&$orderby=n%20desc&$select=n&$expand=shelf&$search=a"

/-- The link behind the second page asks for the third one, without the search. The page is full,
and the order of the query is asked for again. -/
theorem secondSearched_linked :
    (Query.ofUrl secondSearched).top = some 1 ∧
    ∃ envelope link, execute stock ⟨"items", true⟩ { base := some "/odata/Items" }
        (Query.ofUrl secondSearched) = .ok envelope ∧
      envelope.nextLink = some link ∧ (Query.ofUrl link).skip = some 2 ∧
      (Query.ofUrl link).orderBy = (Query.ofUrl secondSearched).orderBy ∧
      (Query.ofUrl link).search = none := by
  obtain ⟨asked, passed⟩ : (Query.ofUrl secondSearched).top = some 1 ∧
      (Query.ofUrl secondSearched).skip = some 1 := by decide +kernel
  obtain ⟨envelope, link, answered, linked, -⟩ := linkedQuery?_some
    (execute stock ⟨"items", true⟩ { base := some "/odata/Items" } (Query.ofUrl secondSearched))
    (by decide +kernel)
  obtain ⟨moved, -⟩ := link_moves_query_on stock ⟨"items", true⟩ { base := some "/odata/Items" }
    secondSearched 1 asked (by decide) envelope answered link linked
  refine ⟨asked, envelope, link, answered, linked, ?_⟩
  rw [moved, passed]
  exact ⟨rfl, rfl, rfl⟩

/-- A request that groups, searches and computes, none of which a link repeats. -/
def groupedSearched : String :=
  "/odata/Items?$top=1&$search=a&$apply=groupby((n),aggregate(n%20with%20sum%20as%20s))" ++
    "&$compute=n%20mul%202%20as%20d"

/-- On a collection that does not aggregate the request is answered with a page of rows, and the
link behind it asks for neither the search nor the grouping nor what was computed. -/
theorem groupedSearched_dropped :
    (Query.ofUrl groupedSearched).top = some 1 ∧
    ∃ envelope link, execute stock ⟨"items", false⟩ { base := some "/odata/Items" }
        (Query.ofUrl groupedSearched) = .ok envelope ∧
      envelope.nextLink = some link ∧
      (Query.ofUrl groupedSearched).search = some "a" ∧ (Query.ofUrl link).search = none ∧
      (Query.ofUrl groupedSearched).apply = some ⟨["n"], [⟨"n", .sum, "s"⟩]⟩ ∧
      (Query.ofUrl link).apply = none ∧
      (Query.ofUrl groupedSearched).compute.length = 1 ∧ (Query.ofUrl link).compute = [] := by
  have asked : (Query.ofUrl groupedSearched).top = some 1 ∧
      (Query.ofUrl groupedSearched).search = some "a" ∧
      (Query.ofUrl groupedSearched).apply = some ⟨["n"], [⟨"n", .sum, "s"⟩]⟩ ∧
      (Query.ofUrl groupedSearched).compute.length = 1 := by decide +kernel
  have dropped : (linkedQuery? (execute stock ⟨"items", false⟩ { base := some "/odata/Items" }
      (Query.ofUrl groupedSearched))).any (fun query =>
        query.search.isNone && query.apply.isNone && query.compute.isEmpty) = true := by
    decide +kernel
  obtain ⟨query, found, absent⟩ := (Option.any_eq_true _ _).mp dropped
  obtain ⟨envelope, link, answered, linked, read⟩ :=
    linkedQuery?_some _ (Option.isSome_iff_exists.mpr ⟨query, found⟩)
  obtain rfl := Option.some.inj (found.symm.trans read)
  simp only [Bool.and_eq_true, Option.isNone_iff_eq_none, List.isEmpty_iff] at absent
  obtain ⟨top, search, apply, compute⟩ := asked
  obtain ⟨⟨noSearch, noApply⟩, noCompute⟩ := absent
  exact ⟨top, envelope, link, answered, linked, search, noSearch, apply, noApply, compute,
    noCompute⟩

end DocumentQuery
