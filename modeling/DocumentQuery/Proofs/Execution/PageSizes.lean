import DocumentQuery.Proofs.Execution.Counts

/-!
# How many rows a page has

A page has as many rows as are asked for, no more than the greatest size, and no more than there
are behind those that are passed over. Joins come behind paging, and they lose no row; but a single
join that finds several partners of a row makes several rows of it, so the answer may have more
rows than the page. It has as many exactly if no single join of a row on the page finds several.
-/

namespace DocumentQuery

/-- How many rows are on a page. -/
theorem Query.paged_length (query : Query) (limits : Limits) (rows : List Json) (size : Nat)
    (asked : query.top = some size) (positive : 0 < size) (bounded : 0 < limits.hardMaximum) :
    (query.paged limits rows).length =
      min (min size limits.hardMaximum) (rows.length - query.skip.getD 0) := by
  rw [paged, asked, pageLimit_positive limits size positive bounded, Option.elim_some,
    List.length_take, List.length_drop, (sortRows_perm query.orderBy rows).length_eq]

section PageSizes

variable (store : Store) (collection : Collection) (settings : Settings) (query : Query)

/-- On a collection that can aggregate, the rows of an answer are those of a page, joined and
shaped. -/
theorem rows_of_page (aggregates : collection.canAggregate = true) (envelope : Envelope)
    (answered : execute store collection settings query = .ok envelope) :
    ∃ predicate made, settings.policy.compile query.filter = .ok predicate ∧
      Pipeline.run store.rows (settings.making query true predicate)
        (store.rows collection.name) = .ok made ∧
      envelope.rows = ((query.paged settings.limits made).flatMap
        (expandRow store.rows (settings.joins query))).map (shown query.select) := by
  obtain ⟨predicate, rows, count, compiled, ran, -, rfl⟩ :=
    (execute_ok_iff store collection settings query envelope).mp answered
  rw [aggregates, settings.run_stages query store.rows] at ran
  obtain ⟨made, chosen, rfl⟩ := (map_ok_iff _ _ _).mp ran
  exact ⟨predicate, made, compiled, chosen, rfl⟩

/-- A query that does not group, on a collection that can aggregate, is answered with the rows of a
page, joined and shaped. The page has as many rows as are asked for, up to the greatest size and to
what is left of the rows that meet the filter and the search. The answer has no fewer rows, and it
has as many exactly if no single join finds several partners of a row on the page.

Proof: computing makes one row of each, so the page is as long as a page of the rows that meet the
predicate. The joins are done behind the page and make one row or more of each of its rows; they
make one by `expandRow_alone_iff` exactly if no single join finds several partners. -/
theorem answer_fills_page (size : Nat) (asked : query.top = some size) (positive : 0 < size)
    (bounded : 0 < settings.limits.hardMaximum) (aggregates : collection.canAggregate = true)
    (ungrouped : query.grouping? = none) (envelope : Envelope)
    (answered : execute store collection settings query = .ok envelope) :
    ∃ predicate met made page expected,
      settings.policy.compile query.filter = .ok predicate ∧
      met = (store.rows collection.name).filter
        (Predicate.isMet (settings.joined query predicate)) ∧
      Pipeline.run store.rows (Compute.stages query.compute) met = .ok made ∧
      page = query.paged settings.limits made ∧
      envelope.rows = (page.flatMap (expandRow store.rows (settings.joins query))).map
        (shown query.select) ∧
      expected = min (min size settings.limits.hardMaximum) (met.length - query.skip.getD 0) ∧
      page.length = expected ∧
      expected ≤ envelope.rows.length ∧
      (envelope.rows.length = expected ↔
        ∀ row ∈ page, JoinsAlone store.rows (settings.joins query) row) := by
  obtain ⟨predicate, made, compiled, chosen, rows⟩ :=
    rows_of_page store collection settings query aggregates envelope answered
  have computed := settings.made_of_met query store.rows ungrouped true predicate _ made chosen
  have length := settings.made_length query ungrouped true store.rows predicate _ made chosen
  have size := query.paged_length settings.limits made size asked positive bounded
  have kept : ∀ row ∈ query.paged settings.limits made,
      expandRow store.rows (settings.joins query) row ≠ [] :=
    fun row _ => expandRow_ne_nil store.rows (settings.joins query) row
  rw [length] at size
  refine ⟨predicate, _, made, _, _, compiled, rfl, computed, rfl, rows, rfl, size, ?_, ?_⟩
  · rw [rows, List.length_map, ← size]
    exact length_le_flatMap _ _ kept
  · rw [rows, List.length_map, ← size, length_flatMap_eq_iff _ _ kept]
    simp only [expandRow_alone_iff]

end PageSizes

/-- Three items on shelves, and the shelves. Two shelves stand in the place of the first item. -/
def shelved : Store :=
  { collections := [
      ("items", [.object [("_id", .ofNat 1), ("place", .ofNat 7)],
        .object [("_id", .ofNat 2), ("place", .ofNat 8)],
        .object [("_id", .ofNat 3), ("place", .ofNat 8)]]),
      ("shelves", [.object [("_id", .ofNat 10), ("place", .ofNat 7)],
        .object [("_id", .ofNat 11), ("place", .ofNat 7)],
        .object [("_id", .ofNat 12), ("place", .ofNat 8)]])] }

/-- Settings that lay down the join of an item with its shelf. -/
def shelving : Settings :=
  { expansions := [("shelf", ⟨"shelves", "place", "place", some "shelf", true⟩)] }

/-- The query for one item with its shelf, behind a number of others. -/
def oneShelved (skip : Nat) : Query := { top := some 1, skip := some skip, expand := ["shelf"] }

/-- The second item is the only row of its page, also when it is joined with its shelf. Its shelf is
found once, so the join makes one row of it. -/
theorem second_item_alone :
    (oneShelved 1).top = some 1 ∧ 0 < shelving.limits.hardMaximum ∧
    (oneShelved 1).grouping? = none ∧
    ∃ envelope, execute shelved ⟨"items", true⟩ shelving (oneShelved 1) = .ok envelope ∧
      envelope.rows.length = min (min 1 shelving.limits.hardMaximum) (3 - 1) := by
  obtain ⟨envelope, answered⟩ : ∃ envelope,
      execute shelved ⟨"items", true⟩ shelving (oneShelved 1) = .ok envelope := ⟨_, rfl⟩
  obtain ⟨predicate, met, made, page, expected, compiled, rfl, computed, rfl, -, rfl, -, -,
      exactly⟩ :=
    answer_fills_page shelved ⟨"items", true⟩ shelving (oneShelved 1) 1 rfl (by decide) (by decide)
      rfl rfl envelope answered
  obtain rfl := Except.ok.inj compiled
  obtain rfl := Except.ok.inj computed
  refine ⟨rfl, by decide, rfl, envelope, answered, exactly.mpr ?_⟩
  intro row inside
  obtain rfl := List.mem_singleton.mp inside
  exact ⟨fun _ => by decide, fun _ _ => trivial⟩

/-- The first item becomes two rows, one for each shelf in its place, though a page of one row was
asked for. -/
theorem first_item_doubled :
    ∃ envelope, execute shelved ⟨"items", true⟩ shelving (oneShelved 0) = .ok envelope ∧
      envelope.rows.length = 2 ∧
      envelope.rows.length ≠ min (min 1 shelving.limits.hardMaximum)
        ((shelved.rows "items").length - (oneShelved 0).skip.getD 0) := by
  exact ⟨_, rfl, rfl, by decide⟩

end DocumentQuery
