import DocumentQuery.Proofs.Execution.Links
import DocumentQuery.Proofs.Execution.PageSizes

/-!
# The place behind a page

Whether the rows are found or made by a pipeline, there is a link only behind a page with as many
rows as were asked for, and such a page begins within the collection. So neither the size of the
page nor the number of rows passed over exceeds what the machine holds as a list of rows, and their
sum is a number of 64 bits, which the link asks for as it is.
-/

namespace DocumentQuery

/-- There is a link exactly behind a page that has the rows that were asked for, one at least. A
query that asks for no rows counts as one without a page size. -/
theorem Query.nextLink_iff (query : Query) (base : Option String) (returned : Nat) (link : String) :
    query.nextLink? base returned = some link ↔ ∃ size, query.top = some size ∧ 0 < size ∧
      size ≤ returned ∧ base.getD "" ++ "?" ++ "&".intercalate (query.linkParts size) = link := by
  cases asked : query.top with
  | none => simp [nextLink?, asked]
  | some size =>
    rcases Nat.eq_zero_or_pos size with rfl | positive
    · have unsized : query.top.filter (· != 0) = none := by rw [asked]; rfl
      simp [nextLink?, unsized]
    · rw [nextLink_sized query base size returned asked positive]
      by_cases short : returned < size
      · rw [if_pos short]
        simp only [Option.some.injEq, exists_eq_left', reduceCtorEq, false_iff]
        omega
      · simp [if_neg short, positive, Nat.le_of_not_lt short]

/-- The answer with a link is a page with the rows that were asked for, and begins within the
collection. -/
theorem linked_page (store : Store) (collection : Collection) (settings : Settings) (query : Query)
    (envelope : Envelope) (answered : execute store collection settings query = .ok envelope)
    (link : String) (linked : envelope.nextLink = some link) :
    ∃ size, query.top = some size ∧ size ≤ envelope.rows.length ∧
      query.skip.getD 0 < (store.rows collection.name).length ∧
      settings.base.getD "" ++ "?" ++ "&".intercalate (query.linkParts size) = link := by
  obtain ⟨plan, -, -, -, made⟩ := execute_ok store collection settings query envelope answered
  obtain ⟨size, asked, positive, full, parts⟩ :=
    (query.nextLink_iff settings.base envelope.rows.length link).mp (made ▸ linked)
  have some : envelope.rows ≠ [] := List.length_pos_iff.mp (Nat.lt_of_lt_of_le positive full)
  have within := page_begins_within store collection settings query envelope answered some
  exact ⟨size, asked, full, within, parts⟩

/-- The place behind a page does not overflow. If a query on a collection, in either of its forms,
is answered with a link, and neither the collection nor the page has `2 ^ 63` rows or more, then the
rows that are passed over and those that are asked for add up to a number of 64 bits, which is where
the link goes on.

Proof: a link stands only behind a full page that has rows. So the page begins within the
collection, and its size is not greater than the number of its rows; both are below `2 ^ 63`. -/
theorem next_place_fits (store : Store) (collection : Collection) (settings : Settings)
    (query : Query) (envelope : Envelope)
    (answered : execute store collection settings query = .ok envelope)
    (link : String) (linked : envelope.nextLink = some link)
    (held : (store.rows collection.name).length < 2 ^ 63)
    (paged : envelope.rows.length < 2 ^ 63) :
    ∃ size, query.top = some size ∧ query.skip.getD 0 + size ≤ 2 ^ 64 - 1 ∧
      ∃ others, link = settings.base.getD "" ++ "?" ++ "&".intercalate
        (["$top=" ++ Nat.repr size, "$skip=" ++ Nat.repr (query.skip.getD 0 + size)] ++
          others) := by
  obtain ⟨size, asked, full, within, parts⟩ :=
    linked_page store collection settings query envelope answered link linked
  have fits : query.skip.getD 0 + size < 2 ^ 64 := by omega
  refine ⟨size, asked, Nat.le_pred_of_lt fits, ?_⟩
  have exactly : (query.skip.getD 0 + size) % Nat.pow 2 64 = query.skip.getD 0 + size :=
    Nat.mod_eq_of_lt fits
  rw [← parts, Query.linkParts, exactly]
  simp only [List.append_assoc]
  exact ⟨_, rfl⟩

/-- The second item is found with a link to the place behind it, and so is the first one by the
pipeline that joins its two shelves, on a page of two rows. -/
theorem one_item_linked :
    (∃ envelope link, execute shelved ⟨"items", true⟩ shelving { top := some 1, skip := some 1 } =
        .ok envelope ∧ envelope.nextLink = some link ∧
      (shelved.rows "items").length < 2 ^ 63 ∧ envelope.rows.length < 2 ^ 63 ∧
      ∃ others, link =
        "" ++ "?" ++ "&".intercalate (["$top=" ++ "1", "$skip=" ++ "2"] ++ others)) ∧
    (∃ envelope link, execute shelved ⟨"items", true⟩ shelving (oneShelved 0) = .ok envelope ∧
      envelope.nextLink = some link ∧
      (shelved.rows "items").length < 2 ^ 63 ∧ envelope.rows.length < 2 ^ 63 ∧
      ∃ others, link =
        "" ++ "?" ++ "&".intercalate (["$top=" ++ "1", "$skip=" ++ "1"] ++ others)) := by
  have held : (shelved.rows "items").length < 2 ^ 63 := by decide
  constructor
  · obtain ⟨envelope, link, answered, linked, paged⟩ : ∃ envelope link,
        execute shelved ⟨"items", true⟩ shelving { top := some 1, skip := some 1 } = .ok envelope ∧
          envelope.nextLink = some link ∧ envelope.rows.length < 2 ^ 63 :=
      ⟨_, _, rfl, rfl, by decide⟩
    obtain ⟨size, asked, -, parts⟩ := next_place_fits shelved ⟨"items", true⟩ shelving
      { top := some 1, skip := some 1 } envelope answered link linked held paged
    obtain rfl := Option.some.inj asked
    exact ⟨envelope, link, answered, linked, held, paged, parts⟩
  · obtain ⟨envelope, link, answered, linked, paged⟩ : ∃ envelope link,
        execute shelved ⟨"items", true⟩ shelving (oneShelved 0) = .ok envelope ∧
          envelope.nextLink = some link ∧ envelope.rows.length < 2 ^ 63 :=
      ⟨_, _, rfl, rfl, by decide⟩
    obtain ⟨size, asked, -, parts⟩ := next_place_fits shelved ⟨"items", true⟩ shelving
      (oneShelved 0) envelope answered link linked held paged
    obtain rfl := Option.some.inj asked
    exact ⟨envelope, link, answered, linked, held, paged, parts⟩

end DocumentQuery
