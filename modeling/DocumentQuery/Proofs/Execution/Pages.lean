import DocumentQuery.Proofs.Execution.Answers
import DocumentQuery.Proofs.Filter.Parsing
import DocumentQuery.Proofs.Query.Link

/-!
# Following the links from page to page

A query with a page size gives the first rows of what it asks for, and a link to the rows behind
them if the page is full. Following the links until there is none gives every row once, in order.
Where the last full page is the end of the rows, one more request finds an empty page.

The collection does not change in the meantime. What rows the query asks for is said without
pages, as the answer to it.
-/

namespace DocumentQuery

/-- The requests from a query on along the links, and the pages that they find. The last page
has no link. -/
inductive FollowsLinks (store : Store) (collection : Collection) (settings : Settings) :
    Query → List (List Json) → Prop where
  | last {query : Query} {page : List Json} {count : Option Nat}
      (answered : execute store collection settings query = .ok ⟨page, count, none⟩) :
      FollowsLinks store collection settings query [page]
  | next {query : Query} {page : List Json} {pages : List (List Json)} {count : Option Nat}
      {link : String}
      (answered : execute store collection settings query = .ok ⟨page, count, some link⟩)
      (others : FollowsLinks store collection settings (Query.ofUrl link) pages) :
      FollowsLinks store collection settings query (page :: pages)

section Paging

variable (store : Store) (collection : Collection) (settings : Settings)

/-- The plan of a plain query is a find. -/
theorem plan_plain (query : Query) (predicate : Json) (plain : query.IsPlain)
    (compiled : settings.policy.compile query.filter = .ok predicate) :
    Plan.ofQuery settings collection.canAggregate query =
      .ok ⟨predicate, predicate, .direct (settings.options query)⟩ := by
  obtain ⟨noSearch, noGrouping, noCompute, noExpand⟩ := plain
  simp [Plan.ofQuery, compiled, Plan.searchPredicate?, Plan.needsPipeline, Query.grouping?,
    noSearch, noGrouping, noCompute, noExpand, Settings.options]

/-- A plain query whose filter can be applied is answered with a page of its rows. As the size is
within what is allowed, the page is just a front of the rows behind the place. -/
theorem execute_page (query : Query) (size : Nat) (predicate : Json) (kept : List Json)
    (plain : query.IsPlain) (asked : query.top = some size) (positive : 0 < size)
    (allowed : size ≤ settings.limits.hardMaximum)
    (compiled : settings.policy.compile query.filter = .ok predicate)
    (selected : Predicate.select predicate (store.rows collection.name) = .ok kept) :
    ∃ count, execute store collection settings query =
      .ok ⟨(query.answer kept).take size, count,
        query.nextLink? settings.base ((query.answer kept).take size).length⟩ := by
  have page : query.page settings.limits kept = (query.answer kept).take size := by
    have limited : 0 < settings.limits.hardMaximum := Nat.lt_of_lt_of_le positive allowed
    rw [Query.page, asked, pageLimit_positive settings.limits size positive limited,
      Nat.min_eq_left allowed]
    rfl
  have found := find_page store collection settings query predicate kept selected
  have counted : store.count collection.name predicate = .ok kept.length := by
    simp [Store.count, selected]
  refine ⟨if query.count = some true then some kept.length else none, ?_⟩
  simp only [execute, plan_plain collection settings query predicate plain compiled, page,
    mapError_ok, ok_bind, Plan.run, found, counted]
  split <;> rfl

/-- A plain query that was answered had a filter that could be applied: it was compiled, and it was
decided on every row of the collection. -/
theorem execute_filtered (query : Query) (envelope : Envelope) (plain : query.IsPlain)
    (answered : execute store collection settings query = .ok envelope) :
    ∃ predicate kept, settings.policy.compile query.filter = .ok predicate ∧
      Predicate.select predicate (store.rows collection.name) = .ok kept := by
  cases compiled : settings.policy.compile query.filter with
  | error refusal =>
    simp [execute, Plan.ofQuery, compiled] at answered
  | ok predicate =>
    refine ⟨predicate, ?_⟩
    cases selected : Predicate.select predicate (store.rows collection.name) with
    | ok kept => exact ⟨kept, rfl, rfl⟩
    | error fault =>
      simp [execute, plan_plain collection settings query predicate plain compiled,
        mapError_ok, mapError_error, Plan.run, Store.find, FindOptions.stages, Pipeline.run,
        Stage.run, selected, Pipeline.ofPredicate] at answered

/-- There is a link behind a full page and no other. -/
theorem nextLink_sized (query : Query) (base : Option String) (size returned : Nat)
    (asked : query.top = some size) (positive : 0 < size) :
    query.nextLink? base returned = if returned < size then none
      else some (base.getD "" ++ "?" ++ "&".intercalate (query.linkParts size)) := by
  have given : query.top.filter (· != 0) = some size := by
    simp [asked, Nat.ne_of_gt positive]
  rw [Query.nextLink?, given]
  rfl

/-- The links from a plain query on lead to every row that it asks for. The induction is on the
number of rows behind the place where the query begins; each full page leaves fewer of them. A full
page ends within the rows, so the place behind it is a number of 64 bits and is written as it is. -/
theorem pages_from (query : Query) (size : Nat) (predicate : Json) (kept : List Json)
    (plain : query.IsPlain) (rereadable : query.Rereadable) (asked : query.top = some size)
    (positive : 0 < size) (bounded : size < 2 ^ 64)
    (allowed : size ≤ settings.limits.hardMaximum)
    (noQuery : '?' ∉ (settings.base.getD "").toList)
    (compiled : settings.policy.compile query.filter = .ok predicate)
    (selected : Predicate.select predicate (store.rows collection.name) = .ok kept)
    (counted : kept.length < 2 ^ 64) :
    ∃ pages, FollowsLinks store collection settings query pages ∧
      pages.flatten = query.answer kept ∧ ∀ page ∈ pages.dropLast, page.length = size := by
  generalize remaining : (query.answer kept).length = rows
  induction rows using Nat.strongRecOn generalizing query with
  | ind rows inductionHypothesis =>
    obtain ⟨count, answered⟩ := execute_page store collection settings query size predicate kept
      plain asked positive allowed compiled selected
    by_cases full : size ≤ rows
    · have length : ((query.answer kept).take size).length = size := by
        rw [List.length_take]
        omega
      have link : query.nextLink? settings.base ((query.answer kept).take size).length =
          some (settings.base.getD "" ++ "?" ++ "&".intercalate (query.linkParts size)) := by
        rw [nextLink_sized query _ size _ asked positive, length, if_neg (Nat.lt_irrefl size)]
      have total : (query.answer kept).length = kept.length - query.skip.getD 0 := by
        simp [Query.answer, (sortRows_perm query.orderBy kept).length_eq]
      have place : (query.skip.getD 0 + size) % 2 ^ 64 = query.skip.getD 0 + size :=
        Nat.mod_eq_of_lt (by omega)
      let behind : Query := { query with
        top := some size, skip := some (query.skip.getD 0 + size) }
      have read : Query.ofUrl
          (settings.base.getD "" ++ "?" ++ "&".intercalate (query.linkParts size)) = behind := by
        rw [Query.ofUrl_link query _ size rereadable bounded noQuery, plain.behind_eq, place]
      have rest : behind.answer kept = (query.answer kept).drop size := by
        simp [Query.answer, behind, List.map_drop]
      obtain ⟨pages, follows, whole, filled⟩ := inductionHypothesis (rows - size) (by omega) behind
        ⟨plain.search, plain.apply, plain.compute, plain.expand⟩
        ⟨rereadable.filter, rereadable.orderBy, rereadable.select, rereadable.expand,
          rereadable.unsupported⟩
        rfl compiled (by rw [rest, List.length_drop, remaining])
      rw [link] at answered
      refine ⟨(query.answer kept).take size :: pages, .next answered (read ▸ follows), ?_, ?_⟩
      · rw [List.flatten_cons, whole, rest, List.take_append_drop]
      · have some : pages ≠ [] := by rintro rfl; cases follows
        rw [List.dropLast_cons_of_ne_nil some]
        exact List.forall_mem_cons.mpr ⟨length, filled⟩
    · have whole : (query.answer kept).take size = query.answer kept :=
        List.take_of_length_le (by omega)
      have link : query.nextLink? settings.base (query.answer kept).length = none := by
        rw [nextLink_sized query _ size _ asked positive, remaining, if_pos (by omega)]
      rw [whole, link] at answered
      exact ⟨[query.answer kept], .last answered, by simp, by simp⟩

end Paging

/-- Following the links from a query that was read from a URL visits every row that it asks for
once, and ends: the pages joined are the rows that the filter keeps, sorted, behind those to be
passed over, in the shape of the selection. All pages but the last are full.

The query must have a page size that is allowed, and no part that links do not repeat. The base of
links has no question mark, and the rows of a collection are counted by a machine word.

Proof: the first answer shows that the filter is compiled and decided on every row, and later ones
have the same filter. A link is read as the query with its place moved on by the page, so
`pages_from` follows the links by induction on the rows that are left behind the place. -/
theorem links_visit_every_row (store : Store) (collection : Collection) (settings : Settings)
    (url : String) (size : Nat) (asked : (Query.ofUrl url).top = some size)
    (plain : (Query.ofUrl url).IsPlain) (positive : 0 < size)
    (allowed : size ≤ settings.limits.hardMaximum)
    (noQuery : '?' ∉ (settings.base.getD "").toList)
    (counted : (store.rows collection.name).length < 2 ^ 64)
    (answered : (execute store collection settings (Query.ofUrl url)).isOk = true) :
    ∃ predicate kept pages,
      settings.policy.compile (Query.ofUrl url).filter = .ok predicate ∧
      Predicate.select predicate (store.rows collection.name) = .ok kept ∧
      FollowsLinks store collection settings (Query.ofUrl url) pages ∧
      pages.flatten = (Query.ofUrl url).answer kept ∧
      ∀ page ∈ pages.dropLast, page.length = size := by
  cases envelope : execute store collection settings (Query.ofUrl url) with
  | error failure => simp [envelope, Except.isOk, Except.toBool] at answered
  | ok envelope =>
    obtain ⟨predicate, kept, compiled, selected⟩ :=
      execute_filtered store collection settings (Query.ofUrl url) _ plain ‹_›
    have fewer : kept.length < 2 ^ 64 :=
      Nat.lt_of_le_of_lt (Predicate.select_length predicate _ kept selected) counted
    obtain ⟨pages, follows, whole, filled⟩ := pages_from store collection settings
      (Query.ofUrl url) size predicate kept plain (Query.ofUrl_rereadable url) asked positive
      (Query.ofUrl_top_bounded url size asked) allowed noQuery compiled selected fewer
    exact ⟨predicate, kept, pages, compiled, selected, follows, whole, filled⟩

/-- Three numbered rows, stored neither in the order of their numbers nor against it. -/
def stock : Store :=
  { collections := [("items", [
      .object [("_id", .ofNat 3), ("n", .ofNat 2)],
      .object [("_id", .ofNat 1), ("n", .ofNat 1)],
      .object [("_id", .ofNat 2), ("n", .ofNat 3)]])] }

/-- The rows whose number is above one, as they are stored. -/
def stockAboveOne : List Json :=
  [.object [("_id", .ofNat 3), ("n", .ofNat 2)], .object [("_id", .ofNat 2), ("n", .ofNat 3)]]

/-- The request for the numbers above one, the greatest first, on pages of one row. -/
def aboveOne : String := "/odata/Items?$top=1&$filter=n+gt%201&$orderby=n%20desc&$select=n"

set_option maxRecDepth 2000 in
/-- A comparison with a number is read. Its three tokens are a test of the grammar, whose name is
not the word of a negation. -/
theorem aboveOne_read :
    Filter.Condition.ofText "n gt 1" = .ok (.compare "n" .greater (.ofNat 1)) := by
  have sequence : Filter.tokens "n gt 1".toList =
      .ok [⟨.word "n", 0⟩, ⟨.word "gt", 2⟩, ⟨.literal (.ofNat 1), 5⟩] := rfl
  have spelled : Filter.Spells "gt" "gt" := rfl
  have states : Filter.Test "n" [.word "gt", .literal (.ofNat 1)]
      (.compare (Filter.memberPath "n") .greater (.ofNat 1)) :=
    .comparison (by simp [Filter.comparisons]) spelled (.literal _)
  have named : ¬ Filter.Spells "n" "not" := by
    simp [Filter.Spells, Text.equalIgnoringCase, Text.lowerAscii]
  rw [Filter.Condition.ofText, sequence, ok_bind, Filter.ofTokens_iff]
  exact .single (.alone (.test named states))

/-- The filter of a query whose filter has a text. -/
theorem Query.filter_of_filterText? (query : Query) (text : String)
    (written : query.filterText? = some text) : query.filter = some (.text text) := by
  unfold Query.filterText? at written
  split at written
  · next source => rw [source, Option.some.inj written]
  · exact absurd written (by simp)

/-- The filter of the request is read as a comparison. -/
theorem aboveOne_compiled : ({} : Settings).policy.compile (Query.ofUrl aboveOne).filter =
    .ok (Predicate.clause "n" (Predicate.clause "$gt" (.ofNat 1))) := by
  have source : (Query.ofUrl aboveOne).filter = some (.text "n gt 1") :=
    Query.filter_of_filterText? _ _ (by decide +kernel)
  rw [source]
  simp [Filter.Policy.compile, Filter.Policy.compileText, Settings.policy, aboveOne_read]
  rfl

/-- Two of three rows are visited one by one, the greater number first, which is stored last. The
row with the number one does not meet the filter and is on none of the pages. -/
theorem stock_visited :
    (Query.ofUrl aboveOne).top = some 1 ∧ (Query.ofUrl aboveOne).IsPlain ∧
    (execute stock ⟨"items", true⟩ {} (Query.ofUrl aboveOne)).isOk = true ∧
    ∃ pages, FollowsLinks stock ⟨"items", true⟩ {} (Query.ofUrl aboveOne) pages ∧
      pages.flatten = [.object [("n", .ofNat 3)], .object [("n", .ofNat 2)]] := by
  have asked : (Query.ofUrl aboveOne).top = some 1 := by decide +kernel
  have plain : (Query.ofUrl aboveOne).IsPlain :=
    ⟨by decide +kernel, by decide +kernel, by decide +kernel, by decide +kernel⟩
  have selected : Predicate.select (Predicate.clause "n" (Predicate.clause "$gt" (.ofNat 1)))
      (stock.rows "items") = .ok stockAboveOne := rfl
  have sorted : (Query.ofUrl aboveOne).answer stockAboveOne =
      [.object [("n", .ofNat 3)], .object [("n", .ofNat 2)]] := by
    have orderBy : (Query.ofUrl aboveOne).orderBy = [⟨"n", .descending⟩] := by decide +kernel
    have skip : (Query.ofUrl aboveOne).skip = none := by decide +kernel
    have select : (Query.ofUrl aboveOne).select = ["n"] := by decide +kernel
    rw [Query.answer, orderBy, skip, select]
    rfl
  have answered : (execute stock ⟨"items", true⟩ {} (Query.ofUrl aboveOne)).isOk = true := by
    obtain ⟨count, page⟩ := execute_page stock ⟨"items", true⟩ {} (Query.ofUrl aboveOne) 1 _ _
      plain asked (by decide) (by decide) aboveOne_compiled selected
    rw [page]
    rfl
  refine ⟨asked, plain, answered, ?_⟩
  obtain ⟨predicate, kept, pages, compiled, selectedSame, follows, whole, _⟩ :=
    links_visit_every_row stock ⟨"items", true⟩ {} aboveOne 1 asked plain (by decide) (by decide)
      (by decide) (by decide) answered
  obtain rfl := Except.ok.inj (aboveOne_compiled.symm.trans compiled)
  obtain rfl := Except.ok.inj (selected.symm.trans selectedSame)
  exact ⟨pages, follows, whole.trans sorted⟩

end DocumentQuery
