import DocumentQuery.Proofs.Query.Parameters
import DocumentQuery.Proofs.Query.Reading

/-!
# Links are read as the query of the next page

The link behind a page is read as the query that it was made from, moved on by the size of the
page. Nothing else that a link repeats changes, whatever characters the filter and the lists hold.
Searches, groupings and computed fields are not repeated, and are lost on the way.
-/

namespace DocumentQuery.Query

/-- Whether a query has no part but those that page, filter, sort, select and count. -/
structure IsPlain (query : Query) : Prop where
  search : query.search = none
  apply : query.apply = none
  compute : query.compute = []
  expand : query.expand = []

/-- What the link behind a page of `top` rows asks for: the same at a later place, but without the
parts that links do not repeat. -/
def behind (query : Query) (top : Nat) : Query :=
  { query with
    top := some top
    skip := some ((query.skip.getD 0 + top) % 2 ^ 64)
    search := none
    apply := none
    compute := [] }

/-- A plain query has no part that links do not repeat. -/
theorem IsPlain.behind_eq {query : Query} (plain : query.IsPlain) (top : Nat) :
    query.behind top =
      { query with top := some top, skip := some ((query.skip.getD 0 + top) % 2 ^ 64) } := by
  rw [behind, ← plain.search, ← plain.apply, ← plain.compute]

/-- What a query that was read from a URL satisfies, and what its links are read back by. -/
structure Rereadable (query : Query) : Prop where
  filter : ∀ source, query.filter = some source → ∃ text, source = .text text ∧ text ≠ ""
  orderBy : ∀ key ∈ query.orderBy, IsField key.field
  select : ∀ entry ∈ query.select, IsEntry entry
  expand : ∀ entry ∈ query.expand, IsEntry entry
  unsupported : query.unsupported = (query.filterText?.map readUnsupported).getD []

/-- A query that was read from a URL can be read again: its lists hold trimmed entries without
commas, its sort fields are words, and its filter is a text that is not empty. -/
theorem ofUrl_rereadable (url : String) : (ofUrl url).Rereadable := by
  have entries (name entry : String)
      (present : entry ∈ (((Parameters.ofUrl url).get? name).map readList).getD []) :
      IsEntry entry := by
    cases given : (Parameters.ofUrl url).get? name with
    | none => simp [given] at present
    | some value => exact readList_entries value entry (by simpa [given] using present)
  constructor
  · intro source read
    simp only [ofUrl, ofParameters, Option.map_eq_some_iff, Parameters.nonEmpty?] at read
    obtain ⟨text, given, rfl⟩ := read
    exact ⟨text, rfl, by simpa using (Option.filter_eq_some_iff.mp given).2⟩
  · intro key present
    simp only [ofUrl, ofParameters] at present
    cases given : (Parameters.ofUrl url).get? "$orderby" with
    | none => simp [given] at present
    | some value => exact readSortKeys_fields value key (by simpa [given] using present)
  · exact entries "$select"
  · exact entries "$expand"
  · cases given : (Parameters.ofUrl url).nonEmpty? "$filter" <;>
      simp [ofUrl, ofParameters, filterText?, given]

/-- The page size and the place of a page that were read are numbers of 64 bits. -/
theorem ofUrl_top_bounded (url : String) (size : Nat) (asked : (ofUrl url).top = some size) :
    size < 2 ^ 64 := by
  obtain ⟨value, _, read⟩ := Option.bind_eq_some_iff.mp asked
  exact readNumber_bounded value size read

/-- A parameter with its value, if there is one. -/
def given (name : String) (value : Option String) : Parameters :=
  (value.map fun value => (name, value)).toList

/-- A list as the value of a parameter, unless it is empty. -/
def listed (values : List String) : Option String :=
  if values.isEmpty then none else some (",".intercalate values)

/-- The parameters that a link to the page behind one of `top` rows stands for. -/
def linkParameters (query : Query) (top : Nat) : Parameters :=
  given "$top" (some (Nat.repr top))
    ++ given "$skip" (some (Nat.repr ((query.skip.getD 0 + top) % 2 ^ 64)))
    ++ given "$select" (listed query.select)
    ++ given "$orderby" (listed (query.orderBy.map writtenKey))
    ++ given "$count" (query.count.map fun count => if count then "true" else "false")
    ++ given "$filter" query.filterText?
    ++ given "$expand" (listed query.expand)

/-- The decimal digits of a number are plain. -/
theorem plain_repr (number : Nat) : Parameters.IsPlain (Nat.repr number) := by
  intro mark isMark present
  have digit : mark.isDigit = true := by
    refine Nat.isDigit_of_mem_toDigits (b := 10) (n := number) (by decide) (by decide) ?_
    simpa [Nat.repr] using present
  have none : Parameters.marks.all (fun mark => !mark.isDigit) = true := by decide +kernel
  simpa [digit] using List.all_eq_true.mp none mark isMark

/-- A list in a link is written as its parameter, if it has entries. -/
theorem writes_listed (name : String) (values : List String) (plain : Parameters.IsPlain name) :
    List.Forall₂ Parameters.Writes
      (if values.isEmpty then [] else [linkPart name (",".intercalate values)])
      (given name (listed values)) := by
  unfold listed
  split
  · exact .nil
  · exact .cons (Parameters.writes_linkPart name _ plain) .nil

/-- The parts of a link write its parameters. Numbers and flags are made of plain characters, and
lists and the filter are percent-encoded. -/
theorem linkParts_written (query : Query) (top : Nat) :
    List.Forall₂ Parameters.Writes (query.linkParts top) (query.linkParameters top) := by
  have number (name : String) (value : Nat) (plain : Parameters.IsPlain name) :
      Parameters.Writes (name ++ "=" ++ Nat.repr value) (name, Nat.repr value) :=
    Parameters.writes_plain name _ plain (plain_repr value)
  have paging : List.Forall₂ Parameters.Writes
      ["$top=" ++ Nat.repr top, "$skip=" ++ Nat.repr ((query.skip.getD 0 + top) % Nat.pow 2 64)]
      (given "$top" (some (Nat.repr top))
        ++ given "$skip" (some (Nat.repr ((query.skip.getD 0 + top) % 2 ^ 64)))) :=
    .cons (number "$top" top (by decide +kernel))
      (.cons (number "$skip" _ (by decide +kernel)) .nil)
  have count : List.Forall₂ Parameters.Writes
      (query.count.map fun count => "$count=" ++ if count then "true" else "false").toList
      (given "$count" (query.count.map fun count => if count then "true" else "false")) := by
    rcases query.count with _ | _ | _
    · exact .nil
    · exact .cons (Parameters.writes_plain "$count" "false" (by decide +kernel) (by decide +kernel))
        .nil
    · exact .cons (Parameters.writes_plain "$count" "true" (by decide +kernel) (by decide +kernel))
        .nil
  have filter : List.Forall₂ Parameters.Writes (query.filterText?.map (linkPart "$filter")).toList
      (given "$filter" query.filterText?) := by
    cases query.filterText? with
    | none => exact .nil
    | some text => exact .cons (Parameters.writes_linkPart "$filter" text (by decide +kernel)) .nil
  have join := @List.rel_append _ _ Parameters.Writes
  exact join (join (join (join (join paging (writes_listed "$select" _ (by decide +kernel)))
    (writes_listed "$orderby" _ (by decide +kernel))) count) filter)
    (writes_listed "$expand" _ (by decide +kernel))

/-- A parameter is read among others under its own name alone. -/
@[simp] theorem lookup_given (name wanted : String) (value : Option String) :
    List.lookup wanted (given name value) = if wanted = name then value else none := by
  cases value with
  | none => simp [given]
  | some value =>
    by_cases same : wanted = name
    · simp [given, same]
    · have apart : (wanted == name) = false := by simpa using same
      simp [given, apart, same]

/-- A list in a link is read back, also if it is empty and so not written. -/
theorem readListed (entries : List String) (each : ∀ entry ∈ entries, IsEntry entry) :
    ((listed entries).map readList).getD [] = entries := by
  by_cases empty : entries = []
  · simp [listed, empty]
  · simpa [listed, empty] using readList_intercalate entries empty each

/-- The parameters of a link ask for what is behind the page. Each option is looked up under its own
name and read back; the page begins where the last one ended, counted in 64 bits. -/
theorem ofParameters_link (query : Query) (top : Nat) (rereadable : query.Rereadable)
    (bounded : top < 2 ^ 64) : ofParameters (query.linkParameters top) = query.behind top := by
  have below : (query.skip.getD 0 + top) % 2 ^ 64 < 2 ^ 64 := Nat.mod_lt _ (by decide)
  have sorted : ((listed (query.orderBy.map writtenKey)).map readSortKeys).getD [] =
      query.orderBy := by
    by_cases empty : query.orderBy = []
    · simp [listed, empty]
    · simpa [listed, empty] using readSortKeys_intercalate query.orderBy empty rereadable.orderBy
  have selected := readListed query.select rereadable.select
  have expanded := readListed query.expand rereadable.expand
  have counted : (query.count.map fun count => if count then "true" else "false").bind readFlag? =
      query.count := by
    cases query.count with
    | none => rfl
    | some count => exact readFlag_written count
  have filterText : query.filterText?.filter (fun value => !value.isEmpty) =
      query.filterText? := by
    cases read : query.filter with
    | none => simp [filterText?, read]
    | some source =>
      obtain ⟨text, rfl, some⟩ := rereadable.filter source read
      simp [filterText?, read, some]
  have filtered : query.filterText?.map Filter.Source.text = query.filter := by
    cases read : query.filter with
    | none => simp [filterText?, read]
    | some source =>
      obtain ⟨text, rfl, _⟩ := rereadable.filter source read
      simp [filterText?, read]
  have skip := readNumber_repr _ below
  simp only [ofParameters, Parameters.nonEmpty?, Parameters.get?, linkParameters,
    List.lookup_append, lookup_given, String.reduceEq, if_true, if_false, Option.or_none,
    Option.none_or, Option.bind_some, Option.bind_none, Option.filter_none,
    Option.map_none, Option.getD_none, readNumber_repr top bounded, skip, filterText, filtered,
    sorted, selected, expanded, counted, ← rereadable.unsupported, behind]

/-- The link behind a page is read as the query of what is behind it. -/
theorem ofUrl_link (query : Query) (base : String) (top : Nat) (rereadable : query.Rereadable)
    (bounded : top < 2 ^ 64) (noQuery : '?' ∉ base.toList) :
    ofUrl (base ++ "?" ++ "&".intercalate (query.linkParts top)) = query.behind top := by
  rw [ofUrl, Parameters.ofUrl_parts base _ _ noQuery (linkParts_written query top),
    ofParameters_link query top rereadable bounded]

end DocumentQuery.Query
