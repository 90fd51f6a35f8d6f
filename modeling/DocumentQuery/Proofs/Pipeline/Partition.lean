import DocumentQuery.Pipeline.Run
import DocumentQuery.Proofs.Json.Sameness
import DocumentQuery.Proofs.Pipeline.Aggregates
import DocumentQuery.Proofs.Pipeline.Rows

/-!
# Groups as a partition of the rows

A row belongs to the earliest group whose key is equal to its own, and to no other. A group is made
when its first row is come to, all rows ahead of which are in earlier groups; it has its rows in
their order, and no two groups have equal keys. So the groups together are a permutation of the
rows, and the numbers of rows that are counted for the groups add up to that of all rows.

Equality by value need not carry over from one key to the next. None of this depends on it: that
keys are equal to themselves, and equal both ways, is enough.
-/

namespace DocumentQuery

/-- Whether no object in a value repeats a name. -/
def Json.NamesOnce (value : Json) : Prop := value.IsProper fun _ => True

variable (keys : List String)

/-- The place of the earliest group whose key is equal to that of a row. -/
def groupPlace (groups : List RowGroup) (row : Json) : Nat :=
  groups.findIdx fun group => group.key.equal (groupKey keys row)

/-- Whether groups partition rows: every row has a group, each group has the rows whose place it is,
in their order, it has the key of the first of them, ahead of which are rows of earlier groups only,
and the keys are unequal. -/
structure Partitions (rows : List Json) (groups : List RowGroup) : Prop where
  placed : ∀ row ∈ rows, groupPlace keys groups row < groups.length
  members : ∀ place (inside : place < groups.length), (groups.get ⟨place, inside⟩).rows =
    rows.filter fun row => groupPlace keys groups row == place
  opened : ∀ place (inside : place < groups.length), ∃ ahead first behind,
    rows = ahead ++ first :: behind ∧ (groups.get ⟨place, inside⟩).key = groupKey keys first ∧
      groupPlace keys groups first = place ∧ ∀ row ∈ ahead, groupPlace keys groups row < place
  unequal : groups.Pairwise fun earlier later =>
    earlier.key.equal later.key = false ∧ later.key.equal earlier.key = false

section Opening

variable (row : Json) (rows : List Json) (groups : List RowGroup)

/-- The group that the first of some rows makes, with groups behind it. -/
def groupsBehind : List RowGroup :=
  ⟨groupKey keys row, row :: rows.filter (alike keys row)⟩ :: groups

/-- The rows unlike the first one are grouped behind its group. -/
theorem groupRows_cons :
    groupRows keys (row :: rows) =
      groupsBehind keys row rows (groupRows keys (unlike keys row rows)) := by
  rw [groupRows_eq, combinations, List.map_cons, groupRows_eq, groupsBehind]

/-- Rows like the first one have the first place, and all others a place behind. -/
theorem groupPlace_behind (other : Json) :
    groupPlace keys (groupsBehind keys row rows groups) other =
      if alike keys row other then 0 else groupPlace keys groups other + 1 := by
  rw [groupPlace, groupsBehind, List.findIdx_cons, groupKey_equal]
  cases alike keys row other <;> rfl

/-- If rows ahead that are unlike the first have earlier places, all rows ahead have. -/
theorem groupPlace_ahead (ahead : List Json) (place : Nat)
    (earlier : ∀ other ∈ unlike keys row ahead, groupPlace keys groups other < place) :
    ∀ other ∈ ahead, groupPlace keys (groupsBehind keys row rows groups) other < place + 1 := by
  intro other inside
  rw [groupPlace_behind]
  split
  · exact Nat.succ_pos place
  · next apart =>
    have left : other ∈ unlike keys row ahead :=
      List.mem_filter.mpr ⟨inside, by simpa using apart⟩
    exact Nat.succ_lt_succ (earlier other left)

variable (itself : alike keys row row = true)

include itself

/-- The rows of the first group are those that have its place. -/
theorem filter_first : (row :: rows).filter
      (fun other => groupPlace keys (groupsBehind keys row rows groups) other == 0) =
    row :: rows.filter (alike keys row) := by
  have same : (fun other => groupPlace keys (groupsBehind keys row rows groups) other == 0) =
      alike keys row := by
    funext other
    rw [groupPlace_behind]
    cases alike keys row other <;> rfl
  rw [same, List.filter_cons_of_pos itself]

/-- The rows that have a later place are those that have the place before it among the rows unlike
the first. -/
theorem filter_later (place : Nat) : (row :: rows).filter
      (fun other => groupPlace keys (groupsBehind keys row rows groups) other == place + 1) =
    (unlike keys row rows).filter fun other => groupPlace keys groups other == place := by
  have same :
      (fun other => groupPlace keys (groupsBehind keys row rows groups) other == place + 1) =
        fun other => groupPlace keys groups other == place && !alike keys row other := by
    funext other
    rw [groupPlace_behind]
    cases alike keys row other <;> simp
  rw [same, List.filter_cons_of_neg (by simp [itself]), unlike, List.filter_filter]

/-- Putting the first row's group in front of a partition of the rows unlike it makes one of all
rows. The order of first appearance is kept, though between the rows unlike the first one there may
be some that are like it. -/
theorem Partitions.behind (both : ∀ other ∈ rows, alike keys other row = true →
      alike keys row other = true)
    (others : Partitions keys (unlike keys row rows) groups) :
    Partitions keys (row :: rows) (groupsBehind keys row rows groups) where
  placed other inside := by
    rw [groupPlace_behind]
    split
    · exact Nat.succ_pos _
    · next apart =>
      have behind : other ∈ rows := by
        rcases List.mem_cons.mp inside with rfl | behind
        · exact absurd itself apart
        · exact behind
      have left : other ∈ unlike keys row rows :=
        List.mem_filter.mpr ⟨behind, by simpa using apart⟩
      exact Nat.succ_lt_succ (others.placed other left)
  members place inside := by
    cases place with
    | zero => exact (filter_first keys row rows groups itself).symm
    | succ place =>
      have earlier : place < groups.length := Nat.lt_of_succ_lt_succ inside
      rw [filter_later keys row rows groups itself place]
      exact others.members place earlier
  opened place inside := by
    cases place with
    | zero =>
      refine ⟨[], row, rows, rfl, rfl, ?_, by simp⟩
      rw [groupPlace_behind, if_pos itself]
    | succ place =>
      have earlier : place < groups.length := Nat.lt_of_succ_lt_succ inside
      obtain ⟨ahead, first, behind, parts, key, own, before⟩ := others.opened place earlier
      obtain ⟨front, back, split, frontLeft, backLeft⟩ := List.filter_eq_append_iff.mp parts
      obtain ⟨passed, rest, backSplit, passedOver, apart, -⟩ :=
        List.filter_eq_cons_iff.mp backLeft
      refine ⟨row :: (front ++ passed), first, rest, by simp [split, backSplit], key, ?_, ?_⟩
      · rw [groupPlace_behind, if_neg (by simpa using apart), own]
      · refine groupPlace_ahead keys row rows groups _ place fun other inside => ?_
        have none : (passed.filter fun other => !alike keys row other) = [] :=
          List.filter_eq_nil_iff.mpr passedOver
        rw [unlike, List.filter_cons_of_neg (by simp [itself]), List.filter_append, frontLeft,
          none, List.append_nil] at inside
        exact before other inside
  unequal := by
    refine List.pairwise_cons.mpr ⟨fun group listed => ?_, others.unequal⟩
    obtain ⟨⟨place, inside⟩, rfl⟩ := List.mem_iff_get.mp listed
    obtain ⟨ahead, first, behind, parts, key, -⟩ := others.opened place inside
    have left : first ∈ unlike keys row rows := parts ▸ by simp
    obtain ⟨listed, apart⟩ := List.mem_filter.mp left
    have forth : alike keys row first = false := by simpa using apart
    rw [key, groupKey_equal, groupKey_equal]
    refine ⟨forth, ?_⟩
    by_contra back
    exact absurd (forth.symm.trans (both first listed (eq_true_of_ne_false back))) (by decide)

end Opening

/-- The groups of rows partition them, if no object at the keys repeats a name. -/
theorem groupRows_partitions (rows : List Json)
    (proper : ∀ row ∈ rows, ∀ key ∈ keys, (keyValue row key).NamesOnce) :
    Partitions keys rows (groupRows keys rows) := by
  induction rows using combinations.induct keys with
  | case1 => exact ⟨by simp, by simp [groupRows], by simp [groupRows], .nil⟩
  | case2 row rows inductionHypothesis =>
    obtain ⟨isRow, areRows⟩ := List.forall_mem_cons.mp proper
    have others := inductionHypothesis fun other left => areRows other (List.mem_filter.mp left).1
    rw [groupRows_cons]
    exact others.behind keys row rows _ (alike_refl row isRow) fun other inside =>
      alike_symm other row (areRows other inside) isRow

/-- The groups of rows together are a permutation of them. -/
theorem groupRows_perm (rows : List Json) :
    ((groupRows keys rows).flatMap RowGroup.rows).Perm rows := by
  rw [groupRows_eq, List.flatMap_map]
  exact (combinations_are keys rows).complete

/-- The groups together have as many rows as there are. -/
theorem groupRows_sizes (rows : List Json) :
    ((groupRows keys rows).map fun group => group.rows.length).sum = rows.length := by
  rw [← (groupRows_perm keys rows).length_eq, List.length_flatMap]

/-- The row of a group for which ones are summed. -/
def RowGroup.counted (name : String) (group : RowGroup) : Json :=
  .object (Members.ofList [(identityField, group.key), (name, .ofNat group.rows.length)])

/-- Summing ones over a group counts its rows. -/
theorem RowGroup.row_counted (name : String) (group : RowGroup)
    (small : group.rows.length < 9000000000000000) :
    group.row [⟨name, "$sum", .ofNat 1⟩] = .ok (group.counted name) := by
  have summed := accumulateAll_aggregate ⟨"", .count, name⟩ group.rows small
  have total : Aggregate.over ⟨"", .count, name⟩ group.rows = .ofNat group.rows.length := by
    simp [Aggregate.over, Aggregation.of]
  rw [total] at summed
  exact congrArg (· >>= _) summed

/-- A stage that groups rows and sums ones counts the rows of every group. No group has more rows
than there are, so the bound on all of them holds for each. -/
theorem run_counting (source : Pipeline.Source) (name : String) (rows : List Json)
    (small : rows.length < 9000000000000000) :
    (Stage.group keys [⟨name, "$sum", .ofNat 1⟩]).run source rows =
      .ok ((groupRows keys rows).map (RowGroup.counted name)) := by
  have each : (groupRows keys rows).mapM (RowGroup.row [⟨name, "$sum", .ofNat 1⟩]) =
      .ok ((groupRows keys rows).map (RowGroup.counted name)) := by
    refine mapM_made _ _ _ fun group listed => ?_
    have fewer : group.rows.length ≤ rows.length := by
      rw [groupRows_eq] at listed
      obtain ⟨combination, inside, rfl⟩ := List.mem_map.mp listed
      exact ((combinations_are keys rows).rowsInOrder combination inside).length_le
    exact group.row_counted name (Nat.lt_of_le_of_lt fewer small)
  rw [Stage.run, each]
  rfl

/-- Grouping partitions rows of any kind, whatever they are grouped by: each row belongs to the
earliest group with its key and to no other, the groups stand in the order in which their keys first
appear and have their rows in order, and together they are a permutation of the rows. Where ones are
summed for the groups, the sums add up to the number of the rows.

Proof: by induction on the rows from the front. The first row's group takes all rows like it, and
the rest is a partition of the rows unlike it, which `Partitions.behind` puts together; this takes
that likeness is symmetric and transitive on keys that repeat no names. The sums are the sizes of
the groups, since so few rows are added up exactly. -/
theorem rows_partitioned (rows : List Json)
    (proper : ∀ row ∈ rows, ∀ key ∈ keys, (keyValue row key).NamesOnce) :
    Partitions keys rows (groupRows keys rows) ∧
    ((groupRows keys rows).flatMap RowGroup.rows).Perm rows ∧
    (rows.length < 9000000000000000 → ∀ source name, ∃ counts answers,
      (Stage.group keys [⟨name, "$sum", .ofNat 1⟩]).run source rows = .ok answers ∧
      answers.map (Json.member? name) = counts.map (fun count => some (.ofNat count)) ∧
      counts = (groupRows keys rows).map (fun group => group.rows.length) ∧
      counts.sum = rows.length) := by
  refine ⟨groupRows_partitions keys rows proper, groupRows_perm keys rows, ?_⟩
  intro small source name
  refine ⟨_, _, run_counting keys source name rows small, ?_, rfl, groupRows_sizes keys rows⟩
  rw [List.map_map, List.map_map]
  refine List.map_congr_left fun group _ => ?_
  exact Members.get_insert_same name _ _

/-- Rows with a number in both representations, an object in two orders of its members, and no value
in two ways. -/
def samples : List Json :=
  [.object [("_id", .ofInt 1), ("k", .ofInt 1)],
    .object [("_id", .ofInt 2), ("k", .object [("a", .ofInt 1), ("b", .ofInt 2)])],
    .object [("_id", .ofInt 3), ("k", .number (.float (.ofNat 1)))],
    .object [("_id", .ofInt 4)],
    .object [("_id", .ofInt 5), ("k", .object [("b", .ofInt 2), ("a", .ofInt 1)])],
    .object [("_id", .ofInt 6), ("k", .null)]]

/-- The samples are in three groups of two rows each: an integer with its float, an object with
itself in another order of members, and a null with a missing value. -/
theorem samples_partitioned :
    (∀ row ∈ samples, ∀ key ∈ ["k"], (keyValue row key).NamesOnce) ∧
    samples.length < 9000000000000000 ∧
    Partitions ["k"] samples (groupRows ["k"] samples) ∧
    ((groupRows ["k"] samples).map fun group => group.rows.map (Json.member? "_id")) =
      [[1, 3], [2, 5], [4, 6]].map (fun pair => pair.map fun number => some (.ofInt number)) ∧
    ∃ counts answers,
      (Stage.group ["k"] [⟨"n", "$sum", .ofNat 1⟩]).run (fun _ => []) samples = .ok answers ∧
      answers.map (Json.member? "n") = counts.map (fun count => some (.ofNat count)) ∧
      counts = [2, 2, 2] ∧ counts.sum = 6 := by
  have number (value : Number) : (Json.number value).NamesOnce := .number trivial
  have pair (first second : String) (one two : Number) (different : first ≠ second) :
      (Json.object [(first, .number one), (second, .number two)]).NamesOnce :=
    .object (by simp [Members.names, different])
      (by simpa using ⟨number one, number two⟩)
  have keyed : samples.map (keyValue · "k") = [.ofInt 1,
      .object [("a", .ofInt 1), ("b", .ofInt 2)], .number (.float (.ofNat 1)), .null,
      .object [("b", .ofInt 2), ("a", .ofInt 1)], .null] := by
    decide +kernel
  have names : ∀ row ∈ samples, ∀ key ∈ ["k"], (keyValue row key).NamesOnce := by
    intro row inside key listed
    obtain rfl := List.mem_singleton.mp listed
    have value : keyValue row "k" ∈ samples.map (keyValue · "k") := List.mem_map_of_mem inside
    rw [keyed] at value
    simp only [List.mem_cons, List.not_mem_nil, or_false] at value
    rcases value with same | same | same | same | same | same <;> rw [same]
    · exact number _
    · exact pair "a" "b" _ _ (by decide)
    · exact number _
    · exact .null
    · exact pair "b" "a" _ _ (by decide)
    · exact .null
  obtain ⟨partition, -, counting⟩ := rows_partitioned ["k"] samples names
  obtain ⟨counts, answers, run, shown, sizes, total⟩ := counting (by decide) (fun _ => []) "n"
  have pairs : ((groupRows ["k"] samples).map fun group => group.rows.length) = [2, 2, 2] := by
    decide +kernel
  exact ⟨names, by decide, partition, by decide +kernel, counts, answers, run, shown,
    sizes.trans pairs, total⟩

end DocumentQuery
