import DocumentQuery.Pipeline.Group
import DocumentQuery.Proofs.Collecting
import DocumentQuery.Proofs.Json.Equality
import Mathlib.Data.List.Basic
import Mathlib.Data.List.Perm.Basic

/-!
# Combinations of keys

Grouping puts a row with the first row that has the same combination of keys by value. So the groups
are found by taking the first row together with all later ones that are like it, and going on with
the rows that are left. No two groups have like first rows, no row is lost, and rows and groups keep
their order. Where being alike is an equivalence on the rows, a group has all rows that are like its
first.
-/

namespace DocumentQuery

/-- Rows with one combination of keys, and the first of them, whose keys are shown. -/
structure Combination where
  first : Json
  rows : List Json

variable (keys : List String)

/-- The value at a key of a row, a missing one being null. -/
def keyValue (row : Json) (key : String) : Json := (row.valueAt? key).getD .null

/-- Whether two rows have the same combination of keys by value. -/
def alike (first second : Json) : Bool :=
  keys.all fun key => (keyValue first key).equal (keyValue second key)

/-- The object of a row's keys has the value of each key once. -/
theorem groupKey_eq (row : Json) :
    groupKey keys row =
      .object ((Members.firstNames keys).map fun key => (key, keyValue row key)) :=
  congrArg Json.object (Members.ofList_map (keyValue row) keys)

/-- Each of some members has an equal one on the other side exactly if their values are equal. -/
theorem within_map (names others : List String) (inside : ∀ name ∈ names, name ∈ others)
    (left right : String → Json) :
    Json.within (names.map fun name => (name, left name))
        (others.map fun name => (name, right name)) =
      names.all fun name => (left name).equal (right name) := by
  rw [Bool.eq_iff_iff, Json.within_iff, List.all_eq_true, List.forall_mem_map]
  refine forall₂_congr fun name listed => ?_
  simp [Members.get_map right others name (inside name listed)]

/-- The objects of the keys of two rows are equal exactly if the rows are alike. -/
theorem groupKey_equal (first second : Json) :
    (groupKey keys first).equal (groupKey keys second) = alike keys first second := by
  rw [groupKey_eq, groupKey_eq, Json.equal, within_map _ _ fun _ listed => listed, alike,
    List.length_map, List.length_map, beq_self_eq_true, Bool.true_and, Bool.eq_iff_iff,
    List.all_eq_true, List.all_eq_true]
  exact forall_congr' fun key => imp_congr_left (Members.mem_firstNames keys key)

/-- The rows that are unlike a row. -/
def unlike (row : Json) (rows : List Json) : List Json :=
  rows.filter fun other => !alike keys row other

/-- The combinations among rows: that of the first row, and those of the rows unlike it. -/
def combinations : List Json → List Combination
  | [] => []
  | row :: rows =>
    ⟨row, row :: rows.filter (alike keys row)⟩ :: combinations (unlike keys row rows)
termination_by rows => rows.length
decreasing_by exact Nat.lt_add_one_of_le (List.length_filter_le _ _)

/-- Rows are collected into the first group whose key is equal to theirs. -/
theorem collects_rows :
    Collects (fun (group : RowGroup) row => group.key.equal (groupKey keys row))
      (fun group rows => { group with rows := group.rows ++ rows })
      (fun groups row => addToGroup (groupKey keys row) row groups) where
  add_cons _ _ _ := rfl
  joins_extend _ _ _ := rfl
  extend_nil _ := by simp
  extend_extend _ _ _ := by simp

/-- The groups of rows are the combinations of their keys. -/
theorem groupRows_eq (rows : List Json) :
    groupRows keys rows = (combinations keys rows).map fun combination =>
      ⟨groupKey keys combination.first, combination.rows⟩ := by
  unfold groupRows
  induction rows using combinations.induct keys with
  | case1 => simp [combinations]
  | case2 row rows inductionHypothesis =>
    have started : addToGroup (groupKey keys row) row [] = [⟨groupKey keys row, [row]⟩] := rfl
    rw [List.foldl_cons, started, (collects_rows keys).foldl_cons, combinations, List.map_cons]
    simp only [groupKey_equal]
    exact congrArg _ inductionHypothesis

/-- Whether being alike tells rows apart: it is an equivalence on them. -/
structure TellsApart (rows : List Json) : Prop where
  reflexive : ∀ row ∈ rows, alike keys row row = true
  symmetric : ∀ first ∈ rows, ∀ second ∈ rows, alike keys first second = true →
    alike keys second first = true
  transitive : ∀ first ∈ rows, ∀ second ∈ rows, ∀ third ∈ rows, alike keys first second = true →
    alike keys second third = true → alike keys first third = true

variable {keys}

/-- What tells rows apart tells fewer of them apart. -/
theorem TellsApart.fewer {rows fewer : List Json} (apart : TellsApart keys rows)
    (inside : ∀ row ∈ fewer, row ∈ rows) : TellsApart keys fewer where
  reflexive row here := apart.reflexive row (inside row here)
  symmetric first one second two :=
    apart.symmetric first (inside first one) second (inside second two)
  transitive first one second two third three :=
    apart.transitive first (inside first one) second (inside second two) third (inside third three)

section Proper

variable {among : Number → Prop} {rows : List Json}

/-- A row at whose keys no object repeats a name is like itself. -/
theorem alike_refl (row : Json) (proper : ∀ key ∈ keys, (keyValue row key).IsProper among) :
    alike keys row row = true :=
  List.all_eq_true.mpr fun key listed => (proper key listed).equal_refl

/-- Being alike goes both ways between rows at whose keys no object repeats a name. -/
theorem alike_symm (first second : Json)
    (isFirst : ∀ key ∈ keys, (keyValue first key).IsProper among)
    (isSecond : ∀ key ∈ keys, (keyValue second key).IsProper among)
    (same : alike keys first second = true) : alike keys second first = true :=
  List.all_eq_true.mpr fun key listed =>
    (isFirst key listed).equal_symm (isSecond key listed) (List.all_eq_true.mp same key listed)

/-- Rows are told apart by keys at which no object repeats a name and no number blurs two others. -/
theorem TellsApart.of_proper (clear : Number.Clear among)
    (proper : ∀ row ∈ rows, ∀ key ∈ keys, (keyValue row key).IsProper among) :
    TellsApart keys rows where
  reflexive row here := alike_refl row (proper row here)
  symmetric first one second two := alike_symm first second (proper first one) (proper second two)
  transitive first one second two third three same other := List.all_eq_true.mpr fun key listed =>
    (proper first one key listed).equal_trans clear (proper second two key listed)
      (proper third three key listed) (List.all_eq_true.mp same key listed)
      (List.all_eq_true.mp other key listed)

end Proper

variable (keys)

/-- Whether combinations are those of rows: there is one for each first row of its kind, in the
order of these, every row is in one of them, and each has the rows that are like its first, in their
order. -/
structure AreCombinations (rows : List Json) (all : List Combination) : Prop where
  distinct : all.Pairwise fun earlier later => alike keys earlier.first later.first = false
  inOrder : (all.map Combination.first).Sublist rows
  complete : (all.flatMap Combination.rows).Perm rows
  rowsInOrder : ∀ one ∈ all, one.rows.Sublist rows
  rowsAlike : ∀ one ∈ all, ∃ others, one.rows = one.first :: others ∧
    ∀ row ∈ others, alike keys one.first row = true
  rowsAll : TellsApart keys rows → ∀ one ∈ all, one.rows = rows.filter (alike keys one.first)

/-- The combinations among rows are theirs. The induction takes the first row and those that are
like it away together; that nothing like it is left among the others needs the keys to be told apart
as an equivalence does. -/
theorem combinations_are (rows : List Json) :
    AreCombinations keys rows (combinations keys rows) := by
  induction rows using combinations.induct keys with
  | case1 =>
    rw [combinations]
    exact ⟨.nil, .slnil, .nil, nofun, nofun, fun _ => nofun⟩
  | case2 row rows inductionHypothesis =>
    obtain ⟨distinct, inOrder, complete, rowsInOrder, rowsAlike, rowsAll⟩ := inductionHypothesis
    have fewer : (unlike keys row rows).Sublist rows := List.filter_sublist
    have apart (other : Json) (left : other ∈ unlike keys row rows) :
        alike keys row other = false := by
      simpa [unlike] using (List.mem_filter.mp left).2
    rw [combinations]
    constructor
    · refine List.pairwise_cons.mpr ⟨fun one listed => ?_, distinct⟩
      exact apart one.first (inOrder.subset (List.mem_map_of_mem listed))
    · exact (inOrder.trans fewer).cons_cons row
    · exact ((complete.append_left _).trans (List.filter_append_perm _ rows)).cons row
    · refine List.forall_mem_cons.mpr ⟨List.filter_sublist.cons_cons row, fun one listed => ?_⟩
      exact (rowsInOrder one listed).trans (fewer.cons row)
    · refine List.forall_mem_cons.mpr ⟨⟨_, rfl, fun other here => ?_⟩, rowsAlike⟩
      exact (List.mem_filter.mp here).2
    · intro tells
      have itself := tells.reflexive row List.mem_cons_self
      refine List.forall_mem_cons.mpr ⟨by simp [itself], fun one listed => ?_⟩
      have later := inOrder.subset (List.mem_map_of_mem listed)
      have inside : one.first ∈ row :: rows := List.mem_cons_of_mem row (fewer.subset later)
      rw [rowsAll (tells.fewer fun other left => List.mem_cons_of_mem row (fewer.subset left)) one
        listed]
      have elsewhere (third : Json) (member : third ∈ row :: rows)
          (found : alike keys one.first third = true) : alike keys row third = false := by
        by_contra same
        have back := tells.symmetric one.first inside third member found
        have through := tells.transitive row List.mem_cons_self third member one.first inside
          (eq_true_of_ne_false same) back
        exact absurd (through.symm.trans (apart one.first later)) (by decide)
      have other : alike keys one.first row = false := by
        by_contra same
        have different := elsewhere row List.mem_cons_self (eq_true_of_ne_false same)
        exact absurd (itself.symm.trans different) (by decide)
      rw [List.filter_cons_of_neg (by simp [other]), unlike, List.filter_filter]
      refine List.filter_congr fun third present => ?_
      cases found : alike keys one.first third with
      | false => rfl
      | true => simp [elsewhere third (List.mem_cons_of_mem row present) found]

end DocumentQuery
