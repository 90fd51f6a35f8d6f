import DocumentQuery.Proofs.Json.Order
import DocumentQuery.Proofs.Pipeline.Lengths

/-!
# Sorted rows

Rows are sorted by inserting them one by one, which puts them in order if the comparisons of rows go
together. They do so exactly where those of the values at the keys do, that is if no number blurs
two others. Three numbers of which one blurs the two others are not in order whichever way they are
compared, and rows with them are not put in order either.
-/

namespace DocumentQuery

/-- The order of rows at several keys is that at the first key, and then that at the others. -/
theorem compareRows_cons (key : SortKey) (keys : List SortKey) (left right : Json) :
    compareRows (key :: keys) left right =
      (key.compare left right).then (compareRows keys left right) := by
  rw [compareRows]
  cases key.compare left right <;> rfl

/-- Comparing two rows at a key the other way round gives the reverse. -/
theorem SortKey.compare_swap (key : SortKey) (left right : Json) :
    key.compare right left = (key.compare left right).swap := by
  unfold SortKey.compare
  rw [Json.compareOptional_swap (left.valueAt? key.field)]
  cases key.direction <;> rfl

/-- Comparing two rows the other way round gives the reverse. -/
theorem compareRows_swap (keys : List SortKey) (left right : Json) :
    compareRows keys right left = (compareRows keys left right).swap := by
  induction keys with
  | nil => rfl
  | cons key keys inductionHypothesis =>
    rw [compareRows_cons, compareRows_cons, Ordering.swap_then, key.compare_swap left right,
      inductionHypothesis]

section Clear

variable {among : Number → Prop} (clear : Number.Clear among)

/-- Whether the order of a row at some keys depends on some numbers only. -/
def SortsBy (among : Number → Prop) (keys : List SortKey) (row : Json) : Prop :=
  ∀ key ∈ keys, Json.DependsOn among (row.valueAt? key.field)

include clear

/-- Comparisons of rows go together if none of the numbers at the keys blurs two others. A
descending key compares the rows the other way round. -/
theorem compareRows_goTogether (keys : List SortKey) (left middle right : Json)
    (isLeft : SortsBy among keys left) (isMiddle : SortsBy among keys middle)
    (isRight : SortsBy among keys right) :
    GoTogether (compareRows keys left middle) (compareRows keys middle right)
      (compareRows keys left right) := by
  induction keys with
  | nil => exact fun _ _ => rfl
  | cons key keys inductionHypothesis =>
    have others := inductionHypothesis (fun other later => isLeft other (.tail key later))
      (fun other later => isMiddle other (.tail key later))
      (fun other later => isRight other (.tail key later))
    have inTurn (first second third : Json) (isFirst : SortsBy among (key :: keys) first)
        (isSecond : SortsBy among (key :: keys) second)
        (isThird : SortsBy among (key :: keys) third) :=
      Json.compareOptional_goTogether clear (first.valueAt? key.field) (second.valueAt? key.field)
        (third.valueAt? key.field) (isFirst key List.mem_cons_self)
        (isSecond key List.mem_cons_self) (isThird key List.mem_cons_self)
    have first : GoTogether (key.compare left middle) (key.compare middle right)
        (key.compare left right) := by
      unfold SortKey.compare
      cases key.direction with
      | ascending => exact inTurn left middle right isLeft isMiddle isRight
      | descending =>
        simp only [← Json.compareOptional_swap]
        exact (inTurn right middle left isRight isMiddle isLeft).reverse
    rw [compareRows_cons, compareRows_cons, compareRows_cons]
    exact first.followed others

/-- Inserting a row keeps rows in reversed order. The row passes those that it is less than; the one
it stops at is not greater, and by transitivity none behind it is. -/
theorem insertRow_sorted (keys : List SortKey) (row : Json) (sorted : List Json)
    (isRow : SortsBy among keys row) (areRows : ∀ other ∈ sorted, SortsBy among keys other)
    (reversed : sorted.Pairwise fun later earlier => compareRows keys earlier later ≠ .gt) :
    (insertRow keys row sorted).Pairwise fun later earlier =>
      compareRows keys earlier later ≠ .gt := by
  induction sorted with
  | nil => exact List.pairwise_singleton _ _
  | cons last others inductionHypothesis =>
    obtain ⟨lastBehind, othersReversed⟩ := List.pairwise_cons.mp reversed
    unfold insertRow
    split
    · next before =>
      refine List.pairwise_cons.mpr ⟨fun other inside => ?_, inductionHypothesis
        (fun other inside => areRows other (.tail last inside)) othersReversed⟩
      rcases List.mem_cons.mp ((insertRow_perm keys row others).mem_iff.mp inside) with rfl | inside
      · rw [before]
        decide
      · exact lastBehind other inside
    · next behind =>
      have lastBefore : compareRows keys last row ≠ .gt := by
        rw [compareRows_swap keys row last]
        cases order : compareRows keys row last with
        | lt => exact absurd order behind
        | _ => decide
      refine List.pairwise_cons.mpr ⟨fun other inside => ?_, reversed⟩
      rcases List.mem_cons.mp inside with rfl | inside
      · exact lastBefore
      · exact (compareRows_goTogether clear keys other last row
          (areRows other (.tail last inside)) (areRows last List.mem_cons_self) isRow).ends_ne_gt
          (lastBehind other inside) lastBefore

/-- Of sorted rows no earlier one is greater than a later one, if none of the numbers at the keys
blurs two others. -/
theorem sortRows_sorted (keys : List SortKey) (rows : List Json)
    (areRows : ∀ row ∈ rows, SortsBy among keys row) :
    (sortRows keys rows).Pairwise fun earlier later => compareRows keys earlier later ≠ .gt := by
  have folded (sorted : List Json) (areSorted : ∀ row ∈ sorted, SortsBy among keys row)
      (reversed : sorted.Pairwise fun later earlier => compareRows keys earlier later ≠ .gt) :
      (rows.foldl (fun sorted row => insertRow keys row sorted) sorted).Pairwise
        fun later earlier => compareRows keys earlier later ≠ .gt := by
    induction rows generalizing sorted with
    | nil => exact reversed
    | cons row rows inductionHypothesis =>
      have isRow := areRows row List.mem_cons_self
      refine inductionHypothesis (fun other later => areRows other (.tail row later)) _ ?_
        (insertRow_sorted clear keys row sorted isRow areSorted reversed)
      intro other inside
      rcases List.mem_cons.mp ((insertRow_perm keys row sorted).mem_iff.mp inside) with rfl | inside
      · exact isRow
      · exact areSorted other inside
  exact List.pairwise_reverse.mpr (folded [] (by simp) List.Pairwise.nil)

end Clear

/-- If one number blurs two others, three values are not in order: of two comparisons that do not
decrease, the ends are reversed. -/
theorem Number.Blurs.reversed {between left right : Number} (blurs : between.Blurs left right) :
    ∃ greater less, (greater = left ∨ greater = right) ∧ (less = left ∨ less = right) ∧
      greater.compare between = .eq ∧ between.compare less = .eq ∧ greater.compare less = .gt := by
  obtain ⟨first, second, leftSigned, rightSigned, different⟩ := blurs.different
  rcases Int.lt_or_gt_of_ne different with less | greater
  · refine ⟨right, left, .inr rfl, .inl rfl, ?_, blurs.toLeft, ?_⟩
    · rw [compare_swap between right, blurs.toRight]
      rfl
    · rw [compare_signed rightSigned leftSigned]
      exact compare_gt_iff_gt.mpr less
  · refine ⟨left, right, .inl rfl, .inr rfl, ?_, blurs.toRight, ?_⟩
    · rw [compare_swap between left, blurs.toLeft]
      rfl
    · rw [compare_signed leftSigned rightSigned]
      exact compare_gt_iff_gt.mpr greater

/-- Comparing two values the other way round gives the reverse, and the order of values is
transitive exactly among those whose numbers are clear, that is if none of the numbers blurs two
others. Rows are then put in order by all keys at which their values are clear: none is lost or
repeated, and no earlier one is greater than a later one.

Proof: the comparisons of any three clear numbers go together by `Clear.goTogether`. So do those of
arrays and of the values at several keys, since comparisons that go together may be made one after
the other, and a row can be inserted into rows in order. In the other direction, a number that blurs
two others compares equal to both, though these are apart. -/
theorem transitive_iff_clear (among : Number → Prop) :
    (∀ left right, Json.compareOptional right left = (Json.compareOptional left right).swap) ∧
    ((∀ left middle right, Json.DependsOn among left → Json.DependsOn among middle →
      Json.DependsOn among right → Json.compareOptional left middle ≠ .gt →
      Json.compareOptional middle right ≠ .gt → Json.compareOptional left right ≠ .gt) ↔
        Number.Clear among) ∧
    (Number.Clear among → ∀ keys rows, (∀ row ∈ rows, SortsBy among keys row) →
      (sortRows keys rows).Perm rows ∧
      (sortRows keys rows).Pairwise fun earlier later =>
        compareRows keys earlier later ≠ .gt) := by
  refine ⟨Json.compareOptional_swap, ⟨?_, ?_⟩, fun clear keys rows areRows =>
    ⟨sortRows_perm keys rows, sortRows_sorted clear keys rows areRows⟩⟩
  · intro transitive between left right isBetween isLeft isRight blurs
    obtain ⟨greater, less, isGreater, isLess, first, second, ends⟩ := blurs.reversed
    have alone (number : Number) (isAmong : among number) :
        Json.DependsOn among (some (.number number)) := by
      intro present same other inside
      obtain rfl := Option.mem_some.mp same
      exact List.mem_singleton.mp inside ▸ isAmong
    refine transitive (some (.number greater)) (some (.number between)) (some (.number less))
      (alone greater (by rcases isGreater with rfl | rfl <;> assumption)) (alone between isBetween)
      (alone less (by rcases isLess with rfl | rfl <;> assumption)) ?_ ?_ ends
    · rw [Json.compareOptional, Json.compare, first]
      decide
    · rw [Json.compareOptional, Json.compare, second]
      decide
  · intro clear left middle right isLeft isMiddle isRight first second
    exact (Json.compareOptional_goTogether clear left middle right isLeft isMiddle
      isRight).ends_ne_gt first second

/-- Counts of both representations, of which the last is the least. -/
def mixedCounts : List Number :=
  [.integer 2, .float ⟨false, 5 * Binary64.one / 2⟩, .float (.ofNat 1)]

/-- Rows with these counts are put in order, for only one of the counts is a signed integer and no
number can blur two different ones. -/
theorem mixedCounts_sorted :
    Number.Clear (· ∈ mixedCounts) ∧
    let rows := mixedCounts.map fun count => Json.object [("n", .number count)]
    (sortRows [⟨"n", .ascending⟩] rows).Perm rows ∧
    (sortRows [⟨"n", .ascending⟩] rows).Pairwise fun earlier later =>
      compareRows [⟨"n", .ascending⟩] earlier later ≠ .gt := by
  have clear : Number.Clear (· ∈ mixedCounts) := by
    intro between left right _ isLeft isRight blurs
    obtain ⟨first, second, leftSigned, rightSigned, different⟩ := blurs.different
    have only (number : Number) (inside : number ∈ mixedCounts) (value : Int)
        (signed : number.signed? = some value) : value = 2 := by
      obtain rfl := Number.eq_of_signed number value signed
      simpa [mixedCounts] using inside
    exact different ((only left isLeft first leftSigned).trans
      (only right isRight second rightSigned).symm)
  refine ⟨clear, (transitive_iff_clear (· ∈ mixedCounts)).2.2 clear _ _ ?_⟩
  intro row inside key isKey
  obtain rfl := List.mem_singleton.mp isKey
  obtain ⟨count, listed, rfl⟩ := List.mem_map.mp inside
  intro present same number isNumber
  have found : (Json.object [("n", .number count)]).valueAt? "n" = some (.number count) := by
    simp [Json.valueAt?, Path.ofText_plain "n" (by decide), Json.get?, Members.get?]
  obtain rfl := Option.some.inj (found.symm.trans same)
  exact List.mem_singleton.mp isNumber ▸ listed

/-- The first integer that is not its own nearest binary64 number, this number, and the integer that
it is. -/
def threeCounts : List Json :=
  [.ofInt 9007199254740993, .number (.float (.ofNat 9007199254740992)), .ofInt 9007199254740992]

/-- The first of the three compares equal to the second and the second to the third, but the first
is greater than the third. Sorting rows with them leaves the greatest in front. -/
theorem threeCounts_unordered :
    (threeCounts.map fun left => threeCounts.map fun right =>
      Json.compareOptional (some left) (some right)) =
        [[.eq, .eq, .gt], [.eq, .eq, .eq], [.lt, .eq, .eq]] ∧
    ¬ (sortRows [⟨"n", .ascending⟩] (threeCounts.map fun count => .object [("n", count)])).Pairwise
      fun earlier later => compareRows [⟨"n", .ascending⟩] earlier later ≠ .gt := by
  exact ⟨by decide +kernel, by decide +kernel⟩

end DocumentQuery
