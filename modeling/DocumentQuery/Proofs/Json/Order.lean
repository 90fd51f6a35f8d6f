import DocumentQuery.Json.Order
import DocumentQuery.Proofs.Binary64.Rounding
import Mathlib.Order.Compare

/-!
# How far the order of values is an order

Comparing two values the other way round gives the reverse, whatever they are. Of two comparisons
in turn that do not decrease, the first strict one decides the comparison of the ends, except where
a number is compared equal to two different 64-bit signed integers. These are told apart when they
are compared with each other, but not when they are compared with a number that is held in another
way. Among values without three such numbers, at any depth of their arrays, comparisons go together.
-/

namespace DocumentQuery

/-- Whether the comparison of the ends goes together with two comparisons in turn: where these do
not decrease, the first strict one decides. -/
def GoTogether (lower upper ends : Ordering) : Prop :=
  lower ≠ .gt → upper ≠ .gt → ends = lower.then upper

namespace GoTogether

variable {lower upper ends lowerNext upperNext endsNext : Ordering}

/-- Comparisons that go together do so the other way round. -/
theorem reverse (together : GoTogether lower upper ends) : GoTogether upper lower ends := by
  intro second first
  rw [together first second]
  cases lower <;> cases upper <;> simp_all

/-- Comparisons that go together do so with others that decide where they do not. If both first
comparisons leave the order open the second ones decide, and otherwise the stricter of the first
ones decides for the ends too. -/
theorem followed (together : GoTogether lower upper ends)
    (next : GoTogether lowerNext upperNext endsNext) :
    GoTogether (lower.then lowerNext) (upper.then upperNext) (ends.then endsNext) := by
  intro first second
  have lowerKept : lower ≠ .gt := by rintro rfl; exact first rfl
  have upperKept : upper ≠ .gt := by rintro rfl; exact second rfl
  rw [together lowerKept upperKept]
  cases lower with
  | gt => exact absurd rfl lowerKept
  | lt => rfl
  | eq =>
    cases upper with
    | gt => exact absurd rfl upperKept
    | eq => exact next first second
    | lt => cases lowerNext <;> first | rfl | exact absurd rfl first

/-- Where comparisons go together, the ends are not reversed. -/
theorem ends_ne_gt (together : GoTogether lower upper ends) (first : lower ≠ .gt)
    (second : upper ≠ .gt) : ends ≠ .gt := by
  rw [together first second]
  cases lower <;> first | exact second | exact first

/-- Comparisons in a transitive order go together. -/
theorem of_trans {Value : Type} (order : Value → Value → Ordering) [Std.TransCmp order]
    (left middle right : Value) :
    GoTogether (order left middle) (order middle right) (order left right) := by
  intro first second
  cases lower : order left middle with
  | gt => exact absurd lower first
  | lt => exact Std.TransCmp.lt_of_lt_of_isLE lower (Ordering.isLE_iff_ne_gt.mpr second)
  | eq =>
    cases upper : order middle right with
    | gt => exact absurd upper second
    | lt => exact Std.TransCmp.lt_of_eq_of_lt lower upper
    | eq => exact Std.TransCmp.eq_trans lower upper

end GoTogether

namespace Number

/-- The units of the nearest binary64 number. -/
def units (number : Number) : Int := number.toBinary64.scaled

/-- A number that is held as a signed integer is that integer. -/
theorem eq_of_signed (number : Number) (value : Int) (held : number.signed? = some value) :
    number = .integer value := by
  cases number with
  | integer own =>
    have same : own = value := by
      simp only [signed?] at held
      split at held
      · exact Option.some.inj held
      · simp at held
    rw [same]
  | float _ => simp [signed?] at held

/-- Signed integers are compared as integers. -/
theorem compare_signed {left right : Number} {first second : Int}
    (leftSigned : left.signed? = some first) (rightSigned : right.signed? = some second) :
    left.compare right = Ord.compare first second := by
  simp [compare, leftSigned, rightSigned]

/-- Two numbers of which one is no signed integer are compared as binary64 numbers. -/
theorem compare_units {left right : Number}
    (unsigned : left.signed? = none ∨ right.signed? = none) :
    left.compare right = Ord.compare left.units right.units := by
  unfold compare
  split
  · next leftSigned rightSigned => simp [leftSigned, rightSigned] at unsigned
  · rfl

/-- Comparing two numbers the other way round gives the reverse. Which of the two comparisons is
used, that of integers or that of units, does not depend on the order of the numbers. -/
theorem compare_swap (left right : Number) : right.compare left = (left.compare right).swap := by
  cases leftSigned : left.signed? with
  | none =>
    rw [compare_units (.inr leftSigned), compare_units (.inl leftSigned)]
    exact Std.OrientedCmp.eq_swap
  | some first =>
    cases rightSigned : right.signed? with
    | none =>
      rw [compare_units (.inl rightSigned), compare_units (.inr rightSigned)]
      exact Std.OrientedCmp.eq_swap
    | some second =>
      rw [compare_signed rightSigned leftSigned, compare_signed leftSigned rightSigned]
      exact Std.OrientedCmp.eq_swap

/-- A number that is not compared greater has no more units. For two signed integers this holds
because rounding to units is monotone; in all other pairs the units themselves are compared. -/
theorem units_le {left right : Number} (ordered : left.compare right ≠ .gt) :
    left.units ≤ right.units := by
  cases leftSigned : left.signed? with
  | none =>
    rw [compare_units (.inl leftSigned)] at ordered
    exact compare_le_iff_le.mp ordered
  | some first =>
    cases rightSigned : right.signed? with
    | none =>
      rw [compare_units (.inr rightSigned)] at ordered
      exact compare_le_iff_le.mp ordered
    | some second =>
      rw [compare_signed leftSigned rightSigned] at ordered
      rw [eq_of_signed left first leftSigned, eq_of_signed right second rightSigned]
      exact Binary64.ofInt_mono first second (compare_le_iff_le.mp ordered)

/-- Whether a number that is no signed integer compares equal to two that are and differ. -/
structure Blurs (between left right : Number) : Prop where
  unsigned : between.signed? = none
  different : ∃ first second, left.signed? = some first ∧ right.signed? = some second ∧
    first ≠ second
  toLeft : between.compare left = .eq
  toRight : between.compare right = .eq

/-- Whether no number among some blurs two others, that is, compares equal to two numbers that are
compared as different. -/
def Clear (numbers : Number → Prop) : Prop :=
  ∀ between left right, numbers between → numbers left → numbers right →
    ¬ between.Blurs left right

/-- Numbers with the same units as one that is no signed integer compare equal, unless that one
blurs them. Different signed integers with the same units are just what such a number blurs. -/
theorem compare_same_units {between left right : Number} (clear : ¬ between.Blurs left right)
    (unsigned : between.signed? = none) (toLeft : between.units = left.units)
    (toRight : between.units = right.units) : left.compare right = .eq := by
  have equal : Ord.compare left.units right.units = .eq :=
    compare_eq_iff_eq.mpr (toLeft.symm.trans toRight)
  cases leftSigned : left.signed? with
  | none => rw [compare_units (.inl leftSigned), equal]
  | some first =>
    cases rightSigned : right.signed? with
    | none => rw [compare_units (.inr rightSigned), equal]
    | some second =>
      rw [compare_signed leftSigned rightSigned, compare_eq_iff_eq]
      by_contra different
      refine clear ⟨unsigned, ⟨first, second, leftSigned, rightSigned, different⟩, ?_, ?_⟩
      · rw [compare_units (.inl unsigned), compare_eq_iff_eq.mpr toLeft]
      · rw [compare_units (.inl unsigned), compare_eq_iff_eq.mpr toRight]

/-- Among numbers of which none blurs two others, comparisons go together. Signed integers are
compared as they are. If one of the three is none, the units decide: either one of the two
comparisons is strict and so is that of the ends, or all three have the same units and compare
equal. -/
theorem Clear.goTogether {numbers : Number → Prop} (clear : Clear numbers)
    {left middle right : Number} (isLeft : numbers left) (isMiddle : numbers middle)
    (isRight : numbers right) :
    GoTogether (left.compare middle) (middle.compare right) (left.compare right) := by
  by_cases unsigned : ∃ between, numbers between ∧ between.signed? = none ∧
      (between = left ∨ between = middle ∨ between = right)
  · obtain ⟨between, isBetween, unsigned, which⟩ := unsigned
    intro first second
    have lower := units_le first
    have upper := units_le second
    rcases Int.lt_or_eq_of_le (lower.trans upper) with less | same
    · have ends : left.compare right = .lt := by
        cases reversed : left.compare right with
        | lt => rfl
        | _ =>
          have back : right.compare left ≠ .gt := by rw [compare_swap, reversed]; exact nofun
          have := units_le back
          omega
      rw [ends]
      cases firstOrder : left.compare middle with
      | gt => exact absurd firstOrder first
      | lt => rfl
      | eq =>
        cases secondOrder : middle.compare right with
        | gt => exact absurd secondOrder second
        | lt => rfl
        | eq =>
          have back : middle.compare left ≠ .gt := by rw [compare_swap, firstOrder]; exact nofun
          have onward : right.compare middle ≠ .gt := by
            rw [compare_swap, secondOrder]
            exact nofun
          have := units_le back
          have := units_le onward
          omega
    · have toLeft : between.units = left.units := by rcases which with rfl | rfl | rfl <;> omega
      have toMiddle : between.units = middle.units := by
        rcases which with rfl | rfl | rfl <;> omega
      have toRight : between.units = right.units := by rcases which with rfl | rfl | rfl <;> omega
      rw [compare_same_units (clear between left right isBetween isLeft isRight) unsigned toLeft
          toRight,
        compare_same_units (clear between left middle isBetween isLeft isMiddle) unsigned toLeft
          toMiddle,
        compare_same_units (clear between middle right isBetween isMiddle isRight) unsigned toMiddle
          toRight]
      rfl
  · have signed (number : Number) (among : numbers number)
        (which : number = left ∨ number = middle ∨ number = right) :
        ∃ value, number.signed? = some value :=
      Option.ne_none_iff_exists'.mp fun none => unsigned ⟨number, among, none, which⟩
    obtain ⟨first, leftSigned⟩ := signed left isLeft (.inl rfl)
    obtain ⟨second, middleSigned⟩ := signed middle isMiddle (.inr (.inl rfl))
    obtain ⟨third, rightSigned⟩ := signed right isRight (.inr (.inr rfl))
    rw [compare_signed leftSigned middleSigned, compare_signed middleSigned rightSigned,
      compare_signed leftSigned rightSigned]
    exact .of_trans _ first second third

end Number

namespace Json

/-- The comparison of two values of different kinds is that of their ranks. -/
theorem compare_unlike (left right : Json) (unlike : left.rank ≠ right.rank) :
    left.compare right = Ord.compare left.rank right.rank := by
  cases left <;> cases right <;> first | rfl | exact absurd rfl unlike

/-- A value that is not compared greater has no higher rank. -/
theorem rank_le {left right : Json} (ordered : left.compare right ≠ .gt) :
    left.rank ≤ right.rank := by
  by_cases unlike : left.rank = right.rank
  · exact Nat.le_of_eq unlike
  · rw [compare_unlike left right unlike] at ordered
    exact compare_le_iff_le.mp ordered

/-- The comparison of two lists is that of their first values, and then that of the others. -/
theorem compareItems_cons (left right : Json) (lefts rights : List Json) :
    compareItems (left :: lefts) (right :: rights) =
      (left.compare right).then (compareItems lefts rights) := by
  rw [compareItems]
  cases left.compare right <;> rfl

/-- The kinds of three values go together where they are not all the same. Values of different kinds
are compared by rank, ranks do not fall along the two comparisons, and one of these is strict. -/
theorem goTogether_unlike (left middle right : Json)
    (unlike : left.rank ≠ middle.rank ∨ middle.rank ≠ right.rank) :
    GoTogether (left.compare middle) (middle.compare right) (left.compare right) := by
  intro first second
  have lower := rank_le first
  have upper := rank_le second
  have ends : left.compare right = .lt := by
    rw [compare_unlike left right (by omega)]
    exact compare_lt_iff_lt.mpr (by omega)
  rw [ends]
  by_cases below : left.rank = middle.rank
  · have strict : middle.compare right = .lt := by
      rw [compare_unlike middle right (by omega)]
      exact compare_lt_iff_lt.mpr (by omega)
    rw [strict]
    cases firstOrder : left.compare middle <;> first | rfl | exact absurd firstOrder first
  · have strict : left.compare middle = .lt := by
      rw [compare_unlike left middle below]
      exact compare_lt_iff_lt.mpr (by omega)
    rw [strict]
    rfl

mutual

/-- The numbers that the order of a value depends on, which are those outside objects. -/
def numbers : Json → List Number
  | .number value => [value]
  | .array items => itemNumbers items
  | _ => []
termination_by structural value => value

/-- The numbers that the order of a list depends on, item by item. -/
def itemNumbers : List Json → List Number
  | [] => []
  | item :: items => numbers item ++ itemNumbers items
termination_by structural items => items

end

mutual

/-- Comparing two values the other way round gives the reverse. Values of one kind are compared by
the kind, and their ranks are reversed otherwise. -/
theorem compare_swap (left right : Json) : right.compare left = (left.compare right).swap := by
  cases left with
  | bool first =>
    cases right with
    | bool second => exact Std.OrientedOrd.eq_swap
    | _ => rfl
  | number first =>
    cases right with
    | number second => exact Number.compare_swap first second
    | _ => rfl
  | string first =>
    cases right with
    | string second => exact Std.OrientedOrd.eq_swap
    | _ => rfl
  | array lefts =>
    cases right with
    | array rights => exact compareItems_swap lefts rights
    | _ => rfl
  | _ => cases right <;> rfl
termination_by structural left

/-- Comparing two lists the other way round gives the reverse. -/
theorem compareItems_swap (lefts rights : List Json) :
    compareItems rights lefts = (compareItems lefts rights).swap := by
  match lefts, rights with
  | [], [] => rfl
  | [], _ :: _ => rfl
  | _ :: _, [] => rfl
  | left :: lefts, right :: rights =>
    rw [compareItems_cons, compareItems_cons, Ordering.swap_then, compare_swap left right,
      compareItems_swap lefts rights]
termination_by structural lefts

end

mutual

/-- Comparisons of values go together if none of their numbers blurs two others. Values of one kind
are treated by the kind, where numbers rest on the condition and arrays on their items; as soon as
two kinds meet, the ranks decide. -/
theorem compare_goTogether {among : Number → Prop} (clear : Number.Clear among)
    (left middle right : Json)
    (isLeft : ∀ number ∈ left.numbers, among number)
    (isMiddle : ∀ number ∈ middle.numbers, among number)
    (isRight : ∀ number ∈ right.numbers, among number) :
    GoTogether (left.compare middle) (middle.compare right) (left.compare right) := by
  cases left with
  | array lefts =>
    cases middle with
    | array middles =>
      cases right with
      | array rights =>
        exact compareItems_goTogether clear lefts middles rights isLeft isMiddle isRight
      | _ => exact goTogether_unlike _ _ _ (.inr (by simp [rank]))
    | _ => exact goTogether_unlike _ _ _ (.inl (by simp [rank]))
  | number first =>
    cases middle with
    | number second =>
      cases right with
      | number third =>
        exact clear.goTogether (isLeft _ List.mem_cons_self) (isMiddle _ List.mem_cons_self)
          (isRight _ List.mem_cons_self)
      | _ => exact goTogether_unlike _ _ _ (.inr (by simp [rank]))
    | _ => exact goTogether_unlike _ _ _ (.inl (by simp [rank]))
  | bool first =>
    cases middle with
    | bool second =>
      cases right with
      | bool third => exact .of_trans Ord.compare first second third
      | _ => exact goTogether_unlike _ _ _ (.inr (by simp [rank]))
    | _ => exact goTogether_unlike _ _ _ (.inl (by simp [rank]))
  | string first =>
    cases middle with
    | string second =>
      cases right with
      | string third => exact .of_trans Ord.compare first second third
      | _ => exact goTogether_unlike _ _ _ (.inr (by simp [rank]))
    | _ => exact goTogether_unlike _ _ _ (.inl (by simp [rank]))
  | null =>
    cases middle with
    | null => cases right <;> exact fun _ _ => rfl
    | _ => exact goTogether_unlike _ _ _ (.inl (by simp [rank]))
  | object _ =>
    cases middle with
    | object _ =>
      cases right with
      | object _ => exact fun _ _ => rfl
      | _ => exact goTogether_unlike _ _ _ (.inr (by simp [rank]))
    | _ => exact goTogether_unlike _ _ _ (.inl (by simp [rank]))
termination_by structural left

/-- Comparisons of lists go together if none of their numbers blurs two others. The heads decide
where they differ and the tails otherwise, so the two facts are chained as the comparison chains
them. -/
theorem compareItems_goTogether {among : Number → Prop} (clear : Number.Clear among)
    (lefts middles rights : List Json)
    (isLeft : ∀ number ∈ itemNumbers lefts, among number)
    (isMiddle : ∀ number ∈ itemNumbers middles, among number)
    (isRight : ∀ number ∈ itemNumbers rights, among number) :
    GoTogether (compareItems lefts middles) (compareItems middles rights)
      (compareItems lefts rights) := by
  match lefts, middles, rights with
  | [], [], [] => exact fun _ _ => rfl
  | [], [], _ :: _ => exact fun _ _ => rfl
  | [], _ :: _, _ :: _ => exact fun _ _ => rfl
  | _, _ :: _, [] => exact fun _ second => absurd rfl second
  | _ :: _, [], _ => exact fun first _ => absurd rfl first
  | left :: lefts, middle :: middles, right :: rights =>
    rw [compareItems_cons, compareItems_cons, compareItems_cons]
    simp only [itemNumbers, List.mem_append] at isLeft isMiddle isRight
    have heads := compare_goTogether clear left middle right
      (fun number inside => isLeft number (.inl inside))
      (fun number inside => isMiddle number (.inl inside))
      (fun number inside => isRight number (.inl inside))
    have tails := compareItems_goTogether clear lefts middles rights
      (fun number inside => isLeft number (.inr inside))
      (fun number inside => isMiddle number (.inr inside))
      (fun number inside => isRight number (.inr inside))
    exact heads.followed tails
termination_by structural lefts

end

/-- Comparing two values that may be missing the other way round gives the reverse. -/
theorem compareOptional_swap (left right : Option Json) :
    compareOptional right left = (compareOptional left right).swap := by
  cases left with
  | none => cases right <;> rfl
  | some left =>
    cases right with
    | none => rfl
    | some right => exact compare_swap left right

/-- Whether the order of a value, if there is one, depends on some numbers only. -/
def DependsOn (among : Number → Prop) (value : Option Json) : Prop :=
  ∀ present ∈ value, ∀ number ∈ present.numbers, among number

/-- Comparisons of values that may be missing go together if none of their numbers blurs two others:
a missing value stands on its own side of every present one. -/
theorem compareOptional_goTogether {among : Number → Prop} (clear : Number.Clear among)
    (left middle right : Option Json) (isLeft : DependsOn among left)
    (isMiddle : DependsOn among middle) (isRight : DependsOn among right) :
    GoTogether (compareOptional left middle) (compareOptional middle right)
      (compareOptional left right) := by
  cases left with
  | none =>
    cases middle with
    | none => cases right <;> exact fun _ _ => rfl
    | some middle =>
      cases right with
      | none => exact fun _ second => absurd rfl second
      | some right => exact fun _ _ => rfl
  | some left =>
    cases middle with
    | none => exact fun first _ => absurd rfl first
    | some middle =>
      cases right with
      | none => exact fun _ second => absurd rfl second
      | some right =>
        exact compare_goTogether clear left middle right (isLeft left rfl) (isMiddle middle rfl)
          (isRight right rfl)

end Json

end DocumentQuery
