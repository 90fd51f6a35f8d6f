import DocumentQuery.Plan.Basic
import DocumentQuery.Proofs.Binary64.Integers
import DocumentQuery.Proofs.Except
import DocumentQuery.Proofs.Json.Distinct
import DocumentQuery.Proofs.Pipeline.Groups
import DocumentQuery.Proofs.Pipeline.Rows

/-!
# What is computed of a group

An aggregation is carried out by a native operator on the values of an expression. No aggregation of
a field can fail. Counting sums ones as binary64 numbers, and all these sums are exact as long as
there are fewer rows than integers are written for.
-/

namespace DocumentQuery

/-- What an aggregation makes of the values of a field, one for each row. Sums and averages
pass over what is no number, the least and greatest value over what is null, and a count counts
all rows. -/
def Aggregation.of (values : List Json) : Aggregation → Json
  | .sum => .ofArithmetic (Expression.total (values.filterMap Json.binary64?))
  | .average =>
    if (values.filterMap Json.binary64?).isEmpty then .null
    else .ofArithmetic ((Expression.total (values.filterMap Json.binary64?)).bind fun total =>
      total.div (.ofNat (values.filterMap Json.binary64?).length))
  | .minimum => (least? (values.filter fun value => !value.isNull)).getD .null
  | .maximum => (greatest? (values.filter fun value => !value.isNull)).getD .null
  | .count => .ofNat values.length

/-- A sum of ones is their number, as long as the number is exact in binary64. Each addition of one
makes the next number, so the induction generalizes the sum so far. -/
theorem Binary64.total_ones (count : Nat) (small : count < 2 ^ 53) :
    Expression.total (List.replicate count (integral 1)) = some (integral count) := by
  have counted (start : Nat) (below : start + count < 2 ^ 53) :
      (List.replicate count (integral 1)).foldl
          (fun sum number => sum.bind fun sum => sum.add number) (some (integral start)) =
        some (integral (start + count : Nat)) := by
    induction count generalizing start with
    | zero => rfl
    | succ count inductionHypothesis =>
      have next : (integral start).add (integral 1) = some (integral (start + 1 : Nat)) :=
        add_integral start 1 (by omega)
      rw [List.replicate_succ, List.foldl_cons, Option.bind_some, next,
        inductionHypothesis (by omega) (start + 1) (by omega), Nat.add_assoc, Nat.add_comm 1]
  have empty : integral 0 = zero := by simp [integral, zero]
  have sum := counted 0 (by omega)
  rw [Int.natCast_zero, empty, Nat.zero_add] at sum
  exact sum

/-- A number of ones is summed to itself, and shown as the integer that it is; the bound is that of
integers which sums are shown as. -/
theorem accumulate_ones (values : List Json) (ones : ∀ value ∈ values, value = .ofNat 1)
    (small : values.length < 9000000000000000) :
    accumulate "$sum" values = .ofNat values.length := by
  have same : values.filterMap Json.binary64? =
      List.replicate values.length (Binary64.integral 1) := by
    rw [List.eq_replicate_of_mem ones, List.filterMap_replicate, List.length_replicate]
    have one : Json.binary64? (.ofNat 1) = some (Binary64.integral 1) :=
      congrArg some (Binary64.ofInt_integral 1 (by decide))
    simp [one]
  have sum := Binary64.total_ones values.length (by omega)
  rw [accumulate]
  simp only [same, sum, Binary64.ofArithmetic_integral values.length small]
  rfl

/-- What an aggregate comes to over rows. -/
def Aggregate.over (aggregate : Aggregate) (rows : List Json) : Json :=
  aggregate.aggregation.of (rows.map fun row => keyValue row aggregate.source)

/-- The accumulator of an aggregate does not fail, and computes it. A count sums ones and reads no
field; every other aggregation reads its source on each row, with null where it is missing. -/
theorem accumulateAll_aggregate (aggregate : Aggregate) (rows : List Json)
    (small : rows.length < 9000000000000000) :
    accumulateAll rows [Plan.accumulator aggregate] =
      .ok [(aggregate.name, aggregate.over rows)] := by
  have read : rows.mapM (fun row => Expression.evaluate row (fieldReference aggregate.source)) =
      .ok (rows.map fun row => keyValue row aggregate.source) :=
    mapM_made _ _ rows fun row _ => evaluate_reference row aggregate.source
  have ones : rows.mapM (fun row => Expression.evaluate row (.ofNat 1)) =
      .ok (rows.map fun _ => .ofNat 1) :=
    mapM_made _ _ rows fun row _ => Expression.evaluate_number row _
  obtain ⟨source, aggregation, name⟩ := aggregate
  cases aggregation with
  | count =>
    have counted := accumulate_ones (rows.map fun _ => .ofNat 1) (by simp) (by simpa using small)
    simp only [accumulateAll, Plan.accumulator, ones, ok_bind, pure_eq_ok, counted]
    simp [Aggregate.over, Aggregation.of]
  | _ =>
    simp only [accumulateAll, Plan.accumulator, read, ok_bind, pure_eq_ok]
    rfl

end DocumentQuery
