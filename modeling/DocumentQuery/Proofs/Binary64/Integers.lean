import DocumentQuery.Json.Basic
import DocumentQuery.Proofs.Binary64.Rounding

/-!
# Integers of 53 bits are exact

An integer of 53 bits is a binary64 number, and sums and differences of such integers that have no
more bits are not rounded. What arithmetic answers is read back as the same integer, whether it is
written as an integer or, from 16 digits on, as a number of its own. Greater numbers are rounded,
but never to less than an exact one below them, so a place behind the end of a text stays there.
-/

namespace DocumentQuery.Binary64

/-- An integer as a binary64 number of its units. -/
def integral (value : Int) : Binary64 := ⟨value < 0, value.natAbs * one⟩

/-- There are units in one, so a quotient by them is defined and orders integers as they are. -/
theorem one_pos : 0 < one := by decide +kernel

/-- The number nearest to an integer is the integer. -/
theorem ofInt_integral (value : Int) (small : value.natAbs < 2 ^ 53) :
    ofInt value = integral value := by
  rw [ofInt, integral, nearest_whole _ small]

/-- The units of an integer with its sign. -/
theorem scaled_integral (value : Int) : (integral value).scaled = value * one := by
  simp only [scaled, integral, decide_eq_true_eq, Int.natCast_mul]
  split
  · next less => rw [Int.ofNat_natAbs_of_nonpos (Int.le_of_lt less), Int.neg_mul, Int.neg_neg]
  · next more => rw [Int.natAbs_of_nonneg (Int.not_lt.mp more)]

/-- A whole number of units is finite and not rounded. -/
theorem ofQuotient_integral (negative : Bool) (value : Int) (small : value.natAbs < 2 ^ 53) :
    ofQuotient negative (value * one).natAbs 1 = some ⟨negative, value.natAbs * one⟩ := by
  have finite : value.natAbs * one < ceiling := by
    have bound : 2 ^ 53 * one < ceiling := by decide +kernel
    exact Nat.lt_trans (Nat.mul_lt_mul_of_pos_right small one_pos) bound
  rw [ofQuotient, Int.natAbs_mul, Int.natAbs_natCast, nearest_whole _ small]
  exact if_pos finite

/-- The other sign negates the units. -/
theorem scaled_neg (number : Binary64) : number.neg.scaled = -number.scaled := by
  obtain ⟨negative, units⟩ := number
  cases negative <;> simp [neg, scaled]

/-- A sum that is an integer is exact. It is a negative zero only if both summands are negative. -/
theorem add_scaled (left right : Binary64) (total : Int) (small : total.natAbs < 2 ^ 53)
    (sum : left.scaled + right.scaled = total * one) :
    left.add right = some ⟨if total = 0 then left.negative && right.negative else total < 0,
      total.natAbs * one⟩ := by
  have signs (unit : Int) (positive : 0 < unit) :
      (total * unit = 0 ↔ total = 0) ∧ (total * unit < 0 ↔ total < 0) := by
    refine ⟨by simp [Int.ne_of_gt positive], fun less => ?_, fun less => ?_⟩
    · exact Int.not_le.mp fun above =>
        absurd (Int.mul_nonneg above (Int.le_of_lt positive)) (Int.not_le.mpr less)
    · exact Int.mul_neg_of_neg_of_pos less positive
  have positive : 0 < (one : Int) := Int.natCast_pos.mpr one_pos
  simp only [add, sum, ofQuotient_integral _ total small, signs one positive]

/-- The sum of integers is exact. -/
theorem add_integral (left right : Int) (small : (left + right).natAbs < 2 ^ 53) :
    (integral left).add (integral right) = some (integral (left + right)) := by
  rw [add_scaled _ _ (left + right) small
    (by rw [scaled_integral, scaled_integral, Int.add_mul])]
  by_cases zero : left + right = 0
  · have opposed : ¬ (left < 0 ∧ right < 0) := by omega
    simpa [integral, zero] using opposed
  · simp [integral, zero]

/-- The difference of integers is exact. -/
theorem sub_integral (left right : Int) (small : (left - right).natAbs < 2 ^ 53) :
    (integral left).sub (integral right) = some (integral (left - right)) := by
  rw [sub, add_scaled _ _ (left - right) small
    (by rw [scaled_neg, scaled_integral, scaled_integral, Int.sub_mul, Int.sub_eq_add_neg])]
  by_cases zero : left - right = 0
  · have same : ¬ (left < 0 ∧ ¬ right < 0) := by omega
    simpa [integral, neg, zero] using same
  · simp [integral, zero]

/-- The whole part of an integer is its magnitude. -/
theorem wholePart_integral (value : Int) : (integral value).wholePart = value.natAbs :=
  Nat.mul_div_cancel value.natAbs one_pos

/-- An integer is its own truncation. -/
theorem truncate_integral (value : Int) : (integral value).truncate = value := by
  rw [truncate, wholePart_integral]
  simp only [integral, decide_eq_true_eq]
  omega

/-- An integer of 15 digits is answered as such. -/
theorem ofArithmetic_integral (value : Int) (small : value.natAbs < 9000000000000000) :
    Json.ofArithmetic (some (integral value)) = .ofInt value := by
  have isWhole : (integral value).isWhole = true := by simp [Binary64.isWhole, integral]
  simp only [Json.ofArithmetic, isWhole, wholePart_integral, small, decide_true, Bool.and_self,
    if_true, truncate_integral]

/-- An integer that arithmetic answers is read back as it is. -/
theorem read_integral (value : Int) (small : value.natAbs < 2 ^ 53) :
    (Json.ofArithmetic (some (integral value))).binary64? = some (integral value) := by
  rw [Json.ofArithmetic]
  split
  · simp only [truncate_integral, Json.ofInt, Json.binary64?, Number.toBinary64,
      ofInt_integral value small]
  · rfl

/-- A natural number as it is read back from the nearest binary64 number. -/
def rounded (count : Nat) : Nat := (ofInt count).wholePart

/-- A number below `2^53` is not rounded. -/
theorem rounded_exact (count : Nat) (small : count < 2 ^ 53) :
    rounded count = count := by
  rw [rounded, ofInt_integral count small, wholePart_integral]
  rfl

/-- Rounding keeps a length below `2^53` below the numbers that it is below. -/
theorem le_rounded (length count : Nat) (small : length < 2 ^ 53)
    (ordered : length ≤ count) : length ≤ rounded count := by
  have mono : (ofInt length).scaled ≤ (ofInt count).scaled := ofInt_mono _ _ (by omega)
  have units : length * one ≤ (ofInt count).units := by
    rw [ofInt_integral length small, scaled_integral] at mono
    have scaled : (ofInt count).scaled = (ofInt count).units := by
      have positive : (ofInt count).negative = false := by simp [ofInt]
      simp [Binary64.scaled, positive]
    rw [scaled] at mono
    exact_mod_cast mono
  exact (Nat.le_div_iff_mul_le one_pos).mpr units

/-- What stands behind a place of a text is the same if the place is rounded. -/
theorem drop_rounded (text : List Char) (count : Nat) (small : text.length < 2 ^ 53) :
    text.drop (rounded count) = text.drop count := by
  rcases Nat.lt_or_ge count text.length with inside | behind
  · rw [rounded_exact count (Nat.lt_trans inside small)]
  · rw [List.drop_of_length_le behind,
      List.drop_of_length_le (le_rounded text.length count small behind)]

/-- What stands before a place of a text is the same if the place is rounded. -/
theorem take_rounded (text : List Char) (count : Nat) (small : text.length < 2 ^ 53) :
    text.take (rounded count) = text.take count := by
  rcases Nat.lt_or_ge count text.length with inside | behind
  · rw [rounded_exact count (Nat.lt_trans inside small)]
  · rw [List.take_of_length_le behind,
      List.take_of_length_le (le_rounded text.length count small behind)]

end DocumentQuery.Binary64
