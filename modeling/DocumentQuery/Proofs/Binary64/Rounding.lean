import DocumentQuery.Binary64.Basic
import Mathlib.Algebra.Order.Group.Unbundled.Int
import Mathlib.Tactic.Ring

/-!
# Rounding keeps the order

A quotient of units is rounded at a power of two that depends on its size. Rounding neither leaves
the range between two neighbouring powers of two nor, within it, turns two quotients round. So a
greater integer never has a smaller nearest number, though it may have the same one. Whole numbers
of 53 bits at most are their own nearest numbers.
-/

namespace DocumentQuery.Binary64

/-- A greater numerator does not round to a smaller whole number. Of two numerators with one
quotient the greater has the greater remainder, and it is the remainder that decides whether to
round up. -/
theorem roundQuotient_mono (denominator smaller greater : Nat) (ordered : smaller ≤ greater) :
    roundQuotient smaller denominator ≤ roundQuotient greater denominator := by
  have quotients : smaller / denominator ≤ greater / denominator :=
    Nat.div_le_div_right ordered
  have first := Nat.div_add_mod smaller denominator
  have second := Nat.div_add_mod greater denominator
  simp only [roundQuotient]
  rcases Nat.lt_or_eq_of_le quotients with less | same
  · split <;> split <;> omega
  · rw [same] at first ⊢
    split <;> split <;> omega

/-- Rounding a quotient gives its whole part or one more. -/
theorem roundQuotient_bounds (numerator denominator : Nat) :
    numerator / denominator ≤ roundQuotient numerator denominator ∧
      roundQuotient numerator denominator ≤ numerator / denominator + 1 := by
  simp only [roundQuotient]
  split <;> simp

/-- A multiple of the denominator is divided exactly. -/
theorem roundQuotient_exact (whole denominator : Nat) (some : 0 < denominator) :
    roundQuotient (whole * denominator) denominator = whole := by
  simp [roundQuotient, Nat.mul_div_cancel whole some, some]

/-- The bits that rounding drops of a whole part. -/
def dropped (whole : Nat) : Nat := whole.log2 + 1 - 53

/-- The nearest magnitude is a rounded quotient of the dropped bits. -/
theorem nearest_eq (numerator denominator : Nat) :
    nearest numerator denominator =
      roundQuotient numerator (denominator * 2 ^ dropped (numerator / denominator)) *
        2 ^ dropped (numerator / denominator) := rfl

/-- The nearest magnitude does not lie above the next power of two. The bits that are kept are fewer
than it has, so even rounding them up reaches the power at most. -/
theorem nearest_le_pow (numerator denominator : Nat) :
    nearest numerator denominator ≤ 2 ^ ((numerator / denominator).log2 + 1) := by
  rw [nearest_eq]
  generalize whole : numerator / denominator = quotient
  have fewer : dropped quotient ≤ quotient.log2 + 1 := Nat.sub_le _ _
  have split : 2 ^ (quotient.log2 + 1) =
      2 ^ (quotient.log2 + 1 - dropped quotient) * 2 ^ dropped quotient := by
    rw [← pow_add, Nat.sub_add_cancel fewer]
  have below : quotient / 2 ^ dropped quotient <
      2 ^ (quotient.log2 + 1 - dropped quotient) := by
    rw [Nat.div_lt_iff_lt_mul (Nat.two_pow_pos _), ← split]
    exact Nat.lt_log2_self
  have rounded := (roundQuotient_bounds numerator (denominator * 2 ^ dropped quotient)).2
  rw [← Nat.div_div_eq_div_mul, whole] at rounded
  calc roundQuotient numerator (denominator * 2 ^ dropped quotient) * 2 ^ dropped quotient
    _ ≤ 2 ^ (quotient.log2 + 1 - dropped quotient) * 2 ^ dropped quotient :=
        Nat.mul_le_mul_right _ (by omega)
    _ = 2 ^ (quotient.log2 + 1) := split.symm

/-- The nearest magnitude does not lie below the power of two that the whole part reaches. The
leading bit is among those that are kept, and rounding does not go below what is kept. -/
theorem pow_le_nearest (numerator denominator : Nat) (some : numerator / denominator ≠ 0) :
    2 ^ (numerator / denominator).log2 ≤ nearest numerator denominator := by
  rw [nearest_eq]
  generalize whole : numerator / denominator = quotient at some ⊢
  have fewer : dropped quotient ≤ quotient.log2 := by unfold dropped; omega
  have split : 2 ^ quotient.log2 =
      2 ^ (quotient.log2 - dropped quotient) * 2 ^ dropped quotient := by
    rw [← pow_add, Nat.sub_add_cancel fewer]
  have reached : 2 ^ (quotient.log2 - dropped quotient) ≤ quotient / 2 ^ dropped quotient := by
    rw [Nat.le_div_iff_mul_le (Nat.two_pow_pos _), ← split]
    exact Nat.log2_self_le some
  have rounded := (roundQuotient_bounds numerator (denominator * 2 ^ dropped quotient)).1
  rw [← Nat.div_div_eq_div_mul, whole] at rounded
  calc 2 ^ quotient.log2
    _ = 2 ^ (quotient.log2 - dropped quotient) * 2 ^ dropped quotient := split
    _ ≤ roundQuotient numerator (denominator * 2 ^ dropped quotient) * 2 ^ dropped quotient :=
        Nat.mul_le_mul_right _ (reached.trans rounded)

/-- A greater quotient has no smaller nearest magnitude. Where the two have different powers of two,
one of these lies between their nearest magnitudes. -/
theorem nearest_mono (denominator smaller greater : Nat) (ordered : smaller ≤ greater) :
    nearest smaller denominator ≤ nearest greater denominator := by
  have quotients : smaller / denominator ≤ greater / denominator :=
    Nat.div_le_div_right ordered
  by_cases none : smaller / denominator = greater / denominator
  · rw [nearest_eq, nearest_eq, none]
    exact Nat.mul_le_mul_right _ (roundQuotient_mono _ smaller greater ordered)
  · have some : greater / denominator ≠ 0 :=
      fun zero => none ((Nat.le_zero.mp (zero ▸ quotients)).trans zero.symm)
    have powers : (smaller / denominator).log2 ≤ (greater / denominator).log2 := by
      rw [Nat.le_log2 some]
      by_cases zero : smaller / denominator = 0
      · rw [zero, Nat.log2_zero]
        omega
      · exact (Nat.log2_self_le zero).trans quotients
    rcases Nat.lt_or_eq_of_le powers with less | same
    · calc nearest smaller denominator
        _ ≤ 2 ^ ((smaller / denominator).log2 + 1) := nearest_le_pow smaller denominator
        _ ≤ 2 ^ (greater / denominator).log2 := Nat.pow_le_pow_right Nat.two_pos less
        _ ≤ nearest greater denominator := pow_le_nearest greater denominator some
    · have bits : dropped (smaller / denominator) = dropped (greater / denominator) := by
        rw [dropped, dropped, same]
      rw [nearest_eq, nearest_eq, bits]
      exact Nat.mul_le_mul_right _ (roundQuotient_mono _ smaller greater ordered)

/-- A number of 53 bits at most is its own nearest magnitude in units of any power of two. No more
bits are dropped than the power has zeros, so the number is divided without a remainder. -/
theorem nearest_shifted (value places : Nat) (small : value < 2 ^ 53) :
    nearest (value * Nat.pow 2 places) 1 = value * Nat.pow 2 places := by
  generalize quotient : value * Nat.pow 2 places = magnitude
  have bits : dropped magnitude ≤ places := by
    by_cases zero : magnitude = 0
    · rw [zero]
      exact Nat.zero_le places
    · have size : magnitude.log2 < 53 + places := by
        rw [Nat.log2_lt zero, pow_add, ← quotient]
        exact Nat.mul_lt_mul_of_pos_right small (Nat.two_pow_pos places)
      unfold dropped
      omega
  have split : magnitude = value * 2 ^ (places - dropped magnitude) * 2 ^ dropped magnitude := by
    rw [Nat.mul_assoc, ← pow_add, Nat.sub_add_cancel bits, ← quotient, Nat.pow_eq]
  rw [nearest_eq, Nat.div_one, Nat.one_mul]
  calc roundQuotient magnitude (2 ^ dropped magnitude) * 2 ^ dropped magnitude
    _ = value * 2 ^ (places - dropped magnitude) * 2 ^ dropped magnitude := by
        rw [congrArg (roundQuotient · _) split, roundQuotient_exact _ _ (Nat.two_pow_pos _)]
    _ = magnitude := split.symm

/-- The units in one are a power of two. -/
theorem one_eq : one = Nat.pow 2 1074 := by decide +kernel

/-- A whole number of 53 bits at most is its own nearest magnitude. The exponent is a variable in
the proof, since else it would be computed with. -/
theorem nearest_whole (value : Nat) (small : value < 2 ^ 53) :
    nearest (value * one) 1 = value * one := by
  obtain ⟨places, power⟩ : ∃ places, one = Nat.pow 2 places := ⟨1074, one_eq⟩
  rw [power, nearest_shifted value places small]

/-- A greater integer has no smaller nearest number. Of two negative integers the greater one has
the smaller magnitude, and signs are kept, so the order of magnitudes settles each of the cases. -/
theorem ofInt_mono (smaller greater : Int) (ordered : smaller ≤ greater) :
    (ofInt smaller).scaled ≤ (ofInt greater).scaled := by
  simp only [scaled, ofInt, decide_eq_true_eq]
  split <;> split
  · next less greaterLess =>
    have sizes : greater.natAbs * one ≤ smaller.natAbs * one :=
      Nat.mul_le_mul_right _ (by omega)
    have := nearest_mono 1 _ _ sizes
    omega
  · omega
  · omega
  · next more greaterMore =>
    have sizes : smaller.natAbs * one ≤ greater.natAbs * one :=
      Nat.mul_le_mul_right _ (by omega)
    have := nearest_mono 1 _ _ sizes
    omega

end DocumentQuery.Binary64
