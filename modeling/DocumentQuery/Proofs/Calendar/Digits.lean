import Mathlib.Algebra.Group.Nat.Defs
import DocumentQuery.Calendar.Layout
import DocumentQuery.Proofs.Text.Trimming

/-!
# Numbers in dates

Numbers are written in digits of a least width, and years with a sign where four digits are not
enough. What reads the numbers of a date reads such a one back, whatever follows it: a bounded
number stops at its width, and a year at the first character that is no digit.
-/

namespace DocumentQuery

open Instant (padded yearText)

section Digits

variable (width value : Nat)

/-- A padded number consists of digits. -/
theorem Instant.padded_digits : ∀ char ∈ padded width value, char.isDigit = true := by
  intro char inside
  rcases List.mem_append.mp inside with zero | digit
  · rw [List.eq_of_mem_replicate zero]
    rfl
  · exact Nat.isDigit_of_mem_toDigits (by decide) (by decide) digit

/-- A padded number has at least one digit. -/
theorem Instant.padded_ne_nil : padded width value ≠ [] :=
  List.append_ne_nil_of_right_ne_nil _ Nat.toDigits_ne_nil

/-- A number that fits has the width to which it is padded. -/
theorem Instant.padded_length (positive : 0 < width) (fits : value < 10 ^ width) :
    (padded width value).length = width := by
  have digits := (Nat.length_toDigits_le_iff (by decide) positive).mpr fits
  rw [padded, List.length_append, List.length_replicate]
  omega

/-- A padded number has the value of the number. -/
theorem Instant.digitsValue_padded : Text.digitsValue (padded width value) = value := by
  have zeros (count : Nat) (digits : List Char) :
      Text.digitsValue (List.replicate count '0' ++ digits) = Text.digitsValue digits := by
    induction count with
    | zero => rfl
    | succ count inductionHypothesis => exact inductionHypothesis
  rw [padded, zeros]
  exact Nat.ofDigitChars_ten_toDigits

end Digits

/-- The text of a year begins with a sign or consists of four digits. -/
theorem Instant.yearText_start (year : Int) :
    (∃ digits, yearText year = '-' :: digits ∨ yearText year = '+' :: digits) ∨
      (yearText year).length = 4 ∧ ∀ char ∈ yearText year, char.isDigit = true := by
  unfold yearText
  split
  next short =>
    exact .inr ⟨padded_length 4 year.natAbs (by decide) (by omega), padded_digits 4 year.natAbs⟩
  next =>
    refine .inl ⟨padded 4 year.natAbs, ?_⟩
    split
    · exact .inl rfl
    · exact .inr rfl

/-- A digit or a sign is no blank and begins no name of a month. -/
theorem Calendar.digit_or_sign_apart (char : Char)
    (starts : char.isDigit = true ∨ char = '-' ∨ char = '+') : Text.isBlank char = false ∧
      ∀ name ∈ monthNames, name.toList.head? ≠ some char.toLower := by
  have all : ∀ code ∈ 43 :: 45 :: List.range' 48 10, Text.isBlank (Char.ofNat code) = false ∧
      ∀ name ∈ monthNames, name.toList.head? ≠ some (Char.ofNat code).toLower := by
    decide +kernel
  have listed : char.toNat ∈ 43 :: 45 :: List.range' 48 10 := by
    rcases starts with digit | rfl | rfl
    · exact List.mem_cons_of_mem 43 (List.mem_cons_of_mem 45 (Filter.digit_listed char digit))
    · exact List.mem_cons_of_mem 43 List.mem_cons_self
    · exact List.mem_cons_self
  simpa using all char.toNat listed

namespace Calendar

/-- Digits are read up to the width that is asked for, or up to the first other character. Either
all of the width is filled, or something that is no digit ends them before. -/
theorem readDigits_front (width : Nat) (digits rest : List Char)
    (all : ∀ char ∈ digits, char.isDigit = true) (filled : digits ≠ [])
    (ends : digits.length = width ∨
      digits.length ≤ width ∧ rest.head?.any Char.isDigit = false) :
    readDigits width (digits ++ rest) = some (digits, rest) := by
  have taken : ((digits ++ rest).take width).takeWhile Char.isDigit = digits := by
    rcases ends with rfl | ⟨fits, other⟩
    · rw [List.take_left]
      exact List.takeWhile_eq_self_iff.mpr all
    · rw [List.take_append, List.take_of_length_le fits]
      refine Filter.takeWhile_spelling Char.isDigit digits _ all ?_
      cases left : width - digits.length with
      | zero => rfl
      | succ count => cases rest <;> simp_all
  simp only [readDigits, taken, List.isEmpty_iff, filled, if_false, List.drop_left]

/-- A number of a given width is read exactly, whatever follows. -/
theorem readExactly_padded (width value : Nat) (rest : List Char) (positive : 0 < width)
    (fits : value < 10 ^ width) :
    readExactly width (padded width value ++ rest) = some (value, rest) := by
  have length := Instant.padded_length width value positive fits
  have front : (padded width value ++ rest).take width = padded width value := by
    rw [List.take_left' length]
  simp only [readExactly, front, length, List.all_eq_true, Instant.digitsValue_padded,
    List.drop_left' length, true_and]
  exact if_pos (Instant.padded_digits width value)

/-- No number is read where another character stands than a digit. -/
theorem readExactly_other (width : Nat) (char : Char) (rest : List Char)
    (other : char.isDigit = false) : readExactly (width + 1) (char :: rest) = none := by
  simp only [readExactly, List.take_succ_cons, List.all_cons, other, Bool.false_and,
    Bool.false_eq_true, and_false, if_false]

/-- Digits are not taken for blanks. -/
theorem trimStart_digits (digits rest : List Char) (filled : digits ≠ [])
    (all : ∀ char ∈ digits, char.isDigit = true) :
    Text.trimStart (digits ++ rest) = digits ++ rest := by
  cases digits with
  | nil => exact absurd rfl filled
  | cons digit digits =>
    have blank := (Filter.startsNumeral_apart digit (.inl (all digit List.mem_cons_self))).1
    simp [Text.trimStart, blank]

/-- A number of a given width is read as such, whatever follows. -/
theorem readNumber_padded (width value : Nat) (rest : List Char) (positive : 0 < width)
    (fits : value < 10 ^ width) :
    readNumber width (padded width value ++ rest) = some (value, rest) := by
  have digits := Instant.padded_digits width value
  have filled := Instant.padded_ne_nil width value
  have front := readDigits_front width _ rest digits filled
    (.inl (Instant.padded_length width value positive fits))
  simp only [readNumber, trimStart_digits _ rest filled digits, front, Option.map_some,
    Instant.digitsValue_padded]

/-- A value within the bounds passes them. -/
theorem within_some (least greatest value : Nat) (rest : List Char) (low : least ≤ value)
    (high : value ≤ greatest) :
    within least greatest (some (value, rest)) = some (value, rest) := by
  simp [within, low, high]

/-- A number of two digits within the bounds is read, whatever follows. -/
theorem within_padded (least greatest value : Nat) (rest : List Char) (low : least ≤ value)
    (high : value ≤ greatest) (short : greatest < 100) :
    within least greatest (readNumber 2 (padded 2 value ++ rest)) = some (value, rest) := by
  rw [readNumber_padded 2 value rest (by decide) (by omega), within_some _ _ value rest low high]

/-- A year is read up to the first character that is no digit. A year of four digits has no sign and
is read with this width; any other has a sign, behind which all digits are read. -/
theorem readYear_yearText (year : Int) (rest : List Char)
    (ends : rest.head?.any Char.isDigit = false) :
    readYear (yearText year ++ rest) = some (year, rest) := by
  have digits := Instant.padded_digits 4 year.natAbs
  have filled := Instant.padded_ne_nil 4 year.natAbs
  by_cases short : 0 ≤ year ∧ year ≤ 9999
  case pos =>
    have number := readNumber_padded 4 year.natAbs rest (by decide) (by omega)
    have start := trimStart_digits _ rest filled digits
    have same : (year.natAbs : Int) = year := by omega
    rw [yearText, if_pos short, readYear]
    cases spelled : padded 4 year.natAbs with
    | nil => exact absurd spelled filled
    | cons digit others =>
      have isDigit : digit.isDigit = true := digits digit (by simp [spelled])
      have noMinus : digit ≠ '-' := by rintro rfl; cases isDigit
      have noPlus : digit ≠ '+' := by rintro rfl; cases isDigit
      rw [spelled, List.cons_append] at number start
      simp [start, noMinus, noPlus, number, same]
  case neg =>
    have whole := readDigits_front (padded 4 year.natAbs ++ rest).length _ rest digits filled
      (.inr ⟨by simp, ends⟩)
    rw [yearText, if_neg short, readYear]
    by_cases negative : year < 0
    · have same : -(year.natAbs : Int) = year := by omega
      have start : Text.trimStart ('-' :: (padded 4 year.natAbs ++ rest)) =
          '-' :: (padded 4 year.natAbs ++ rest) := rfl
      simp only [if_pos negative, List.cons_append, start, whole, Option.map_some,
        Instant.digitsValue_padded, same]
    · have same : (year.natAbs : Int) = year := by omega
      have start : Text.trimStart ('+' :: (padded 4 year.natAbs ++ rest)) =
          '+' :: (padded 4 year.natAbs ++ rest) := rfl
      simp only [if_neg negative, List.cons_append, start, whole, Option.map_some,
        Instant.digitsValue_padded, same]

end Calendar

end DocumentQuery
