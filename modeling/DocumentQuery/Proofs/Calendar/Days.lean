import Mathlib.Data.Int.Init
import Mathlib.Tactic.ByContra
import DocumentQuery.Calendar.Date

/-!
# Days and their dates

Every number of days is the number of the date that it is given. Years are counted from March and
in cycles of 400, so the days of a cycle before a year follow from its number alone. The year in
which a day lies is found by a division that corrects for the leap days passed; it never falls as
the days go on and is right at both ends of every year, so it is right in between.
-/

namespace DocumentQuery.Date

/-- The days of a cycle before a year of it. -/
def daysBefore (year : Int) : Int := year * 365 + year / 4 - year / 100

/-- The year of a cycle in which a day of it lies. -/
def yearOn (day : Int) : Int := (day - day / 1460 + day / 36524 - day / 146096) / 365

/-- A later day does not lie in an earlier year. Whenever one of the subtracted quotients rises from
one day to the next, the day itself or the added quotient makes up for it. -/
theorem yearOn_mono {day later : Int} (order : day ≤ later) : yearOn day ≤ yearOn later := by
  induction later, order using Int.leInduction with
  | base => exact Int.le_refl _
  | succ later _ inductionHypothesis =>
    refine Int.le_trans inductionHypothesis (Int.ediv_le_ediv (by decide) ?_)
    omega

/-- Each year of a cycle begins where the one before it ends. -/
theorem yearOn_edges : ∀ year : Fin 400, yearOn (daysBefore year) = year ∧
    (0 < year.val → yearOn (daysBefore year - 1) = year - 1) := by
  decide +kernel

/-- A day of a cycle lies within its year. The first days of years are known for each of the 400
years, and by monotony a day behind one of them and before the next is given the year in between. -/
theorem yearOn_spans (day : Int) (least : 0 ≤ day) (most : day < 146097) :
    0 ≤ yearOn day ∧ yearOn day < 400 ∧ daysBefore (yearOn day) ≤ day ∧
      day - daysBefore (yearOn day) ≤ 365 := by
  have first : yearOn 0 = 0 := by decide
  have last : yearOn 146096 = 399 := by decide
  have atLeast : yearOn 0 ≤ yearOn day := yearOn_mono least
  have atMost : yearOn day ≤ yearOn 146096 := yearOn_mono (Int.le_of_lt_add_one most)
  obtain ⟨year, same⟩ : ∃ year : Fin 400, (year : Int) = yearOn day :=
    ⟨⟨(yearOn day).toNat, by omega⟩, Int.toNat_of_nonneg (by omega)⟩
  have began : daysBefore year ≤ day := by
    by_contra later
    have positive : 0 < year.val := by
      rcases Nat.eq_zero_or_pos year.val with zero | positive
      · rw [zero] at later
        exact absurd least later
      · exact positive
    have earlier : yearOn day ≤ yearOn (daysBefore year - 1) := yearOn_mono (by omega)
    rw [(yearOn_edges year).2 positive] at earlier
    omega
  have ends : day - daysBefore year ≤ 365 := by
    by_cases final : year.val = 399
    · rw [final]
      change day - 145731 ≤ 365
      omega
    · have next := (yearOn_edges ⟨year.val + 1, by omega⟩).1
      by_contra later
      have reached : daysBefore ((year.val + 1 : Nat) : Int) ≤ day := by
        unfold daysBefore at later ⊢
        omega
      have behind : yearOn (daysBefore ((year.val + 1 : Nat) : Int)) ≤ yearOn day :=
        yearOn_mono reached
      rw [next] at behind
      simp only at behind
      omega
  rw [← same]
  exact ⟨by omega, by omega, began, ends⟩

/-- The date of a day that is counted from the first of March of a year. -/
def fromMarch (year place : Int) : Date :=
  let monthFromMarch := (5 * place + 2) / 153
  let day := place - (153 * monthFromMarch + 2) / 5 + 1
  let month := if monthFromMarch < 10 then monthFromMarch + 3 else monthFromMarch - 9
  ⟨if month ≤ 2 then year + 1 else year, month.toNat, day.toNat⟩

/-- The month and the day of a date that is counted from March are those of some calendar. -/
theorem fromMarch_bounds (year place : Int) (least : 0 ≤ place) (most : place ≤ 365) :
    1 ≤ (fromMarch year place).month ∧ (fromMarch year place).month ≤ 12 ∧
      1 ≤ (fromMarch year place).day ∧ (fromMarch year place).day ≤ 31 := by
  simp only [fromMarch]
  split <;> omega

/-- A date that is counted from March gives away its year, its month and its day. -/
theorem fromMarch_parts (year place : Int) (least : 0 ≤ place) (most : place ≤ 365) :
    (if (fromMarch year place).month ≤ 2 then (fromMarch year place).year - 1
      else (fromMarch year place).year) = year ∧
    (((fromMarch year place).month : Int) + 9) % 12 = (5 * place + 2) / 153 ∧
    ((fromMarch year place).day : Int) = place - (153 * ((5 * place + 2) / 153) + 2) / 5 + 1 := by
  have early : 0 ≤ (5 * place + 2) / 153 := by omega
  have late : (5 * place + 2) / 153 ≤ 11 := by omega
  simp only [fromMarch]
  refine ⟨?_, ?_, by omega⟩
  · split <;> split <;> omega
  · split <;> omega

/-- The days of a date that is counted from March are those up to its year and within it. -/
theorem toDays_fromMarch (cycle year place : Int) (first : 0 ≤ year) (last : year < 400)
    (least : 0 ≤ place) (most : place ≤ 365) :
    (fromMarch (year + cycle * 400) place).toDays =
      cycle * 146097 + (daysBefore year + place) - 719468 := by
  obtain ⟨marched, month, day⟩ := fromMarch_parts (year + cycle * 400) place least most
  have cycles : (year + cycle * 400).fdiv 400 = cycle := by
    rw [Int.fdiv_eq_ediv_of_nonneg _ (by decide)]
    omega
  simp only [toDays, marched, month, day, cycles, daysBefore]
  omega

/-- A day is counted from March of the year in which it lies. -/
theorem ofDays_eq (days : Int) : ofDays days =
    fromMarch (yearOn ((days + 719468) % 146097) + (days + 719468) / 146097 * 400)
      ((days + 719468) % 146097 - daysBefore (yearOn ((days + 719468) % 146097))) := by
  have cycles : (days + 719468).fdiv 146097 = (days + 719468) / 146097 :=
    Int.fdiv_eq_ediv_of_nonneg _ (by decide)
  have place : days + 719468 - (days + 719468) / 146097 * 146097 = (days + 719468) % 146097 := by
    omega
  simp only [ofDays, cycles, place, yearOn, daysBefore, Int.mul_comm 365]
  rfl

/-- The month and the day of every date lie within bounds. -/
theorem ofDays_bounds (days : Int) : 1 ≤ (ofDays days).month ∧ (ofDays days).month ≤ 12 ∧
    1 ≤ (ofDays days).day ∧ (ofDays days).day ≤ 31 := by
  obtain ⟨-, -, began, ends⟩ :=
    yearOn_spans ((days + 719468) % 146097) (by omega) (by omega)
  rw [ofDays_eq]
  exact fromMarch_bounds _ _ (by omega) ends

/-- The date of a day is counted back to the day. -/
theorem toDays_ofDays (days : Int) : (ofDays days).toDays = days := by
  obtain ⟨first, last, began, ends⟩ :=
    yearOn_spans ((days + 719468) % 146097) (by omega) (by omega)
  rw [ofDays_eq, toDays_fromMarch _ _ _ first last (by omega) ends]
  omega

end DocumentQuery.Date
