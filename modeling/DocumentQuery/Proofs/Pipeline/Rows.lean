import DocumentQuery.Pipeline.Run
import DocumentQuery.Proofs.Except
import Mathlib.Data.List.Forall2

/-!
# Stages that work on each row by itself

Setting and removing fields takes every row for itself. A pipeline of such stages sends all rows
through one stage before any goes through the next, and yet it succeeds exactly if each row
alone comes through all of the stages, with the same rows in the end.
-/

namespace DocumentQuery

/-- A list of steps that may fail succeeds if each of them does, and then its results are theirs in
order. -/
theorem mapM_ok_iff {Failure First Second : Type} (step : First → Except Failure Second)
    (firsts : List First) (seconds : List Second) :
    firsts.mapM step = .ok seconds ↔
      List.Forall₂ (fun first second => step first = .ok second) firsts seconds := by
  induction firsts generalizing seconds with
  | nil => cases seconds <;> simp
  | cons first firsts inductionHypothesis =>
    rw [List.mapM_cons]
    cases head : step first with
    | error failure => cases seconds <;> simp [head]
    | ok second =>
      cases tail : firsts.mapM step with
      | error failure => cases seconds <;> simp [head, ← inductionHypothesis, tail]
      | ok others => cases seconds <;> simp [head, ← inductionHypothesis, tail]

/-- Each answer of a list of steps that succeed is that of one of them. -/
theorem mem_mapM {Failure First Second : Type} (step : First → Except Failure Second)
    (firsts : List First) (seconds : List Second) (answered : firsts.mapM step = .ok seconds)
    (second : Second) (present : second ∈ seconds) :
    ∃ first ∈ firsts, step first = .ok second := by
  have each := (mapM_ok_iff step firsts seconds).mp answered
  clear answered
  induction each with
  | nil => simp at present
  | @cons first other firsts others head _ inductionHypothesis =>
    rcases List.mem_cons.mp present with rfl | later
    · exact ⟨first, List.mem_cons_self, head⟩
    · obtain ⟨source, listed, made⟩ := inductionHypothesis later
      exact ⟨source, List.mem_cons_of_mem first listed, made⟩

/-- Steps that all succeed answer in turn. -/
theorem mapM_made {Failure First Second : Type} (step : First → Except Failure Second)
    (made : First → Second) (firsts : List First)
    (each : ∀ first ∈ firsts, step first = .ok (made first)) :
    firsts.mapM step = .ok (firsts.map made) := by
  rw [mapM_ok_iff, List.forall₂_map_right_iff, List.forall₂_same]
  exact each

/-- Two lists are related through a third one if each two of their items are through an item. The
third list is made of these items. -/
theorem forall₂_through {First Middle Last : Type} (before : First → Middle → Prop)
    (after : Middle → Last → Prop) (firsts : List First) (lasts : List Last) :
    (∃ middles, List.Forall₂ before firsts middles ∧ List.Forall₂ after middles lasts) ↔
      List.Forall₂ (fun first last => ∃ middle, before first middle ∧ after middle last)
        firsts lasts := by
  constructor
  · rintro ⟨middles, left, right⟩
    induction left generalizing lasts with
    | nil =>
      cases right
      exact .nil
    | cons head _ inductionHypothesis =>
      cases right with
      | cons next others => exact .cons ⟨_, head, next⟩ (inductionHypothesis _ others)
  · intro related
    induction related with
    | nil => exact ⟨[], .nil, .nil⟩
    | cons head _ inductionHypothesis =>
      obtain ⟨middle, left, right⟩ := head
      obtain ⟨middles, lefts, rights⟩ := inductionHypothesis
      exact ⟨middle :: middles, .cons left lefts, .cons right rights⟩

/-- A relation of two lists is only about the items of the first. -/
theorem forall₂_congr_left {First Second : Type} {related same : First → Second → Prop}
    {firsts : List First} (agree : ∀ first ∈ firsts, ∀ second, related first second ↔
      same first second) (seconds : List Second) :
    List.Forall₂ related firsts seconds ↔ List.Forall₂ same firsts seconds := by
  induction firsts generalizing seconds with
  | nil => simp
  | cons first firsts inductionHypothesis =>
    have others := inductionHypothesis fun next later =>
      agree next (List.mem_cons_of_mem first later)
    cases seconds with
    | nil => simp
    | cons second seconds => simp [agree first List.mem_cons_self second, others]

/-- A list of steps fails if one of them does; the steps behind the first failure do not matter. -/
theorem mapM_error_iff {Failure First Second : Type} (step : First → Except Failure Second)
    (firsts : List First) :
    (∃ failure, firsts.mapM step = .error failure) ↔
      ∃ first ∈ firsts, ∃ failure, step first = .error failure := by
  induction firsts with
  | nil => simp
  | cons first firsts inductionHypothesis =>
    rw [List.mapM_cons]
    cases head : step first with
    | error failure => simp [head]
    | ok second =>
      cases tail : firsts.mapM step with
      | error failure => simpa [head, tail] using inductionHypothesis
      | ok others => simpa [head, tail] using inductionHypothesis

/-- If no two steps fail in different ways, a list of steps fails in the way that one of them
does. -/
theorem mapM_failed {Failure First Second : Type} (step : First → Except Failure Second)
    (firsts : List First) (failure : Failure)
    (same : ∀ first ∈ firsts, ∀ other, step first = .error other → other = failure)
    (failed : ∃ first ∈ firsts, step first = .error failure) :
    firsts.mapM step = .error failure := by
  induction firsts with
  | nil => simp at failed
  | cons first firsts inductionHypothesis =>
    rw [List.mapM_cons]
    cases head : step first with
    | error other =>
      rw [error_bind, same first List.mem_cons_self other head]
    | ok second =>
      have later : ∃ next ∈ firsts, step next = .error failure := by
        simpa [head] using failed
      have others := inductionHypothesis
        (fun next listed => same next (List.mem_cons_of_mem first listed)) later
      rw [ok_bind, others, error_bind]

/-- A reference reads its path. -/
theorem evaluate_reference (row : Json) (path : String) :
    Expression.evaluate row (fieldReference path) = .ok ((row.valueAt? path).getD .null) := by
  have read : Expression.fieldOf? ("$" ++ path) = some path := by
    simp [Expression.fieldOf?, String.toList_append]
  simp [fieldReference, Expression.evaluate, read]

/-- Whether a stage works on each row by itself, as those that set and remove fields do. -/
def Stage.WorksOnRows : Stage → Prop
  | .compute _ | .unset _ => True
  | _ => False

/-- A row behind a stage that works on each row by itself. -/
def Stage.onRow (row : Json) : Stage → Except Expression.Fault Json
  | .compute fields => computeRow fields row
  | .unset fields => .ok (fields.foldl (fun row field => row.eraseAt field) row)
  | _ => .ok row

/-- A row behind stages that work on each row by itself, taken through all of them. -/
def onRow : List Stage → Json → Except Expression.Fault Json
  | [], row => .ok row
  | stage :: stages, row => do onRow stages (← stage.onRow row)

/-- A row goes through two lists of stages in turn. -/
theorem onRow_append (first second : List Stage) (row : Json) :
    onRow (first ++ second) row = (onRow first row >>= onRow second) := by
  induction first generalizing row with
  | nil => rfl
  | cons stage stages inductionHypothesis =>
    cases answer : stage.onRow row <;> simp [onRow, answer, inductionHypothesis]

/-- A fault that a pipeline reports is no success, and it changes no rows. -/
theorem Pipeline.ofExpression_ok_iff {Part : Type} (answer : Except Expression.Fault Part)
    (part : Part) : Pipeline.ofExpression answer = .ok part ↔ answer = .ok part := by
  cases answer <;> simp [Pipeline.ofExpression]

/-- A stage that works on each row by itself succeeds if it does on every row. -/
theorem Stage.run_ok_iff (stage : Stage) (source : Pipeline.Source) (rows answers : List Json)
    (single : stage.WorksOnRows) : stage.run source rows = .ok answers ↔
      List.Forall₂ (fun row answer => stage.onRow row = .ok answer) rows answers := by
  cases stage with
  | compute fields => rw [Stage.run, Pipeline.ofExpression_ok_iff, mapM_ok_iff]; rfl
  | unset fields =>
    simp only [Stage.run, Stage.onRow, Except.ok.injEq]
    rw [← List.forall₂_eq_eq_eq, List.forall₂_map_left_iff]
  | _ => exact absurd single id

/-- Stages that work on each row by themselves succeed if every row comes through all of them. So
stages that treat all rows in turn and rows that pass all stages in turn come to the same. -/
theorem Pipeline.run_ok_iff (source : Pipeline.Source) (stages : List Stage)
    (rows answers : List Json) (single : ∀ stage ∈ stages, stage.WorksOnRows) :
    Pipeline.run source stages rows = .ok answers ↔
      List.Forall₂ (fun row answer => onRow stages row = .ok answer) rows answers := by
  induction stages generalizing rows with
  | nil => simp only [Pipeline.run, onRow, Except.ok.injEq, List.forall₂_eq_eq_eq]
  | cons stage stages inductionHypothesis =>
    have first : stage.WorksOnRows := single stage List.mem_cons_self
    have others : ∀ other ∈ stages, other.WorksOnRows :=
      fun other later => single other (List.mem_cons_of_mem stage later)
    simp only [Pipeline.run, onRow, bind_ok_iff, ← forall₂_through]
    constructor
    · rintro ⟨middles, ran, rest⟩
      exact ⟨middles, (stage.run_ok_iff source rows middles first).mp ran,
        (inductionHypothesis middles others).mp rest⟩
    · rintro ⟨middles, ran, rest⟩
      exact ⟨middles, (stage.run_ok_iff source rows middles first).mpr ran,
        (inductionHypothesis middles others).mpr rest⟩

end DocumentQuery
