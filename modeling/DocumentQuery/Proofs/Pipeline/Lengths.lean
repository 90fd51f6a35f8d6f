import DocumentQuery.Proofs.Compute.Simulation

/-!
# How many rows come through stages

A stage makes no more rows than it is given, the one that takes arrays apart excepted; and where
it is given none, it makes none.
-/

namespace DocumentQuery

/-- Selecting keeps no more rows than there are, whichever rows the predicate is met by. -/
theorem Predicate.select_length (predicate : Json) (rows kept : List Json)
    (selected : Predicate.select predicate rows = .ok kept) : kept.length ≤ rows.length := by
  induction rows generalizing kept with
  | nil =>
    obtain rfl := Except.ok.inj selected
    exact Nat.le_refl _
  | cons row rows inductionHypothesis =>
    obtain ⟨holds, _, rest⟩ := (bind_ok_iff _ _ _).mp selected
    obtain ⟨others, selectedOthers, joined⟩ := (bind_ok_iff _ _ _).mp rest
    have fewer := inductionHypothesis others selectedOthers
    obtain rfl := Except.ok.inj joined
    split
    · exact Nat.succ_le_succ fewer
    · exact Nat.le_succ_of_le fewer

/-- An inserted row is one row more. -/
theorem insertRow_perm (keys : List SortKey) (row : Json) (sorted : List Json) :
    (insertRow keys row sorted).Perm (row :: sorted) := by
  induction sorted with
  | nil => exact .refl _
  | cons last others inductionHypothesis =>
    unfold insertRow
    split
    · exact (inductionHypothesis.cons last).trans (.swap row last others)
    · exact .refl _

/-- Sorting moves rows, and neither loses nor repeats any. This holds of every order, also where the
comparison is not transitive. -/
theorem sortRows_perm (keys : List SortKey) (rows : List Json) :
    (sortRows keys rows).Perm rows := by
  have folded (sorted : List Json) :
      (rows.foldl (fun sorted row => insertRow keys row sorted) sorted).Perm
        (rows.reverse ++ sorted) := by
    induction rows generalizing sorted with
    | nil => exact .refl _
    | cons row rows inductionHypothesis =>
      rw [List.foldl_cons, List.reverse_cons, List.append_assoc]
      exact (inductionHypothesis _).trans
        ((insertRow_perm keys row sorted).append_left rows.reverse)
  exact (List.reverse_perm _).trans ((folded []).trans (by simp))

/-- A row in its group makes one more group at most. -/
theorem addToGroup_length (key row : Json) (groups : List RowGroup) :
    (addToGroup key row groups).length ≤ groups.length + 1 := by
  induction groups with
  | nil => exact Nat.le_refl _
  | cons group groups inductionHypothesis =>
    unfold addToGroup
    split
    · exact Nat.le_succ _
    · exact Nat.succ_le_succ inductionHypothesis

/-- There are no more groups than rows, because each row joins a group that is there or
begins one. -/
theorem groupRows_length (keys : List String) (rows : List Json) :
    (groupRows keys rows).length ≤ rows.length := by
  have folded (groups : List RowGroup) :
      (rows.foldl (fun groups row => addToGroup (groupKey keys row) row groups) groups).length ≤
        groups.length + rows.length := by
    induction rows generalizing groups with
    | nil => exact Nat.le_refl _
    | cons row rows inductionHypothesis =>
      have first := addToGroup_length (groupKey keys row) row groups
      have others := inductionHypothesis (addToGroup (groupKey keys row) row groups)
      rw [List.foldl_cons, List.length_cons]
      omega
  simpa [groupRows] using folded []

/-- Steps that succeed give as many answers as there are steps. -/
theorem mapM_length {Failure First Second : Type} (step : First → Except Failure Second)
    (firsts : List First) (seconds : List Second) (answered : firsts.mapM step = .ok seconds) :
    seconds.length = firsts.length :=
  ((mapM_ok_iff step firsts seconds).mp answered).length_eq.symm

/-- A fault that a pipeline reports of a predicate is no success, and it changes no rows. -/
theorem Pipeline.ofPredicate_ok_iff {Part : Type} (answer : Except Predicate.Fault Part)
    (part : Part) : Pipeline.ofPredicate answer = .ok part ↔ answer = .ok part :=
  mapError_ok_iff _ answer part

/-- Whether a stage makes no more rows than it is given, as all do but unwinding. -/
def Stage.Narrows : Stage → Prop
  | .unwind _ _ => False
  | _ => True

/-- A stage that works on each row by itself makes one of each. -/
theorem Stage.WorksOnRows.narrows {stage : Stage} (single : stage.WorksOnRows) :
    stage.Narrows := by
  cases stage <;> trivial

namespace Pipeline

variable (source : Source)

/-- Rows pass through two lists of stages in turn. -/
theorem run_append (first second : List Stage)
    (rows : List Json) : Pipeline.run source (first ++ second) rows =
      (Pipeline.run source first rows >>= Pipeline.run source second) := by
  induction first generalizing rows with
  | nil => rfl
  | cons stage stages inductionHypothesis =>
    cases ran : stage.run source rows <;> simp [Pipeline.run, ran, inductionHypothesis]

/-- A stage that narrows makes no more rows than it is given. Only unwinding can make several rows
of one, and it does not count as narrowing. -/
theorem stage_length (stage : Stage) (rows answers : List Json) (narrows : stage.Narrows)
    (ran : stage.run source rows = .ok answers) : answers.length ≤ rows.length := by
  cases stage with
  | matching predicate =>
    exact Predicate.select_length predicate rows answers ((ofPredicate_ok_iff _ _).mp ran)
  | group keys accumulators =>
    have groups := mapM_length _ _ _ ((ofExpression_ok_iff _ _).mp ran)
    exact groups ▸ groupRows_length keys rows
  | project projection =>
    exact Nat.le_of_eq (mapM_length _ _ _ ((ofExpression_ok_iff _ _).mp ran))
  | compute fields => exact Nat.le_of_eq (mapM_length _ _ _ ((ofExpression_ok_iff _ _).mp ran))
  | unset fields =>
    obtain rfl := Except.ok.inj ran
    simp
  | sort keys =>
    obtain rfl := Except.ok.inj ran
    exact Nat.le_of_eq (sortRows_perm keys rows).length_eq
  | skip count =>
    obtain rfl := Except.ok.inj ran
    simp
  | limit count =>
    obtain rfl := Except.ok.inj ran
    exact List.length_take_le' count rows
  | lookup join =>
    obtain rfl := Except.ok.inj ran
    simp
  | unwind path preserve => exact absurd narrows id

/-- Stages that narrow make no more rows than they are given, by induction on the stages. -/
theorem run_length (stages : List Stage) (rows answers : List Json)
    (narrow : ∀ stage ∈ stages, stage.Narrows)
    (ran : Pipeline.run source stages rows = .ok answers) : answers.length ≤ rows.length := by
  induction stages generalizing rows with
  | nil =>
    obtain rfl := Except.ok.inj ran
    exact Nat.le_refl _
  | cons stage stages inductionHypothesis =>
    obtain ⟨between, first, rest⟩ := (bind_ok_iff _ _ _).mp ran
    have fewer := stage_length source stage rows between (narrow stage List.mem_cons_self) first
    have others := inductionHypothesis between (fun other later =>
      narrow other (List.mem_cons_of_mem stage later)) rest
    exact Nat.le_trans others fewer

/-- A stage makes no rows of none. -/
theorem stage_none (stage : Stage) (answers : List Json)
    (ran : stage.run source [] = .ok answers) : answers = [] := by
  by_cases narrows : stage.Narrows
  · have fewer := stage_length source stage [] answers narrows ran
    exact List.length_eq_zero_iff.mp (Nat.le_zero.mp fewer)
  · cases stage with
    | unwind path preserve => exact (Except.ok.inj ran).symm
    | _ => exact absurd trivial narrows

end Pipeline

end DocumentQuery
