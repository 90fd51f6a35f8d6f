import DocumentQuery.Proofs.Compute.Native
import DocumentQuery.Proofs.Compute.Temporaries
import DocumentQuery.Proofs.Pipeline.Rows

/-!
# Lowered formulas have their values

The stages of a lowered formula set temporary fields behind the members of a row, each with the
value of an inner call, and leave everything else as it was. The expression that the formula is
lowered to then has the value of the formula on the row alone. The induction is on the formula;
it is carried by the numbers of the temporary fields, which say that none is set twice.
-/

namespace DocumentQuery.Compute

open Expression (Fault evaluate evaluateItems)

/-- Names of temporary fields with numbers from one up to another. -/
def Numbered (low high : Nat) (names : List String) : Prop :=
  ∀ name ∈ names, ∃ number, low ≤ number ∧ number < high ∧ name = temporaryName number

/-- Numbered names are those of temporary fields. -/
theorem Numbered.isTemporary {low high : Nat} {names : List String}
    (numbered : Numbered low high names) : ∀ name ∈ names, isTemporary name = true := by
  intro name inside
  obtain ⟨number, _, _, rfl⟩ := numbered name inside
  exact isTemporary_name number

/-- Numbered names are one step of a path each. -/
theorem Numbered.plain {low high : Nat} {names : List String}
    (numbered : Numbered low high names) : ∀ name ∈ names, '.' ∉ name.toList := by
  intro name inside
  obtain ⟨number, _, _, rfl⟩ := numbered name inside
  exact temporaryName_plain number

/-- Numbered names of two ranges in turn are numbered in both. -/
theorem Numbered.append {low middle high : Nat} {first second : List String}
    (front : Numbered low middle first) (back : Numbered middle high second)
    (rising : low ≤ middle) (later : middle ≤ high) : Numbered low high (first ++ second) := by
  intro name inside
  rcases List.mem_append.mp inside with early | late
  · obtain ⟨number, above, below, same⟩ := front name early
    exact ⟨number, above, by omega, same⟩
  · obtain ⟨number, above, below, same⟩ := back name late
    exact ⟨number, by omega, below, same⟩

/-- A name with the next number is not among those that are numbered already. -/
theorem Numbered.fresh {low high : Nat} {names : List String}
    (numbered : Numbered low high names) : temporaryName high ∉ names := by
  intro inside
  obtain ⟨number, _, below, same⟩ := numbered _ inside
  have equal := temporaryName_injective high number same
  omega

/-- What is lowered, with its value set to one more temporary field and read there. -/
def Lowered.stored (lowered : Lowered Json) : Lowered Json where
  part := fieldReference (temporaryName lowered.next)
  stages := lowered.stages ++ [.compute [(temporaryName lowered.next, lowered.part)]]
  temporaries := lowered.temporaries ++ [temporaryName lowered.next]
  next := lowered.next + 1

/-- An operand's expression; that for a call reads the temporary field of its value. -/
def lowerOperand (next : Nat) : Formula → Lowered Json
  | .call function operands => (lower next (.call function operands)).stored
  | operand => lower next operand

/-- Operands are lowered in turn. -/
theorem lowerOperands_cons (next : Nat) (operand : Formula) (operands : List Formula) :
    lowerOperands next (operand :: operands) =
      (let first := lowerOperand next operand
       let others := lowerOperands first.next operands
       ⟨first.part :: others.part, first.stages ++ others.stages,
         first.temporaries ++ others.temporaries, others.next⟩) := by
  cases operand <;> rfl

/-- A stage as clauses make it: it sets one field, or it removes some. -/
inductive SetsOne : Stage → Prop where
  | set (name : String) (expression : Json) : SetsOne (.compute [(name, expression)])
  | unset (fields : List String) : SetsOne (.unset fields)

/-- A stage that sets one field works on each row by itself. -/
theorem SetsOne.worksOnRows {stage : Stage} (sets : SetsOne stage) : stage.WorksOnRows := by
  cases sets <;> trivial

/-- What is lowered sets temporary fields that are numbered from the next number on, by stages
that set one field each. -/
structure Lowered.Fresh {Part : Type} (next : Nat) (lowered : Lowered Part) : Prop where
  rising : next ≤ lowered.next
  numbered : Numbered next lowered.next lowered.temporaries
  single : ∀ stage ∈ lowered.stages, SetsOne stage

/-- Nothing is set where nothing is lowered. -/
theorem Lowered.fresh_none {Part : Type} (next : Nat) (part : Part) :
    Lowered.Fresh next ⟨part, [], [], next⟩ :=
  ⟨Nat.le_refl next, by simp [Numbered], by simp⟩

/-- What is stored sets one more temporary field. -/
theorem Lowered.Fresh.stored {next : Nat} {lowered : Lowered Json}
    (fresh : lowered.Fresh next) : lowered.stored.Fresh next := by
  obtain ⟨rising, numbered, single⟩ := fresh
  refine ⟨Nat.le_succ_of_le rising, ?_,
    List.forall_mem_append.mpr ⟨single, List.forall_mem_singleton.mpr (.set _ _)⟩⟩
  refine numbered.append ?_ rising (Nat.le_succ lowered.next)
  intro name last
  exact ⟨lowered.next, Nat.le_refl _, Nat.lt_succ_self _, List.mem_singleton.mp last⟩

/-- An operand sets fresh temporary fields if the formula does. -/
theorem Lowered.Fresh.operand {next : Nat} {operand : Formula}
    (fresh : (lower next operand).Fresh next) : (lowerOperand next operand).Fresh next := by
  cases operand with
  | call function inner => exact fresh.stored
  | field path => exact fresh
  | literal value => exact fresh

mutual

/-- A lowered formula sets fresh temporary fields. -/
theorem lower_fresh (next : Nat) (formula : Formula) : (lower next formula).Fresh next := by
  match formula with
  | .field path => exact Lowered.fresh_none next _
  | .literal value => exact Lowered.fresh_none next _
  | .call function operands =>
    obtain ⟨rising, numbered, single⟩ := lowerOperands_fresh next operands
    exact ⟨rising, numbered, single⟩
termination_by structural formula

/-- Lowered operands set fresh temporary fields. The fields of each operand are numbered from where
those of the operand before it end, so no field is set twice. -/
theorem lowerOperands_fresh (next : Nat) (operands : List Formula) :
    (lowerOperands next operands).Fresh next := by
  match operands with
  | [] => exact Lowered.fresh_none next _
  | operand :: operands =>
    have first := (lower_fresh next operand).operand
    have others := lowerOperands_fresh (lowerOperand next operand).next operands
    rw [lowerOperands_cons]
    refine ⟨Nat.le_trans first.rising others.rising,
      first.numbered.append others.numbered first.rising others.rising, ?_⟩
    intro stage inside
    exact (List.mem_append.mp inside).elim (first.single stage) (others.single stage)
termination_by structural operands

end

/-- The stages of a clause set one field each, and the last may remove some. -/
theorem Clause.stages_setsOne (next : Nat) (clause : Clause) :
    ∀ stage ∈ (clause.stages next).1, SetsOne stage := by
  have set : ∀ stage ∈ (lower next clause.formula).stages ++
      [.compute [(clause.name, (lower next clause.formula).part)]], SetsOne stage :=
    List.forall_mem_append.mpr
      ⟨(lower_fresh next clause.formula).single, List.forall_mem_singleton.mpr (.set _ _)⟩
  simp only [Clause.stages]
  split
  · exact set
  · exact List.forall_mem_append.mpr ⟨set, List.forall_mem_singleton.mpr (.unset _)⟩

/-- The stages of clauses set one field each, whatever number comes next, or remove some. -/
theorem stagesFrom_setsOne (next : Nat) (clauses : List Clause) :
    ∀ stage ∈ stagesFrom next clauses, SetsOne stage := by
  induction clauses generalizing next with
  | nil => simp [stagesFrom]
  | cons clause clauses inductionHypothesis =>
    exact List.forall_mem_append.mpr ⟨clause.stages_setsOne next, inductionHypothesis _⟩

/-- The stages of clauses work on each row by itself, whatever number comes next. -/
theorem stagesFrom_single (next : Nat) (clauses : List Clause) :
    ∀ stage ∈ stagesFrom next clauses, stage.WorksOnRows :=
  fun stage inside => (stagesFrom_setsOne next clauses stage inside).worksOnRows

/-- Members behind a row that are temporary fields. -/
def AllTemporary (members : Members Json) : Prop :=
  ∀ name ∈ Members.names members, isTemporary name = true

/-- Temporary fields behind temporary fields are such. -/
theorem AllTemporary.append {first second : Members Json} (front : AllTemporary first)
    (back : AllTemporary second) : AllTemporary (first ++ second) := by
  intro name inside
  rw [Members.names_append] at inside
  exact (List.mem_append.mp inside).elim (front name) (back name)

/-- What is lowered simulates an answer on the row alone, where some temporary fields are live
behind its members. If the answer is a value, the stages set their temporary fields behind
these, and what is lowered reads as the value, also when later ones have been set. If it is a
fault, the stages have it, or what is lowered does behind them. -/
def Simulates {Part Value : Type} (row live : Members Json) (lowered : Lowered Part)
    (read : Json → Part → Except Fault Value) : Except Fault Value → Prop
  | .ok value => ∃ made : Members Json, Members.names made = lowered.temporaries ∧
      onRow lowered.stages (.object (row ++ live)) = .ok (.object (row ++ live ++ made)) ∧
      ∀ later, AllTemporary later →
        read (.object (row ++ live ++ made ++ later)) lowered.part = .ok value
  | .error fault =>
    onRow lowered.stages (.object (row ++ live)) = .error fault ∨
      ∃ behind, onRow lowered.stages (.object (row ++ live)) = .ok behind ∧
        read behind lowered.part = .error fault

/-- What reads as a value also when later temporary fields have been set reads so before. -/
theorem reads_now {Part Value : Type} (row : Members Json) (part : Part)
    (read : Json → Part → Except Fault Value) (value : Value)
    (reads : ∀ later, AllTemporary later → read (.object (row ++ later)) part = .ok value) :
    read (.object row) part = .ok value := by
  have none : AllTemporary [] := by simp [AllTemporary, Members.names]
  simpa using reads [] none

/-- A row none of whose members is a temporary field. -/
def Clean (row : Members Json) : Prop := ∀ name ∈ Members.names row, isTemporary name = false

/-- A row without temporary fields, and behind it live ones with numbers below the next. -/
structure Live (next : Nat) (row live : Members Json) : Prop where
  plain : Clean row
  numbered : Numbered 0 next (Members.names live)

/-- The next temporary field is not set yet. -/
theorem Live.fresh {next : Nat} {row live : Members Json} (running : Live next row live) :
    temporaryName next ∉ Members.names (row ++ live) := by
  rw [Members.names_append]
  intro inside
  rcases List.mem_append.mp inside with own | earlier
  · have clash := running.plain _ own
    rw [isTemporary_name] at clash
    cases clash
  · exact running.numbered.fresh earlier

/-- Temporary fields that were set in the meantime are live with the others. -/
theorem Live.grow {next high : Nat} {row live made : Members Json} (running : Live next row live)
    (numbered : Numbered next high (Members.names made)) (rising : next ≤ high) :
    Live high row (live ++ made) := by
  refine ⟨running.plain, ?_⟩
  rw [Members.names_append]
  exact running.numbered.append numbered (Nat.zero_le next) rising

/-- An expression that reads the row alone simulates its value by itself. -/
theorem simulates_none {Part Value : Type} {row live : Members Json} (part : Part)
    (next : Nat) (read : Json → Part → Except Fault Value) (value : Value)
    (running : Live next row live)
    (reads : ∀ behind, AllTemporary behind → read (.object (row ++ behind)) part = .ok value) :
    Simulates row live ⟨part, [], [], next⟩ read (.ok value) := by
  refine ⟨[], rfl, by simp [onRow], ?_⟩
  intro later temporary
  have behind : AllTemporary (live ++ later) :=
    AllTemporary.append running.numbered.isTemporary temporary
  simpa using reads (live ++ later) behind

/-- A stage that sets one field evaluates its expression. -/
theorem onRow_set (row : Json) (name : String) (part : Json) :
    onRow [.compute [(name, part)]] row = (do return row.setAt name (← evaluate row part)) := by
  simp only [onRow, Stage.onRow, computeRow, List.mapM_cons, List.mapM_nil]
  cases evaluate row part <;> simp

/-- What is stored simulates the same answer: the last stage sets the value. Its temporary field has
not been set before and is read by its name alone, so it shows the value to all stages behind. -/
theorem Simulates.stored {next : Nat} {row live : Members Json} {lowered : Lowered Json}
    {direct : Except Fault Json} (running : Live next row live) (fresh : lowered.Fresh next)
    (simulates : Simulates row live lowered evaluate direct) :
    Simulates row live lowered.stored evaluate direct := by
  cases direct with
  | error fault =>
    refine .inl ?_
    simp only [Lowered.stored, onRow_append]
    rcases simulates with stopped | ⟨behind, ran, stopped⟩
    · simp [stopped]
    · simp [ran, onRow_set, stopped]
  | ok value =>
    obtain ⟨made, names, ran, reads⟩ := simulates
    have grown : Live lowered.next row (live ++ made) :=
      running.grow (names ▸ fresh.numbered) fresh.rising
    have unset : temporaryName lowered.next ∉ Members.names (row ++ live ++ made) := by
      simpa using grown.fresh
    have now := reads_now (row ++ live ++ made) lowered.part evaluate value reads
    refine ⟨made ++ [(temporaryName lowered.next, value)], ?_, ?_, ?_⟩
    · rw [Members.names_append, names]
      rfl
    · simp only [Lowered.stored, onRow_append, ran, ok_bind, onRow_set, now, pure_eq_ok]
      rw [setAt_plain _ _ value (temporaryName_plain lowered.next),
        Members.insert_absent _ value _ unset, List.append_assoc _ made]
    · intro later _
      have read := valueAt_temporary (row ++ live ++ made) later lowered.next value unset
      have shape : row ++ live ++ (made ++ [(temporaryName lowered.next, value)]) ++ later =
          row ++ live ++ made ++ (temporaryName lowered.next, value) :: later := by simp
      rw [shape, Lowered.stored, evaluate_reference, read]
      rfl

/-- Operands in turn simulate the answers in turn: the temporary fields of the first are live
while the others are evaluated. Once the first is set, reading it does not fail. -/
theorem Simulates.cons {row live : Members Json} {first : Lowered Json}
    {others : Lowered (List Json)} {direct : Except Fault Json}
    {directs : Except Fault (List Json)} (fresh : others.Fresh first.next)
    (readable : ∀ behind, ∃ value, evaluate behind first.part = .ok value)
    (head : Simulates row live first evaluate direct)
    (tail : ∀ made, Members.names made = first.temporaries →
      Simulates row (live ++ made) others evaluateItems directs) :
    Simulates row live ⟨first.part :: others.part, first.stages ++ others.stages,
      first.temporaries ++ others.temporaries, others.next⟩ evaluateItems
      (do let value ← direct; return value :: (← directs)) := by
  cases direct with
  | error fault =>
    rcases head with stopped | ⟨behind, _, stopped⟩
    · exact .inl (by simp [onRow_append, stopped])
    · obtain ⟨value, read⟩ := readable behind
      rw [read] at stopped
      cases stopped
  | ok value =>
    obtain ⟨made, names, ran, reads⟩ := head
    have later := tail made names
    cases directs with
    | error fault =>
      rw [Simulates, ← List.append_assoc] at later
      rcases later with stopped | ⟨behind, ranOthers, stopped⟩
      · exact .inl (by simp only [onRow_append, ran, ok_bind, stopped])
      · obtain ⟨again, read⟩ := readable behind
        refine .inr ⟨behind, ?_, ?_⟩
        · simp only [onRow_append, ran, ok_bind, ranOthers]
        · simp [evaluateItems, read, stopped]
    | ok values =>
      obtain ⟨added, addedNames, ranOthers, readsOthers⟩ := later
      rw [← List.append_assoc] at ranOthers
      refine ⟨made ++ added, ?_, ?_, ?_⟩
      · rw [Members.names_append, names, addedNames]
      · rw [onRow_append, ran, ok_bind, ranOthers, List.append_assoc _ made]
      · intro later temporary
        have behind : AllTemporary added := by
          rw [AllTemporary, addedNames]
          exact fresh.numbered.isTemporary
        have first := reads (added ++ later) (behind.append temporary)
        have rest := readsOthers later temporary
        simp only [List.append_assoc] at first rest ⊢
        simp only [evaluateItems, first, rest, ok_bind, pure_eq_ok]

/-- A call simulates the function on the answers of its operands. It adds no stage of its own: its
expression reads the operands behind their stages and applies the function to what it reads. -/
theorem Simulates.call {row live : Members Json} {lowered : Lowered (List Json)}
    {directs : Except Fault (List Json)} (function : Function)
    (native : ∀ behind, evaluate behind (nativeExpression function lowered.part) =
      (evaluateItems behind lowered.part >>= function.apply))
    (simulates : Simulates row live lowered evaluateItems directs) :
    Simulates row live { lowered with part := nativeExpression function lowered.part } evaluate
      (directs >>= function.apply) := by
  cases directs with
  | error fault =>
    rcases simulates with stopped | ⟨behind, ran, stopped⟩
    · exact .inl stopped
    · exact .inr ⟨behind, ran, by rw [native, stopped]; rfl⟩
  | ok values =>
    obtain ⟨made, names, ran, reads⟩ := simulates
    rw [ok_bind]
    cases answer : function.apply values with
    | error fault =>
      have now := reads_now (row ++ live ++ made) lowered.part evaluateItems values reads
      exact .inr ⟨_, ran, by rw [native, now, ok_bind, answer]⟩
    | ok value =>
      refine ⟨made, names, ran, ?_⟩
      intro later temporary
      rw [native, reads later temporary, ok_bind, answer]

/-- An operand's expression stands for it. -/
theorem standsFor_lowerOperand (next : Nat) (operand : Formula) (accepted : operand.Accepted) :
    StandsFor operand (lowerOperand next operand).part := by
  cases operand with
  | field path => exact ⟨by simp [lowerOperand, lower, fieldReference], by simp⟩
  | literal value =>
    refine ⟨fun items => literal_single value items accepted, ?_⟩
    intro other same
    cases same
    rfl
  | call function operands =>
    exact ⟨by simp [lowerOperand, Lowered.stored, fieldReference], by simp⟩

/-- Reading an operand does not fail. -/
theorem lowerOperand_readable (next : Nat) (operand : Formula) (accepted : operand.Accepted)
    (row : Json) : ∃ value, evaluate row (lowerOperand next operand).part = .ok value := by
  cases operand with
  | field path => exact ⟨_, evaluate_reference row path⟩
  | literal value => exact ⟨value, evaluate_literal row value accepted⟩
  | call function operands => exact ⟨_, evaluate_reference row _⟩

/-- Operands' expressions stand for them. -/
theorem standsFor_lowerOperands (next : Nat) (operands : List Formula)
    (accepted : Formula.AllAccepted operands) :
    List.Forall₂ StandsFor operands (lowerOperands next operands).part := by
  induction operands generalizing next with
  | nil => exact .nil
  | cons operand operands inductionHypothesis =>
    obtain ⟨first, others⟩ := accepted
    rw [lowerOperands_cons]
    exact .cons (standsFor_lowerOperand next operand first) (inductionHypothesis _ others)

mutual

/-- A lowered formula simulates its value. Fields and literals need no stages, because temporary
fields stand behind the members of the row and hide none of them; a call is simulated from its
operands. -/
theorem lower_simulates (next : Nat) (formula : Formula) (row live : Members Json)
    (running : Live next row live) (accepted : formula.Accepted)
    (clean : ∀ path ∈ formula.paths, isTemporary path = false) :
    Simulates row live (lower next formula) evaluate (formula.value (.object row)) := by
  match formula, accepted with
  | .field path, _ =>
    refine simulates_none _ next evaluate _ running ?_
    intro behind temporary
    rw [evaluate_reference, valueAt_behind row behind path (clean path (by simp [Formula.paths]))
      temporary]
  | .literal value, scalar =>
    refine simulates_none _ next evaluate _ running ?_
    intro behind _
    exact evaluate_literal _ value scalar
  | .call function operands, ⟨takes, all⟩ =>
    have native (behind : Json) := evaluate_native behind function operands
      (lowerOperands next operands).part takes (standsFor_lowerOperands next operands all)
    exact (lowerOperands_simulates next operands row live running all clean).call function native
termination_by structural formula

/-- Lowered operands simulate their values. An operand that is a call is stored in a temporary
field. The others are lowered behind it, with this field among those that are live. -/
theorem lowerOperands_simulates (next : Nat) (operands : List Formula) (row live : Members Json)
    (running : Live next row live) (accepted : Formula.AllAccepted operands)
    (clean : ∀ path ∈ Formula.pathsOf operands, isTemporary path = false) :
    Simulates row live (lowerOperands next operands) evaluateItems
      (Formula.values (.object row) operands) := by
  match operands, accepted with
  | [], _ => exact simulates_none _ next evaluateItems _ running fun _ _ => rfl
  | operand :: operands, ⟨first, others⟩ =>
    have firstClean : ∀ path ∈ operand.paths, isTemporary path = false :=
      fun path inside => clean path (List.mem_append_left _ inside)
    have othersClean : ∀ path ∈ Formula.pathsOf operands, isTemporary path = false :=
      fun path inside => clean path (List.mem_append_right _ inside)
    have simulates := lower_simulates next operand row live running first firstClean
    have head : Simulates row live (lowerOperand next operand) evaluate
        (operand.value (.object row)) := by
      cases operand with
      | call function inner => exact simulates.stored running (lower_fresh next _)
      | field path => exact simulates
      | literal value => exact simulates
    have fresh : (lowerOperand next operand).Fresh next := (lower_fresh next operand).operand
    have tail := lowerOperands_fresh (lowerOperand next operand).next operands
    rw [lowerOperands_cons]
    refine head.cons tail (lowerOperand_readable next operand first) ?_
    intro made names
    have grown : Live (lowerOperand next operand).next row (live ++ made) :=
      running.grow (names ▸ fresh.numbered) fresh.rising
    exact lowerOperands_simulates _ operands row (live ++ made) grown others othersClean
termination_by structural operands

end

end DocumentQuery.Compute
