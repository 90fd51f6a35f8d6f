/-!
# Steps that may fail

A sequence of steps succeeds exactly if each of them does, each on what the one before it
answered. The first step that fails decides.
-/

namespace DocumentQuery

variable {Failure First Second : Type}

/-- A step that succeeded hands its answer on. -/
@[simp] theorem ok_bind (first : First) (next : First → Except Failure Second) :
    (Except.ok first >>= next) = next first := rfl

/-- A step that failed ends the sequence. -/
@[simp] theorem error_bind (failure : Failure) (next : First → Except Failure Second) :
    (Except.error failure >>= next) = Except.error failure := rfl

/-- An answer alone is a success. -/
@[simp] theorem pure_eq_ok (first : First) : (pure first : Except Failure First) = .ok first := rfl

/-- A failure alone is one. -/
@[simp] theorem throw_eq_error (failure : Failure) :
    (throw failure : Except Failure First) = .error failure := rfl

/-- A sequence of two steps succeeds if both do. -/
theorem bind_ok_iff (step : Except Failure First) (next : First → Except Failure Second)
    (answer : Second) :
    (step >>= next) = .ok answer ↔ ∃ first, step = .ok first ∧ next first = .ok answer := by
  cases step <;> simp

/-- A changed answer comes from a success. -/
theorem map_ok_iff (step : Except Failure First) (change : First → Second) (answer : Second) :
    step.map change = .ok answer ↔ ∃ first, step = .ok first ∧ change first = answer := by
  cases step <;> simp [Except.map]

/-- What a step answers, if it does, is what it succeeds with. -/
theorem toOption_some_iff (step : Except Failure First) (answer : First) :
    step.toOption = some answer ↔ step = .ok answer := by
  cases step <;> simp [Except.toOption]

section

variable {Other : Type} (change : Failure → Other)

/-- A success stays as it is when failures are changed. -/
@[simp] theorem mapError_ok (first : First) :
    (Except.ok first : Except Failure First).mapError change = .ok first := rfl

/-- A failure is changed. -/
@[simp] theorem mapError_error (failure : Failure) :
    (Except.error failure : Except Failure First).mapError change = .error (change failure) := rfl

/-- A success stays one whatever becomes of failures. -/
theorem mapError_ok_iff (step : Except Failure First) (answer : First) :
    step.mapError change = .ok answer ↔ step = .ok answer := by
  cases step <;> simp

end

end DocumentQuery
