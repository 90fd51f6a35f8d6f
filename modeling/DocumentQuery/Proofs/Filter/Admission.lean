import DocumentQuery.Filter.Policy
import DocumentQuery.Proofs.Except

/-!
# What a policy admits

A text is compiled exactly if it is no longer than allowed and is read as a condition whose
operators are allowed. The predicate is the condition's, with storage names, behind the change
that is made last. That change is made of compiled texts only: it is not made of the predicate that
stands for no filter, nor of predicates that were made elsewhere.
-/

namespace DocumentQuery.Filter

/-- The predicate of a condition with storage names, behind the last change. -/
def Policy.predicateOf (policy : Policy) (condition : Condition) : Json :=
  let stored := if policy.renamed.isEmpty then condition.predicate
    else renameFields policy.renamed condition.predicate
  match policy.transform with
  | some transform => transform stored
  | none => stored

/-- The conditions that a text is compiled through: it is no longer than allowed, it is read as the
condition, and no operator of its predicate is one that is not allowed. -/
structure Policy.Admits (policy : Policy) (text : String) (condition : Condition) : Prop where
  length : ∀ maximum, policy.maximumLength = some maximum → text.utf8ByteSize ≤ maximum
  read : Condition.ofText text = .ok condition
  operators : ∀ allowed, policy.allowed = some allowed →
    firstDisallowed? allowed condition.predicate = none

/-- The length is looked at first, and nothing else depends on its bound. So the bound can be split
off as a condition of its own, and the rest is done under the policy without it. -/
theorem Policy.compileText_length (policy : Policy) (text : String) (predicate : Json) :
    policy.compileText text = .ok predicate ↔
      (∀ maximum, policy.maximumLength = some maximum → text.utf8ByteSize ≤ maximum) ∧
        { policy with maximumLength := none }.compileText text = .ok predicate := by
  obtain ⟨allowed, maximum, renamed, transform⟩ := policy
  cases maximum with
  | none => simp
  | some maximum =>
    by_cases long : maximum < text.utf8ByteSize
    · have refused : Policy.compileText ⟨allowed, some maximum, renamed, transform⟩ text =
          .error (.tooLong text.utf8ByteSize maximum) := if_pos long
      simp only [refused, reduceCtorEq, Option.some.injEq, forall_eq', false_iff, not_and]
      omega
    · have passed : Policy.compileText ⟨allowed, some maximum, renamed, transform⟩ text =
          Policy.compileText ⟨allowed, none, renamed, transform⟩ text := if_neg long
      simp only [passed, Option.some.injEq, forall_eq', iff_and_self]
      omega

/-- A text that is read is compiled if none of its operators is refused. They are looked for in the
predicate of the text, before its fields are renamed. -/
theorem Policy.compileText_operators (policy : Policy) (text : String) (predicate : Json)
    (condition : Condition) (unbounded : policy.maximumLength = none)
    (read : Condition.ofText text = .ok condition) :
    policy.compileText text = .ok predicate ↔
      (∀ allowed, policy.allowed = some allowed →
        firstDisallowed? allowed condition.predicate = none) ∧
      predicate = policy.predicateOf condition := by
  obtain ⟨allowed, maximum, renamed, transform⟩ := policy
  obtain rfl : maximum = none := unbounded
  have compiled : Policy.compileText ⟨allowed, none, renamed, transform⟩ text =
      match allowed.bind fun allowed => firstDisallowed? allowed condition.predicate with
      | some name => .error (.operatorNotAllowed name)
      | none => .ok (Policy.predicateOf ⟨allowed, none, renamed, transform⟩ condition) := by
    simp only [Policy.compileText, read]
    cases allowed with
    | none => rfl
    | some allowed =>
      cases found : firstDisallowed? allowed condition.predicate with
      | none => simp only [pure_bind, found, Option.bind_some]; rfl
      | some name => simp only [pure_bind, found, Option.bind_some]; rfl
  rw [compiled]
  cases allowed with
  | none => simp [eq_comm]
  | some allowed =>
    cases found : firstDisallowed? allowed condition.predicate with
    | none => simp [found, eq_comm]
    | some name => simp [found]

/-- A text is compiled exactly through the conditions that the policy admits for it. There is one at
most, since a text is read as one condition, and its predicate is what the text is compiled to. -/
theorem Policy.compileText_iff (policy : Policy) (text : String) (predicate : Json) :
    policy.compileText text = .ok predicate ↔
      ∃ condition, policy.Admits text condition ∧ predicate = policy.predicateOf condition := by
  rw [compileText_length]
  cases read : Condition.ofText text with
  | error fault =>
    have refused : { policy with maximumLength := none }.compileText text =
        .error (.malformed fault) := by
      simp [compileText, read]
    constructor
    · rintro ⟨-, compiled⟩
      exact absurd (refused.symm.trans compiled) (by simp)
    · rintro ⟨condition, admitted, -⟩
      exact absurd (read.symm.trans admitted.read) (by simp)
  | ok condition =>
    rw [compileText_operators _ text predicate condition rfl read]
    constructor
    · rintro ⟨short, allowed, rfl⟩
      exact ⟨condition, ⟨short, read, allowed⟩, rfl⟩
    · rintro ⟨other, admitted, rfl⟩
      obtain rfl := Except.ok.inj (read.symm.trans admitted.read)
      exact ⟨admitted.length, admitted.operators, rfl⟩

/-- A source is compiled as a text unless it is absent, blank, or a predicate made elsewhere. -/
def Source.IsWritten (source : Option Source) : Prop :=
  ∃ text, source = some (.text text) ∧ text.toList.all Text.isBlank = false

/-- A text that is not blank is compiled as it is written. -/
theorem Policy.compile_text (policy : Policy) (text : String)
    (unblank : text.toList.all Text.isBlank = false) :
    policy.compile (some (.text text)) = policy.compileText text := by
  simp only [compile, unblank, Bool.false_eq_true, if_false]

/-- The last change is made of what a written source is compiled to without it. It comes behind the
renaming of fields and has no part in what is admitted. -/
theorem Policy.compile_written (policy : Policy) (source : Option Source) (predicate : Json)
    (written : Source.IsWritten source) :
    policy.compile source = .ok predicate ↔
      ∃ stored, { policy with transform := none }.compile source = .ok stored ∧
        predicate = policy.transform.elim stored fun transform => transform stored := by
  obtain ⟨text, rfl, unblank⟩ := written
  have changed (condition : Condition) : policy.predicateOf condition =
      policy.transform.elim ({ policy with transform := none }.predicateOf condition)
        fun transform => transform ({ policy with transform := none }.predicateOf condition) := by
    unfold predicateOf
    cases policy.transform <;> rfl
  rw [compile_text _ text unblank, compile_text _ text unblank]
  simp only [compileText_iff]
  constructor
  · rintro ⟨condition, admitted, rfl⟩
    exact ⟨_, ⟨condition, ⟨admitted.length, admitted.read, admitted.operators⟩, rfl⟩,
      changed condition⟩
  · rintro ⟨stored, ⟨condition, admitted, rfl⟩, rfl⟩
    exact ⟨condition, ⟨admitted.length, admitted.read, admitted.operators⟩,
      (changed condition).symm⟩

/-- The last change is not made of sources that are not compiled as texts. -/
theorem Policy.compile_unwritten (policy : Policy) (source : Option Source)
    (unwritten : ¬ Source.IsWritten source) :
    policy.compile source = { policy with transform := none }.compile source := by
  match source with
  | none => rfl
  | some (.predicate predicate) => rfl
  | some (.text text) =>
    have blank : text.toList.all Text.isBlank = true :=
      eq_true_of_ne_false fun unblank => unwritten ⟨text, rfl, unblank⟩
    simp only [compile, blank, if_true]

end DocumentQuery.Filter
