import DocumentQuery.Proofs.Batch.Atomicity
import DocumentQuery.Proofs.Batch.Writes
import DocumentQuery.Proofs.Collecting
import Mathlib.Data.List.Basic
import Mathlib.Data.List.Perm.Basic

/-!
# The order of a batch

Collecting operations by their groups loses none of them and keeps their order: every group is the
list of the operations that name it, and the groups stand in the order of their first operations.
Since the operations without a group come first, nothing that a group does reaches their answers.
Each of them is for itself all or nothing: its mutation takes effect and is answered with a success,
or every row is left as it was.
-/

namespace DocumentQuery.Batch

/-- The operations that name a group. -/
def ofGroup (operations : List Operation) (name : String) : List Operation :=
  operations.filter fun operation => operation.group? = some name

/-- The operations outside a group. -/
def outside (operations : List Operation) (name : String) : List Operation :=
  operations.filter fun operation => !decide (operation.group? = some name)

/-- The names of the groups, each where it appears first. -/
def groupNames (operations : List Operation) : List String :=
  (operations.filterMap Operation.group?).eraseDups

/-- Groups after another operation, which joins the group that it names and none if it
names none. -/
def place (groups : List (String × List Operation)) (operation : Operation) :
    List (String × List Operation) :=
  match operation.group? with
  | none => groups
  | some name => addToGroup name operation groups

/-- The operations without a group are passed over, and the first operation of a group is taken
together with all others of it. -/
theorem byGroups {motive : List Operation → Prop} (none_left : motive [])
    (single : ∀ operation operations, operation.group? = none → motive operations →
      motive (operation :: operations))
    (grouped : ∀ operation operations name, operation.group? = some name →
      motive (outside operations name) → motive (operation :: operations))
    (operations : List Operation) : motive operations :=
  match operations with
  | [] => none_left
  | operation :: operations =>
    match member : operation.group? with
    | none => single operation operations member (byGroups none_left single grouped operations)
    | some name => grouped operation operations name member
        (byGroups none_left single grouped (outside operations name))
termination_by operations.length
decreasing_by
  · exact Nat.lt_add_one _
  · exact Nat.lt_add_one_of_le (List.length_filter_le _ _)

section Collecting

variable (operation : Operation) (operations : List Operation)

/-- An operation without a group adds no name to those of the groups. -/
theorem groupNames_single (alone : operation.group? = none) :
    groupNames (operation :: operations) = groupNames operations := by
  simp only [groupNames, List.filterMap_cons_none alone]

/-- The names of the groups outside one are the other names. -/
theorem filterMap_outside (name : String) :
    (outside operations name).filterMap Operation.group? =
      (operations.filterMap Operation.group?).filter fun other => !other == name := by
  induction operations with
  | nil => rfl
  | cons operation operations inductionHypothesis =>
    unfold outside at inductionHypothesis ⊢
    cases member : operation.group? with
    | none => simp [member, inductionHypothesis]
    | some other => by_cases same : other = name <;> simp [member, same, inductionHypothesis]

/-- The group of the first operation is the first of the groups, and the others are those of the
operations outside it. -/
theorem groupNames_grouped (name : String) (member : operation.group? = some name) :
    groupNames (operation :: operations) = name :: groupNames (outside operations name) := by
  rw [groupNames, List.filterMap_cons_some member, List.eraseDups_cons, groupNames,
    filterMap_outside]

/-- The names of the groups are those that are not empty. -/
theorem mem_groupNames (name : String) :
    name ∈ groupNames operations ↔
      name ≠ "" ∧ ∃ operation ∈ operations, operation.group = some name := by
  simp only [groupNames, List.mem_eraseDups, List.mem_filterMap, Operation.group?,
    Option.filter_eq_some_iff, Bool.not_eq_true', String.isEmpty_eq_false_iff]
  constructor
  · rintro ⟨operation, listed, named, filled⟩
    exact ⟨filled, operation, listed, named⟩
  · rintro ⟨filled, operation, listed, named⟩
    exact ⟨operation, listed, named, filled⟩

/-- No operation outside a group names it. -/
theorem not_mem_groupNames_outside (name : String) :
    name ∉ groupNames (outside operations name) := by
  simp [groupNames, filterMap_outside]

/-- A group that is not the first operation's has its operations outside that one's. -/
theorem ofGroup_other (name other : String) (member : operation.group? = some name)
    (listed : other ∈ groupNames (outside operations name)) :
    ofGroup (operation :: operations) other = ofGroup (outside operations name) other := by
  have apart : name ≠ other :=
    fun same => not_mem_groupNames_outside operations name (same ▸ listed)
  unfold ofGroup outside
  rw [List.filter_cons_of_neg (by simp [member, apart]), List.filter_filter]
  refine List.filter_congr fun inside _ => ?_
  by_cases own : inside.group? = some other
  · simp [own, apart.symm]
  · simp [own]

/-- Operations are collected into the groups that they name. -/
theorem collects_operations :
    Collects (fun group operation => decide (operation.group? = some group.1))
      (fun group operations => (group.1, group.2 ++ operations)) place where
  add_cons group groups operation := by
    cases named : operation.group? with
    | none => simp [place, named]
    | some name => simp [place, named, addToGroup, eq_comm]
  joins_extend _ _ _ := rfl
  extend_nil _ := by simp
  extend_extend _ _ _ := by simp

/-- Every group holds the operations that name it, in their order. The operations of a group are
taken out together in the induction, so that what is left has the other groups. -/
theorem groups_eq :
    groups operations =
      (groupNames operations).map fun name => (name, ofGroup operations name) := by
  change operations.foldl place [] = _
  induction operations using byGroups with
  | none_left => rfl
  | single operation operations alone inductionHypothesis =>
    rw [groupNames_single operation operations alone, List.foldl_cons]
    simpa [place, alone, ofGroup] using inductionHypothesis
  | grouped operation operations name member inductionHypothesis =>
    rw [groupNames_grouped operation operations name member, List.foldl_cons]
    have started : place [] operation = [(name, [operation])] := by simp [place, member, addToGroup]
    rw [started, collects_operations.foldl_cons, List.map_cons]
    congr 1
    · simp [ofGroup, member]
    · refine inductionHypothesis.trans (List.map_congr_left fun other listed => ?_)
      rw [ofGroup_other operation operations name other member listed]

/-- Each operation is without a group or in one of the groups, once. Where an operation names a
group, the operations of this group and those outside of it are all of the operations, and the
induction is on those outside. -/
theorem singles_groups_perm :
    (singles operations ++ (groupNames operations).flatMap (ofGroup operations)).Perm
      operations := by
  induction operations using byGroups with
  | none_left => exact .refl _
  | single operation operations alone inductionHypothesis =>
    have passed (name : String) :
        ofGroup (operation :: operations) name = ofGroup operations name := by
      simp [ofGroup, alone]
    rw [groupNames_single operation operations alone, funext passed]
    simpa [singles, alone] using inductionHypothesis
  | grouped operation operations name member inductionHypothesis =>
    have others : (groupNames (outside operations name)).flatMap
        (ofGroup (operation :: operations)) =
          (groupNames (outside operations name)).flatMap (ofGroup (outside operations name)) :=
      List.flatMap_congr fun other listed =>
        ofGroup_other operation operations name other member listed
    have alone : singles (operation :: operations) = singles (outside operations name) := by
      rw [singles, List.filter_cons_of_neg (by simp [member]), singles, outside, List.filter_filter]
      refine List.filter_congr fun other _ => ?_
      cases other.group? <;> simp
    have first : ofGroup (operation :: operations) name =
        operation :: ofGroup operations name := by
      simp [ofGroup, member]
    rw [groupNames_grouped operation operations name member, List.flatMap_cons, others, alone,
      first]
    refine List.perm_middle.trans (.cons operation ?_)
    have moved := List.perm_append_comm_assoc (singles (outside operations name))
      (ofGroup operations name)
      ((groupNames (outside operations name)).flatMap (ofGroup (outside operations name)))
    have rejoined : (ofGroup operations name ++ outside operations name).Perm operations :=
      List.filter_append_perm _ operations
    exact moved.trans ((inductionHypothesis.append_left _).trans rejoined)

/-- Of two kinds of entries that are kept when others are left out, the one that is found first
among those that are left is found first among all. -/
theorem findIdx_filter_lt {Entry : Type} (entries : List Entry) (keep first second : Entry → Bool)
    (kept : ∀ entry, first entry = true ∨ second entry = true → keep entry = true)
    (before : (entries.filter keep).findIdx first < (entries.filter keep).findIdx second) :
    entries.findIdx first < entries.findIdx second := by
  induction entries with
  | nil => simp at before
  | cons entry entries inductionHypothesis =>
    have kept_here := kept entry
    rw [List.filter_cons] at before
    rw [List.findIdx_cons, List.findIdx_cons]
    cases stays : keep entry with
    | false =>
      simp only [stays, Bool.false_eq_true, imp_false, not_or, Bool.not_eq_true] at kept_here
      simp only [stays, Bool.false_eq_true, if_false] at before
      simpa only [kept_here, cond_false, Nat.add_lt_add_iff_right] using inductionHypothesis before
    | true =>
      simp only [stays, if_true, List.findIdx_cons] at before
      cases found : first entry <;> cases other : second entry <;>
        simp only [found, other, cond_true, cond_false, Nat.add_lt_add_iff_right, Nat.not_lt_zero,
          Nat.zero_lt_succ, Nat.lt_irrefl] at before ⊢
      exact inductionHypothesis before

/-- The groups stand in the order of their first operations. The first group is that of the
operation in front. The others are ordered among the operations outside of it, which is their order
among all, since these leave out no operation of theirs. -/
theorem groupNames_pairwise :
    (groupNames operations).Pairwise fun earlier later =>
      operations.findIdx (·.group? = some earlier) <
        operations.findIdx (·.group? = some later) := by
  induction operations using byGroups with
  | none_left => exact .nil
  | single operation operations alone inductionHypothesis =>
    rw [groupNames_single operation operations alone]
    refine inductionHypothesis.imp fun before => ?_
    simpa [List.findIdx_cons, alone] using before
  | grouped operation operations name member inductionHypothesis =>
    rw [groupNames_grouped operation operations name member, List.pairwise_cons]
    have apart (other : String) (listed : other ∈ groupNames (outside operations name)) :
        name ≠ other :=
      fun same => not_mem_groupNames_outside operations name (same ▸ listed)
    constructor
    · intro other listed
      simp [List.findIdx_cons, member, apart other listed]
    · refine inductionHypothesis.imp_of_mem fun {earlier later} front back before => ?_
      have first := apart earlier front
      have second := apart later back
      have stays (inside : Operation) (own : decide (inside.group? = some earlier) = true ∨
          decide (inside.group? = some later) = true) :
          (!decide (inside.group? = some name)) = true := by
        rcases own with own | own
        · simp [of_decide_eq_true own, first.symm]
        · simp [of_decide_eq_true own, second.symm]
      have found := findIdx_filter_lt operations _ _ _ stays before
      simpa [List.findIdx_cons, member, first, second] using found

end Collecting

section Answering

/-- Requests that are carried out one after the other, with the answer to each. Every request finds
the store as the one before it has left it. -/
inductive Runs {Request : Type} (step : Store → Request → Response → Store → Prop) :
    Store → List Request → List Response → Store → Prop where
  | done (store : Store) : Runs step store [] [] store
  | next {before middle after : Store} {request : Request} {response : Response}
      {requests : List Request} {responses : List Response}
      (first : step before request response middle)
      (others : Runs step middle requests responses after) :
      Runs step before (request :: requests) (response :: responses) after

/-- Carrying out requests in turn runs every step that carries out one. -/
theorem inTurn_runs {Request : Type} {step : Store → Request → Response → Store → Prop}
    (carryOut : Store → Request → Response × Store)
    (each : ∀ store request,
      step store request (carryOut store request).1 (carryOut store request).2)
    (store : Store) (requests : List Request) :
    Runs step store requests (inTurn carryOut store requests).1
      (inTurn carryOut store requests).2 := by
  induction requests generalizing store with
  | nil => exact .done store
  | cons request requests inductionHypothesis =>
    exact .next (each store request) (inductionHypothesis (carryOut store request).2)

/-- Carrying out requests in turn does not depend on how they are written. -/
theorem inTurn_map {Request Other : Type} (carryOut : Store → Request → Response × Store)
    (request : Other → Request) (store : Store) (others : List Other) :
    inTurn carryOut store (others.map request) =
      inTurn (fun store other => carryOut store (request other)) store others := by
  induction others generalizing store with
  | nil => rfl
  | cons other others inductionHypothesis =>
    simp only [List.map_cons, inTurn, inductionHypothesis]

variable (coordinator : Coordinator)

/-- An operation that is carried out is answered with a success. Each method has one answer for
this, and whatever stands in its way is a setback instead, which the caller turns into an error. -/
theorem Coordinator.carryOut_isSuccess (store after : Store) (target : Target) (rest : String)
    (operation : Operation) (response : Response)
    (done : coordinator.carryOut store target rest operation = .ok (response, after)) :
    response.isSuccess = true := by
  unfold Coordinator.carryOut at done
  obtain ⟨method, named, done⟩ := (bind_ok_iff _ _ _).mp done
  cases method with
  | read =>
    obtain ⟨answer, reads, done⟩ := (bind_ok_iff _ _ _).mp done
    obtain rfl := (Prod.mk.inj (Except.ok.inj done)).1
    obtain ⟨envelope, _, made⟩ := (bind_ok_iff _ _ _).mp ((store.behind_ok_iff _ _).mp reads)
    obtain rfl := Except.ok.inj made
    rfl
  | create =>
    obtain ⟨members, _, done⟩ := (bind_ok_iff _ _ _).mp done
    obtain ⟨stored, _, done⟩ := (bind_ok_iff _ _ _).mp done
    obtain rfl := (Prod.mk.inj (Except.ok.inj done)).1
    rfl
  | update =>
    cases keyed : target.key? operation rest with
    | none => simp [keyed] at done
    | some key =>
      simp only [keyed] at done
      obtain ⟨values, _, done⟩ := (bind_ok_iff _ _ _).mp done
      obtain ⟨found, _, done⟩ := (bind_ok_iff _ _ _).mp done
      obtain rfl := (Prod.mk.inj (Except.ok.inj done)).1
      rfl
  | delete =>
    cases keyed : target.key? operation rest with
    | none => simp [keyed] at done
    | some key =>
      simp only [keyed] at done
      obtain ⟨found, _, done⟩ := (bind_ok_iff _ _ _).mp done
      obtain rfl := (Prod.mk.inj (Except.ok.inj done)).1
      rfl

/-- The answer to an operation without a group, and what it does to the rows. If the mutation that
it asks for fits the store, that takes effect; in every other case, in which it reads, is malformed,
is refused or finds no row, all rows are left. So an error leaves them. -/
structure Coordinator.AnswersAlone (before : Store) (operation : Operation) (response : Response)
    (after : Store) : Prop where
  answer : coordinator.single before operation = (response, after)
  takes_effect : ∀ mutation, coordinator.mutation operation = .ok mutation →
    mutation.Fits coordinator.changeField before →
      response.isSuccess = true ∧ mutation.Effect coordinator.changeField before after
  else_leaves_rows : (∀ mutation, coordinator.mutation operation = .ok mutation →
    ¬ mutation.Fits coordinator.changeField before) →
      ∀ collection, after.rows collection = before.rows collection
  error_leaves_rows : response.isSuccess = false →
    ∀ collection, after.rows collection = before.rows collection

/-- The answer to a group, which is carried out with all the operations that name it, and what it
does to the rows. If the mutations of these operations pass the check and fit in turn, each of them
takes effect; if they cannot be made out or do not pass, the store is left. What else the group does
is a chain of attempts to write them. -/
structure Coordinator.AnswersGroup (operations : List Operation) (before : Store) (name : String)
    (response : Response) (after : Store) : Prop where
  answer : coordinator.group before name (ofGroup operations name) = (response, after)
  takes_effect : ∀ mutations, (ofGroup operations name).mapM coordinator.mutation = .ok mutations →
    validate before mutations = .ok () → FitInTurn coordinator.changeField before mutations →
      response.isSuccess = true ∧
        EachTakesEffect coordinator.changeField before mutations after
  unchecked_leaves_store :
    (∀ mutations, (ofGroup operations name).mapM coordinator.mutation = .ok mutations →
      validate before mutations ≠ .ok ()) → response.isSuccess = false ∧ after = before
  attempts : Relation.ReflTransGen (coordinator.Attempts (ofGroup operations name)) before after

/-- An operation whose mutation fits is answered with a success, and the mutation takes effect. -/
theorem Coordinator.single_fits (store : Store) (operation : Operation) (mutation : Mutation)
    (made : coordinator.mutation operation = .ok mutation)
    (fits : mutation.Fits coordinator.changeField store) :
    (coordinator.single store operation).1.isSuccess = true ∧
      mutation.Effect coordinator.changeField store (coordinator.single store operation).2 := by
  obtain ⟨method, target, rest, change, named, routed, asked, rfl⟩ :=
    (coordinator.mutation_ok_iff operation mutation).mp made
  obtain ⟨after, written, effect⟩ := write_fits coordinator.changeField store _ fits
  have carried := coordinator.carryOut_asked store target rest operation method change named asked
  rw [written] at carried
  obtain ⟨⟨response, last⟩, done, rfl⟩ := (map_ok_iff _ _ _).mp carried
  have succeeds := coordinator.carryOut_isSuccess store _ target rest operation response done
  simp only [Coordinator.single, routed, done]
  exact ⟨succeeds, effect⟩

/-- An operation that asks for no mutation, or for one that does not fit, leaves all rows. -/
theorem Coordinator.single_unfit (store : Store) (operation : Operation)
    (unfit : ∀ mutation, coordinator.mutation operation = .ok mutation →
      ¬ mutation.Fits coordinator.changeField store) (collection : String) :
    (coordinator.single store operation).2.rows collection = store.rows collection := by
  rcases coordinator.single_store store operation with spends | ⟨mutation, made, written⟩
  · exact spends.rows collection
  · rcases effect_or_unchanged coordinator.changeField store mutation _ written with
      effect | unchanged
    · exact absurd (fits_of_effect _ store mutation _ written effect) (unfit mutation made)
    · exact unchanged collection

/-- An operation without a group is answered so. -/
theorem Coordinator.single_alone (store : Store) (operation : Operation) :
    coordinator.AnswersAlone store operation (coordinator.single store operation).1
      (coordinator.single store operation).2 where
  answer := rfl
  takes_effect := coordinator.single_fits store operation
  else_leaves_rows := coordinator.single_unfit store operation
  error_leaves_rows fails := coordinator.single_unfit store operation fun mutation made fits =>
    absurd (coordinator.single_fits store operation mutation made fits).1 (by simp [fails])

/-- A group is answered so. -/
theorem Coordinator.group_answers (operations : List Operation) (store : Store) (name : String) :
    coordinator.AnswersGroup operations store name
      (coordinator.group store name (ofGroup operations name)).1
      (coordinator.group store name (ofGroup operations name)).2 where
  answer := rfl
  takes_effect mutations made checked fits := by
    obtain ⟨unfailed, run⟩ := write_fitting coordinator.changeField store 0 mutations fits
    rw [group_checked coordinator store name _ mutations made checked, write, unfailed]
    exact ⟨rfl, run⟩
  unchecked_leaves_store unchecked := by
    obtain ⟨failure, answered⟩ := group_unchecked coordinator store name _ unchecked
    rw [answered]
    exact ⟨groupResponse_fails name failure, rfl⟩
  attempts := coordinator.group_attempts _ store name _ fun _ listed => listed

/-- The operations without a group are without a group. -/
theorem singles_singles (operations : List Operation) :
    singles (singles operations) = singles operations := by
  simp [singles]

/-- Operations without a group name no group. -/
theorem groupNames_singles (operations : List Operation) :
    groupNames (singles operations) = [] := by
  have unnamed : (singles operations).filterMap Operation.group? = [] := by
    simp [List.filterMap_eq_nil_iff, singles]
  rw [groupNames, unnamed, List.eraseDups_nil]

/-- A batch answers every operation without a group, in order, and then every group, in the order
of the groups' first operations. Each operation is carried out in one of these places, in its order
there. An operation without a group takes the effect of its mutation or leaves every row, and an
error leaves every row; a group takes the effects of all its mutations if they fit. The answers to
the operations without a group are the ones that they get when there are no groups.

Proof: the groups are collected by folding the operations, which is recast as one group for each
name in `groups_eq`; so the batch runs the same requests in turn. The steps of the two runs are
those of `single_alone` and `group_answers`, and without groups the second run is empty. -/
theorem Coordinator.process_in_order (store : Store) (operations : List Operation) :
    ∃ first second middle after,
      coordinator.process store operations = (first ++ second, after) ∧
      Runs coordinator.AnswersAlone store (singles operations) first middle ∧
      Runs (coordinator.AnswersGroup operations) middle (groupNames operations) second after ∧
      coordinator.process store (singles operations) = (first, middle) ∧
      (singles operations ++ (groupNames operations).flatMap (ofGroup operations)).Perm
        operations ∧
      (∀ name, name ∈ groupNames operations ↔
        name ≠ "" ∧ ∃ operation ∈ operations, operation.group = some name) ∧
      (groupNames operations).Pairwise fun earlier later =>
        operations.findIdx (·.group? = some earlier) <
          operations.findIdx (·.group? = some later) := by
  let alone := inTurn coordinator.single store (singles operations)
  let together := inTurn (fun store name =>
    coordinator.group store name (ofGroup operations name)) alone.2 (groupNames operations)
  have whole : coordinator.process store operations = (alone.1 ++ together.1, together.2) := by
    simp only [Coordinator.process, groups_eq, inTurn_map, alone, together]
  have without_groups : coordinator.process store (singles operations) = (alone.1, alone.2) := by
    simp only [Coordinator.process, groups_eq, singles_singles, groupNames_singles, List.map_nil,
      inTurn, List.append_nil, alone]
  exact ⟨alone.1, together.1, alone.2, together.2, whole,
    inTurn_runs coordinator.single coordinator.single_alone store (singles operations),
    inTurn_runs _ (coordinator.group_answers operations) alone.2 (groupNames operations),
    without_groups,
    singles_groups_perm operations, mem_groupNames operations, groupNames_pairwise operations⟩

end Answering

end DocumentQuery.Batch
