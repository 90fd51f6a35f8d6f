import DocumentQuery.Proofs.Compute.Reading
import DocumentQuery.Proofs.Compute.Simulation
import DocumentQuery.Proofs.Compute.Spelling
import DocumentQuery.Proofs.Json.Sameness

/-!
# Stages of computed fields preserve their meaning

A row comes out of the stages of clauses as if each clause had set its name to the value of its
formula. The temporary fields stand behind the row's members while they are live; the removal
behind each clause takes all of them away and leaves the order of the others as it was. A fault
on any row is a fault of the pipeline.
-/

namespace DocumentQuery.Compute

open Expression (Fault evaluate)

/-- A clause that can be lowered on a row: its formula is accepted, its name is one step of a
path, and neither its paths nor its name begin like a temporary field. -/
structure Clause.Lowerable (clause : Clause) : Prop where
  accepted : clause.formula.Accepted
  plain : '.' ∉ clause.name.toList
  paths : ∀ path ∈ clause.formula.paths, isTemporary path = false
  name : isTemporary clause.name = false

/-- A row behind the stages of a clause: the name is set to what the lowered formula reads as,
and all temporary fields are removed. -/
theorem Clause.onRow_stages (next : Nat) (clause : Clause) (row : Json) :
    onRow (clause.stages next).1 row = (do
      let behind ← onRow (lower next clause.formula).stages row
      let value ← evaluate behind (lower next clause.formula).part
      return (lower next clause.formula).temporaries.foldl (fun row name => row.eraseAt name)
        (behind.setAt clause.name value)) := by
  simp only [Clause.stages]
  cases temporaries : (lower next clause.formula).temporaries with
  | nil =>
    simp only [List.isEmpty_nil, if_true, onRow_append]
    cases onRow (lower next clause.formula).stages row with
    | error fault => rfl
    | ok behind => simp only [ok_bind, onRow_set, List.foldl_nil]
  | cons name names =>
    simp only [List.isEmpty_cons, Bool.false_eq_true, if_false, onRow_append]
    cases onRow (lower next clause.formula).stages row with
    | error fault => rfl
    | ok behind =>
      simp only [ok_bind, onRow_set]
      cases evaluate behind (lower next clause.formula).part <;> rfl

/-- A row without temporary fields comes out of the stages of a clause with its name set to the
answer that the lowered formula simulates, or not at all if that is a fault. -/
theorem Clause.onRow_simulated (next : Nat) (clause : Clause) (row : Members Json)
    (direct : Except Fault Json) (plainName : '.' ∉ clause.name.toList)
    (ownName : isTemporary clause.name = false) (clean : Clean row)
    (simulates : Simulates row [] (lower next clause.formula) evaluate direct) :
    onRow (clause.stages next).1 (.object row) =
      direct.map fun value => .object (row.insert clause.name value) := by
  have numbered := (lower_fresh next clause.formula).numbered
  rw [Clause.onRow_stages]
  cases direct with
  | error fault =>
    rw [Simulates, List.append_nil] at simulates
    rcases simulates with stopped | ⟨behind, ran, stopped⟩
    · simp [stopped, Except.map]
    · simp [ran, stopped, Except.map]
  | ok value =>
    rw [Simulates, List.append_nil] at simulates
    obtain ⟨made, names, ran, reads⟩ := simulates
    have now := reads_now (row ++ made) _ evaluate value reads
    have apart : ∀ other ∈ Members.names made,
        other ∉ Members.names row ∧ other ≠ clause.name := by
      intro other inside
      have temporary := numbered.isTemporary other (names ▸ inside)
      refine ⟨fun own => ?_, fun same => ?_⟩
      · rw [clean other own] at temporary
        cases temporary
      · rw [same, ownName] at temporary
        cases temporary
    have plain : ∀ name ∈ Members.names made, '.' ∉ name.toList := by
      rw [names]
      exact numbered.plain
    simp only [ran, now, ok_bind, pure_eq_ok, Except.map, ← names]
    rw [setAt_plain _ clause.name value plainName, eraseAt_plain _ _ plain,
      Members.erase_added clause.name value row made apart]

/-- A row without temporary fields comes out of the stages of a clause with its name set to the
value of its formula, or not at all if that has a fault. -/
theorem Clause.onRow_lowered (next : Nat) (clause : Clause) (row : Members Json)
    (lowerable : clause.Lowerable) (clean : Clean row) :
    onRow (clause.stages next).1 (.object row) = (clause.set row).map Json.object := by
  have running : Live next row [] := ⟨clean, by simp [Numbered, Members.names]⟩
  have simulates := lower_simulates next clause.formula row [] running lowerable.accepted
    lowerable.paths
  rw [clause.onRow_simulated next row _ lowerable.plain lowerable.name clean simulates, Clause.set]
  cases clause.formula.value (.object row) <;> rfl

/-- A clause sets its name if its formula has a value. -/
theorem Clause.set_ok_iff (clause : Clause) (row after : Members Json) :
    clause.set row = .ok after ↔
      ∃ value, clause.formula.value (.object row) = .ok value ∧
        row.insert clause.name value = after := by
  simp [Clause.set, bind_ok_iff]

/-- Clauses succeed if the first sets its name and the others succeed behind it. -/
theorem setAll_cons_ok_iff (clause : Clause) (clauses : List Clause) (row after : Members Json) :
    setAll (clause :: clauses) row = .ok after ↔
      ∃ value, clause.formula.value (.object row) = .ok value ∧
        setAll clauses (row.insert clause.name value) = .ok after := by
  simp [setAll, bind_ok_iff, Clause.set_ok_iff]

/-- A name that is set leaves a row without temporary fields if it is none itself. -/
theorem Clean.insert {row : Members Json} {name : String} (clean : Clean row)
    (plain : isTemporary name = false) (value : Json) : Clean (row.insert name value) := by
  intro other inside
  rcases Members.mem_names_insert name value row other inside with rfl | own
  · exact plain
  · exact clean other own

/-- A row without temporary fields comes out of the stages of clauses as it comes out of the
clauses themselves, or not at all if one of them has a fault on it. -/
theorem onRow_stagesFrom (next : Nat) (clauses : List Clause) (row : Members Json)
    (lowerable : ∀ clause ∈ clauses, clause.Lowerable) (clean : Clean row) :
    onRow (stagesFrom next clauses) (.object row) = (setAll clauses row).map Json.object := by
  induction clauses generalizing next row with
  | nil => rfl
  | cons clause clauses inductionHypothesis =>
    have first := lowerable clause List.mem_cons_self
    have others : ∀ other ∈ clauses, other.Lowerable :=
      fun other later => lowerable other (List.mem_cons_of_mem clause later)
    simp only [stagesFrom, setAll]
    rw [onRow_append, clause.onRow_lowered next row first clean]
    cases set : clause.set row with
    | error fault => rfl
    | ok after =>
      obtain ⟨value, _, rfl⟩ := (clause.set_ok_iff row after).mp set
      exact inductionHypothesis _ _ others (clean.insert first.name value)

/-- Clauses in two lists set their names in turn. -/
theorem setAll_append (first second : List Clause) (row : Members Json) :
    setAll (first ++ second) row = (setAll first row >>= setAll second) := by
  induction first generalizing row with
  | nil => rfl
  | cons clause clauses inductionHypothesis =>
    cases set : clause.set row <;> simp [setAll, set, inductionHypothesis]

/-- Clauses do not change a name that none of them has: each sets its own name only, so the member
stays through all of them. -/
theorem setAll_other (clauses : List Clause) (row after : Members Json) (name : String)
    (other : ∀ clause ∈ clauses, clause.name ≠ name) (set : setAll clauses row = .ok after) :
    Members.get? name after = Members.get? name row := by
  induction clauses generalizing row with
  | nil =>
    cases set
    rfl
  | cons clause clauses inductionHypothesis =>
    obtain ⟨value, _, rest⟩ := (setAll_cons_ok_iff clause clauses row after).mp set
    have different : name ≠ clause.name := (other clause List.mem_cons_self).symm
    have others : ∀ next ∈ clauses, next.name ≠ name :=
      fun next later => other next (List.mem_cons_of_mem clause later)
    rw [inductionHypothesis _ others rest]
    exact Members.get_insert_other clause.name name value row different

/-- Clauses keep the members under all other names, in their order. A name that is set for the first
time comes behind the members there are, and one that is set again stays at its place. -/
theorem setAll_others (clauses : List Clause) (row after : Members Json)
    (kept : String → Bool) (dropped : ∀ clause ∈ clauses, kept clause.name = false)
    (set : setAll clauses row = .ok after) :
    after.filter (fun member => kept member.1) = row.filter (fun member => kept member.1) := by
  induction clauses generalizing row with
  | nil =>
    cases set
    rfl
  | cons clause clauses inductionHypothesis =>
    obtain ⟨value, _, rest⟩ := (setAll_cons_ok_iff clause clauses row after).mp set
    have others : ∀ next ∈ clauses, kept next.name = false :=
      fun next later => dropped next (List.mem_cons_of_mem clause later)
    rw [inductionHypothesis _ others rest]
    exact Members.filter_insert clause.name value row kept (dropped clause List.mem_cons_self)

/-- Clauses leave a row without temporary fields as such. -/
theorem Clean.setAll {row after : Members Json} {clauses : List Clause} (clean : Clean row)
    (names : ∀ clause ∈ clauses, isTemporary clause.name = false)
    (set : setAll clauses row = .ok after) : Clean after := by
  induction clauses generalizing row with
  | nil =>
    cases set
    exact clean
  | cons clause clauses inductionHypothesis =>
    obtain ⟨value, _, rest⟩ := (setAll_cons_ok_iff clause clauses row after).mp set
    exact inductionHypothesis (clean.insert (names clause List.mem_cons_self) value)
      (fun next later => names next (List.mem_cons_of_mem clause later)) rest

/-- What clauses make of a row. The name of a clause holds the value of its formula on the row
as the clauses before it have left it, unless a later clause sets the same name; no member is a
temporary field; and the members under other names are those of before, in their order. -/
structure Computed (clauses : List Clause) (before after : Members Json) : Prop where
  answer : setAll clauses before = .ok after
  holds : ∀ earlier clause later, clauses = earlier ++ clause :: later →
    (∀ other ∈ later, other.name ≠ clause.name) →
      ∃ middle value, setAll earlier before = .ok middle ∧
        clause.formula.value (.object middle) = .ok value ∧
        Members.get? clause.name after = some value
  clean : Clean after
  others : after.filter (fun member => member.1 ∉ clauses.map Clause.name) =
    before.filter (fun member => member.1 ∉ clauses.map Clause.name)

/-- Setting the names of clauses in turn computes them. Under the name of a clause stands its value
on the row that the clauses before it have made, if no clause behind it has the same name. -/
theorem computed_setAll (clauses : List Clause) (before after : Members Json)
    (names : ∀ clause ∈ clauses, isTemporary clause.name = false) (clean : Clean before)
    (set : setAll clauses before = .ok after) : Computed clauses before after := by
  refine ⟨set, ?_, clean.setAll names set, ?_⟩
  · rintro earlier clause later rfl last
    rw [setAll_append] at set
    obtain ⟨middle, first, rest⟩ := (bind_ok_iff _ _ after).mp set
    obtain ⟨value, evaluated, rest⟩ := (setAll_cons_ok_iff clause later middle after).mp rest
    refine ⟨middle, value, first, evaluated, ?_⟩
    rw [setAll_other later _ after clause.name last rest]
    exact Members.get_insert_same clause.name value middle
  · refine setAll_others clauses before after
      (fun name => decide (name ∉ clauses.map Clause.name)) ?_ set
    intro clause inside
    simpa using ⟨clause, inside, rfl⟩

/-- The stages of clauses succeed if every row comes through the clauses, with the rows that
these make. -/
theorem run_stages_ok_iff (source : Pipeline.Source) (clauses : List Clause)
    (rows : List (Members Json)) (answers : List Json)
    (lowerable : ∀ clause ∈ clauses, clause.Lowerable) (clean : ∀ row ∈ rows, Clean row) :
    Pipeline.run source (stages clauses) (rows.map Json.object) = .ok answers ↔
      ∃ afters, rows.mapM (setAll clauses) = .ok afters ∧ afters.map Json.object = answers := by
  have each : ∀ row ∈ rows, ∀ answer, onRow (stages clauses) (.object row) = .ok answer ↔
      ∃ after, setAll clauses row = .ok after ∧ Json.object after = answer := by
    intro row inside answer
    rw [stages, onRow_stagesFrom 0 clauses row lowerable (clean row inside), map_ok_iff]
  rw [Pipeline.run_ok_iff source (stages clauses) _ answers (stagesFrom_single 0 clauses),
    List.forall₂_map_left_iff, forall₂_congr_left each, ← forall₂_through]
  simp only [mapM_ok_iff, ← List.forall₂_eq_eq_eq, List.forall₂_map_left_iff]

/-- Accepted clauses keep their meaning as stages. Where no member of a row, no field path and no
name begins like a temporary field, the stages fail exactly if a clause has a fault on some row;
otherwise they make of each row what the clauses compute.

Proof: one clause is followed through its stages on one row. What stands in the temporary fields is
what the parts of the formula have been computed to, and all else of the row is as it was, until the
last stage drops the temporary fields again. Rows are computed one by one, so both directions of
failure come down to `run_stages_ok_iff`, by which a run comes through exactly if the clauses have
an answer on every row. -/
theorem stages_preserve_meaning (source : Pipeline.Source) (clauses : List Clause)
    (rows : List (Members Json))
    (accepted : ∀ clause ∈ clauses, ∃ text, Clause.ofText? text = some clause)
    (paths : ∀ clause ∈ clauses, ∀ path ∈ clause.formula.paths, isTemporary path = false)
    (names : ∀ clause ∈ clauses, isTemporary clause.name = false)
    (clean : ∀ row ∈ rows, Clean row) :
    ((∃ fault, Pipeline.run source (stages clauses) (rows.map Json.object) = .error fault) ↔
      ∃ row ∈ rows, ∃ fault, setAll clauses row = .error fault) ∧
    ∀ answers, Pipeline.run source (stages clauses) (rows.map Json.object) = .ok answers →
      ∃ afters, answers = afters.map Json.object ∧
        List.Forall₂ (Computed clauses) rows afters := by
  have lowerable : ∀ clause ∈ clauses, clause.Lowerable := by
    intro clause inside
    obtain ⟨text, read⟩ := accepted clause inside
    obtain ⟨formula, plain⟩ := Clause.accepted_of_text text clause read
    exact ⟨formula, plain, paths clause inside, names clause inside⟩
  have succeeds := fun answers => run_stages_ok_iff source clauses rows answers lowerable clean
  constructor
  · rw [← mapM_error_iff]
    constructor
    · rintro ⟨fault, failed⟩
      cases direct : rows.mapM (setAll clauses) with
      | error fault => exact ⟨fault, rfl⟩
      | ok afters =>
        rw [(succeeds _).mpr ⟨afters, direct, rfl⟩] at failed
        cases failed
    · rintro ⟨fault, failed⟩
      cases ran : Pipeline.run source (stages clauses) (rows.map Json.object) with
      | error other => exact ⟨other, rfl⟩
      | ok answers =>
        obtain ⟨afters, direct, _⟩ := (succeeds answers).mp ran
        rw [direct] at failed
        cases failed
  · intro answers ran
    obtain ⟨afters, direct, same⟩ := (succeeds answers).mp ran
    refine ⟨afters, same.symm, ?_⟩
    have computed : ∀ row ∈ rows, ∀ after, setAll clauses row = .ok after ↔
        Computed clauses row after := by
      intro row inside after
      exact ⟨computed_setAll clauses row after names (clean row inside), fun made => made.answer⟩
    exact (forall₂_congr_left computed afters).mp ((mapM_ok_iff _ rows afters).mp direct)

/-- Two clauses: one has two inner calls, and the other reads the name that the first one
sets. -/
def keyAndSize : List Clause :=
  [⟨.call .concat [.call .trim [.field "name"], .call .toLower [.field "code"]], "key"⟩,
    ⟨.call .length [.field "key"], "size"⟩]

/-- The first name goes behind the members of a row, and the second one, which the row has, is
set in its place. -/
theorem keyAndSize_computed :
    Computed keyAndSize
      [("size", .null), ("name", .string " Nut "), ("code", .string "M4")]
      [("size", .ofNat 5), ("name", .string " Nut "), ("code", .string "M4"),
        ("key", .string "Nutm4")] := by
  have accepted : ∀ clause ∈ keyAndSize, ∃ text, Clause.ofText? text = some clause := by
    intro clause inside
    simp only [keyAndSize, List.mem_cons, List.not_mem_nil, or_false] at inside
    have field (levels : Nat) (path : String) (isPath : isPath path = true) :
        ∀ operand ∈ [Formula.field path], operand.Printable levels :=
      List.forall_mem_singleton.mpr (.field path isPath)
    rcases inside with rfl | rfl
    · refine Clause.Printable.written ⟨.call .concat _ rfl rfl ?_, by decide⟩
      exact List.forall_mem_cons.mpr ⟨.call .trim _ rfl rfl (field 14 "name" (by decide)),
        List.forall_mem_singleton.mpr (.call .toLower _ rfl rfl (field 14 "code" (by decide)))⟩
    · refine Clause.Printable.written ⟨.call .length _ rfl rfl ?_, by decide⟩
      exact field 15 "key" (by decide)
  have ran : Pipeline.run (fun _ => []) (stages keyAndSize)
      [.object [("size", .null), ("name", .string " Nut "), ("code", .string "M4")]] =
        .ok [.object [("size", .ofNat 5), ("name", .string " Nut "), ("code", .string "M4"),
          ("key", .string "Nutm4")]] :=
    (toOption_some_iff _ _).mp (by decide +kernel)
  have clean : ∀ row ∈ [[("size", Json.null), ("name", .string " Nut "), ("code", .string "M4")]],
      Clean row := by
    simp only [Clean]
    decide
  obtain ⟨_, preserved⟩ := stages_preserve_meaning (fun _ => []) keyAndSize
    [[("size", .null), ("name", .string " Nut "), ("code", .string "M4")]]
    accepted (by decide) (by decide) clean
  obtain ⟨afters, same, related⟩ := preserved _ ran
  cases related with
  | cons computed rest =>
    cases rest
    simp only [List.map_cons, List.map_nil, List.cons.injEq, Json.object.injEq, and_true] at same
    exact same ▸ computed

end DocumentQuery.Compute
