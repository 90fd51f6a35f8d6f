import DocumentQuery.Proofs.Execution.Stages
import DocumentQuery.Proofs.Pipeline.RepeatedKeys

/-!
# Reading plans

What a document store makes of the document of a plan: each operator with its body is a stage
again. A document has each name once, so what is read has the names of the stage in their order,
each with what the stage has it with last. Only two things cannot be read: a projection that
computes a field by an expression that looks like the mark for a kept or a dropped field, and a
grouping that gives the name of the identity to a result.
-/

namespace DocumentQuery

open Members (firstNames names ofList)

/-- Steps that each give a value for what is made of an item give the values in turn. -/
theorem mapM_some {First Middle Last : Type} (made : First → Middle) (step : Middle → Option Last)
    (result : First → Last) (firsts : List First)
    (each : ∀ first ∈ firsts, step (made first) = some (result first)) :
    (firsts.map made).mapM step = some (firsts.map result) := by
  induction firsts with
  | nil => rfl
  | cons first firsts inductionHypothesis =>
    have others := inductionHypothesis fun next later =>
      each next (List.mem_cons_of_mem first later)
    simp [List.mapM_cons, each first List.mem_cons_self, others]

namespace Json

/-- The natural number that a value is, as counts are shown in documents. -/
def natural? : Json → Option Nat
  | .number (.integer value) => value.toNat?
  | _ => none

/-- The field path that an expression reads, which is its text without the dollar sign. -/
def fieldPath? (expression : Json) : Option String := do
  let text ← expression.string?
  (Text.dropStem? ['$'] text.toList).map String.ofList

/-- A natural number is read as it is written. -/
@[simp] theorem natural_ofNat (count : Nat) : (ofNat count).natural? = some count := rfl

/-- The path of a field is read as it is written. -/
@[simp] theorem fieldPath_reference (path : String) :
    (fieldReference path).fieldPath? = some path := by
  simp [fieldPath?, fieldReference, string?, Text.dropStem?]

end Json

/-- The shape of a projected field: 1 keeps it, 0 drops it, and anything else computes it. -/
def Shape.ofDocument : Json → Shape
  | .number (.integer 1) => .kept
  | .number (.integer 0) => .dropped
  | expression => .computed expression

/-- The document of a direction, as a store of documents expects it. -/
def Direction.document : Direction → Json
  | .ascending => .ofInt 1
  | .descending => .ofInt (-1)

/-- The direction of a sort key: 1 is ascending and -1 descending. -/
def Direction.ofDocument? : Json → Option Direction
  | .number (.integer 1) => some .ascending
  | .number (.integer (-1)) => some .descending
  | _ => none

/-- The fields of a projection in the order of the members. -/
def Projection.ofDocument? (document : Json) : Option Projection :=
  document.object?.map fun members => members.map fun entry => (entry.1, Shape.ofDocument entry.2)

/-- The sort keys of a document, in the order of its members, with a direction each. -/
def SortKey.ofDocument? (document : Json) : Option (List SortKey) := do
  let members ← document.object?
  members.mapM fun entry => (Direction.ofDocument? entry.2).map (SortKey.mk entry.1)

/-- The group key of a member, which reads the field of its name. -/
def groupKeyOf? (entry : String × Json) : Option String :=
  entry.2.fieldPath?.filter fun path => path == entry.1

/-- The accumulator of a member, whose value is an object of one operator. -/
def Accumulator.ofMember? : String × Json → Option Accumulator
  | (name, .object [(operator, input)]) => some ⟨name, operator, input⟩
  | _ => none

/-- The grouping of a document: the keys are under the identity field, the accumulators behind. -/
def Stage.groupOf? : Json → Option Stage
  | .object ((first, .object keys) :: accumulators) =>
    if first = identityField then do
      let keys ← keys.mapM groupKeyOf?
      let accumulators ← accumulators.mapM Accumulator.ofMember?
      return .group keys accumulators
    else none
  | _ => none

/-- The stage that removes fields, which are listed except for a single one. -/
def Stage.unsetOf? : Json → Option Stage
  | .string field => some (.unset [field])
  | .array fields => (fields.mapM Json.string?).map Stage.unset
  | _ => none

/-- The stage of an operator and its body, if the body is one that the operator can have. -/
def Stage.ofOperator? (operator : String) (body : Json) : Option Stage :=
  match operator with
  | "$match" => some (.matching body)
  | "$group" => groupOf? body
  | "$project" => (Projection.ofDocument? body).map Stage.project
  | "$addFields" => body.object?.map Stage.compute
  | "$unset" => unsetOf? body
  | "$sort" => (SortKey.ofDocument? body).map Stage.sort
  | "$skip" => body.natural?.map Stage.skip
  | "$limit" => body.natural?.map Stage.limit
  | "$lookup" => do
    let collection ← (body.member? "from").bind Json.string?
    let localField ← (body.member? "localField").bind Json.string?
    let foreignField ← (body.member? "foreignField").bind Json.string?
    let output ← (body.member? "as").bind Json.string?
    return .lookup ⟨collection, localField, foreignField, output⟩
  | "$unwind" => do
    let path ← (body.member? "path").bind Json.fieldPath?
    let preserve ← (body.member? "preserveNullAndEmptyArrays").bind Json.bool?
    return .unwind path preserve
  | _ => none

/-- The stage of a native document, which is an object with one operator. -/
def Stage.ofDocument? : Json → Option Stage
  | .object [(operator, body)] => ofOperator? operator body
  | _ => none

/-- What a find does with its rows, of which the document of its plan leaves out what it does not
do. -/
def FindOptions.ofDocument? (document : Json) : Option FindOptions := do
  let projection ← (document.member? "projection").mapM Projection.ofDocument?
  let sort ← (document.member? "sort").mapM SortKey.ofDocument?
  let limit ← (document.member? "limit").mapM Json.natural?
  let skip ← (document.member? "skip").mapM Json.natural?
  return { projection, sort := sort.getD [], limit, skip }

/-- The stages of the document of a plan, which is of either form. A direct plan stands for the
stages of its options. -/
def Plan.stagesOf? (document : Json) : Option (List Stage) := do
  let form ← (document.member? "form").bind Json.string?
  match form with
  | "direct" =>
    let predicate ← document.member? "filter"
    let options ← FindOptions.ofDocument? document
    return options.stages predicate
  | "pipeline" =>
    let stages ← (document.member? "pipeline").bind Json.array?
    stages.mapM Stage.ofDocument?
  | _ => none

/-- A stage with each name of its lists once, as its document shows them. A table keeps the last
entry of a name at the place of the first. -/
def Stage.once : Stage → Stage
  | .group keys accumulators => .group (firstNames keys) (Accumulator.once accumulators)
  | .project projection => .project (ofList projection)
  | .compute fields => .compute (ofList fields)
  | .sort keys => .sort (SortKey.once keys)
  | stage => stage

/-- A find with each name of its lists once, as its document shows them. -/
def FindOptions.once (options : FindOptions) : FindOptions :=
  { options with
    projection := options.projection.map ofList
    sort := SortKey.once options.sort }

/-- Whether a shape is the one that is read of its document. -/
def Shape.IsReadable (shape : Shape) : Prop := Shape.ofDocument shape.document = shape

/-- Whether the document of a stage can be read: no expression looks like a mark, and no result of
a grouping has the name of the identity. -/
def Stage.IsReadable : Stage → Prop
  | .group _ accumulators => identityField ∉ accumulators.map Accumulator.name
  | .project projection => ∀ entry ∈ projection, entry.2.IsReadable
  | _ => True

/-- A field that is kept is read as such. -/
theorem Shape.kept_readable : Shape.kept.IsReadable := rfl

/-- A field that is dropped is read as such. -/
theorem Shape.dropped_readable : Shape.dropped.IsReadable := rfl

/-- A field that is computed of another one is read as such. -/
theorem Shape.reference_readable (path : String) :
    (Shape.computed (fieldReference path)).IsReadable := rfl

/-- The document of a projection is read with each field once. -/
theorem Projection.read_document (projection : Projection)
    (readable : ∀ entry ∈ projection, entry.2.IsReadable) :
    Projection.ofDocument? projection.document = some (ofList projection) := by
  have written : projection.document = .object
      ((ofList projection).map fun entry => (entry.1, entry.2.document)) :=
    congrArg Json.object (Members.ofList_map_values Shape.document projection)
  rw [written, ofDocument?, Json.object?, Option.map_some, List.map_map]
  refine congrArg some ((List.map_congr_left fun entry present => ?_).trans (List.map_id _))
  exact Prod.ext rfl (readable entry (Members.mem_ofList projection entry present))

/-- The document of sort keys is read with each field once, where it first stood and with its last
direction, because the document is a table of fields. -/
theorem SortKey.read_document (keys : List SortKey) :
    SortKey.ofDocument? (sortDocument keys) = some (SortKey.once keys) := by
  have written : sortDocument keys = .object
      ((ofList (keys.map SortKey.entry)).map fun entry => (entry.1, entry.2.document)) := by
    rw [← Members.ofList_map_values Direction.document, List.map_map]
    refine congrArg (fun entries => Json.object (ofList entries)) ?_
    refine List.map_congr_left fun key _ => ?_
    obtain ⟨field, direction⟩ := key
    cases direction <;> rfl
  rw [written]
  refine mapM_some _ _ SortKey.ofEntry _ fun entry _ => ?_
  obtain ⟨field, direction⟩ := entry
  cases direction <;> rfl

/-- The document of a grouping is read with each key and each result once. No result has the name of
the identity, so the keys stay in front of the results. -/
theorem Stage.read_group (keys : List String) (accumulators : List Accumulator)
    (readable : (Stage.group keys accumulators).IsReadable) :
    Stage.groupOf? (Stage.groupDocument keys accumulators) =
      some (Stage.group keys accumulators).once := by
  let written : String × Json → Json := fun computed => .object [computed]
  have fresh : identityField ∉ names ((accumulators.map Accumulator.entry).map
      fun entry => (entry.1, written entry.2)) := by
    simpa [names, Accumulator.entry, Stage.IsReadable] using readable
  have members : Stage.groupDocument keys accumulators = .object
      ((identityField, .object ((firstNames keys).map fun key => (key, fieldReference key))) ::
        (ofList (accumulators.map Accumulator.entry)).map
          fun entry => (entry.1, written entry.2)) := by
    rw [← Members.ofList_map_values written, ← Members.ofList_map,
      ← Members.ofList_cons _ _ _ fresh, List.map_map]
    rfl
  have keysRead : ((firstNames keys).map fun key => (key, fieldReference key)).mapM groupKeyOf? =
      some (firstNames keys) := by
    have read := mapM_some (fun key => (key, fieldReference key)) groupKeyOf? id (firstNames keys)
      fun key _ => by simp [groupKeyOf?]
    rwa [List.map_id] at read
  have resultsRead := mapM_some (fun entry => (entry.1, written entry.2)) Accumulator.ofMember?
    Accumulator.ofEntry (ofList (accumulators.map Accumulator.entry)) fun entry _ => rfl
  rw [members]
  simp only [groupOf?, if_true, keysRead, resultsRead]
  rfl

/-- The document of a stage is read as the stage with each name once. Every kind of stage has an
operator of its own, and its body is read back by the rule of that operator. -/
theorem Stage.read_document (stage : Stage) (readable : stage.IsReadable) :
    Stage.ofDocument? stage.document = some stage.once := by
  change Stage.ofOperator? stage.operator stage.body = some stage.once
  cases stage with
  | matching predicate => rfl
  | group keys accumulators => exact Stage.read_group keys accumulators readable
  | project projection =>
    exact congrArg (Option.map Stage.project) (Projection.read_document projection readable)
  | compute fields => rfl
  | unset fields =>
    have several : (fields.map Json.string).mapM Json.string? = some fields := by
      have read := mapM_some Json.string Json.string? id fields fun _ _ => rfl
      rwa [List.map_id] at read
    have read : Stage.unsetOf? (.array (fields.map Json.string)) = some (.unset fields) :=
      congrArg (Option.map Stage.unset) several
    match fields with
    | [] => exact read
    | [field] => rfl
    | _ :: _ :: _ => exact read
  | sort keys => exact congrArg (Option.map Stage.sort) (SortKey.read_document keys)
  | skip count => rfl
  | limit count => rfl
  | lookup join => rfl
  | unwind path preserve =>
    have read := Json.fieldPath_reference path
    simp [Stage.ofOperator?, Stage.operator, Stage.body, Stage.once, Json.member?, Json.members,
      Members.get?, read, Json.bool?]

/-- The stages of a find with each name once are its stages with each name once. -/
theorem FindOptions.once_stages (options : FindOptions) (predicate : Json) :
    options.once.stages predicate = (options.stages predicate).map Stage.once := by
  obtain ⟨projection, sort, limit, skip⟩ := options
  have sorted : (SortKey.once sort).isEmpty = sort.isEmpty := by
    simp [SortKey.once, Members.ofList_isEmpty]
  simp only [stages, once, sorted, List.map_append]
  cases projection <;> cases sort <;> cases limit <;> cases skip <;> rfl

/-- The members of the document of a find, of which some are there only if they say something. -/
structure FindOptions.AreShown (options : FindOptions) (predicate document : Json) : Prop where
  form : document.member? "form" = some (.string "direct")
  predicate : document.member? "filter" = some predicate
  projection : document.member? "projection" = options.projection.map Projection.document
  sort : document.member? "sort" =
    if options.sort.isEmpty then none else some (sortDocument options.sort)
  limit : document.member? "limit" = options.limit.map Json.ofNat
  skip : document.member? "skip" = options.skip.map Json.ofNat

/-- The document of a plan for a find has the members of the find. -/
theorem FindOptions.are_shown (options : FindOptions) (predicate countPredicate : Json) :
    options.AreShown predicate
      (Plan.document ⟨predicate, countPredicate, .direct options⟩) := by
  obtain ⟨projection, sort, limit, skip⟩ := options
  cases projection <;> cases sort <;> cases limit <;> cases skip <;>
    exact ⟨rfl, rfl, rfl, rfl, rfl, rfl⟩

/-- The document of a find is read with each name once. Each option is shown under its own name, and
one that is absent or empty is not shown and not read. -/
theorem FindOptions.read_document (options : FindOptions) (predicate document : Json)
    (shown : options.AreShown predicate document)
    (readable : ∀ projection, options.projection = some projection →
      ∀ entry ∈ projection, entry.2.IsReadable) :
    FindOptions.ofDocument? document = some options.once := by
  obtain ⟨projection, sort, limit, skip⟩ := options
  rw [ofDocument?, shown.projection, shown.sort, shown.limit, shown.skip]
  have projected : (projection.map Projection.document).mapM Projection.ofDocument? =
      some (projection.map ofList) := by
    cases projection with
    | none => rfl
    | some projection =>
      exact congrArg (Option.map some)
        (Projection.read_document projection (readable projection rfl))
  have sorted : (if sort.isEmpty then none else some (sortDocument sort)).mapM
      SortKey.ofDocument? = some (if sort.isEmpty then none else some (SortKey.once sort)) := by
    split
    · rfl
    · exact congrArg (Option.map some) (SortKey.read_document sort)
  have limited : (limit.map Json.ofNat).mapM Json.natural? = some limit := by cases limit <;> rfl
  have skipped : (skip.map Json.ofNat).mapM Json.natural? = some skip := by cases skip <;> rfl
  dsimp only
  rw [projected, sorted, limited, skipped]
  cases sort <;> rfl

/-- The document of a plan whose stages can be read is read as its stages with each name once. A
pipeline is read stage by stage, and a find by its options, which stand for stages. -/
theorem Plan.read_document (plan : Plan)
    (readable : ∀ stage ∈ plan.stages, stage.IsReadable) :
    Plan.stagesOf? plan.document = some (plan.stages.map Stage.once) := by
  obtain ⟨predicate, countPredicate, form⟩ := plan
  cases form with
  | direct options =>
    have shown := options.are_shown predicate countPredicate
    have read := options.read_document predicate _ shown fun projection listed =>
      readable (.project projection) (by simp [stages, FindOptions.stages, listed])
    rw [stagesOf?, shown.form, shown.predicate, read, stages, ← FindOptions.once_stages]
    rfl
  | pipeline stages =>
    exact mapM_some Stage.document Stage.ofDocument? Stage.once stages fun stage listed =>
      stage.read_document (readable stage listed)

end DocumentQuery
