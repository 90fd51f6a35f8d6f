import DocumentQuery.Coercion
import DocumentQuery.Pipeline.Run
import DocumentQuery.Proofs.Except
import DocumentQuery.Proofs.Json.Places
import DocumentQuery.Proofs.Store.Writing
import Mathlib.Data.List.Forall2

/-!
# What writing to places leaves alone

Updates, projections and the coercion of dates all set places of documents. An update and a coercion
leave every place as it is that is independent of those they set, and a projection shows each field
that it keeps as the row has it, whatever stands in the other fields. What is set is found where it
was set. An item of an array is lost when another item or a member is set in its place: paths
through one array are not independent.
-/

namespace DocumentQuery

section Updates

variable (other : String)

/-- Values that are set in turn at places independent of another leave no trace there. -/
theorem Store.spares_setPaths (values : Members Json) (row : Json)
    (independent : ∀ entry ∈ values, row.Independent entry.1 other) :
    Json.Spares other row (Store.setPaths values row) := by
  induction values generalizing row with
  | nil => exact .refl other row
  | cons entry values inductionHypothesis =>
    obtain ⟨first, others⟩ := List.forall_mem_cons.mp independent
    have step := Json.spares_setAt row entry.2 entry.1 other first
    exact step.trans (inductionHypothesis _ fun entry listed =>
      step.independent entry.1 (others entry listed))

/-- Rows of which one is changed are the changed ones, one by one. -/
theorem forall₂_changed {related : Json → Json → Prop} (rows : List Json) (place : Nat)
    (change : Json → Json) (unchanged : ∀ row, related row row)
    (changed : ∀ row, related row (change row)) :
    List.Forall₂ related rows (rows.modify place change) := by
  induction rows generalizing place with
  | nil => simp
  | cons row rows inductionHypothesis =>
    cases place with
    | zero => exact .cons (changed row) (List.forall₂_same.mpr fun row _ => unchanged row)
    | succ place => exact .cons (unchanged row) (inductionHypothesis place)

/-- Whether places of a row that are set leave another place of it with the value it had. -/
def LeavesPlace (texts : List String) (before after : Json) : Prop :=
  (∀ text ∈ texts, before.Independent text other) → after.valueAt? other = before.valueAt? other

/-- An update leaves the places of each row that are independent of those it sets. -/
theorem Store.update_leaves (store after : Store) (collection : String) (predicate : Json)
    (values : Members Json) (found : Nat)
    (done : store.update collection predicate values = .ok (found, after)) :
    List.Forall₂ (LeavesPlace other (values.map Prod.fst)) (store.rows collection)
      (after.rows collection) := by
  have unchanged (row : Json) : LeavesPlace other (values.map Prod.fst) row row := fun _ => rfl
  rcases (store.update_ok_iff collection predicate values found after).mp done with
    ⟨-, -, rfl⟩ | ⟨place, -, -, rfl⟩
  · exact List.forall₂_same.mpr fun row _ => unchanged row
  · rw [Store.rows_setRows_same]
    refine forall₂_changed _ place _ unchanged fun row independent => ?_
    refine (Store.spares_setPaths other values row fun entry listed => ?_).kept
    exact independent entry.1 (List.mem_map_of_mem listed)

end Updates

namespace Coercion

variable (coercion : Coercion) (other : String)

/-- A field that holds no date is left as it is, and any other gets the text of its date. Missing
and empty values count among the first, as do texts that no format reads. -/
theorem coerceField_cases (index : Nat) (row : Json) (field : String) :
    ((∀ value instant, row.valueAt? field = some value →
        coercion.convert value ≠ .ok (some instant)) ∧
      (coercion.coerceField index row field).1 = row) ∨
    ∃ value instant, row.valueAt? field = some value ∧
      coercion.convert value = .ok (some instant) ∧
      (coercion.coerceField index row field).1 = row.setAt field (.string instant.toText) := by
  unfold coerceField
  split
  · next empty =>
    refine .inl ⟨fun value instant found => ?_, rfl⟩
    rw [found] at empty
    cases value with
    | null => nofun
    | _ => cases empty
  · next value filled =>
    have found := (Option.filter_eq_some_iff.mp filled).1
    split
    · next stands =>
      exact .inl ⟨fun other instant same => by cases found.symm.trans same; simp [stands], rfl⟩
    · next instant stands => exact .inr ⟨value, instant, found, stands, rfl⟩
    · next raw stands =>
      exact .inl ⟨fun other instant same => by cases found.symm.trans same; simp [stands], rfl⟩

/-- Fields that are coerced in turn leave no trace at a place independent of them. Each step keeps
the shape on which independence of the later fields depends. -/
theorem spares_coerceFields (index : Nat) (row : Json) (fields : List String)
    (independent : ∀ field ∈ fields, row.Independent field other) :
    Json.Spares other row (coercion.coerceFields index row fields).1 := by
  induction fields generalizing row with
  | nil => exact .refl other row
  | cons field fields inductionHypothesis =>
    obtain ⟨first, others⟩ := List.forall_mem_cons.mp independent
    have step : Json.Spares other row (coercion.coerceField index row field).1 := by
      rcases coercion.coerceField_cases index row field with
        ⟨-, same⟩ | ⟨value, instant, -, -, set⟩
      · rw [same]
        exact .refl other row
      · rw [set]
        exact Json.spares_setAt row _ field other first
    exact step.trans (inductionHypothesis _ fun field listed =>
      step.independent field (others field listed))

/-- A coercion leaves the places of each row that are independent of its fields. -/
theorem coerceFrom_leaves (index : Nat) (rows : List Json) :
    List.Forall₂ (LeavesPlace other coercion.fields) rows
      (coercion.coerceFrom index rows).rows := by
  induction rows generalizing index with
  | nil => exact .nil
  | cons row rows inductionHypothesis =>
    refine .cons (fun independent => ?_) (inductionHypothesis (index + 1))
    exact (coercion.spares_coerceFields other index row coercion.fields independent).kept

end Coercion

section Projections

variable {row : Json} {field : String}

/-- A field that a projection treats leaves what is shown so far, or is set in it. -/
theorem keepField_cases (kept next : Json) (name : String) (shape : Shape)
    (done : keepField row kept name shape = .ok next) :
    next = kept ∨ ∃ value, next = kept.setAt name value := by
  cases shape with
  | kept =>
    cases Except.ok.inj done
    cases row.valueAt? name with
    | none => exact .inl rfl
    | some value => exact .inr ⟨value, rfl⟩
  | dropped =>
    cases Except.ok.inj done
    exact .inl rfl
  | computed expression =>
    obtain ⟨value, -, rfl⟩ := (map_ok_iff _ _ _).mp done
    exact .inr ⟨value, rfl⟩

/-- A field that the row does not have is not shown, if all others are apart from it. What the
others set stands beside the field or destroys an array on the way to it, and neither brings a value
there. -/
theorem keepFields_missing (projection : Projection) (kept result : Json)
    (missing : row.valueAt? field = none) (before : kept.valueAt? field = none)
    (apart : ∀ entry ∈ projection, entry = (field, .kept) ∨
      (Path.ofText field).IsApart (Path.ofText entry.1))
    (done : keepFields row projection kept = .ok result) : result.valueAt? field = none := by
  induction projection generalizing kept with
  | nil =>
    cases Except.ok.inj done
    exact before
  | cons entry projection inductionHypothesis =>
    obtain ⟨first, others⟩ := List.forall_mem_cons.mp apart
    obtain ⟨next, step, done⟩ := (bind_ok_iff _ _ _).mp done
    refine inductionHypothesis next ?_ others done
    rcases first with rfl | apart
    · have same : next = kept := by simpa [keepField, missing, eq_comm] using step
      exact same ▸ before
    · rcases keepField_cases kept next _ _ step with rfl | ⟨value, rfl⟩
      · exact before
      · by_cases meets : kept.MeetsArray (Path.ofText field) (Path.ofText entry.1)
        · exact Json.get_set_lost _ _ kept value apart meets
        · exact (Json.get_set_kept _ _ kept value apart meets).trans before

/-- A field that the row has is shown once it has been kept, if all others are apart from it. It
is reached through objects from then on, so that setting the others cannot replace anything
above it. -/
theorem keepFields_present (projection : Projection) (kept result value : Json)
    (present : row.valueAt? field = some value)
    (before : (field, .kept) ∈ projection ∨ Json.reach? (Path.ofText field) kept = some value)
    (apart : ∀ entry ∈ projection, entry = (field, .kept) ∨
      (Path.ofText field).IsApart (Path.ofText entry.1))
    (done : keepFields row projection kept = .ok result) :
    Json.reach? (Path.ofText field) result = some value := by
  induction projection generalizing kept with
  | nil =>
    cases Except.ok.inj done
    exact before.resolve_left List.not_mem_nil
  | cons entry projection inductionHypothesis =>
    obtain ⟨first, others⟩ := List.forall_mem_cons.mp apart
    obtain ⟨next, step, done⟩ := (bind_ok_iff _ _ _).mp done
    refine inductionHypothesis next ?_ others done
    rcases first with rfl | apart
    · have set : next = kept.setAt field value := by
        simpa [keepField, present, eq_comm] using step
      exact .inr (set ▸ Json.reach_set_same (Path.ofText field) kept value)
    · refine before.imp (fun listed => ?_) fun reached => ?_
      · rcases List.mem_cons.mp listed with rfl | later
        · exact absurd List.prefix_rfl apart.1
        · exact later
      · rcases keepField_cases kept next _ _ step with rfl | ⟨other, rfl⟩
        · exact reached
        · rw [← reached]
          exact Json.reach_set_apart _ _ kept other apart

/-- The identity alone, or nothing, shows no field that the row does not have: what is shown at a
path through the identity is what the row shows there. -/
theorem start_missing (identity : Json) (found : row.member? identityField = some identity)
    (missing : row.valueAt? field = none) :
    (Json.object [(identityField, identity)]).valueAt? field = none := by
  obtain ⟨step, path, steps⟩ := Path.ofText_cons field
  unfold Json.valueAt? at missing ⊢
  rw [steps] at missing ⊢
  cases row with
  | object members =>
    have named : Members.get? identityField members = some identity := found
    by_cases same : identityField = step
    · subst same
      simpa [Json.get?, named, Members.get?] using missing
    · simp [Json.get?, Members.get?, same]
  | _ => cases found

/-- A projection shows each field that it keeps as the row has it, if the other fields are apart.
The row has a value there, which is shown and stays, or has none, and then none of the others makes
one. -/
theorem projectRow_shows (projection : Projection) (result : Json)
    (listed : (field, .kept) ∈ projection)
    (apart : ∀ entry ∈ projection, entry = (field, .kept) ∨
      (Path.ofText field).IsApart (Path.ofText entry.1))
    (done : projectRow projection row = .ok result) :
    result.valueAt? field = row.valueAt? field := by
  have inclusive : (projection.any fun entry => entry.2.isKept) = true :=
    List.any_eq_true.mpr ⟨_, listed, rfl⟩
  rw [projectRow] at done
  replace done := (if_pos inclusive).symm.trans done
  cases present : row.valueAt? field with
  | some value =>
    have reached := keepFields_present projection _ result value present (.inl listed) apart done
    exact Json.get_of_reach (Path.ofText field) result value reached
  | none =>
    refine keepFields_missing projection _ result present ?_ apart done
    obtain ⟨step, path, steps⟩ := Path.ofText_cons field
    have empty : (Json.object []).valueAt? field = none := by
      rw [Json.valueAt?, steps]
      rfl
    split
    · next identity found =>
      split
      · exact empty
      · exact start_missing identity found present
    · exact empty

end Projections

/-- What is set at a place is found there. A place apart keeps its value, except that it is lost if
both paths go through one array. So updates and coercions leave every place as it is that is
independent of the ones they set, and projections show what the row has.

Proof: by induction on the path that is set, along the other one up to where they part. Objects on
the way keep their other members, and an array on the way gives place to an object. Several places
are set one after the other, and independence from all of them is kept by each. -/
theorem places_independent (document value : Json) (text other : String) :
    (document.setAt text value).valueAt? text = some value ∧
    ((Path.ofText other).IsApart (Path.ofText text) →
      (document.setAt text value).valueAt? other =
        if document.MeetsArray (Path.ofText other) (Path.ofText text) then none
        else document.valueAt? other) ∧
    (∀ store after collection predicate values found,
      Store.update store collection predicate values = .ok (found, after) →
      List.Forall₂ (LeavesPlace other (values.map Prod.fst)) (store.rows collection)
        (after.rows collection)) ∧
    (∀ (coercion : Coercion) rows,
      List.Forall₂ (LeavesPlace other coercion.fields) rows (coercion.coerce rows).rows) ∧
    ∀ projection row result, (other, .kept) ∈ projection →
      (∀ entry ∈ projection, entry = (other, .kept) ∨
        (Path.ofText other).IsApart (Path.ofText entry.1)) →
      projectRow projection row = .ok result → result.valueAt? other = row.valueAt? other := by
  refine ⟨Json.valueAt_setAt_same document value text, fun apart => ?_, ?_, ?_, ?_⟩
  · split
    case isTrue meets => exact Json.get_set_lost _ _ document value apart meets
    case isFalse clear => exact Json.get_set_kept _ _ document value apart clear
  · exact fun store after collection predicate values found =>
      Store.update_leaves other store after collection predicate values found
  · exact fun coercion rows => coercion.coerceFrom_leaves other 0 rows
  · exact fun projection row result listed apart done =>
      projectRow_shows projection result listed apart done

/-- A customer with an address and two tags, so that a path may lead through objects or into an
array. -/
def tagged : Json :=
  .object [("_id", .ofNat 1),
    ("customer", .object [("name", "Ada"), ("address", .object [("city", "Oslo")])]),
    ("tags", .array ["a", "b"])]

/-- What a selection of the second tag and the city shows of the customer. -/
def cityShown : Json :=
  .object [("_id", .ofNat 1), ("tags", .object [("1", "b")]),
    ("customer", .object [("address", .object [("city", "Oslo")])])]

/-- Two days in a list. -/
def twoDays : Json := .object [("days", .array ["2024-01-01", "2024-02-02"])]

/-- A new street stands beside the city of an address, which is kept, and a projection of the city
shows it beside a tag that is chosen by its number. -/
theorem city_kept :
    (Path.ofText "customer.address.city").IsApart (Path.ofText "customer.address.street") ∧
    ¬ tagged.MeetsArray (Path.ofText "customer.address.city")
      (Path.ofText "customer.address.street") ∧
    (tagged.setAt "customer.address.street" "Main").valueAt? "customer.address.street" =
      some "Main" ∧
    (tagged.setAt "customer.address.street" "Main").valueAt? "customer.address.city" =
      some "Oslo" ∧
    projectRow [("tags.1", .kept), ("customer.address.city", .kept)] tagged = .ok cityShown ∧
    cityShown.valueAt? "customer.address.city" = some "Oslo" := by
  have apart : (Path.ofText "customer.address.city").IsApart
      (Path.ofText "customer.address.street") := by decide +kernel
  have clear : ¬ tagged.MeetsArray (Path.ofText "customer.address.city")
      (Path.ofText "customer.address.street") := by decide +kernel
  obtain ⟨found, frame, -, -, projected⟩ :=
    places_independent tagged "Main" "customer.address.street" "customer.address.city"
  have kept := frame apart
  rw [if_neg clear] at kept
  have done : projectRow [("tags.1", .kept), ("customer.address.city", .kept)] tagged =
      .ok cityShown := rfl
  refine ⟨apart, clear, found, kept, done, projected _ tagged _ ?_ ?_ done⟩
  · exact List.mem_cons_of_mem _ List.mem_cons_self
  · refine List.forall_mem_cons.mpr ⟨.inr (by decide +kernel), ?_⟩
    exact List.forall_mem_cons.mpr ⟨.inl rfl, nofun⟩

/-- The first tag cannot be set, nor a first day be coerced, without the loss of the second. -/
theorem second_tag_lost :
    (Path.ofText "tags.1").IsApart (Path.ofText "tags.0") ∧
    tagged.valueAt? "tags.1" = some "b" ∧
    (tagged.setAt "tags.0" "x").valueAt? "tags.1" = none ∧
    twoDays.valueAt? "days.1" = some "2024-02-02" ∧
    (({ fields := ["days.0"] } : Coercion).coerce [twoDays]).rows =
      [.object [("days", .object [("0", "2024-01-01T00:00:00.000Z")])]] :=
  ⟨by decide +kernel, rfl, rfl, rfl, by rfl⟩

end DocumentQuery
