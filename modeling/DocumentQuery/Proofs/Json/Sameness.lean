import DocumentQuery.Json.Basic

/-!
# Telling values apart

Whether two values are the same is decided part by part, with the representations of numbers and the
order of members. So answers of the program on given requests can be computed and compared.
-/

namespace DocumentQuery.Json

mutual

/-- Whether two values are the same, written alike to the last digit and member. -/
def same : Json → Json → Bool
  | .null, .null => true
  | .bool left, .bool right => left == right
  | .number left, .number right => left == right
  | .string left, .string right => left == right
  | .array lefts, .array rights => sameItems lefts rights
  | .object lefts, .object rights => sameMembers lefts rights
  | _, _ => false
termination_by structural left => left

/-- Whether two lists are the same, item by item. -/
def sameItems : List Json → List Json → Bool
  | [], [] => true
  | left :: lefts, right :: rights => same left right && sameItems lefts rights
  | _, _ => false
termination_by structural lefts => lefts

/-- Whether two lists of members are the same, in names, values and order. -/
def sameMembers : List (String × Json) → List (String × Json) → Bool
  | [], [] => true
  | (name, left) :: lefts, (other, right) :: rights =>
    name == other && same left right && sameMembers lefts rights
  | _, _ => false
termination_by structural lefts => lefts

end

mutual

/-- Values are found to be the same exactly if they are equal, their numbers written the same way
and their members in the same order. -/
theorem same_iff (left right : Json) : same left right = true ↔ left = right := by
  cases left with
  | array lefts =>
    cases right with
    | array rights => rw [same, sameItems_iff lefts rights, Json.array.injEq]
    | _ => simp [same]
  | object lefts =>
    cases right with
    | object rights => rw [same, sameMembers_iff lefts rights, Json.object.injEq]
    | _ => simp [same]
  | _ => cases right <;> simp [same]
termination_by structural left

/-- Lists are found to be the same exactly if they are equal. -/
theorem sameItems_iff (lefts rights : List Json) :
    sameItems lefts rights = true ↔ lefts = rights := by
  match lefts, rights with
  | [], [] => simp [sameItems]
  | [], _ :: _ => simp [sameItems]
  | _ :: _, [] => simp [sameItems]
  | left :: lefts, right :: rights =>
    rw [sameItems, Bool.and_eq_true, same_iff left right, sameItems_iff lefts rights,
      List.cons.injEq]
termination_by structural lefts

/-- Members are found to be the same exactly if they are equal. -/
theorem sameMembers_iff (lefts rights : List (String × Json)) :
    sameMembers lefts rights = true ↔ lefts = rights := by
  match lefts, rights with
  | [], [] => simp [sameMembers]
  | [], _ :: _ => simp [sameMembers]
  | _ :: _, [] => simp [sameMembers]
  | (name, left) :: lefts, (other, right) :: rights =>
    rw [sameMembers, Bool.and_eq_true, Bool.and_eq_true, beq_iff_eq, same_iff left right,
      sameMembers_iff lefts rights, List.cons.injEq, Prod.mk.injEq]
termination_by structural lefts

end

instance : DecidableEq Json := fun left right => decidable_of_iff _ (same_iff left right)

end DocumentQuery.Json
