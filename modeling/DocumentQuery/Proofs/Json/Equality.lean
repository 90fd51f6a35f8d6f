import DocumentQuery.Proofs.Json.Distinct
import DocumentQuery.Proofs.Json.Order
import Mathlib.Data.List.Forall2
import Mathlib.Data.List.Nodup
import Mathlib.Data.List.Perm.Subperm

/-!
# Equality by value as an equivalence

Values are equal to themselves, and equality goes both ways, as long as no object repeats a name.
It carries over from one value to the next if no number blurs two others: there equality of numbers
has the same gap as their order.
-/

namespace DocumentQuery

namespace Number

/-- Numbers are equal by value exactly if neither is the greater one. -/
theorem equal_iff (left right : Number) :
    left.equal right = true ↔ left.compare right = .eq := by
  unfold equal compare
  split
  · rw [beq_iff_eq, compare_eq_iff_eq]
  · rw [Binary64.equal, Binary64.compare, beq_iff_eq, compare_eq_iff_eq]

/-- Numbers among which none blurs two others are equal to what their equals are equal to. -/
theorem Clear.equal_trans {numbers : Number → Prop} (clear : Clear numbers)
    {left middle right : Number} (isLeft : numbers left) (isMiddle : numbers middle)
    (isRight : numbers right) (first : left.equal middle = true)
    (second : middle.equal right = true) : left.equal right = true := by
  rw [equal_iff] at first second ⊢
  have together := clear.goTogether isLeft isMiddle isRight
  rw [first, second] at together
  exact together nofun nofun

/-- A number is equal to itself. -/
theorem equal_refl (number : Number) : number.equal number = true := by
  cases signed : number.signed? <;> simp [equal, signed, Binary64.equal]

/-- Equal numbers are equal the other way round. -/
theorem equal_symm {left right : Number} (same : left.equal right = true) :
    right.equal left = true := by
  rw [equal_iff] at same ⊢
  rw [compare_swap, same]
  rfl

end Number

namespace Json

/-- Whether no object in a value repeats a name, and the numbers in it are among some. -/
inductive IsProper (among : Number → Prop) : Json → Prop where
  | null : IsProper among .null
  | bool (value : Bool) : IsProper among (.bool value)
  | number {value : Number} (listed : among value) : IsProper among (.number value)
  | string (text : String) : IsProper among (.string text)
  | array {items : List Json} (each : ∀ item ∈ items, IsProper among item) :
      IsProper among (.array items)
  | object {members : Members Json} (distinct : (Members.names members).Nodup)
      (each : ∀ member ∈ members, IsProper among member.2) : IsProper among (.object members)

/-- Lists are equal item by item. -/
theorem equalItems_iff (lefts rights : List Json) :
    equalItems lefts rights = true ↔ lefts.length = rights.length ∧
      ∀ place (left : place < lefts.length) (right : place < rights.length),
        (lefts.get ⟨place, left⟩).equal (rights.get ⟨place, right⟩) = true := by
  have pairwise : equalItems lefts rights = true ↔
      List.Forall₂ (fun left right => left.equal right = true) lefts rights := by
    induction lefts generalizing rights with
    | nil => cases rights <;> simp [equalItems]
    | cons left lefts inductionHypothesis =>
      cases rights with
      | nil => simp [equalItems]
      | cons right rights => simp [equalItems, inductionHypothesis]
  exact pairwise.trans List.forall₂_iff_get

/-- Members are equal within others if each has an equal one of its name there. -/
theorem within_iff (lefts rights : Members Json) :
    within lefts rights = true ↔ ∀ left ∈ lefts, ∃ right,
      Members.get? left.1 rights = some right ∧ left.2.equal right = true := by
  induction lefts with
  | nil => simp [within]
  | cons left lefts inductionHypothesis =>
    obtain ⟨name, value⟩ := left
    rw [within, Bool.and_eq_true, inductionHypothesis, List.forall_mem_cons]
    refine and_congr_left' ?_
    cases Members.get? name rights <;> simp

variable {among : Number → Prop}

/-- A value is equal to itself. For an object this needs distinct names, since each member is looked
for by its name on the other side. -/
theorem IsProper.equal_refl {value : Json} (proper : value.IsProper among) :
    value.equal value = true := by
  induction proper with
  | number => exact Number.equal_refl _
  | array each inductionHypothesis =>
    exact (equalItems_iff _ _).mpr
      ⟨rfl, fun place inside _ => inductionHypothesis _ (List.get_mem _ ⟨place, inside⟩)⟩
  | object distinct each inductionHypothesis =>
    refine Bool.and_eq_true_iff.mpr ⟨beq_self_eq_true _, (within_iff _ _).mpr ?_⟩
    intro member present
    exact ⟨member.2, Members.get_of_mem _ distinct member present,
      inductionHypothesis member present⟩
  | _ => simp [equal]

/-- Names that are not repeated and stand among as many others are all of these. -/
theorem names_within {lefts rights : Members Json} (size : lefts.length = rights.length)
    (distinct : (Members.names lefts).Nodup) (inside : within lefts rights = true)
    (name : String) (present : name ∈ Members.names rights) : name ∈ Members.names lefts := by
  have subset : Members.names lefts ⊆ Members.names rights := by
    intro other listed
    obtain ⟨member, here, rfl⟩ := List.mem_map.mp listed
    obtain ⟨value, found, -⟩ := (within_iff _ _).mp inside member here
    exact List.mem_map.mpr ⟨_, Members.mem_of_get _ value _ found, rfl⟩
  have whole := (distinct.subperm subset).perm_of_length_le (by simp [Members.names, size])
  exact whole.mem_iff.mpr present

/-- Equal values are equal the other way round. Only objects need an argument: the names on the left
all occur on the right, there are as many of them, and so every member on the right is the one that
some member on the left was compared with. -/
theorem IsProper.equal_symm {left right : Json} (proper : left.IsProper among)
    (other : right.IsProper among) (same : left.equal right = true) :
    right.equal left = true := by
  induction proper generalizing right with
  | number listed =>
    cases right with
    | number value => exact Number.equal_symm same
    | _ => exact absurd same nofun
  | @array lefts each inductionHypothesis =>
    cases right with
    | array rights =>
      cases other with
      | array others =>
        obtain ⟨size, items⟩ := (equalItems_iff lefts rights).mp same
        refine (equalItems_iff rights lefts).mpr ⟨size.symm, fun place inRight inLeft => ?_⟩
        exact inductionHypothesis _ (List.get_mem _ _) (others _ (List.get_mem _ _))
          (items place inLeft inRight)
    | _ => exact absurd same nofun
  | @object lefts distinct each inductionHypothesis =>
    cases right with
    | object rights =>
      cases other with
      | object unrepeated others =>
        obtain ⟨size, inside⟩ := Bool.and_eq_true_iff.mp same
        have sizes := beq_iff_eq.mp size
        refine Bool.and_eq_true_iff.mpr ⟨beq_iff_eq.mpr sizes.symm, (within_iff _ _).mpr ?_⟩
        intro member present
        obtain ⟨own, listed, named⟩ := List.mem_map.mp
          (names_within sizes distinct inside member.1 (List.mem_map_of_mem present))
        obtain ⟨value, found, alike⟩ := (within_iff _ _).mp inside own listed
        rw [named, Members.get_of_mem rights unrepeated member present] at found
        obtain rfl := Option.some.inj found
        refine ⟨own.2, named ▸ Members.get_of_mem lefts distinct own listed, ?_⟩
        exact inductionHypothesis own listed (others member present) alike
    | _ => exact absurd same nofun
  | _ => cases right <;> simp_all [equal]

/-- Values are equal to what their equals are equal to, if no number blurs two others. The induction
is on the left value; the members and items are followed through the middle one. -/
theorem IsProper.equal_trans (clear : Number.Clear among) {left middle right : Json}
    (isLeft : left.IsProper among) (isMiddle : middle.IsProper among)
    (isRight : right.IsProper among) (first : left.equal middle = true)
    (second : middle.equal right = true) : left.equal right = true := by
  induction isLeft generalizing middle right with
  | number listed =>
    cases isMiddle with
    | number between =>
      cases isRight with
      | number last => exact clear.equal_trans listed between last first second
      | _ => exact absurd second nofun
    | _ => exact absurd first nofun
  | @array lefts each inductionHypothesis =>
    cases isMiddle with
    | @array middles between =>
      cases isRight with
      | @array rights last =>
        obtain ⟨lowerSize, lower⟩ := (equalItems_iff lefts middles).mp first
        obtain ⟨upperSize, upper⟩ := (equalItems_iff middles rights).mp second
        refine (equalItems_iff lefts rights).mpr
          ⟨lowerSize.trans upperSize, fun place inLeft inRight => ?_⟩
        have inMiddle : place < middles.length := lowerSize ▸ inLeft
        exact inductionHypothesis _ (List.get_mem _ _) (between _ (List.get_mem _ _))
          (last _ (List.get_mem _ _)) (lower place inLeft inMiddle) (upper place inMiddle inRight)
      | _ => exact absurd second nofun
    | _ => exact absurd first nofun
  | @object lefts distinct each inductionHypothesis =>
    cases isMiddle with
    | @object middles unrepeated between =>
      cases isRight with
      | object _ last =>
        obtain ⟨lowerSize, lower⟩ := Bool.and_eq_true_iff.mp first
        obtain ⟨upperSize, upper⟩ := Bool.and_eq_true_iff.mp second
        have sizes := (beq_iff_eq.mp lowerSize).trans (beq_iff_eq.mp upperSize)
        refine Bool.and_eq_true_iff.mpr ⟨beq_iff_eq.mpr sizes, (within_iff _ _).mpr ?_⟩
        intro member present
        obtain ⟨value, found, alike⟩ := (within_iff _ _).mp lower member present
        have inMiddle := Members.mem_of_get _ value _ found
        obtain ⟨final, reached, onward⟩ := (within_iff _ _).mp upper _ inMiddle
        have inRight := Members.mem_of_get _ final _ reached
        exact ⟨final, reached, inductionHypothesis member present (between _ inMiddle)
          (last _ inRight) alike onward⟩
      | _ => exact absurd second nofun
    | _ => exact absurd first nofun
  | _ => cases isMiddle <;> cases isRight <;> simp_all [equal]

end Json

end DocumentQuery
