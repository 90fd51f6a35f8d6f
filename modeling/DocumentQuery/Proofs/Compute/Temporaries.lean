import DocumentQuery.Compute.Lowering
import DocumentQuery.Proofs.Json.Path
import DocumentQuery.Proofs.Json.Removal

/-!
# Temporary fields

The fields that hold the values of inner calls are numbered, and their names are no paths of
several steps. A row with temporary fields behind its own members reads like the row alone
wherever a path does not begin like the name of a temporary field.
-/

namespace DocumentQuery.Compute

/-- Whether a name or a path begins like the name of a temporary field. -/
def isTemporary (name : String) : Bool := "__tmp_".toList.isPrefixOf name.toList

/-- The name of a temporary field begins like one. -/
theorem isTemporary_name (number : Nat) : isTemporary (temporaryName number) = true := by
  simp only [isTemporary, temporaryName, String.toList_append, List.isPrefixOf_iff_prefix]
  exact List.prefix_append _ _

/-- Different numbers have different temporary fields. -/
theorem temporaryName_injective (first second : Nat)
    (same : temporaryName first = temporaryName second) : first = second := by
  have digits : Nat.toDigits 10 first = Nat.toDigits 10 second := by
    have chars := congrArg String.toList same
    simpa [temporaryName, String.toList_append] using chars
  have read := congrArg (fun digits => Nat.ofDigitChars 10 digits 0) digits
  simpa only [Nat.ofDigitChars_ten_toDigits] using read

/-- The name of a temporary field is one step of a path. -/
theorem temporaryName_plain (number : Nat) : '.' ∉ (temporaryName number).toList := by
  intro inside
  simp only [temporaryName, String.toList_append, Nat.toList_repr, List.mem_append] at inside
  rcases inside with front | digit
  · exact absurd front (by decide)
  · have isDigit := Nat.isDigit_of_mem_toDigits (by decide) (by decide) digit
    exact absurd isDigit (by decide)

/-- The first piece of a text that is cut is what it begins with, so a path begins with its first
step. -/
theorem split_begins (separator : Char) (text piece : List Char) (pieces : List (List Char))
    (cut : Text.split separator text = piece :: pieces) : piece <+: text := by
  induction text generalizing piece pieces with
  | nil =>
    cases cut
    exact List.prefix_rfl
  | cons char rest inductionHypothesis =>
    by_cases same : char = separator
    · simp only [Text.split, same, if_true] at cut
      cases cut
      exact List.nil_prefix
    · cases later : Text.split separator rest with
      | nil => exact absurd later (Text.split_ne_nil separator rest)
      | cons first others =>
        simp only [Text.split, same, if_false, later] at cut
        cases cut
        exact (List.prefix_cons_inj char).mpr (inductionHypothesis first _ later)

/-- A path begins with its first step. -/
theorem head_begins (path : String) : (Path.head path).toList <+: path.toList := by
  cases cut : Text.split '.' path.toList with
  | nil => exact absurd cut (Text.split_ne_nil '.' path.toList)
  | cons piece pieces =>
    have head : Path.head path = String.ofList piece := by simp [Path.head, Path.ofText, cut]
    rw [head, String.toList_ofList]
    exact split_begins '.' path.toList piece pieces cut

/-- A path that does not begin like a temporary field leads into a member that does not. -/
theorem isTemporary_head (path : String) (plain : isTemporary path = false) :
    isTemporary (Path.head path) = false := by
  rw [Bool.eq_false_iff] at plain ⊢
  intro front
  refine plain ?_
  simp only [isTemporary, List.isPrefixOf_iff_prefix] at front ⊢
  exact front.trans (head_begins path)

/-- A path that does not begin like a temporary field reads a row as if the temporary fields
behind it were not there. -/
theorem valueAt_behind (row added : Members Json) (path : String)
    (plain : isTemporary path = false)
    (temporary : ∀ name ∈ Members.names added, isTemporary name = true) :
    (Json.object (row ++ added)).valueAt? path = (Json.object row).valueAt? path := by
  obtain ⟨step, steps, shape⟩ := Path.ofText_cons path
  have head : Path.head path = step := by simp [Path.head, shape]
  have apart : step ∉ Members.names added := by
    intro inside
    have clash := temporary step inside
    rw [← head, isTemporary_head path plain] at clash
    cases clash
  simp [Json.valueAt?, shape, Json.get?, Members.get_append, Members.get_absent step added apart]

/-- A temporary field that was set first reads as its value. -/
theorem valueAt_temporary (row later : Members Json) (number : Nat) (value : Json)
    (fresh : temporaryName number ∉ Members.names row) :
    (Json.object (row ++ (temporaryName number, value) :: later)).valueAt?
      (temporaryName number) = some value := by
  simp [Json.valueAt?, Path.ofText_plain _ (temporaryName_plain number), Json.get?,
    Members.get_append, Members.get_absent _ row fresh, Members.get?]

/-- A name that is no path sets a member of an object. -/
theorem setAt_plain (row : Members Json) (name : String) (value : Json)
    (plain : '.' ∉ name.toList) :
    (Json.object row).setAt name value = .object (row.insert name value) := by
  simp [Json.setAt, Path.ofText_plain name plain, Json.set, Json.members]

/-- Names that are no paths remove members of an object. -/
theorem eraseAt_plain (row : Members Json) (names : List String)
    (plain : ∀ name ∈ names, '.' ∉ name.toList) :
    names.foldl (fun row name => row.eraseAt name) (Json.object row) =
      .object (names.foldl (fun row name => Members.erase name row) row) := by
  induction names generalizing row with
  | nil => rfl
  | cons name names inductionHypothesis =>
    have first : (Json.object row).eraseAt name = .object (Members.erase name row) := by
      simp [Json.eraseAt, Path.ofText_plain name (plain name List.mem_cons_self), Json.erase]
    rw [List.foldl_cons, List.foldl_cons, first]
    exact inductionHypothesis (Members.erase name row)
      fun other later => plain other (List.mem_cons_of_mem name later)

end DocumentQuery.Compute
