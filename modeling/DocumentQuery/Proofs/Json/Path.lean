import DocumentQuery.Json.Path
import DocumentQuery.Proofs.Json.Members

/-!
# Paths and the first member they name

A path that sets a place in a document touches one member of it only, the one that its first
step names. Every dotted text names such a first step, and a text without dots names nothing
else. What a path sets is found there, whatever stood in its way. Another place that is reached
through objects is left as it is, unless one of the two lies within the other.
-/

namespace DocumentQuery

/-- Cutting a text leaves at least one piece. -/
theorem Text.split_ne_nil (separator : Char) (text : List Char) :
    Text.split separator text ≠ [] := by
  induction text with
  | nil => simp [Text.split]
  | cons char rest inductionHypothesis =>
    by_cases same : char = separator
    · simp [Text.split, same]
    · cases pieces : Text.split separator rest <;> simp [Text.split, same, pieces]

/-- A text without the separator is its only piece. -/
theorem Text.split_absent (separator : Char) (text : List Char) (absent : separator ∉ text) :
    Text.split separator text = [text] := by
  induction text with
  | nil => rfl
  | cons char rest inductionHypothesis =>
    have different : char ≠ separator := fun same => absent (same ▸ List.mem_cons_self)
    have later : separator ∉ rest := fun present => absent (List.mem_cons_of_mem char present)
    simp [Text.split, different, inductionHypothesis later]

/-- A dotted text names a first step. -/
theorem Path.ofText_cons (text : String) : ∃ step path, Path.ofText text = step :: path := by
  cases pieces : Text.split '.' text.toList with
  | nil => exact absurd pieces (Text.split_ne_nil '.' text.toList)
  | cons piece others =>
    exact ⟨String.ofList piece, others.map String.ofList, by simp [Path.ofText, pieces]⟩

/-- A text without dots is one step. -/
theorem Path.ofText_plain (text : String) (plain : '.' ∉ text.toList) :
    Path.ofText text = [text] := by
  simp [Path.ofText, Text.split_absent '.' text.toList plain]

/-- The member of a document that a dotted text leads into. -/
def Path.head (text : String) : String := (Path.ofText text).headD ""

/-- Whether neither of two paths leads into the other. -/
def Path.IsApart (first second : Path) : Prop := ¬ first <+: second ∧ ¬ second <+: first

namespace Json

/-- Setting a path leaves an object, in which only the member of its first step can differ. -/
theorem member_setAt_other (document value : Json) (text wanted : String)
    (different : wanted ≠ Path.head text) :
    (document.setAt text value).member? wanted = document.member? wanted := by
  obtain ⟨step, path, steps⟩ := Path.ofText_cons text
  have other : wanted ≠ step := by simpa [Path.head, steps] using different
  simp only [setAt, steps, set, member?, members]
  exact Members.get_insert_other step wanted _ _ other

/-- The value that a path sets is found at the path. -/
theorem get_set (path : Path) (document value : Json) : get? path (set value path document) =
    some value := by
  induction path generalizing document with
  | nil => rfl
  | cons step path inductionHypothesis =>
    simp only [set, get?, Members.get_insert_same, Option.bind_some, inductionHypothesis]

/-- The value that is set where a dotted text leads is found there. -/
theorem valueAt_setAt_same (document value : Json) (text : String) :
    (document.setAt text value).valueAt? text = some value :=
  get_set (Path.ofText text) document value

/-- The value at a path on which only objects are entered. Arrays on the way are not looked into, as
setting a value does not either. -/
def reach? : Path → Json → Option Json
  | [], value => some value
  | step :: path, value => (value.member? step).bind (reach? path)

/-- What is reached through objects is the value at the path. The two readings differ only where an
array stands on the way, and there nothing is reached. -/
theorem get_of_reach (path : Path) (document value : Json)
    (reached : reach? path document = some value) : get? path document = some value := by
  induction path generalizing document with
  | nil => exact reached
  | cons step path inductionHypothesis =>
    obtain ⟨inner, found, within⟩ := Option.bind_eq_some_iff.mp reached
    cases document with
    | object members =>
      have named : Members.get? step members = some inner := found
      simp only [get?, named, Option.bind_some]
      exact inductionHypothesis inner within
    | _ => exact absurd found nofun

/-- The value that a path sets is reached through objects. -/
theorem reach_set_same (path : Path) (document value : Json) :
    reach? path (set value path document) = some value := by
  induction path generalizing document with
  | nil => rfl
  | cons step path inductionHypothesis =>
    simp only [set, reach?, member?, members, Members.get_insert_same, Option.bind_some,
      inductionHypothesis]

/-- What is reached through objects is the same after a path apart is set. Nothing is reached in an
empty object that is made on the way where there was none. -/
theorem reach_set_apart (path other : Path) (document value : Json) (apart : path.IsApart other) :
    reach? path (set value other document) = reach? path document := by
  induction path generalizing other document with
  | nil => exact absurd List.nil_prefix apart.1
  | cons step path inductionHypothesis =>
    cases other with
    | nil => exact absurd List.nil_prefix apart.2
    | cons first other =>
      change (Members.get? step (document.members.insert first
          (set value other ((document.member? first).getD (.object []))))).bind (reach? path) =
        (document.member? step).bind (reach? path)
      by_cases same : step = first
      · subst same
        have inner : Path.IsApart path other :=
          ⟨fun within => apart.1 (List.cons_prefix_cons.mpr ⟨rfl, within⟩),
            fun within => apart.2 (List.cons_prefix_cons.mpr ⟨rfl, within⟩)⟩
        rw [Members.get_insert_same, Option.bind_some, inductionHypothesis other _ inner]
        cases document.member? step with
        | some value => rfl
        | none =>
          cases path with
          | nil => exact absurd List.nil_prefix inner.1
          | cons next path => rfl
      · rw [Members.get_insert_other first step _ _ same]
        rfl

end Json

end DocumentQuery
