import DocumentQuery.Proofs.Json.Path
import Mathlib.Data.List.Infix

/-!
# Places that are set and places that are read

Reading enters objects and arrays, but setting enters objects only: an array on the way gives place
to an object. So a place that is read keeps its value when a place apart is set, unless the two
paths go through one array before they part. Then the array is gone and nothing is read any more.
Whatever sets places in turn that are independent of another place leaves it as it is.
-/

namespace DocumentQuery

instance (first second : Path) : Decidable (first.IsApart second) :=
  inferInstanceAs (Decidable (¬ _ ∧ ¬ _))

namespace Json

/-- Whether two paths go through an array of a document before they part. -/
def MeetsArray (document : Json) (first second : Path) : Prop :=
  ∃ way items, way <+: first ∧ way <+: second ∧ get? way document = some (.array items)

instance (document : Json) (first second : Path) : Decidable (document.MeetsArray first second) :=
  decidable_of_iff
    (∃ way ∈ first.inits, way <+: second ∧ ((get? way document).bind array?).isSome = true) (by
      constructor
      · rintro ⟨way, onFirst, onSecond, isArray⟩
        obtain ⟨items, found⟩ := Option.isSome_iff_exists.mp isArray
        obtain ⟨value, reached, array⟩ := Option.bind_eq_some_iff.mp found
        cases value with
        | array entries => exact ⟨way, entries, (List.mem_inits _ _).mp onFirst, onSecond, reached⟩
        | _ => cases array
      · rintro ⟨way, items, onFirst, onSecond, reached⟩
        exact ⟨way, (List.mem_inits _ _).mpr onFirst, onSecond, by simp [reached, array?]⟩)

section Steps

variable (step first : String) (path other : Path)

/-- An array is met at once. -/
theorem meetsArray_array (items : List Json) (way second : Path) :
    MeetsArray (.array items) way second :=
  ⟨[], items, List.nil_prefix, List.nil_prefix, rfl⟩

/-- Two paths with one first step meet an array if they do within the member of its name. -/
theorem meetsArray_within (members : Members Json) (inner : Json)
    (named : members.get? step = some inner) (meets : MeetsArray inner path other) :
    MeetsArray (.object members) (step :: path) (step :: other) := by
  obtain ⟨way, items, onPath, onOther, reached⟩ := meets
  refine ⟨step :: way, items, List.cons_prefix_cons.mpr ⟨rfl, onPath⟩,
    List.cons_prefix_cons.mpr ⟨rfl, onOther⟩, ?_⟩
  simpa [get?, named] using reached

/-- Two paths meet an array in an object only if they have one first step and do so within the
member of its name. -/
theorem within_of_meetsArray (members : Members Json)
    (meets : MeetsArray (.object members) (step :: path) (first :: other)) :
    step = first ∧ ∃ inner, members.get? step = some inner ∧ MeetsArray inner path other := by
  obtain ⟨way, items, onPath, onOther, reached⟩ := meets
  cases way with
  | nil => cases reached
  | cons own way =>
    obtain ⟨rfl, behind⟩ := List.cons_prefix_cons.mp onPath
    obtain ⟨rfl, behindOther⟩ := List.cons_prefix_cons.mp onOther
    obtain ⟨inner, named, within⟩ := Option.bind_eq_some_iff.mp reached
    exact ⟨rfl, inner, named, way, items, behind, behindOther, within⟩

/-- Neither of two paths leads into the other if the same holds behind one first step. -/
theorem apart_behind (apart : Path.IsApart (step :: path) (step :: other)) :
    Path.IsApart path other :=
  ⟨fun within => apart.1 (List.cons_prefix_cons.mpr ⟨rfl, within⟩),
    fun within => apart.2 (List.cons_prefix_cons.mpr ⟨rfl, within⟩)⟩

/-- Nothing is read in an empty object. -/
theorem get_empty : get? (step :: path) (.object []) = none := rfl

/-- What is read behind a step in an object in which a member was set. -/
theorem get_insert (members : Members Json) (value : Json) :
    get? (step :: path) (.object (members.insert first value)) =
      if step = first then get? path value else get? (step :: path) (.object members) := by
  split
  case isTrue same =>
    subst same
    simp [get?]
  case isFalse different => simp only [get?, Members.get_insert_other first step _ _ different]

end Steps

/-- The member that a path sets is made of the one that was there, or of an empty object. -/
theorem set_cons (step : String) (path : Path) (document value : Json) :
    set value (step :: path) document =
      .object (document.members.insert step
        (set value path ((document.member? step).getD (.object [])))) := rfl

/-- A place keeps its value when a place apart is set, unless both paths go through one array.
Whatever is no object is replaced on the way, but it has no members, and nothing was read in it. -/
theorem get_set_kept (path other : Path) (document value : Json) (apart : path.IsApart other)
    (clear : ¬ document.MeetsArray path other) :
    get? path (set value other document) = get? path document := by
  induction path generalizing other document with
  | nil => exact absurd List.nil_prefix apart.1
  | cons step path inductionHypothesis =>
    cases other with
    | nil => exact absurd List.nil_prefix apart.2
    | cons first other =>
      have noArray : ∀ items, document ≠ .array items := by
        rintro items rfl
        exact clear (meetsArray_array items _ _)
      have asMembers : get? (step :: path) (.object document.members) =
          get? (step :: path) document := by
        cases document with
        | array items => exact absurd rfl (noArray items)
        | _ => rfl
      rw [set_cons, get_insert, asMembers]
      split
      case isFalse => rfl
      case isTrue same =>
        subst same
        have inner := apart_behind step path other apart
        cases named : document.member? step with
        | some child =>
          obtain ⟨members, rfl⟩ : ∃ members, document = .object members := by
            cases document with
            | object members => exact ⟨members, rfl⟩
            | _ => cases named
          have within : Members.get? step members = some child := named
          have clearWithin : ¬ child.MeetsArray path other := fun meets =>
            clear (meetsArray_within step path other members child within meets)
          rw [Option.getD_some, inductionHypothesis other child inner clearWithin]
          simp [get?, within]
        | none =>
          have empty : ¬ MeetsArray (.object []) path other := by
            rintro ⟨way, items, -, -, reached⟩
            cases way <;> cases reached
          have missing : document.members.get? step = none := named
          rw [Option.getD_none, inductionHypothesis other _ inner empty, ← asMembers]
          cases path with
          | nil => exact absurd List.nil_prefix inner.1
          | cons next path => simp [get?, missing, Members.get?]

/-- A place loses its value when a place apart is set, if both paths go through one array: the array
gives place to an object with one member, and the place is not in it. -/
theorem get_set_lost (path other : Path) (document value : Json) (apart : path.IsApart other)
    (meets : document.MeetsArray path other) : get? path (set value other document) = none := by
  induction path generalizing other document with
  | nil => exact absurd List.nil_prefix apart.1
  | cons step path inductionHypothesis =>
    cases other with
    | nil => exact absurd List.nil_prefix apart.2
    | cons first other =>
      cases document with
      | object members =>
        obtain ⟨rfl, inner, named, within⟩ := within_of_meetsArray _ _ _ _ members meets
        have child : member? step (.object members) = some inner := named
        rw [set_cons, get_insert, if_pos rfl, child, Option.getD_some]
        exact inductionHypothesis other inner (apart_behind step path other apart) within
      | array items =>
        have emptied : set value (first :: other) (.array items) =
            set value (first :: other) (.object []) := rfl
        have clear : ¬ MeetsArray (.object []) (step :: path) (first :: other) := fun meets => by
          obtain ⟨-, inner, named, -⟩ := within_of_meetsArray _ _ _ _ [] meets
          cases named
        rw [emptied, get_set_kept _ _ _ value apart clear, get_empty]
      | _ =>
        obtain ⟨way, items, -, -, reached⟩ := meets
        cases way <;> cases reached

/-- What stands above a place that was set is an object, whatever stood there before, because
setting replaces everything on the way that is no object. -/
theorem get_set_above (way other : Path) (document value : Json) (above : way <+: other)
    (different : way ≠ other) :
    ∃ members, get? way (set value other document) = some (.object members) := by
  induction way generalizing other document with
  | nil =>
    cases other with
    | nil => exact absurd rfl different
    | cons first other => exact ⟨_, rfl⟩
  | cons step way inductionHypothesis =>
    cases other with
    | nil => exact absurd (List.prefix_nil.mp above) (List.cons_ne_nil step way)
    | cons first other =>
      obtain ⟨rfl, behind⟩ := List.cons_prefix_cons.mp above
      rw [set_cons, get_insert, if_pos rfl]
      exact inductionHypothesis other _ behind fun same => different (congrArg _ same)

/-- Whether a place of a document can be set without a change at another place: neither leads into
the other, and they do not go through one array. -/
structure Independent (document : Json) (text other : String) : Prop where
  apart : (Path.ofText other).IsApart (Path.ofText text)
  clear : ¬ document.MeetsArray (Path.ofText other) (Path.ofText text)

instance (document : Json) (text other : String) : Decidable (document.Independent text other) :=
  decidable_of_iff (_ ∧ _) ⟨fun both => ⟨both.1, both.2⟩, fun both => ⟨both.apart, both.clear⟩⟩

/-- Whether a document was changed without a trace at a place: it has the value there that it had,
and what was independent of the place is so still. -/
structure Spares (other : String) (before after : Json) : Prop where
  kept : after.valueAt? other = before.valueAt? other
  independent : ∀ text, before.Independent text other → after.Independent text other

/-- An unchanged document has no trace of a change. -/
theorem Spares.refl (other : String) (document : Json) : Spares other document document :=
  ⟨rfl, fun _ => id⟩

/-- One change after another leaves no trace if neither does. -/
theorem Spares.trans {other : String} {before middle after : Json}
    (first : Spares other before middle) (second : Spares other middle after) :
    Spares other before after :=
  ⟨second.kept.trans first.kept,
    fun text independent => second.independent text (first.independent text independent)⟩

/-- Setting a place leaves no trace at a place that is independent of it. If both paths went through
one array behind the change, that array was there before: above the place that was set stand
objects, and a way apart from it leads to what it led to. -/
theorem spares_setAt (document value : Json) (text other : String)
    (independent : document.Independent text other) :
    Spares other document (document.setAt text value) := by
  refine ⟨get_set_kept _ _ document value independent.apart independent.clear, ?_⟩
  rintro later ⟨apart, clear⟩
  refine ⟨apart, ?_⟩
  rintro ⟨way, items, onOther, onLater, reached⟩
  by_cases below : Path.ofText text <+: way
  · exact independent.apart.2 (below.trans onOther)
  by_cases above : way <+: Path.ofText text
  · have different : way ≠ Path.ofText text := by
      rintro rfl
      exact below List.prefix_rfl
    obtain ⟨members, found⟩ := get_set_above way (Path.ofText text) document value above different
    exact absurd (reached.symm.trans found) (by simp)
  · have clearWay : ¬ document.MeetsArray way (Path.ofText text) := by
      rintro ⟨start, entries, onWay, onText, found⟩
      exact independent.clear ⟨start, entries, onWay.trans onOther, onText, found⟩
    have found := get_set_kept way (Path.ofText text) document value ⟨above, below⟩ clearWay
    exact clear ⟨way, items, onOther, onLater, found.symm.trans reached⟩

end Json

end DocumentQuery
