import DocumentQuery.Proofs.Json.Places
import DocumentQuery.Proofs.Json.Repeats
import DocumentQuery.Proofs.Pipeline.Rows
import Mathlib.Data.List.Duplicate

/-!
# Fields that are repeated in a projection

Showing a field again changes nothing if it is still shown as the row has it. It is, if the fields
in between lead elsewhere, or if they are kept as well and no path goes through an array: then they
put back what is there. Showing an item of an array does make an object of the array, so a field
that is shown again behind it is not the same as before.
-/

namespace DocumentQuery

open Members (earliest names ofList)

/-- Whether no step of a path can be an index. -/
def Path.HasNoIndex (path : Path) : Prop := ∀ step ∈ path, Text.unsigned? step.toList = none

instance (path : Path) : Decidable path.HasNoIndex :=
  inferInstanceAs (Decidable (∀ step ∈ path, Text.unsigned? step.toList = none))

namespace Json

/-- What is found at a path without indices is reached through objects. -/
theorem get_eq_reach (path : Path) (document : Json) (noIndex : path.HasNoIndex) :
    get? path document = reach? path document := by
  induction path generalizing document with
  | nil => rfl
  | cons step path inductionHypothesis =>
    obtain ⟨first, others⟩ := List.forall_mem_cons.mp noIndex
    cases document with
    | object members =>
      exact congrArg _ (funext fun inner => inductionHypothesis inner others)
    | array items => simp [get?, item?, first, reach?, member?, members, Members.get?]
    | _ => rfl

/-- A path is gone in two parts. -/
theorem reach_append (front back : Path) (document : Json) :
    reach? (front ++ back) document = (reach? front document).bind (reach? back) := by
  induction front generalizing document with
  | nil => rfl
  | cons step front inductionHypothesis =>
    rw [List.cons_append, reach?, reach?, Option.bind_assoc]
    exact congrArg _ (funext inductionHypothesis)

/-- What is reached at a path stays when a value of the same document is set, as far as both paths
go through objects only: the value lies within what is reached, or that lies within the value, or
they are apart. -/
theorem reach_set_source (path other : Path) (document kept present value : Json)
    (source : reach? path document = some present) (reached : reach? path kept = some present)
    (found : reach? other document = some value) :
    reach? path (set value other kept) = some present := by
  by_cases inner : path <+: other
  · obtain ⟨rest, rfl⟩ := inner
    have there : reach? (path ++ rest) kept = some value := by
      rw [reach_append, reached, ← source, ← reach_append, found]
    rw [set_of_reach _ kept value there, reached]
  · by_cases outer : other <+: path
    · obtain ⟨rest, rfl⟩ := outer
      rw [reach_append, reach_set_same, ← found, ← reach_append, source]
    · exact (reach_set_apart path other kept value ⟨inner, outer⟩).trans reached

end Json

/-- What a projection sets a field of a row to, if it sets it. -/
def Shape.value? (row : Json) (field : String) : Shape → Except Expression.Fault (Option Json)
  | .kept => .ok (row.valueAt? field)
  | .computed expression => (Expression.evaluate row expression).map some
  | .dropped => .ok none

section Showing

variable (row : Json)

/-- A field is set to the value of its shape. -/
theorem keepField_eq (kept : Json) (field : String) (shape : Shape) :
    keepField row kept field shape =
      (shape.value? row field).map fun value => value.elim kept (kept.setAt field) := by
  cases shape with
  | computed expression =>
    rw [keepField, Shape.value?]
    cases Expression.evaluate row expression <;> rfl
  | _ => rfl

/-- The last field of a projection is shown behind the others. -/
theorem keepFields_concat (projection : Projection) (entry : String × Shape) (start : Json) :
    keepFields row (projection ++ [entry]) start =
      keepFields row projection start >>= fun kept => keepField row kept entry.1 entry.2 := by
  induction projection generalizing start with
  | nil =>
    rw [List.nil_append, keepFields, keepFields, ok_bind]
    cases keepField row start entry.1 entry.2 <;> rfl
  | cons first projection inductionHypothesis =>
    rw [List.cons_append, keepFields, keepFields]
    cases keepField row start first.1 first.2 with
    | error fault => rfl
    | ok kept => exact inductionHypothesis kept

/-- Whether a document has a field as a projection shows it. A field that shows no value asks for
nothing. -/
def IsSettled (kept : Json) (entry : String × Shape) : Prop :=
  ∃ value, entry.2.value? row entry.1 = .ok value ∧
    ∀ present, value = some present → Json.reach? (Path.ofText entry.1) kept = some present

/-- Whether showing a second field does no harm to a first one that is shown already. -/
inductive Harmless (entry other : String × Shape) : Prop where
  | same (equal : other = entry)
  | apart (paths : (Path.ofText entry.1).IsApart (Path.ofText other.1))
  | dropped (shape : other.2 = .dropped)
  | kept (first : entry.2 = .kept) (second : other.2 = .kept)
    (firstPath : (Path.ofText entry.1).HasNoIndex) (secondPath : (Path.ofText other.1).HasNoIndex)

variable {row}

/-- A field that is shown is settled. -/
theorem keepField_settles (kept next : Json) (entry : String × Shape)
    (done : keepField row kept entry.1 entry.2 = .ok next) : IsSettled row next entry := by
  rw [keepField_eq] at done
  obtain ⟨value, made, rfl⟩ := (map_ok_iff _ _ _).mp done
  refine ⟨value, made, ?_⟩
  rintro present rfl
  exact Json.reach_set_same _ kept present

/-- Showing a settled field again changes nothing. -/
theorem IsSettled.again {kept : Json} {entry : String × Shape}
    (settled : IsSettled row kept entry) :
    keepField row kept entry.1 entry.2 = .ok kept := by
  obtain ⟨value, made, reached⟩ := settled
  rw [keepField_eq, made]
  cases value with
  | none => rfl
  | some present =>
    exact congrArg Except.ok (Json.set_of_reach _ kept present (reached present rfl))

/-- A settled field stays settled when harmless ones are shown. The same field again sets the same
value, a field apart does not touch it, a dropped one sets nothing, and two kept ones that overlap
are taken from one row. -/
theorem IsSettled.stays {kept next : Json} {entry other : String × Shape}
    (settled : IsSettled row kept entry) (harmless : Harmless entry other)
    (done : keepField row kept other.1 other.2 = .ok next) : IsSettled row next entry := by
  obtain ⟨value, made, reached⟩ := settled
  cases harmless with
  | same equal =>
    obtain rfl := equal
    exact keepField_settles kept next other done
  | apart paths =>
    rw [keepField_eq] at done
    obtain ⟨set, -, rfl⟩ := (map_ok_iff _ _ _).mp done
    refine ⟨value, made, fun present same => ?_⟩
    cases set with
    | none => exact reached present same
    | some given => exact (Json.reach_set_apart _ _ kept given paths).trans (reached present same)
  | dropped shape =>
    rw [shape] at done
    obtain rfl := Except.ok.inj done
    exact ⟨value, made, reached⟩
  | kept first second firstPath secondPath =>
    refine ⟨value, made, fun present same => ?_⟩
    subst same
    rw [first] at made
    have source := Json.get_eq_reach _ row firstPath
    have here := source.symm.trans (Except.ok.inj made)
    rw [second] at done
    obtain rfl := Except.ok.inj done
    cases found : row.valueAt? other.1 with
    | none => exact reached present rfl
    | some given =>
      exact Json.reach_set_source _ _ row kept present given here (reached present rfl)
        ((Json.get_eq_reach _ row secondPath).symm.trans found)

end Showing

/-- Whether a projection shows something, and showing a field again does not change what it shows:
what is shown beside such a field does it no harm. -/
structure Projection.IsSteady (projection : Projection) : Prop where
  shows : ∃ entry ∈ projection, entry.2.isKept = true
  harmless : ∀ entry ∈ projection, (names projection).Duplicate entry.1 →
    ∀ other ∈ projection, Harmless entry other

/-- Two entries with one name make the name a repeated one, wherever they stand in the list. -/
theorem Members.duplicate_of_ne {Value : Type} (entries : List (String × Value))
    (first second : String × Value) (one : first ∈ entries) (two : second ∈ entries)
    (different : first ≠ second) (same : first.1 = second.1) :
    (names entries).Duplicate first.1 := by
  induction entries with
  | nil => exact absurd one List.not_mem_nil
  | cons entry entries inductionHypothesis =>
    rcases List.mem_cons.mp one with rfl | firstLater
    · have later := (List.mem_cons.mp two).resolve_left different.symm
      have listed : first.1 ∈ names entries := same ▸ List.mem_map_of_mem later
      exact listed.duplicate_cons_self
    · rcases List.mem_cons.mp two with rfl | secondLater
      · have listed : second.1 ∈ names entries := same ▸ List.mem_map_of_mem firstLater
        rw [same]
        exact listed.duplicate_cons_self
      · exact (inductionHypothesis firstLater secondLater).duplicate_cons _

/-- A name behind others that it is not among is not repeated, and repeats none of them. -/
theorem duplicate_concat {Name : Type} [DecidableEq Name] (names : List Name) (last name : Name)
    (fresh : last ∉ names) (repeated : (names ++ [last]).Duplicate name) :
    names.Duplicate name := by
  rw [List.duplicate_iff_two_le_count, List.count_append] at repeated
  rw [List.duplicate_iff_two_le_count]
  by_cases same : name = last
  · subst same
    rw [List.count_eq_zero_of_not_mem fresh] at repeated
    simp at repeated
  · have apart : name ∉ [last] := by simpa using same
    rwa [List.count_eq_zero_of_not_mem apart] at repeated

/-- A projection stays steady if it drops one more field, which sets nothing. That the field is new
keeps the names repeated that were repeated before. -/
theorem Projection.IsSteady.dropping {projection : Projection} (steady : projection.IsSteady)
    (field : String) (fresh : field ∉ names projection) :
    Projection.IsSteady (projection ++ [(field, .dropped)]) where
  shows := by
    obtain ⟨entry, listed, kept⟩ := steady.shows
    exact ⟨entry, List.mem_append_left _ listed, kept⟩
  harmless entry listed repeated other beside := by
    rcases List.mem_append.mp beside with before | last
    · rw [Members.names_append] at repeated
      have twice := duplicate_concat _ field entry.1 fresh repeated
      rcases List.mem_append.mp listed with early | late
      · exact steady.harmless entry early twice other before
      · obtain rfl := List.mem_singleton.mp late
        exact absurd twice.mem fresh
    · obtain rfl := List.mem_singleton.mp last
      exact .dropped rfl

section Steady

variable {projection : Projection} (steady : projection.IsSteady)

include steady

/-- A steady projection has one shape for each field. Entries with one name are not apart, so that
each is harmless to the other only with the same shape. -/
theorem Projection.IsSteady.consistent (entry other : String × Shape) (one : entry ∈ projection)
    (two : other ∈ projection) (same : entry.1 = other.1) : entry = other := by
  by_contra different
  have repeated := Members.duplicate_of_ne projection entry other one two different same
  have forth := steady.harmless entry one repeated other two
  have back := steady.harmless other two (same ▸ repeated) entry one
  cases forth with
  | same equal => exact different equal.symm
  | apart paths => exact paths.1 (same ▸ List.prefix_rfl)
  | kept first second => exact different (Prod.ext same (first.trans second.symm))
  | dropped shape =>
    cases back with
    | same equal => exact different equal
    | apart paths => exact paths.1 (same ▸ List.prefix_rfl)
    | dropped other => exact different (Prod.ext same (other.trans shape.symm))
    | kept first => exact absurd (first.symm.trans shape) (by simp)

variable (row : Json) (start : Json)

/-- Each repeated field is settled when it has been shown, and stays so to the end of the list. The
induction adds entries at the end, where an entry either settles its own field or is harmless to the
others. -/
theorem Projection.IsSteady.settles (front : Projection) (inside : front.Sublist projection)
    (kept : Json) (done : keepFields row front start = .ok kept) (entry : String × Shape)
    (listed : entry ∈ front) (repeated : (names projection).Duplicate entry.1) :
    IsSettled row kept entry := by
  induction front using List.reverseRecOn generalizing kept with
  | nil => exact absurd listed List.not_mem_nil
  | append_singleton front last inductionHypothesis =>
    rw [keepFields_concat] at done
    obtain ⟨before, shown, step⟩ := (bind_ok_iff _ _ _).mp done
    rcases List.mem_append.mp listed with earlier | now
    · have settled := inductionHypothesis ((List.sublist_append_left _ _).trans inside) before shown
        earlier
      exact settled.stays (steady.harmless entry (inside.subset listed) repeated last
        (inside.subset (by simp))) step
    · obtain rfl := List.mem_singleton.mp now
      exact keepField_settles before kept entry step

/-- The fields of a steady projection are shown as with each of them once. A field that is listed
again was shown before, and nothing since then has changed it. -/
theorem Projection.IsSteady.keepFields_earliest (front : Projection)
    (inside : front.Sublist projection) :
    keepFields row (earliest front) start = keepFields row front start := by
  induction front using List.reverseRecOn with
  | nil => rfl
  | append_singleton front last inductionHypothesis =>
    have before := (List.sublist_append_left front [last]).trans inside
    rw [Members.earliest_concat, keepFields_concat]
    split
    · next known =>
      rw [inductionHypothesis before]
      rw [Members.names_earliest, Members.mem_firstNames] at known
      obtain ⟨entry, listed, same⟩ := List.mem_map.mp known
      obtain rfl : entry = last := steady.consistent entry last (before.subset listed)
        (inside.subset (by simp)) same
      have repeated : (names projection).Duplicate entry.1 := by
        refine List.Duplicate.mono_sublist ?_ (inside.map Prod.fst)
        rw [List.map_append, List.duplicate_iff_sublist]
        exact (List.singleton_sublist.mpr (List.mem_map_of_mem listed)).append (List.Sublist.refl _)
      cases shown : keepFields row front start with
      | error fault => rfl
      | ok kept =>
        have settled := steady.settles row start front before kept shown entry listed repeated
        exact settled.again.symm
    · rw [keepFields_concat, inductionHypothesis before]

/-- A steady projection has the same entries with each field once. -/
theorem Projection.IsSteady.mem_once (entry : String × Shape) :
    entry ∈ ofList projection ↔ entry ∈ projection := by
  refine ⟨Members.mem_ofList projection entry, fun listed => ?_⟩
  have named : entry.1 ∈ names (ofList projection) := by
    rw [Members.names_ofList, Members.mem_firstNames]
    exact List.mem_map_of_mem listed
  obtain ⟨other, kept, same⟩ := List.mem_map.mp named
  rwa [← steady.consistent other entry (Members.mem_ofList projection other kept) listed same]

/-- A steady projection gives a row the same shape with each field once. It has one shape for each
field, so the last shape that a field is listed with is the first one as well, and that decides
whether fields are shown or left out. -/
theorem Projection.IsSteady.projectRow_once :
    projectRow (ofList projection) row = projectRow projection row := by
  have asked (test : String × Shape → Bool) :
      (ofList projection).any test = projection.any test := by
    rw [Bool.eq_iff_iff, List.any_eq_true, List.any_eq_true]
    exact exists_congr fun entry => and_congr_left' (steady.mem_once entry)
  have once : ofList projection = earliest projection := by
    refine (Members.ofList_eq_earliest projection).mpr fun name => ?_
    have missing := Members.get_reverse_none name projection
    cases first : Members.get? name projection with
    | none => exact (missing.mp first).symm
    | some shape =>
      cases last : Members.get? name projection.reverse with
      | none => exact absurd (missing.mpr last) (by simp [first])
      | some other =>
        have one := Members.mem_of_get name shape projection first
        have two := List.mem_reverse.mp (Members.mem_of_get name other _ last)
        exact congrArg some (Prod.mk.inj (steady.consistent _ _ one two rfl)).2
  have shows := List.any_eq_true.mpr steady.shows
  rw [projectRow, projectRow]
  simp only [asked]
  refine (if_pos shows).trans (Eq.trans ?_ (if_pos shows).symm)
  rw [once]
  exact steady.keepFields_earliest row _ projection (List.Sublist.refl projection)

end Steady

/-- An item of an array is shown in an object, which the array replaces when it is shown again. -/
example :
    let fields : Projection := [("a", .kept), ("a.0", .kept), ("a", .kept)]
    let row := Json.object [("a", .array [.ofInt 5, .ofInt 6])]
    projectRow fields row = .ok row ∧
      projectRow (ofList fields) row = .ok (.object [("a", .object [("0", .ofInt 5)])]) :=
  ⟨rfl, rfl⟩

end DocumentQuery
