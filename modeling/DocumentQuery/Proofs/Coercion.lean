import DocumentQuery.Proofs.Calendar.Canonical
import DocumentQuery.Proofs.Json.Repeats
import DocumentQuery.Proofs.Json.Sameness
import DocumentQuery.Proofs.Places

/-!
# Coerced rows are settled

A field of a row is settled if no date stands there but in its canonical text, with objects on the
way to it. A coercion settles each of its fields, and what it does to one field unsettles no other:
a field above another one is an object afterwards, nothing is read below a text, and a field apart
is kept or lost as a whole. So a second coercion finds nothing to do.
-/

namespace DocumentQuery

/-- Nothing is read below a text: a path that goes on behind one looks for a member or an item, and
a text has neither. -/
theorem Json.get_below_text (way path : Path) (document : Json) (text : String)
    (stands : get? way document = some (.string text)) (above : way <+: path)
    (different : way ≠ path) : get? path document = none := by
  induction way generalizing path document with
  | nil =>
    obtain rfl := Option.some.inj stands
    cases path with
    | nil => exact absurd rfl different
    | cons step path => rfl
  | cons step way inductionHypothesis =>
    cases path with
    | nil => exact absurd (List.prefix_nil.mp above) (List.cons_ne_nil step way)
    | cons first path =>
      obtain ⟨rfl, behind⟩ := List.cons_prefix_cons.mp above
      have other : way ≠ path := fun same => different (congrArg _ same)
      cases document with
      | object entries | array entries =>
        obtain ⟨inner, named, within⟩ := Option.bind_eq_some_iff.mp stands
        simp only [get?, named, Option.bind_some]
        exact inductionHypothesis path inner within behind other
      | _ => cases stands

namespace Coercion

variable (coercion : Coercion)

/-- Values stand for instants of some day, texts by whatever format reads them, and numbers by the
count of milliseconds that they come to. -/
theorem convert_inDay (value : Json) (instant : Instant)
    (stands : coercion.convert value = .ok (some instant)) : instant.InDay := by
  cases value with
  | string text => exact Calendar.readFirst_inDay _ text instant (Except.ok.inj stands)
  | number value =>
    simp only [convert] at stands
    split at stands
    · next found =>
      cases stands
      obtain ⟨milliseconds, -, found⟩ := Option.bind_eq_some_iff.mp found
      split at found
      · cases found
      · exact Instant.ofMilliseconds_inDay _ found
    · cases stands
  | _ => cases stands

/-- A canonical text stands for an instant with the same canonical text, if it stands for any. -/
theorem convert_text (value : Json) (instant back : Instant)
    (stands : coercion.convert value = .ok (some instant))
    (read : coercion.convert (.string instant.toText) = .ok (some back)) :
    back.toText = instant.toText :=
  (coercion.convert_inDay value instant stands).text_back _ back (Except.ok.inj read)

/-- Whether no date stands at a field of a row but in its canonical text, and behind objects. -/
def IsSettled (row : Json) (field : String) : Prop :=
  ∀ value instant, row.valueAt? field = some value → coercion.convert value = .ok (some instant) →
    Json.reach? (Path.ofText field) row = some (.string instant.toText)

/-- A date at a settled field is its own canonical text. -/
theorem IsSettled.value_eq {row value : Json} {field : String} {instant : Instant}
    (settled : coercion.IsSettled row field) (found : row.valueAt? field = some value)
    (stands : coercion.convert value = .ok (some instant)) : value = .string instant.toText := by
  have reached := settled value instant found stands
  exact Option.some.inj (found.symm.trans (Json.get_of_reach _ row _ reached))

/-- A settled field is left as it is. -/
theorem IsSettled.coerceField_eq {row : Json} {field : String} (index : Nat)
    (settled : coercion.IsSettled row field) :
    (coercion.coerceField index row field).1 = row := by
  rcases coercion.coerceField_cases index row field with
    ⟨-, same⟩ | ⟨value, instant, found, stands, set⟩
  · exact same
  · exact set.trans (Json.set_of_reach _ row _ (settled value instant found stands))

/-- A text that was set for a date settles its field. -/
theorem isSettled_setAt (row value : Json) (field : String) (instant : Instant)
    (stands : coercion.convert value = .ok (some instant)) :
    coercion.IsSettled (row.setAt field (.string instant.toText)) field := by
  intro found back there again
  obtain rfl := Option.some.inj ((Json.valueAt_setAt_same row _ field).symm.trans there)
  rw [coercion.convert_text value instant back stands again]
  exact Json.reach_set_same _ row _

/-- A field is settled once it has been coerced. -/
theorem isSettled_coerceField (index : Nat) (row : Json) (field : String) :
    coercion.IsSettled (coercion.coerceField index row field).1 field := by
  rcases coercion.coerceField_cases index row field with
    ⟨noDate, same⟩ | ⟨value, instant, -, stands, set⟩
  · rw [same]
    exact fun value instant found stands => absurd stands (noDate value instant found)
  · rw [set]
    exact coercion.isSettled_setAt row value field instant stands

/-- A settled field stays settled when a text is set for a date at another field. Whatever is found
at a field apart was there before, what stands above the text is an object and no date, and nothing
stands below a text. -/
theorem IsSettled.setAt {row : Json} {field : String} (settled : coercion.IsSettled row field)
    (value : Json) (other : String) (instant : Instant)
    (stands : coercion.convert value = .ok (some instant)) :
    coercion.IsSettled (row.setAt other (.string instant.toText)) field := by
  by_cases same : field = other
  · subst same
    exact coercion.isSettled_setAt row value field instant stands
  have different : Path.ofText field ≠ Path.ofText other :=
    fun paths => same (Path.ofText_injective field other paths)
  intro found back there again
  by_cases above : Path.ofText field <+: Path.ofText other
  · obtain ⟨members, object⟩ := Json.get_set_above _ _ row (.string instant.toText) above different
    obtain rfl := Option.some.inj (there.symm.trans object)
    cases again
  by_cases below : Path.ofText other <+: Path.ofText field
  · have nothing := Json.get_below_text _ _ _ _
      (Json.valueAt_setAt_same row (.string instant.toText) other) below different.symm
    cases there.symm.trans nothing
  have clear : ¬ row.MeetsArray (Path.ofText field) (Path.ofText other) := fun meets => by
    have lost := Json.get_set_lost _ _ row (.string instant.toText) ⟨above, below⟩ meets
    cases there.symm.trans lost
  have kept := Json.get_set_kept _ _ row (.string instant.toText) ⟨above, below⟩ clear
  have reached := settled found back (kept.symm.trans there) again
  exact (Json.reach_set_apart _ _ row (.string instant.toText) ⟨above, below⟩).trans reached

/-- A settled field stays settled when another field is coerced. -/
theorem IsSettled.coerceField {row : Json} {field : String}
    (settled : coercion.IsSettled row field) (index : Nat) (other : String) :
    coercion.IsSettled (coercion.coerceField index row other).1 field := by
  rcases coercion.coerceField_cases index row other with
    ⟨-, same⟩ | ⟨value, instant, -, stands, set⟩
  · rw [same]
    exact settled
  · rw [set]
    exact settled.setAt coercion value other instant stands

/-- Settled fields stay settled when others are coerced in turn. -/
theorem IsSettled.coerceFields {row : Json} {field : String}
    (settled : coercion.IsSettled row field) (index : Nat) (others : List String) :
    coercion.IsSettled (coercion.coerceFields index row others).1 field := by
  induction others generalizing row with
  | nil => exact settled
  | cons other others inductionHypothesis =>
    exact inductionHypothesis (settled.coerceField coercion index other)

/-- Fields that are coerced in turn are all settled at the end. -/
theorem coerceFields_settles (index : Nat) (row : Json) (fields : List String) :
    ∀ field ∈ fields, coercion.IsSettled (coercion.coerceFields index row fields).1 field := by
  induction fields generalizing row with
  | nil => nofun
  | cons first fields inductionHypothesis =>
    refine List.forall_mem_cons.mpr ⟨?_, inductionHypothesis _⟩
    exact (coercion.isSettled_coerceField index row first).coerceFields coercion index fields

/-- A row is left as it is if all its fields are settled. -/
theorem coerceFields_settled (index : Nat) (row : Json) (fields : List String)
    (settled : ∀ field ∈ fields, coercion.IsSettled row field) :
    (coercion.coerceFields index row fields).1 = row := by
  induction fields with
  | nil => rfl
  | cons first fields inductionHypothesis =>
    obtain ⟨own, others⟩ := List.forall_mem_cons.mp settled
    have same := own.coerceField_eq coercion index
    rw [Coercion.coerceFields]
    simp only [same]
    exact inductionHypothesis others

/-- Coerced rows have all fields settled. -/
theorem coerceFrom_settles (index : Nat) (rows : List Json) :
    ∀ row ∈ (coercion.coerceFrom index rows).rows, ∀ field ∈ coercion.fields,
      coercion.IsSettled row field := by
  induction rows generalizing index with
  | nil => nofun
  | cons row rows inductionHypothesis =>
    exact List.forall_mem_cons.mpr
      ⟨coercion.coerceFields_settles index row coercion.fields, inductionHypothesis (index + 1)⟩

/-- Rows with all fields settled are left as they are. -/
theorem coerceFrom_settled (index : Nat) (rows : List Json)
    (settled : ∀ row ∈ rows, ∀ field ∈ coercion.fields, coercion.IsSettled row field) :
    (coercion.coerceFrom index rows).rows = rows := by
  induction rows generalizing index with
  | nil => rfl
  | cons row rows inductionHypothesis =>
    obtain ⟨own, others⟩ := List.forall_mem_cons.mp settled
    rw [coerceFrom]
    simp only [coercion.coerceFields_settled index row coercion.fields own,
      inductionHypothesis (index + 1) others]

/-- A coercion leaves no date at its fields but in its canonical text, and coercing the rows again
changes nothing.

Proof: a canonical text stands for an instant with the same canonical text, whichever of the formats
reads it, if it stands for any. So a field that holds the text of its date is settled: coercing it
changes nothing. Coercing a field settles it, and it stays settled when another field is coerced
behind it, so the rows are settled at all fields. -/
theorem coerce_idempotent (rows : List Json) :
    (∀ row ∈ (coercion.coerce rows).rows, ∀ field ∈ coercion.fields, ∀ value instant,
      row.valueAt? field = some value → coercion.convert value = .ok (some instant) →
      value = .string instant.toText) ∧
    (coercion.coerce (coercion.coerce rows).rows).rows = (coercion.coerce rows).rows := by
  have settled := coercion.coerceFrom_settles 0 rows
  refine ⟨fun row present field listed value instant found stands => ?_, ?_⟩
  · exact (settled row present field listed).value_eq coercion found stands
  · exact coercion.coerceFrom_settled 0 _ settled

/-- Rows with dates in a list, behind an object, in a number and in an ambiguous form. -/
def dated : List Json :=
  [.object [("days", .array ["01/02/2024", "2024-02-02"]),
    ("order", .object [("placed", .ofNat 1700000000), ("paid", "2016-12-31T23:59:60.1239Z")]),
    ("born", "-0044-03-15")]]

/-- A coercion of these rows that names a field twice, and a field below and above another. -/
def datedFields : Coercion where
  fields := ["days.0", "order.placed", "order", "order.paid", "born", "born.year", "born"]

/-- The rows with canonical texts, as coercion leaves them. -/
def settledRows : List Json :=
  [.object [("days", .object [("0", "2024-01-02T00:00:00.000Z")]),
    ("order", .object [("placed", "2023-11-14T22:13:20.000Z"),
      ("paid", "2016-12-31T23:59:60.123Z")]),
    ("born", "-0044-03-15T00:00:00.000Z")]]

/-- The rows get their canonical texts at once and keep them. -/
theorem dated_settled :
    (datedFields.coerce dated).rows = settledRows ∧
      (datedFields.coerce settledRows).rows = settledRows := by
  have once : (datedFields.coerce dated).rows = settledRows := by decide +kernel
  have twice := (datedFields.coerce_idempotent dated).2
  rw [once] at twice
  exact ⟨once, twice⟩

end Coercion

end DocumentQuery
