import DocumentQuery.Proofs.Batch.Identities
import DocumentQuery.Proofs.Compute.Temporaries
import DocumentQuery.Proofs.Json.Distinct
import DocumentQuery.Proofs.Pipeline.Joins

/-!
# What joins put into rows

Where no single join finds several partners of a row, every row of a page stays one row and the page
keeps its order. A row that has gone through all joins shows, under the output of each join, what
the join has found for it: the one partner or nothing if the join is single, and else the list of
all partners. A join whose path leads into the output of an earlier one looks at what that one has
put there; every other join looks at the row as it was.
-/

namespace DocumentQuery

namespace Json

/-- Whether a value is an object that repeats no name. -/
def IsRecord (row : Json) : Prop :=
  ∃ members, row = .object members ∧ (Members.names members).Nodup

/-- What is found in a record is told by the member that the path leads into. -/
theorem IsRecord.valueAt_congr {row other : Json} (record : row.IsRecord)
    (otherRecord : other.IsRecord) (text : String)
    (same : row.member? (Path.head text) = other.member? (Path.head text)) :
    row.valueAt? text = other.valueAt? text := by
  obtain ⟨members, rfl, -⟩ := record
  obtain ⟨others, rfl, -⟩ := otherRecord
  rw [valueAt_object, valueAt_object]
  exact congrArg (Option.bind · _) same

/-- Whether a record was changed under one name at most, which has a given value or none. -/
structure ChangedAt (name : String) (shown : Option Json) (before after : Json) : Prop where
  record : after.IsRecord
  others : ∀ other, other ≠ name → after.member? other = before.member? other
  shows : after.member? name = shown

/-- One change under a name after another is a change under the name. -/
theorem ChangedAt.trans {name : String} {first second : Option Json} {before middle after : Json}
    (changed : ChangedAt name first before middle) (again : ChangedAt name second middle after) :
    ChangedAt name second before after :=
  ⟨again.record, fun other different =>
    (again.others other different).trans (changed.others other different), again.shows⟩

/-- Setting a name changes a record under this name. -/
theorem IsRecord.setAt {row : Json} (record : row.IsRecord) (name : String) (value : Json)
    (plain : '.' ∉ name.toList) : ChangedAt name (some value) row (row.setAt name value) := by
  obtain ⟨members, rfl, distinct⟩ := record
  rw [Compute.setAt_plain members name value plain]
  exact ⟨⟨_, rfl, Members.distinct_insert name value members distinct⟩,
    fun other different => Members.get_insert_other name other value members different,
    Members.get_insert_same name value members⟩

/-- Removing a name changes a record under this name. -/
theorem IsRecord.eraseAt {row : Json} (record : row.IsRecord) (name : String)
    (plain : '.' ∉ name.toList) : ChangedAt name none row (row.eraseAt name) := by
  obtain ⟨members, rfl, distinct⟩ := record
  have erased : (object members).eraseAt name = .object (Members.erase name members) := by
    simp [Json.eraseAt, Path.ofText_plain name plain, erase]
  have left := (Members.names_erase name members).nodup_iff.mpr (distinct.erase name)
  rw [erased]
  exact ⟨⟨_, rfl, left⟩,
    fun other different => Members.get_erase_other name other members distinct different,
    Members.get_erase_same name members distinct⟩

end Json

namespace Expansion

variable (source : Pipeline.Source) (expansion : Expansion)

/-- Whether a member shows a row's partners: a single join shows the only one, or nothing if there
is none, and any other join the list of them. -/
def Shows (partners : List Json) (shown : Option Json) : Prop :=
  if expansion.single then shown.toList = partners else shown = some (.array partners)

/-- A record for which a single join finds one partner at most stays one record, with its partners
under the output of the join. -/
theorem rowsOf_record (row : Json) (record : row.IsRecord)
    (plain : '.' ∉ expansion.outputField.toList)
    (alone : expansion.single = true → (expansion.partners source row).length ≤ 1) :
    ∃ next shown, expansion.rowsOf source row = [next] ∧
      Json.ChangedAt expansion.outputField shown row next ∧
      expansion.Shows (expansion.partners source row) shown := by
  have joined := record.setAt expansion.outputField (.array (expansion.partners source row)) plain
  have found : (row.setAt expansion.outputField (.array (expansion.partners source row))).valueAt?
      expansion.outputField = some (.array (expansion.partners source row)) :=
    Json.valueAt_setAt_same row _ expansion.outputField
  simp only [rowsOf, expansion.join_row source row]
  generalize expansion.partners source row = partners at joined found alone ⊢
  by_cases single : expansion.single = true
  case neg => exact ⟨_, _, if_neg single, joined, by rw [Shows, if_neg single]⟩
  case pos =>
    simp only [if_pos single, unwindRow, found, Shows]
    cases partners with
    | nil =>
      exact ⟨_, none, rfl, joined.trans (joined.record.eraseAt expansion.outputField plain), rfl⟩
    | cons partner others =>
      obtain rfl : others = [] := List.length_eq_zero_iff.mp (Nat.le_zero.mp
        (Nat.le_of_succ_le_succ (alone single)))
      have taken := joined.record.setAt expansion.outputField partner plain
      exact ⟨_, some partner, rfl, joined.trans taken, rfl⟩

/-- The row that an expansion looks at: the one behind all joins if the local path leads into the
output of an earlier join, and else the one before them. -/
def looksAt (earlier : List Expansion) (before after : Json) : Json :=
  if Path.head expansion.localField ∈ earlier.map outputField then after else before

end Expansion

/-- What a row is behind expansions: a record that has the members it had, save under the outputs,
where it shows the partners that each expansion finds. -/
structure IsExpanded (source : Pipeline.Source) (expansions : List Expansion)
    (before after : Json) : Prop where
  record : after.IsRecord
  others : ∀ name, name ∉ expansions.map Expansion.outputField →
    after.member? name = before.member? name
  shows : ∀ earlier expansion later, expansions = earlier ++ expansion :: later →
    expansion.Shows (expansion.partners source (expansion.looksAt earlier before after))
      (after.member? expansion.outputField)

section Rows

variable (source : Pipeline.Source)

/-- Records with the same value where an expansion looks have the same partners. -/
theorem Expansion.partners_congr (expansion : Expansion) {row other : Json}
    (record : row.IsRecord) (otherRecord : other.IsRecord)
    (same : row.member? (Path.head expansion.localField) =
      other.member? (Path.head expansion.localField)) :
    expansion.partners source row = expansion.partners source other := by
  unfold partners
  rw [record.valueAt_congr otherRecord expansion.localField same]

variable {source} {expansion : Expansion} {expansions : List Expansion}
variable {before next after : Json} {shown : Option Json}

/-- A row that is expanded once and then by others is expanded by all of them. Only an expansion
whose path leads into the output that was set first looks at another row than before. -/
theorem IsExpanded.cons (record : before.IsRecord)
    (fresh : expansion.outputField ∉ expansions.map Expansion.outputField)
    (changed : Json.ChangedAt expansion.outputField shown before next)
    (shows : expansion.Shows (expansion.partners source before) shown)
    (rest : IsExpanded source expansions next after) :
    IsExpanded source (expansion :: expansions) before after := by
  refine ⟨rest.record, ?_, ?_⟩
  · intro name absent
    rw [List.map_cons, List.mem_cons, not_or] at absent
    exact (rest.others name absent.2).trans (changed.others name absent.1)
  · intro earlier other later divided
    cases earlier with
    | nil =>
      obtain ⟨rfl, -⟩ := List.cons.inj divided
      rw [rest.others _ fresh, changed.shows]
      exact shows
    | cons first earlier =>
      obtain ⟨rfl, behind⟩ := List.cons.inj divided
      have found := rest.shows earlier other later behind
      by_cases inside : Path.head other.localField ∈ earlier.map Expansion.outputField
      · have look : other.looksAt (expansion :: earlier) before after =
            other.looksAt earlier next after := by
          simp [Expansion.looksAt, inside]
        exact look ▸ found
      · have look : other.looksAt earlier next after = next := if_neg inside
        rw [look] at found
        by_cases own : Path.head other.localField = expansion.outputField
        · have through : other.looksAt (expansion :: earlier) before after = after := by
            simp [Expansion.looksAt, own]
          have kept := rest.others _ (own ▸ fresh)
          rw [through, other.partners_congr source rest.record changed.record kept]
          exact found
        · have past : other.looksAt (expansion :: earlier) before after = before := by
            simp_all [Expansion.looksAt]
          have kept := changed.others _ own
          rw [past, ← other.partners_congr source changed.record record kept]
          exact found

/-- A record for which no single join finds several partners is expanded as one row. Each expansion
changes its output field alone, so that the joins behind it find the local values as they were
unless they read that field. -/
theorem expandRow_record (expansions : List Expansion) (row : Json) (record : row.IsRecord)
    (plain : ∀ expansion ∈ expansions, '.' ∉ expansion.outputField.toList)
    (distinct : (expansions.map Expansion.outputField).Nodup)
    (alone : JoinsAlone source expansions row) :
    ∃ expanded, expandRow source expansions row = [expanded] ∧
      IsExpanded source expansions row expanded := by
  induction expansions generalizing row with
  | nil => exact ⟨row, rfl, record, fun _ _ => rfl, fun earlier _ _ divided => by simp at divided⟩
  | cons expansion expansions inductionHypothesis =>
    obtain ⟨fresh, later⟩ := List.nodup_cons.mp distinct
    obtain ⟨first, others⟩ := alone
    obtain ⟨next, shown, rows, changed, shows⟩ :=
      expansion.rowsOf_record source row record (plain expansion List.mem_cons_self) first
    obtain ⟨expanded, rest, made⟩ := inductionHypothesis next changed.record
      (fun other listed => plain other (List.mem_cons_of_mem expansion listed)) later
      (others next (by simp [rows]))
    refine ⟨expanded, ?_, made.cons record fresh changed shows⟩
    rw [expandRow, rows, List.flatMap_singleton, rest]

/-- Joins under distinct names keep the rows of a page and their order, if no single join finds
several partners of a row. Each row stays the record that it was, save under the outputs, and shows
there the partners that each join finds for it by the rules of `Join.Finds`, as they are stored.

Proof: every row is expanded for itself, so the statement is one about a row, and is proved by
induction on the joins. The first of them changes the row under its output alone. The others are
done behind it, and what they look at is the row before, unless their paths lead into its output. -/
theorem rows_expanded (source : Pipeline.Source) (expansions : List Expansion) (rows : List Json)
    (records : ∀ row ∈ rows, row.IsRecord)
    (plain : ∀ expansion ∈ expansions, '.' ∉ expansion.outputField.toList)
    (distinct : (expansions.map Expansion.outputField).Nodup)
    (alone : ∀ row ∈ rows, JoinsAlone source expansions row) :
    ∃ expanded, Pipeline.run source (expansions.flatMap Plan.expansionStages) rows =
        .ok expanded ∧
      List.Forall₂ (IsExpanded source expansions) rows expanded := by
  rw [run_expansions]
  refine ⟨_, rfl, ?_⟩
  induction rows with
  | nil => exact .nil
  | cons row rows inductionHypothesis =>
    obtain ⟨expanded, one, made⟩ := expandRow_record expansions row
      (records row List.mem_cons_self) plain distinct (alone row List.mem_cons_self)
    rw [List.flatMap_cons, one]
    exact .cons made (inductionHypothesis
      (fun other later => records other (List.mem_cons_of_mem row later))
      (fun other later => alone other (List.mem_cons_of_mem row later)))

end Rows

/-- Customers, their addresses, notes on orders, and labels, of which two have no name. -/
def customerBase : Pipeline.Source
  | "customers" => [.object [("_id", .ofNat 7), ("address", .string "north")]]
  | "addresses" => [.object [("_id", .string "north"), ("city", .string "Oslo")]]
  | "notes" => [.object [("order", .ofNat 2), ("text", .string "late")],
      .object [("order", .ofNat 1), ("text", .string "gift")],
      .object [("order", .ofNat 2), ("text", .string "paid")]]
  | "labels" => [.object [("name", .string "gift"), ("icon", .string "bow")],
      .object [("icon", .string "box")], .object [("name", .null), ("icon", .string "dot")],
      .object [("name", .string "glass"), ("icon", .string "cup")]]
  | _ => []

/-- An order's customer, the address that the customer names, the notes on the order, and the
labels that the order lists. -/
def orderExpansions : List Expansion :=
  [⟨"customers", "customer", "_id", some "customer", true⟩,
    ⟨"addresses", "customer.address", "_id", some "address", true⟩,
    ⟨"notes", "_id", "order", none, false⟩,
    ⟨"labels", "labels", "name", some "shown", false⟩]

/-- An order of an unknown customer with two labels, and an order that lists no labels. -/
def orders : List Json :=
  [.object [("_id", .ofNat 1), ("customer", .ofNat 9),
      ("labels", .array [.string "glass", .string "gift"])],
    .object [("_id", .ofNat 2), ("customer", .ofNat 7)]]

/-- The address is found through the customer that was joined before. The order of an unknown
customer stays in the page, less its customer and without an address. Its two labels are shown as
they are stored, and the order that lists no labels shows those without a name. -/
theorem orders_expanded :
    Join.Finds (some (.array [.string "glass", .string "gift"])) (some (.string "gift")) ∧
    Join.Finds none none ∧ Join.Finds none (some .null) ∧
    Join.Finds (some (.ofNat 7)) (some (.ofNat 7)) ∧
    ∃ expanded, Pipeline.run customerBase (orderExpansions.flatMap Plan.expansionStages) orders =
        .ok expanded ∧
      List.Forall₂ (IsExpanded customerBase orderExpansions) orders expanded ∧
      expanded.map (fun row => (row.member? "customer").isSome) = [false, true] ∧
      expanded.map (fun row => (row.valueAt? "address.city").bind Json.string?) =
        [none, some "Oslo"] ∧
      expanded.map (fun row => (row.valueAt? "notes.1.text").bind Json.string?) =
        [none, some "paid"] ∧
      expanded.map (fun row => (row.valueAt? "shown.0.icon").bind Json.string?) =
        [some "bow", some "box"] ∧
      expanded.map (fun row => (row.valueAt? "shown.1.icon").bind Json.string?) =
        [some "cup", some "dot"] := by
  have alone (row : Json) (once : (expandRow customerBase orderExpansions row).length = 1) :
      JoinsAlone customerBase orderExpansions row :=
    (expandRow_alone_iff customerBase orderExpansions row).mp once
  obtain ⟨expanded, ran, made⟩ := rows_expanded customerBase orderExpansions orders
    (by
      simp only [orders, List.forall_mem_cons, List.not_mem_nil, false_imp_iff, implies_true,
        and_true]
      exact ⟨⟨_, rfl, by decide⟩, ⟨_, rfl, by decide⟩⟩)
    (by decide) (by decide)
    (by
      simp only [orders, List.forall_mem_cons, List.not_mem_nil, false_imp_iff, implies_true,
        and_true]
      exact ⟨alone _ (by decide +kernel), alone _ (by decide +kernel)⟩)
  refine ⟨.item (List.mem_cons_of_mem _ List.mem_cons_self) rfl, .missing rfl, .missing rfl,
    .single nofun nofun rfl, expanded, ran, made, ?_⟩
  rw [run_expansions] at ran
  obtain rfl := Except.ok.inj ran
  decide +kernel

end DocumentQuery
