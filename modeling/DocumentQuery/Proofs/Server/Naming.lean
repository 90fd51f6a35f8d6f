import DocumentQuery.Proofs.Server.Routing
import DocumentQuery.Proofs.Text.Trimming

/-!
# Names of entity sets in paths and in batches

A request looks an entity set up by its name, and a batch takes the target with the longest name
that its path begins with. If names hold no character that ends a name, a path names at most one
name, whatever other names begin or continue it, so the longest one is the name itself. Among
several sets of one name both take the last.
-/

namespace DocumentQuery

namespace Batch

/-- Whether a character does not end the name of an entity set. -/
def continuesName (char : Char) : Bool := char != '/' && char != '?' && char != '('

/-- Whether no character of a name ends it. -/
def PlainName (name : String) : Prop := ∀ char ∈ name.toList, continuesName char = true

instance (name : String) : Decidable (PlainName name) :=
  decidable_of_iff (name.toList.all continuesName = true) List.all_eq_true

/-- What ends a name does not begin with a character that continues it. -/
theorem endsName_iff (rest : List Char) :
    EndsName rest ↔ rest.head?.any continuesName = false := by
  cases rest with
  | nil => simp [EndsName]
  | cons char rest =>
    simp only [EndsName, continuesName, List.head?_cons, Option.any_some]
    grind

/-- A path begins with one plain name at most. Two such names are both as many characters from the
start of the path as continue a name. -/
theorem Target.rest_plain (target : Target) (name : String) (rest : List Char)
    (targetPlain : PlainName target.name) (plain : PlainName name) (ends : EndsName rest) :
    target.rest? (name.toList ++ rest) = if target.name = name then some rest else none := by
  split
  case isTrue same => exact (target.rest_iff _ _).mpr ⟨by rw [same], ends⟩
  case isFalse different =>
    refine Option.eq_none_iff_forall_ne_some.mpr fun behind found => different ?_
    obtain ⟨divided, behindEnds⟩ := (target.rest_iff _ _).mp found
    have own := (Text.taken_iff continuesName _ _ _).mpr
      ⟨divided, targetPlain, (endsName_iff behind).mp behindEnds⟩
    have taken := (Text.taken_iff continuesName _ _ _).mpr
      ⟨rfl, plain, (endsName_iff rest).mp ends⟩
    exact String.toList_inj.mp (own.1.symm.trans taken.1)

end Batch

namespace ServerSettings

variable (settings : ServerSettings)

/-- Requests address no entity set by a name if none has it. -/
theorem exposed_none (name : String) (failure : Failure)
    (refused : settings.exposed name = .error failure) :
    ∀ entitySet ∈ settings.entitySets, entitySet.name ≠ name := by
  unfold ServerSettings.exposed at refused
  split at refused
  · cases refused
  · next missing =>
    intro entitySet listed
    simpa using List.find?_eq_none.mp missing entitySet (List.mem_reverse.mpr listed)

/-- Whether no character of the names of entity sets ends a name. -/
def PlainNames : Prop := ∀ entitySet ∈ settings.entitySets, Batch.PlainName entitySet.name

instance : Decidable settings.PlainNames :=
  inferInstanceAs (Decidable (∀ entitySet ∈ settings.entitySets, Batch.PlainName entitySet.name))

variable {settings} {name : String} {rest : List Char}

/-- A path begins with the name of an entity set only if it is the one that stands there. -/
theorem PlainNames.rest_target (names : settings.PlainNames) (plain : Batch.PlainName name)
    (ends : Batch.EndsName rest) (entitySet : EntitySet)
    (listed : entitySet ∈ settings.entitySets) :
    entitySet.target.rest? (name.toList ++ rest) =
      if entitySet.name = name then some rest else none :=
  entitySet.target.rest_plain name rest (names entitySet listed) plain ends

/-- Batches find the entity set that requests address by a plain name. Of all entity sets only those
of this name fit the address, and of these the one that was laid down last is taken by both. -/
theorem PlainNames.longest_exposed (names : settings.PlainNames) (plain : Batch.PlainName name)
    (ends : Batch.EndsName rest) (entitySet : EntitySet)
    (exposed : settings.exposed name = .ok entitySet) :
    Batch.longest? (name.toList ++ rest) settings.coordinator.targets =
      some (entitySet.target, rest) := by
  obtain ⟨named, front, back, divided, others⟩ := exposed_split entitySet exposed
  have only (other : EntitySet) (listed : other ∈ settings.entitySets)
      (found : (other.target.rest? (name.toList ++ rest)).isSome) : other.name = name := by
    rw [names.rest_target plain ends other listed] at found
    by_contra different
    rw [if_neg different] at found
    cases found
  have own : entitySet.target.rest? (name.toList ++ rest) = some rest := by
    rw [names.rest_target plain ends entitySet (settings.exposed_mem name entitySet exposed),
      if_pos named]
  simp only [coordinator, divided, List.map_append, List.map_cons]
  refine Batch.longest_found _ _ _ _ _ own ?_ ?_
  · intro target listed found
    obtain ⟨other, inside, rfl⟩ := List.mem_map.mp listed
    have same := only other (by simp [divided, inside]) found
    exact Nat.le_of_eq (congrArg String.utf8ByteSize (same.trans named.symm))
  · intro target listed found
    obtain ⟨other, inside, rfl⟩ := List.mem_map.mp listed
    exact absurd (only other (by simp [divided, inside]) found) (others other inside)

/-- Batches find nothing if requests address nothing by a plain name. -/
theorem PlainNames.longest_missing (names : settings.PlainNames) (plain : Batch.PlainName name)
    (ends : Batch.EndsName rest) (failure : Failure)
    (refused : settings.exposed name = .error failure) :
    Batch.longest? (name.toList ++ rest) settings.coordinator.targets = none := by
  refine Option.eq_none_iff_forall_ne_some.mpr fun ⟨target, behind⟩ found => ?_
  obtain ⟨listed, own⟩ := Batch.longest_mem _ _ target behind found
  obtain ⟨other, inside, rfl⟩ := List.mem_map.mp listed
  rw [names.rest_target plain ends other inside,
    if_neg (settings.exposed_none name failure refused other inside)] at own
  cases own

/-- A batch URL of the base, a plain name and what stands behind it names the entity set that
requests address by the name, with its collection, its key and its settings, and leaves exactly what
stands behind the name. It names nothing exactly if requests address nothing by the name.

Proof: a path begins with one plain name at most, so of the sets with plain names only those of this
name are named by the path. Among sets of one name the later one is found, by batches as well as by
requests. -/
theorem batch_names_exposed (settings : ServerSettings) (names : settings.PlainNames)
    (name rest : String) (plain : Batch.PlainName name) (ends : Batch.EndsName rest.toList) :
    (∀ entitySet, settings.exposed name = .ok entitySet → ∃ target,
      settings.coordinator.route? (settings.base ++ "/" ++ name ++ rest) = some (target, rest) ∧
      target.name = name ∧ target.collection = entitySet.source ∧
      target.keyField = entitySet.keyField ∧ target.settings = entitySet.settings none) ∧
    (settings.coordinator.route? (settings.base ++ "/" ++ name ++ rest) = none ↔
      ∃ failure, settings.exposed name = .error failure) := by
  have routed := settings.route_based (settings.base ++ "/" ++ name ++ rest)
    (name.toList ++ rest.toList) (by simp)
  have found (entitySet : EntitySet) (exposed : settings.exposed name = .ok entitySet) :
      settings.coordinator.route? (settings.base ++ "/" ++ name ++ rest) =
        some (entitySet.target, rest) := by
    rw [routed, names.longest_exposed plain ends entitySet exposed, Option.map_some,
      String.ofList_toList]
  refine ⟨fun entitySet exposed => ⟨entitySet.target, found entitySet exposed,
    (exposed_split entitySet exposed).1, rfl, rfl, rfl⟩, fun none => ?_, ?_⟩
  · cases exposed : settings.exposed name with
    | ok entitySet => cases none.symm.trans (found entitySet exposed)
    | error failure => exact ⟨failure, rfl⟩
  · rintro ⟨failure, refused⟩
    rw [routed, names.longest_missing plain ends failure refused, Option.map_none]

/-- Settings with names that begin one another, and with one name twice. -/
def crowded : ServerSettings where
  basePath := "/data//"
  entitySets := [{ name := "Item" }, { name := "Items", key := "sku" },
    { name := "Items", collection := some "goods" }, { name := "Items2" }]

/-- The last set of the name is taken, neither a shorter nor a longer name, and a name that no set
has leads nowhere. -/
theorem crowded_named :
    crowded.PlainNames ∧ Batch.PlainName "Items" ∧ Batch.EndsName "(7)".toList ∧
    (∃ target, crowded.coordinator.route? "/data/Items(7)" = some (target, "(7)") ∧
      target.collection.name = "goods" ∧ target.keyField = identityField) ∧
    crowded.coordinator.route? "/data/Item2?$top=1" = none := by
  have names : crowded.PlainNames := by decide
  have plain : Batch.PlainName "Items" := by decide
  have ends : Batch.EndsName "(7)".toList := .inr (.inr (.inr rfl))
  obtain ⟨target, routed, -, collection, key, -⟩ :=
    (crowded.batch_names_exposed names "Items" "(7)" plain ends).1 _ rfl
  refine ⟨names, plain, ends, ⟨target, routed, ?_, key.trans rfl⟩, ?_⟩
  · rw [collection]
    rfl
  · exact (crowded.batch_names_exposed names "Item2" "?$top=1" (by decide)
      (.inr (.inl rfl))).2.mpr ⟨_, rfl⟩

end ServerSettings

end DocumentQuery
