import DocumentQuery.Proofs.Server.Identities
import DocumentQuery.Proofs.Text.Lists
import DocumentQuery.Proofs.Text.Percent

/-!
# Two ways to a row

A request and an operation of a batch name a row in the same way: the base, an entity set and a key
with slashes between them. The request cuts its path at slashes and decodes the pieces; the
operation is taken to the entity set with the longest name, and the key is read behind it. Both end
at the same row if names are single pieces that are read as they are written.
-/

namespace DocumentQuery

namespace Batch

/-- What stands behind a target's name ends the name. -/
def EndsName (rest : List Char) : Prop :=
  rest = [] ∨ rest.head? = some '?' ∨ rest.head? = some '/' ∨ rest.head? = some '('

/-- What stands behind a target's name in a path is the rest of the path, if the name stands in
front of it and ends there. -/
theorem Target.rest_iff (target : Target) (path rest : List Char) :
    target.rest? path = some rest ↔ path = target.name.toList ++ rest ∧ EndsName rest := by
  simp [Target.rest?, EndsName, Option.filter_eq_some_iff, Text.dropStem_iff, List.isEmpty_iff,
    or_assoc]

/-- The better of the target that has been found so far and another one: the one with the longer
name, and of names of one length the later target. -/
def better (path : List Char) (best : Option (Target × List Char)) (target : Target) :
    Option (Target × List Char) :=
  match target.rest? path with
  | none => best
  | some rest => match best with
    | some (other, _) =>
      if other.name.utf8ByteSize ≤ target.name.utf8ByteSize then some (target, rest) else best
    | none => some (target, rest)

/-- A target that is named by a path is found if no other that is named by it has a longer name, and
none behind it has one of the same length. -/
theorem longest_found (path rest : List Char) (front back : List Target) (target : Target)
    (own : target.rest? path = some rest)
    (before : ∀ other ∈ front, (other.rest? path).isSome →
      other.name.utf8ByteSize ≤ target.name.utf8ByteSize)
    (behind : ∀ other ∈ back, (other.rest? path).isSome →
      other.name.utf8ByteSize < target.name.utf8ByteSize) :
    longest? path (front ++ target :: back) = some (target, rest) := by
  change (front ++ target :: back).foldl (better path) none = _
  rw [List.foldl_append, List.foldl_cons]
  have shorter (other : Target) (passed : List Char)
      (found : front.foldl (better path) none = some (other, passed)) :
      other.name.utf8ByteSize ≤ target.name.utf8ByteSize := by
    obtain ⟨listed, named⟩ := longest_mem path front other passed found
    exact before other listed (by simp [named])
  have chosen : better path (front.foldl (better path) none) target = some (target, rest) := by
    unfold better
    simp only [own]
    split
    · next other passed found => rw [if_pos (shorter other passed found)]
    · rfl
  rw [chosen]
  clear chosen shorter before
  induction back with
  | nil => rfl
  | cons other back inductionHypothesis =>
    have stays : better path (some (target, rest)) other = some (target, rest) := by
      unfold better
      cases found : other.rest? path with
      | none => rfl
      | some passed =>
        have fails := Nat.not_le.mpr (behind other List.mem_cons_self (by simp [found]))
        simp only [if_neg fails]
    rw [List.foldl_cons, stays]
    exact inductionHypothesis fun later listed =>
      behind later (List.mem_cons_of_mem other listed)

/-- A text that is the front of another is the shorter one, unless they are the same. -/
theorem utf8ByteSize_front (front whole : String) (rest : List Char)
    (divided : whole.toList = front.toList ++ rest) :
    front.utf8ByteSize ≤ whole.utf8ByteSize ∧
      (front ≠ whole → front.utf8ByteSize < whole.utf8ByteSize) := by
  have same : whole = front ++ String.ofList rest := String.toList_inj.mp (by simp [divided])
  subst same
  rw [String.utf8ByteSize_append]
  refine ⟨Nat.le_add_right _ _, fun different => Nat.lt_add_of_pos_right (Nat.pos_of_ne_zero ?_)⟩
  intro none
  rw [String.utf8ByteSize_eq_zero_iff.mp none, String.append_empty] at different
  exact different rfl

/-- A name without a slash that is named by a path begins the first piece of the path. -/
theorem Target.rest_segment (target : Target) (segment rest : List Char)
    (plain : '/' ∉ target.name.toList)
    (named : (target.rest? (segment ++ '/' :: rest)).isSome) :
    ∃ passed, segment = target.name.toList ++ passed := by
  obtain ⟨behind, found⟩ := Option.isSome_iff_exists.mp named
  obtain ⟨divided, -⟩ := (target.rest_iff _ _).mp found
  rcases List.append_eq_append_iff.mp divided with ⟨middle, name, rejoined⟩ | ⟨passed, own, -⟩
  · cases middle with
    | nil => exact ⟨[], by simpa using name.symm⟩
    | cons char middle =>
      obtain ⟨rfl, -⟩ := List.cons.inj rejoined
      exact absurd (by simp [name]) plain
  · exact ⟨passed, own⟩

/-- A key of word characters and dashes is read behind a slash. -/
theorem keyOfPath_segment (key : String) (filled : key ≠ "")
    (made : ∀ char ∈ key.toList, (Text.isWord char || char == '-') = true) :
    keyOfPath? (String.ofList ('/' :: key.toList)) = some (keyOfText key.toList) := by
  have some : key.toList ≠ [] := fun none => filled (String.toList_inj.mp none)
  have question : '?' ∉ key.toList := fun inside => absurd (made '?' inside) (by decide +kernel)
  have whole : (key.toList.takeWhile fun char => Text.isWord char || char == '-') = key.toList :=
    List.takeWhile_eq_self_iff.mpr made
  have read : readKey? key.toList = Option.some (key.toList, []) := by
    simp [readKey?, whole, some]
  have cut : Text.before '?' ('/' :: key.toList) = '/' :: key.toList :=
    Text.before_absent '?' _ (by simp [question])
  simp [keyOfPath?, cut, read]

end Batch

namespace ServerSettings

variable (settings : ServerSettings)

/-- Behind the base and a slash, batches look for the longest name. -/
theorem route_based (url : String) (path : List Char)
    (written : url.toList = settings.base.toList ++ '/' :: path) :
    settings.coordinator.route? url =
      (Batch.longest? path settings.coordinator.targets).map fun found =>
        (found.1, String.ofList found.2) := by
  have base : Text.dropStem? settings.base.toList url.toList = some ('/' :: path) :=
    (Text.dropStem_iff _ _ _).mpr written
  have slash : Text.dropStem? ['/'] ('/' :: path) = some path := (Text.dropStem_iff _ _ _).mpr rfl
  simp only [Batch.Coordinator.route?]
  rw [show settings.coordinator.base = settings.base from rfl, base, Option.bind_eq_bind,
    Option.bind_some, slash, Option.bind_eq_bind, Option.bind_some]
  cases Batch.longest? path settings.coordinator.targets <;> rfl

/-- The URL of a row. -/
def rowUrl (name key : String) : String := settings.base ++ "/" ++ name ++ "/" ++ key

/-- Whether URLs can name rows by their keys: the base is a path, the names of entity sets are
single pieces of paths, the name of the row's entity set is read as it is written, and the key is
made of word characters and dashes. -/
structure Addresses (name key : String) : Prop where
  rooted : settings.base.toList.head?.getD '/' = '/'
  base_plain : '?' ∉ settings.base.toList ∧ '#' ∉ settings.base.toList
  segments : ∀ entitySet ∈ settings.entitySets, '/' ∉ entitySet.name.toList
  name_plain : '?' ∉ name.toList ∧ '#' ∉ name.toList
  name_read : Text.percentDecode? name.toList = some name.toList
  key_filled : key ≠ ""
  key_made : ∀ char ∈ key.toList, (Text.isWord char || char == '-') = true

variable {settings} {name key : String}

/-- A character that is not a word character and no dash does not occur in keys. -/
theorem Addresses.key_apart (addresses : settings.Addresses name key) (char : Char)
    (apart : (Text.isWord char || char == '-') = false) : char ∉ key.toList :=
  fun inside => absurd (addresses.key_made char inside) (by simp [apart])

/-- A target that begins with a slash is its own path, up to the parameters. An address can only
stand behind the slash, so it is none. -/
theorem path_rooted (request : Request) (rest : List Char)
    (rooted : request.target.toList = '/' :: rest) (question : '?' ∉ request.target.toList)
    (fragment : '#' ∉ request.target.toList) : request.path = request.target.toList := by
  have plain : request.plainTarget = '/' :: rest :=
    (Text.before_absent '#' _ fragment).trans rooted
  have whole : Text.before '?' request.plainTarget = '/' :: rest := by
    rw [plain]
    exact Text.before_absent '?' _ (rooted ▸ question)
  have passed : Text.find? "://".toList ('/' :: rest) =
      (Text.find? "://".toList rest).map fun hit => (hit.1 + 1, hit.2) := rfl
  simp only [Request.path, whole, passed, rooted]
  cases Text.find? "://".toList rest with
  | none => rfl
  | some found => simp

/-- The path of a request with the URL of a row is that URL. It is rooted and has neither a question
mark nor a number sign, so nothing is cut off. -/
theorem Addresses.path_eq (addresses : settings.Addresses name key) (request : Request)
    (same : request.target = settings.rowUrl name key) :
    request.path = settings.base.toList ++ '/' :: (name.toList ++ '/' :: key.toList) := by
  have written : request.target.toList =
      settings.base.toList ++ '/' :: (name.toList ++ '/' :: key.toList) := by
    simp [same, rowUrl]
  have question : '?' ∉ key.toList := addresses.key_apart '?' (by decide +kernel)
  have fragment : '#' ∉ key.toList := addresses.key_apart '#' (by decide +kernel)
  have rooted : ∃ rest, request.target.toList = '/' :: rest := by
    rw [written]
    cases base : settings.base.toList with
    | nil => exact ⟨_, rfl⟩
    | cons char others =>
      have first := addresses.rooted
      rw [base] at first
      obtain rfl : char = '/' := first
      exact ⟨_, rfl⟩
  obtain ⟨rest, rooted⟩ := rooted
  rw [path_rooted request rest rooted, written] <;> rw [written] <;>
    simp [addresses.base_plain, addresses.name_plain, question, fragment]

/-- The entity set that requests address by a name has it, and none that is laid down later has: the
last one of a name hides those before it. -/
theorem exposed_split (entitySet : EntitySet) (exposed : settings.exposed name = .ok entitySet) :
    entitySet.name = name ∧ ∃ front back, settings.entitySets = front ++ entitySet :: back ∧
      ∀ other ∈ back, other.name ≠ name := by
  unfold ServerSettings.exposed at exposed
  split at exposed
  · next found first =>
    obtain rfl := Except.ok.inj exposed
    obtain ⟨named, back, front, divided, others⟩ := List.find?_eq_some_iff_append.mp first
    refine ⟨by simpa using named, front.reverse, back.reverse, ?_, ?_⟩
    · simpa using congrArg List.reverse divided
    · intro other listed
      simpa using others other (List.mem_reverse.mp listed)
  · exact absurd exposed nofun

/-- The name of an entity set that requests address is a single piece. -/
theorem Addresses.segment (addresses : settings.Addresses name key) (entitySet : EntitySet)
    (exposed : settings.exposed name = .ok entitySet) : '/' ∉ name.toList := by
  have own := addresses.segments entitySet (settings.exposed_mem name entitySet exposed)
  rwa [(exposed_split entitySet exposed).1] at own

/-- The path behind the base is that of a row. Its two segments are the name and the key, and
neither is one of the words that stand for another resource. -/
theorem Addresses.route_eq (addresses : settings.Addresses name key) (entitySet : EntitySet)
    (exposed : settings.exposed name = .ok entitySet) :
    Route.ofPath? settings.base.toList
        (settings.base.toList ++ '/' :: (name.toList ++ '/' :: key.toList)) =
      some (.row name.toList key.toList) := by
  have stem : Text.dropStem? (settings.base.toList ++ ['/'])
      (settings.base.toList ++ '/' :: (name.toList ++ '/' :: key.toList)) =
        some (name.toList ++ '/' :: key.toList) := (Text.dropStem_iff _ _ _).mpr (by simp)
  have slashed (word : String) (plain : '/' ∉ word.toList) :
      name.toList ++ '/' :: key.toList ≠ word.toList := fun same => plain (by simp [← same])
  have pieces : Text.split '/' (name.toList ++ '/' :: key.toList) = [name.toList, key.toList] := by
    rw [Text.split_append '/' name.toList _ (addresses.segment entitySet exposed),
      Text.split_absent '/' key.toList (addresses.key_apart '/' (by decide +kernel))]
  have filled : key.toList ≠ [] := fun none => addresses.key_filled (String.toList_inj.mp none)
  have noCount : key.toList ≠ "$count".toList := by
    intro same
    exact addresses.key_apart '$' (by decide +kernel) (by simp [same])
  rw [Route.ofPath?, stem, Option.bind_some, Route.ofSegments?,
    if_neg (slashed "$metadata" (by decide)), if_neg (slashed "$batch" (by decide)), pieces]
  simp only [List.isEmpty_iff, filled, if_false, noCount]

/-- Batches are taken from the URL of a row to the entity set that requests address by its name,
with the key behind it. A set that the path names as well has a name that the row's set begins with,
so its name is not longer. -/
theorem Addresses.route_operation (addresses : settings.Addresses name key)
    (entitySet : EntitySet) (exposed : settings.exposed name = .ok entitySet) :
    settings.coordinator.route? (settings.rowUrl name key) =
      some (entitySet.target, String.ofList ('/' :: key.toList)) := by
  obtain ⟨named, front, back, divided, others⟩ := exposed_split entitySet exposed
  have own : entitySet.target.rest? (name.toList ++ '/' :: key.toList) =
      some ('/' :: key.toList) :=
    (Batch.Target.rest_iff _ _ _).mpr ⟨by rw [← named]; rfl, .inr (.inr (.inl rfl))⟩
  have shorter (other : EntitySet) (listed : other ∈ settings.entitySets)
      (found : (other.target.rest? (name.toList ++ '/' :: key.toList)).isSome) :
      other.name.utf8ByteSize ≤ entitySet.name.utf8ByteSize ∧
        (other.name ≠ name → other.name.utf8ByteSize < entitySet.name.utf8ByteSize) := by
    obtain ⟨rest, front⟩ := other.target.rest_segment name.toList key.toList
      (addresses.segments other listed) found
    rw [named]
    exact Batch.utf8ByteSize_front other.name name rest front
  have longest : Batch.longest? (name.toList ++ '/' :: key.toList) settings.coordinator.targets =
      some (entitySet.target, '/' :: key.toList) := by
    simp only [coordinator, divided, List.map_append, List.map_cons]
    refine Batch.longest_found _ _ _ _ _ own ?_ ?_
    · intro target listed found
      obtain ⟨other, inside, rfl⟩ := List.mem_map.mp listed
      exact (shorter other (by simp [divided, inside]) found).1
    · intro target listed found
      obtain ⟨other, inside, rfl⟩ := List.mem_map.mp listed
      exact (shorter other (by simp [divided, inside]) found).2 (others other inside)
  rw [settings.route_based (settings.rowUrl name key) (name.toList ++ '/' :: key.toList)
    (by simp [rowUrl]), longest, Option.map_some]

end ServerSettings

end DocumentQuery
