import DocumentQuery.Proofs.Json.Distinct
import DocumentQuery.Proofs.Text.Trimming

/-!
# Lists that repeat names

A list of named values that repeats a name becomes members in which the name stands where it stood
first, with the value it had last. Where the first value of each name is the last one as well, the
members are the earliest entries of the list, and nothing is lost but repetitions.
-/

namespace DocumentQuery

namespace Members

variable {Value Other : Type}

/-- The last entry of a list is set in the members of the others. -/
theorem ofList_concat (entries : List (String × Value)) (entry : String × Value) :
    ofList (entries ++ [entry]) = (ofList entries).insert entry.1 entry.2 := by
  simp [ofList]

/-- The last of some names is new or stands among the others. -/
theorem firstNames_concat (names : List String) (name : String) :
    firstNames (names ++ [name]) =
      if name ∈ firstNames names then firstNames names else firstNames names ++ [name] := by
  rw [firstNames, List.foldl_append]
  rfl

/-- The names of a list stand where they stood first. -/
theorem names_ofList (entries : List (String × Value)) :
    names (ofList entries) = firstNames (names entries) := by
  induction entries using List.reverseRecOn with
  | nil => rfl
  | append_singleton entries entry inductionHypothesis =>
    rw [ofList_concat, names_insert, inductionHypothesis, names_append]
    exact (firstNames_concat (names entries) entry.1).symm

/-- A list makes no members only if it has no entries. -/
theorem ofList_isEmpty (entries : List (String × Value)) :
    (ofList entries).isEmpty = entries.isEmpty := by
  cases entries with
  | nil => rfl
  | cons entry entries =>
    have present : entry.1 ∈ names (ofList (entry :: entries)) := by
      rw [names_ofList, mem_firstNames]
      exact List.mem_cons_self
    cases made : ofList (entry :: entries) with
    | nil => simp [made, names] at present
    | cons member members => rfl

/-- The value of a name is the last one in the list. The entries are taken from the end, where each
one overrides those before it. -/
theorem get_ofList (name : String) (entries : List (String × Value)) :
    get? name (ofList entries) = get? name entries.reverse := by
  induction entries using List.reverseRecOn with
  | nil => rfl
  | append_singleton entries entry inductionHypothesis =>
    obtain ⟨other, value⟩ := entry
    rw [ofList_concat, List.reverse_append]
    by_cases same : name = other
    · subst same
      simp [get?]
    · rw [get_insert_other other name value _ same, inductionHypothesis]
      simp [get?, Ne.symm same]

/-- Members are told apart by their names and the values of these. With distinct names the first
value is that of the first name, and the others are found without it. -/
theorem eq_of_get (first second : Members Value) (distinct : (names first).Nodup)
    (same : names first = names second) (values : ∀ name, get? name first = get? name second) :
    first = second := by
  induction first generalizing second with
  | nil => exact (List.map_eq_nil_iff.mp same.symm).symm
  | cons member first inductionHypothesis =>
    obtain ⟨name, value⟩ := member
    cases second with
    | nil => exact absurd same (by simp [names])
    | cons other second =>
      obtain ⟨otherName, otherValue⟩ := other
      obtain ⟨rfl, others⟩ := List.cons.inj same
      obtain ⟨fresh, later⟩ := List.nodup_cons.mp distinct
      have head : value = otherValue := by simpa [get?] using values name
      rw [head, inductionHypothesis second later others fun wanted => ?_]
      by_cases first : name = wanted
      · subst first
        have fresh' : name ∉ names second := fun present => fresh (others ▸ present)
        rw [get_absent name _ fresh, get_absent name _ fresh']
      · simpa [get?, first] using values wanted

/-- Changing the values of a list changes those of its members. Which entries survive depends on
their names alone, and these stay. -/
theorem ofList_map_values (change : Value → Other) (entries : List (String × Value)) :
    ofList (entries.map fun entry => (entry.1, change entry.2)) =
      (ofList entries).map fun entry => (entry.1, change entry.2) := by
  have inserted (members : Members Value) (name : String) (value : Value) :
      insert name (change value) (members.map fun entry => (entry.1, change entry.2)) =
        (insert name value members).map fun entry => (entry.1, change entry.2) := by
    induction members with
    | nil => rfl
    | cons member members inductionHypothesis =>
      by_cases same : member.1 = name
      · simp [insert, same]
      · simp [insert, same, inductionHypothesis]
  induction entries using List.reverseRecOn with
  | nil => rfl
  | append_singleton entries entry inductionHypothesis =>
    rw [List.map_append, List.map_singleton, ofList_concat, ofList_concat, inductionHypothesis,
      inserted]

/-- A list without repetitions is its own members. -/
theorem ofList_distinct (entries : List (String × Value)) (distinct : (names entries).Nodup) :
    ofList entries = entries := by
  induction entries using List.reverseRecOn with
  | nil => rfl
  | append_singleton entries entry inductionHypothesis =>
    rw [names_append, List.nodup_append] at distinct
    obtain ⟨before, _, apart⟩ := distinct
    have fresh : entry.1 ∉ names entries := fun present => apart _ present _ List.mem_cons_self rfl
    rw [ofList_concat, inductionHypothesis before, insert_absent entry.1 entry.2 entries fresh]

/-- A name that is not repeated stays in front of the members behind it. -/
theorem ofList_cons (name : String) (value : Value) (entries : List (String × Value))
    (fresh : name ∉ names entries) :
    ofList ((name, value) :: entries) = (name, value) :: ofList entries := by
  induction entries using List.reverseRecOn with
  | nil => rfl
  | append_singleton entries entry inductionHypothesis =>
    rw [names_append, List.mem_append, not_or] at fresh
    have different : name ≠ entry.1 := fun same => fresh.2 (by simp [names, same])
    rw [← List.cons_append, ofList_concat, ofList_concat, inductionHypothesis fresh.1]
    simp [insert, different]

/-- Setting a name to the value that it has changes nothing, and not even its place: an insertion
keeps a known name where it is. -/
theorem insert_known (name : String) (value : Value) (members : Members Value)
    (known : get? name members = some value) : insert name value members = members := by
  induction members with
  | nil => cases known
  | cons member members inductionHypothesis =>
    obtain ⟨other, old⟩ := member
    by_cases same : other = name
    · subst same
      have value : old = value := by simpa [get?] using known
      simp [insert, value]
    · have later : get? name members = some value := by simpa [get?, same] using known
      simp [insert, same, inductionHypothesis later]

/-- A name has no value in a list exactly if it has none in the reversed list. -/
theorem get_reverse_none (name : String) (entries : List (String × Value)) :
    get? name entries = none ↔ get? name entries.reverse = none := by
  rw [get_none_iff, get_none_iff, names, names, List.map_reverse, List.mem_reverse]

/-- The entries of a list that have a name for the first time. -/
def earliest (entries : List (String × Value)) : Members Value :=
  entries.foldl (fun earlier entry =>
    if entry.1 ∈ names earlier then earlier else earlier ++ [entry]) []

/-- The last entry of a list is earliest if its name is new. -/
theorem earliest_concat (entries : List (String × Value)) (entry : String × Value) :
    earliest (entries ++ [entry]) =
      if entry.1 ∈ names (earliest entries) then earliest entries
      else earliest entries ++ [entry] := by
  rw [earliest, List.foldl_append]
  rfl

/-- The earliest entries have all names, where they stand first. -/
theorem names_earliest (entries : List (String × Value)) :
    names (earliest entries) = firstNames (names entries) := by
  induction entries using List.reverseRecOn with
  | nil => rfl
  | append_singleton entries entry inductionHypothesis =>
    have step := firstNames_concat (names entries) entry.1
    rw [earliest_concat, names_append, apply_ite names, names_append, inductionHypothesis]
    exact step.symm

/-- The value of a name among the earliest entries is its first one: an entry is kept exactly if its
name has not occurred before it. -/
theorem get_earliest (name : String) (entries : List (String × Value)) :
    get? name (earliest entries) = get? name entries := by
  induction entries using List.reverseRecOn with
  | nil => rfl
  | append_singleton entries entry inductionHypothesis =>
    rw [earliest_concat, get_append, ← inductionHypothesis]
    split
    case isFalse => rw [get_append]
    case isTrue known =>
      cases found : get? name (earliest entries) with
      | some value => rfl
      | none =>
        have different : entry.1 ≠ name := fun same =>
          (get_none_iff name _).mp found (same ▸ known)
        simp [get?, different]

/-- The members of a list are its earliest entries exactly if the first value of each name is its
last one. -/
theorem ofList_eq_earliest (entries : List (String × Value)) :
    ofList entries = earliest entries ↔
      ∀ name, get? name entries = get? name entries.reverse := by
  constructor
  · intro same name
    rw [← get_ofList, same, get_earliest]
  · intro same
    refine eq_of_get _ _ (distinct_ofList entries) ?_ fun name => ?_
    · rw [names_ofList, names_earliest]
    · rw [get_ofList, get_earliest, same]

end Members

/-- A dotted text is told by its path. -/
theorem Path.ofText_injective (first second : String)
    (same : Path.ofText first = Path.ofText second) : first = second := by
  have pieces : Text.split '.' first.toList = Text.split '.' second.toList :=
    List.map_injective_iff.mpr (fun _ _ => String.ofList_injective) same
  rw [← String.toList_inj, ← Text.intercalate_split '.' first.toList, pieces,
    Text.intercalate_split]

/-- Setting a place that is reached through objects to the value there changes nothing. Every object
on the way is given the member that it has already. -/
theorem Json.set_of_reach (path : Path) (document value : Json)
    (reached : reach? path document = some value) : set value path document = document := by
  induction path generalizing document with
  | nil => exact (Option.some.inj reached).symm
  | cons step path inductionHypothesis =>
    obtain ⟨inner, found, within⟩ := Option.bind_eq_some_iff.mp reached
    cases document with
    | object members =>
      have known : Members.get? step members = some inner := found
      simp only [set, found, Option.getD_some, inductionHypothesis inner within]
      exact congrArg object (Members.insert_known step inner members known)
    | _ => simp [member?, members, Members.get?] at found

end DocumentQuery
