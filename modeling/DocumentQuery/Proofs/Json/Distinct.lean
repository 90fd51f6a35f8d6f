import DocumentQuery.Json.Form
import DocumentQuery.Proofs.Except
import DocumentQuery.Proofs.Json.Removal

/-!
# Names that are not repeated

An object that is read from a text has each name once, however often the text repeats it: a name
that is set again keeps its place. Forms hand on the values that they read, so that holds of
values within documents as well.
-/

namespace DocumentQuery

namespace Members

variable {Value : Type}

/-- Names stay distinct when a name is set. -/
theorem distinct_insert (name : String) (value : Value) (members : Members Value)
    (distinct : (names members).Nodup) : (names (members.insert name value)).Nodup := by
  rw [names_insert]
  split
  · exact distinct
  · next fresh =>
    refine List.nodup_append.mpr ⟨distinct, List.pairwise_singleton _ _, ?_⟩
    rintro other before last isLast rfl
    obtain rfl := List.mem_singleton.mp isLast
    exact fresh before

/-- The names of a list in which later values replace earlier ones are distinct. -/
theorem distinct_ofList (entries : List (String × Value)) : (names (ofList entries)).Nodup := by
  have set (members : Members Value) (distinct : (names members).Nodup) :
      (names (entries.foldl (fun members entry => members.insert entry.1 entry.2)
        members)).Nodup := by
    induction entries generalizing members with
    | nil => exact distinct
    | cons entry entries inductionHypothesis =>
      exact inductionHypothesis _ (distinct_insert entry.1 entry.2 members distinct)
  exact set [] List.nodup_nil

/-- The names of a list, each where it stands first. -/
def firstNames (names : List String) : List String :=
  names.foldl (fun earlier name => if name ∈ earlier then earlier else earlier ++ [name]) []

/-- A name whose value is set anew to the same one is added if it is new. -/
theorem insert_same (value : String → Value) (name : String) (names : List String) :
    insert name (value name) (names.map fun other => (other, value other)) =
      (if name ∈ names then names else names ++ [name]).map fun other => (other, value other) := by
  induction names with
  | nil => rfl
  | cons other names inductionHypothesis =>
    by_cases same : other = name
    · simp [insert, same]
    · by_cases later : name ∈ names <;>
        simpa [insert, same, Ne.symm same, later] using inductionHypothesis

/-- A list that gives each name its value has every name once. A later entry of a name sets the
value that is there already, so inserting it changes nothing; the induction carries the names that
were inserted before. -/
theorem ofList_map (value : String → Value) (names : List String) :
    ofList (names.map fun name => (name, value name)) =
      (firstNames names).map fun name => (name, value name) := by
  have set (earlier : List String) :
      (names.map fun name => (name, value name)).foldl
          (fun (members : Members Value) entry => members.insert entry.1 entry.2)
          (earlier.map fun name => (name, value name)) =
        (names.foldl (fun earlier name => if name ∈ earlier then earlier else earlier ++ [name])
          earlier).map fun name => (name, value name) := by
    induction names generalizing earlier with
    | nil => rfl
    | cons name names inductionHypothesis =>
      rw [List.map_cons, List.foldl_cons, List.foldl_cons, insert_same, inductionHypothesis]
  exact set []

/-- Every name of a list stands somewhere first, and no other name does. The induction speaks of the
names kept so far together with those still to come. -/
theorem mem_firstNames (names : List String) (name : String) :
    name ∈ firstNames names ↔ name ∈ names := by
  have found (earlier : List String) :
      name ∈ names.foldl
          (fun earlier name => if name ∈ earlier then earlier else earlier ++ [name]) earlier ↔
        name ∈ earlier ∨ name ∈ names := by
    induction names generalizing earlier with
    | nil => simp
    | cons first names inductionHypothesis =>
      rw [List.foldl_cons, inductionHypothesis, List.mem_cons]
      by_cases known : first ∈ earlier
      · simp only [known, if_true]
        exact ⟨Or.imp id .inr, by rintro (before | rfl | later) <;> simp_all⟩
      · simp [known, or_assoc]
  simpa [firstNames] using found []

/-- The value of a name that is among those of a list. -/
theorem get_map (value : String → Value) (names : List String) (name : String)
    (present : name ∈ names) :
    get? name (names.map fun other => (other, value other)) = some (value name) := by
  induction names with
  | nil => simp at present
  | cons other names inductionHypothesis =>
    by_cases same : other = name
    · simp [get?, same]
    · have later : name ∈ names := by simpa [Ne.symm same] using present
      simpa [get?, same] using inductionHypothesis later

/-- A value that is found stands under its name. -/
theorem mem_of_get (name : String) (value : Value) (members : Members Value)
    (found : get? name members = some value) : (name, value) ∈ members := by
  induction members with
  | nil => exact absurd found nofun
  | cons member members inductionHypothesis =>
    obtain ⟨other, own⟩ := member
    by_cases same : other = name
    · simp [get?, same] at found
      simp [same, found]
    · simp only [get?, same, if_false] at found
      exact List.mem_cons_of_mem _ (inductionHypothesis found)

/-- A member whose name is not repeated is the one that is found. A member before it would have to
bear the same name to be found in its place. -/
theorem get_of_mem (members : Members Value) (distinct : (names members).Nodup)
    (member : String × Value) (present : member ∈ members) :
    get? member.1 members = some member.2 := by
  induction members with
  | nil => exact absurd present List.not_mem_nil
  | cons first members inductionHypothesis =>
    obtain ⟨other, own⟩ := first
    obtain ⟨fresh, later⟩ := List.nodup_cons.mp distinct
    rcases List.mem_cons.mp present with rfl | behind
    · simp [get?]
    · have different : other ≠ member.1 := fun same =>
        fresh (List.mem_map.mpr ⟨member, behind, same.symm⟩)
      simpa [get?, different] using inductionHypothesis later behind

/-- The order of members whose names are not repeated does not matter to what is found. -/
theorem get_perm (name : String) (first second : Members Value) (same : first.Perm second)
    (distinct : (names first).Nodup) : get? name first = get? name second := by
  cases found : get? name second with
  | some value =>
    exact get_of_mem first distinct (name, value)
      (same.mem_iff.mpr (mem_of_get name value second found))
  | none =>
    rw [get_none_iff] at found ⊢
    exact fun present => found ((same.map Prod.fst).mem_iff.mp present)

/-- A name that is not repeated is gone when it is removed. -/
theorem get_erase_same (name : String) (members : Members Value)
    (distinct : (names members).Nodup) : get? name (erase name members) = none := by
  rw [get_none_iff, (names_erase name members).mem_iff]
  exact distinct.not_mem_erase

/-- Names that are not repeated keep their values when another name is removed. Removal moves the
last member to the place that becomes free, and the value found for a name does not depend on the
order when names are distinct. -/
theorem get_erase_other (name wanted : String) (members : Members Value)
    (distinct : (names members).Nodup) (different : wanted ≠ name) :
    get? wanted (erase name members) = get? wanted members := by
  induction members with
  | nil => rfl
  | cons member rest inductionHypothesis =>
    obtain ⟨other, value⟩ := member
    obtain ⟨fresh, later⟩ := List.nodup_cons.mp distinct
    by_cases same : other = name
    · subst same
      have passed : get? wanted ((other, value) :: rest) = get? wanted rest := by
        simp [get?, Ne.symm different]
      rcases List.eq_nil_or_concat rest with rfl | ⟨between, last, rfl⟩
      · simp [erase, get?, Ne.symm different]
      · rw [List.concat_eq_append] at passed later ⊢
        rw [passed, erase_first]
        exact (get_perm wanted _ _ List.perm_append_comm later).symm
    · by_cases found : other = wanted
      · subst found
        simp [erase, get?, same]
      · simpa [erase, get?, same, found] using inductionHypothesis later

end Members

namespace Json

/-- The names of an object that a draft writes are distinct, whatever the draft repeats: its members
are collected into a table, and a later value replaces an earlier one. -/
theorem Draft.json_distinct (draft : Draft) (members : Members Json)
    (read : draft.json = .ok (.object members)) : (Members.names members).Nodup := by
  cases draft with
  | object entries =>
    rw [Draft.json] at read
    obtain ⟨listed, _, same⟩ := (map_ok_iff _ _ _).mp read
    obtain rfl := Json.object.inj same
    exact Members.distinct_ofList listed
  | array items =>
    rw [Draft.json] at read
    obtain ⟨listed, _, same⟩ := (map_ok_iff _ _ _).mp read
    exact absurd same (by simp)
  | _ => simp [Draft.json] at read

namespace Form

variable {First Second Part : Type}

/-- A form that reads something made it of the members that it was given. -/
theorem build_of_read (form : Form Part) (draft : Draft) (part : Part)
    (read : form.read draft = .ok part) : ∃ given, form.build given = .ok part := by
  have settled (given : Given) (stray : Option PlacedFault)
      (settles : form.settle given stray = .ok part) : form.build given = .ok part := by
    cases stray <;> cases built : form.build given <;>
      simp_all [settle, combine]
  cases draft with
  | object members => exact ⟨_, settled _ _ read⟩
  | array items => exact ⟨_, settled _ _ read⟩
  | _ => simp [Form.read] at read

/-- Two forms that are put together make what both make. -/
theorem build_seq (functions : Form (First → Part)) (parts : Form First) (given : Given)
    (part : Part) : (functions <*> parts).build given = .ok part ↔
      ∃ function first, functions.build given = .ok function ∧ parts.build given = .ok first ∧
        part = function first := by
  have built : (functions <*> parts).build given =
      combine (fun function part => function part) (functions.build given)
        (parts.build given) := rfl
  rw [built]
  cases functions.build given <;> cases parts.build given <;> simp [combine, eq_comm]

/-- A form of which something is made makes it of what it makes. -/
theorem build_map (change : First → Part) (parts : Form First) (given : Given) (part : Part) :
    (change <$> parts).build given = .ok part ↔
      ∃ first, parts.build given = .ok first ∧ part = change first := by
  have built : (change <$> parts).build given =
      ((pure change : Form (First → Part)) <*> parts).build given := rfl
  rw [built, build_seq]
  constructor
  · rintro ⟨function, first, same, made, rfl⟩
    obtain rfl := Except.ok.inj same
    exact ⟨first, made, rfl⟩
  · rintro ⟨first, made, rfl⟩
    exact ⟨change, first, rfl, made, rfl⟩

/-- What a member with a default makes was read, or is the default. -/
theorem build_defaulted (name : String) (default : Part) (read : Draft → Except Draft.Fault Part)
    (given : Given) (part : Part) (made : (defaulted name default read).build given = .ok part) :
    (∃ draft, read draft = .ok part) ∨ part = default := by
  simp only [defaulted, member] at made
  split at made
  · next place draft _ =>
    exact .inl ⟨draft, (mapError_ok_iff _ _ _).mp made⟩
  · exact .inr (Except.ok.inj made).symm

/-- What an optional member makes was read. -/
theorem build_optional (name : String) (read : Draft → Except Draft.Fault Part)
    (given : Given) (part : Part) (made : (optional name read).build given = .ok (some part)) :
    ∃ draft, read draft = .ok part := by
  rcases build_defaulted name none (Draft.optional read) given (some part) made with
    ⟨draft, answer⟩ | absent
  · unfold Draft.optional at answer
    split at answer
    · exact absurd answer (by simp)
    · obtain ⟨value, own, same⟩ := (map_ok_iff _ _ _).mp answer
      exact ⟨_, Option.some.inj same ▸ own⟩
  · exact absurd absent (by simp)

end Form

end Json

end DocumentQuery
