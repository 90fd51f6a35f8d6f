import DocumentQuery.Proofs.Json.Members

/-!
# Removing members that were added

Removing a name moves the last member into the gap, so the order of what is left depends on
where the gap is. Where all that was added behind some members is removed again, their order is
restored, even if one more name was set in the meantime.
-/

namespace DocumentQuery.Members

variable {Value : Type}

/-- The names of two lists of members are those of the first and those of the second. -/
@[simp] theorem names_append (front back : Members Value) :
    names (front ++ back) = names front ++ names back := by
  simp [names]

/-- A name that no member has reads as nothing. -/
theorem get_absent (name : String) (members : Members Value) (absent : name ∉ names members) :
    get? name members = none := by
  induction members with
  | nil => rfl
  | cons member rest inductionHypothesis =>
    obtain ⟨other, value⟩ := member
    simp only [names, List.map_cons, List.mem_cons, not_or] at absent
    obtain ⟨different, later⟩ := absent
    simpa [get?, Ne.symm different] using inductionHypothesis later

/-- A name without a value is not among the names. -/
theorem get_none_iff (name : String) (members : Members Value) :
    get? name members = none ↔ name ∉ names members := by
  refine ⟨fun missing => ?_, get_absent name members⟩
  induction members with
  | nil => exact List.not_mem_nil
  | cons member members inductionHypothesis =>
    by_cases same : member.1 = name
    · simp [get?, same] at missing
    · have later : get? name members = none := by simpa [get?, same] using missing
      simpa [names, Ne.symm same] using inductionHypothesis later

/-- A name that is set keeps its place if it has one. -/
theorem insert_present (name : String) (value : Value) (front back : Members Value)
    (present : name ∈ names front) :
    insert name value (front ++ back) = insert name value front ++ back := by
  induction front with
  | nil => simp [names] at present
  | cons member rest inductionHypothesis =>
    obtain ⟨other, old⟩ := member
    by_cases same : other = name
    · simp [insert, same]
    · have later : name ∈ names rest := by
        simpa [names, Ne.symm same] using present
      simpa [insert, same] using inductionHypothesis later

/-- A new name that is set goes to the end. -/
theorem insert_absent (name : String) (value : Value) (members : Members Value)
    (absent : name ∉ names members) : insert name value members = members ++ [(name, value)] := by
  induction members with
  | nil => rfl
  | cons member rest inductionHypothesis =>
    obtain ⟨other, old⟩ := member
    simp only [names, List.map_cons, List.mem_cons, not_or] at absent
    obtain ⟨different, later⟩ := absent
    simpa [insert, Ne.symm different] using inductionHypothesis later

/-- A name that is set is added at the end if it is new, and otherwise the names stay as they are,
in the same order. -/
theorem names_insert (name : String) (value : Value) (members : Members Value) :
    names (members.insert name value) =
      if name ∈ names members then names members else names members ++ [name] := by
  by_cases present : name ∈ names members
  · rw [if_pos present]
    induction members with
    | nil => simp [names] at present
    | cons member members inductionHypothesis =>
      obtain ⟨other, old⟩ := member
      by_cases same : other = name
      · simp [insert, same, names]
      · have later : name ∈ names members := by simpa [names, Ne.symm same] using present
        simpa [insert, same, names] using inductionHypothesis later
  · rw [if_neg present, insert_absent name value members present, names_append]
    rfl

/-- The names behind a name that is set are that name and those of before. -/
theorem mem_names_insert (name : String) (value : Value) (members : Members Value)
    (other : String) (present : other ∈ names (insert name value members)) :
    other = name ∨ other ∈ names members := by
  obtain ⟨member, inside, rfl⟩ := List.mem_map.mp present
  rcases mem_insert name value members member inside with rfl | before
  · exact .inl rfl
  · exact .inr (List.mem_map_of_mem before)

/-- The members before the one that is removed stay as they are. -/
theorem erase_behind (name : String) (front back : Members Value)
    (absent : name ∉ names front) : erase name (front ++ back) = front ++ erase name back := by
  induction front with
  | nil => rfl
  | cons member rest inductionHypothesis =>
    obtain ⟨other, value⟩ := member
    simp only [names, List.map_cons, List.mem_cons, not_or] at absent
    obtain ⟨different, later⟩ := absent
    simpa [erase, Ne.symm different] using inductionHypothesis later

/-- The last member takes the place of the first. -/
theorem erase_first (name : String) (value : Value) (between : Members Value)
    (last : String × Value) :
    erase name ((name, value) :: (between ++ [last])) = last :: between := by
  simp [erase]

/-- Removing a name takes one member of that name away, and otherwise changes the order only: the
last member takes the free place. -/
theorem names_erase (name : String) (members : Members Value) :
    (names (erase name members)).Perm ((names members).erase name) := by
  induction members with
  | nil => exact .refl _
  | cons member rest inductionHypothesis =>
    obtain ⟨other, value⟩ := member
    by_cases same : other = name
    · subst same
      rcases List.eq_nil_or_concat rest with rfl | ⟨between, last, rfl⟩
      · simp [erase, names]
      · rw [List.concat_eq_append, erase_first]
        simpa [names] using (List.perm_append_singleton last.1 (names between)).symm
    · simpa [erase, same, names] using inductionHypothesis

/-- Members that stand at the end are all removed by their names, in any order. Each removal may
reorder the members at the end but leaves those in front alone, so the induction asks only that the
names at the end are the ones still to go. -/
theorem erase_block (gone : List String) (front block : Members Value)
    (apart : ∀ name ∈ gone, name ∉ names front) (all : (names block).Perm gone) :
    gone.foldl (fun members name => erase name members) (front ++ block) = front := by
  induction gone generalizing block with
  | nil =>
    have empty : block = [] := by simpa [names] using all
    simp [empty]
  | cons name gone inductionHypothesis =>
    have left : (names (erase name block)).Perm gone := by
      have step := (names_erase name block).trans (all.erase name)
      simpa using step
    rw [List.foldl_cons, erase_behind name front block (apart name List.mem_cons_self)]
    exact inductionHypothesis (erase name block)
      (fun other later => apart other (List.mem_cons_of_mem name later)) left

/-- Where a name is set behind members that were added, and these are then removed, the name is set
as if they had never been there. The first removal moves the new member in front of those that are
still to go, so the induction is on the added members with any front. -/
theorem erase_added (name : String) (value : Value) (front added : Members Value)
    (apart : ∀ other ∈ names added, other ∉ names front ∧ other ≠ name) :
    (names added).foldl (fun members other => erase other members)
      (insert name value (front ++ added)) = insert name value front := by
  have fresh : name ∉ names added := fun present => (apart name present).2 rfl
  by_cases present : name ∈ names front
  · rw [insert_present name value front added present]
    refine erase_block (names added) _ added ?_ (.refl _)
    intro other inside taken
    obtain ⟨absent, different⟩ := apart other inside
    exact (mem_names_insert name value front other taken).elim different absent
  · have absent : name ∉ names (front ++ added) := by simp [present, fresh]
    rw [insert_absent name value _ absent, insert_absent name value front present]
    cases added with
    | nil => simp [names]
    | cons first rest =>
      have moved : erase first.1 (front ++ first :: rest ++ [(name, value)]) =
          front ++ [(name, value)] ++ rest := by
        have behind : first.1 ∉ names front := (apart first.1 (by simp [names])).1
        simpa using (erase_behind first.1 front _ behind).trans
          (congrArg (front ++ ·) (erase_first first.1 first.2 rest (name, value)))
      simp only [names, List.map_cons, List.foldl_cons]
      rw [moved]
      refine erase_block (names rest) _ rest ?_ (.refl _)
      intro other inside taken
      obtain ⟨absent, different⟩ := apart other (List.mem_cons_of_mem first.1 inside)
      simp only [names_append, List.mem_append] at taken
      exact taken.elim absent fun last => different (by simpa [names] using last)

end DocumentQuery.Members
