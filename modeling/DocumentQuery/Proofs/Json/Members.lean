import DocumentQuery.Json.Members

/-!
# What the operations on members leave alone

Reading a name after an insertion gives the new value for that name and the old one for any
other. The lemmas hold of every list of members, also of one that repeats a name; where a name
is repeated, its first member is the one that is read and replaced.
-/

namespace DocumentQuery.Members

variable {Value : Type}

/-- A name that was inserted reads as its new value. -/
@[simp] theorem get_insert_same (name : String) (value : Value) (members : Members Value) :
    (members.insert name value).get? name = some value := by
  induction members with
  | nil => simp [insert, get?]
  | cons member rest inductionHypothesis =>
    obtain ⟨other, old⟩ := member
    by_cases same : other = name
    · simp [insert, get?, same]
    · simp [insert, get?, same, inductionHypothesis]

/-- An insertion is not seen under another name. -/
theorem get_insert_other (name wanted : String) (value : Value) (members : Members Value)
    (different : wanted ≠ name) :
    (members.insert name value).get? wanted = members.get? wanted := by
  induction members with
  | nil => simp [insert, get?, Ne.symm different]
  | cons member rest inductionHypothesis =>
    obtain ⟨other, old⟩ := member
    by_cases same : other = name
    · subst same
      simp [insert, get?, Ne.symm different]
    · simp [insert, get?, same, inductionHypothesis]

/-- A member behind an insertion is the inserted one or was there before; no insertion brings in
anything else. -/
theorem mem_insert (name : String) (value : Value) (members : Members Value)
    (member : String × Value) (present : member ∈ members.insert name value) :
    member = (name, value) ∨ member ∈ members := by
  induction members with
  | nil => exact .inl (List.mem_singleton.mp present)
  | cons first rest inductionHypothesis =>
    obtain ⟨other, old⟩ := first
    by_cases same : other = name
    · simp only [insert, same, if_true] at present
      exact (List.mem_cons.mp present).imp id (List.mem_cons_of_mem _)
    · simp only [insert, same, if_false] at present
      rcases List.mem_cons.mp present with rfl | later
      · exact .inr List.mem_cons_self
      · exact (inductionHypothesis later).imp id (List.mem_cons_of_mem _)

/-- A member of a list in which later values replace earlier ones is one of the entries. The
induction allows for members that were there before the first entry. -/
theorem mem_ofList (entries : List (String × Value))
    (member : String × Value) (present : member ∈ ofList entries) : member ∈ entries := by
  have set (entries : List (String × Value)) (members : Members Value)
      (inside : member ∈ entries.foldl (fun members entry => members.insert entry.1 entry.2)
        members) : member ∈ members ∨ member ∈ entries := by
    induction entries generalizing members with
    | nil => exact .inl inside
    | cons entry entries inductionHypothesis =>
      rcases inductionHypothesis _ inside with before | later
      · rcases mem_insert entry.1 entry.2 members member before with rfl | before
        · exact .inr List.mem_cons_self
        · exact .inl before
      · exact .inr (List.mem_cons_of_mem entry later)
  exact (set entries [] present).resolve_left List.not_mem_nil

/-- In two lists of members the first that has the name decides. -/
theorem get_append (wanted : String) (front back : Members Value) :
    Members.get? wanted (front ++ back) =
      (Members.get? wanted front).or (Members.get? wanted back) := by
  induction front with
  | nil => simp [get?]
  | cons member rest inductionHypothesis =>
    obtain ⟨other, value⟩ := member
    by_cases same : other = wanted
    · simp [get?, same]
    · simpa [get?, same] using inductionHypothesis

/-- Setting a name is not seen among the members that are picked without it. -/
theorem filter_insert (name : String) (value : Value) (members : Members Value)
    (kept : String → Bool) (dropped : kept name = false) :
    (members.insert name value).filter (fun member => kept member.1) =
      members.filter (fun member => kept member.1) := by
  induction members with
  | nil => simp [insert, dropped]
  | cons member rest inductionHypothesis =>
    obtain ⟨other, old⟩ := member
    by_cases same : other = name
    · subst same
      simp [insert, dropped]
    · simp [insert, same, List.filter_cons, inductionHypothesis]

end DocumentQuery.Members
