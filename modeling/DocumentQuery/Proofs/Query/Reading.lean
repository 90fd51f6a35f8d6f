import DocumentQuery.Proofs.Text.Trimming
import DocumentQuery.Query.Reader
import Mathlib.Algebra.Group.Nat.Defs

/-!
# Reading what a link writes

Each part of a query has one written form in a link: a list joined by commas, sort keys with
their directions, a decimal number, a truth value. It is read back as the same part, if the part
itself was read from a URL; a list that was not could hold commas or blanks that are not kept.
-/

namespace DocumentQuery.Query

/-- What the entries of a list that was read have in common. -/
structure IsEntry (entry : String) : Prop where
  some : entry.toList ≠ []
  single : ',' ∉ entry.toList
  trimmed : Text.trim entry.toList = entry.toList

/-- What the fields of sort keys that were read have in common. -/
structure IsField (field : String) : Prop where
  some : field.toList ≠ []
  single : ',' ∉ field.toList
  plain : ∀ char ∈ field.toList, Text.isBlank char = false

/-- Texts without commas are cut apart again. -/
theorem split_commas (texts : List String) (some : texts ≠ [])
    (single : ∀ text ∈ texts, ',' ∉ text.toList) :
    Text.split ',' (",".intercalate texts).toList = texts.map String.toList := by
  rw [String.toList_intercalate]
  refine Text.split_intercalate ',' _ (by simpa using some) ?_
  intro piece present
  obtain ⟨text, inside, rfl⟩ := List.mem_map.mp present
  exact single text inside

/-- Entries are read back from their list, because none of them has a comma, is empty or has blanks
at its ends. -/
theorem readList_intercalate (entries : List String) (some : entries ≠ [])
    (listed : ∀ entry ∈ entries, IsEntry entry) : readList (",".intercalate entries) = entries := by
  have trimmed : (entries.map String.toList).map Text.trim = entries.map String.toList := by
    rw [List.map_map]
    exact List.map_congr_left fun entry present => (listed entry present).trimmed
  have kept : (entries.map String.toList).filter (fun entry => !entry.isEmpty) =
      entries.map String.toList := by
    refine List.filter_eq_self.mpr ?_
    intro piece present
    obtain ⟨entry, inside, rfl⟩ := List.mem_map.mp present
    simpa using (listed entry inside).some
  rw [readList, split_commas entries some fun entry present => (listed entry present).single,
    trimmed, kept, List.map_map]
  simp

/-- What is read from a list is made of entries. -/
theorem readList_entries (value entry : String) (present : entry ∈ readList value) :
    IsEntry entry := by
  obtain ⟨text, kept, rfl⟩ := List.mem_map.mp present
  obtain ⟨made, some⟩ := List.mem_filter.mp kept
  obtain ⟨piece, inside, rfl⟩ := List.mem_map.mp made
  constructor
  · simpa using some
  · intro comma
    rw [String.toList_ofList] at comma
    exact Text.split_apart ',' _ piece inside (Text.mem_of_mem_trim piece ',' comma)
  · simpa using Text.trim_trim piece

/-- A sort key as a link writes it. -/
def writtenKey (key : SortKey) : String := key.field ++ " " ++ key.direction.name

/-- A sort key is read back from its field and direction. The two are the words of the text, and
only one of the directions is recognized by its name. -/
theorem readSortKey_written (key : SortKey) (field : IsField key.field) :
    readSortKey? (writtenKey key).toList = some key := by
  obtain ⟨name, direction⟩ := key
  have text : (writtenKey ⟨name, direction⟩).toList =
      name.toList ++ ' ' :: direction.name.toList := by simp [writtenKey]
  have second : Text.words direction.name.toList = [direction.name.toList] := by
    cases direction <;> decide +kernel
  have descending : Text.equalIgnoringCase direction.name.toList "desc".toList =
      decide (direction = .descending) := by
    cases direction <;> decide +kernel
  have words := Text.words_append name.toList direction.name.toList ' ' (by decide)
    field.some field.plain
  rw [text, readSortKey?, words, second]
  simp only [List.head?_cons, Option.any_some, descending, String.ofList_toList]
  cases direction <;> rfl

/-- Sort keys are read back from their list. Neither a field nor a direction has a comma, so each
piece is one key. -/
theorem readSortKeys_intercalate (keys : List SortKey) (some : keys ≠ [])
    (fields : ∀ key ∈ keys, IsField key.field) :
    readSortKeys (",".intercalate (keys.map writtenKey)) = keys := by
  have single : ∀ text ∈ keys.map writtenKey, ',' ∉ text.toList := by
    intro text present
    obtain ⟨key, inside, rfl⟩ := List.mem_map.mp present
    have direction : ',' ∉ key.direction.name.toList := by
      cases key.direction <;> decide +kernel
    simp [writtenKey, (fields key inside).single, direction]
  rw [readSortKeys, split_commas _ (by simpa using some) single, List.map_map]
  clear some single
  induction keys with
  | nil => rfl
  | cons key keys inductionHypothesis =>
    have first := readSortKey_written key (fields key List.mem_cons_self)
    have others := inductionHypothesis fun other later =>
      fields other (List.mem_cons_of_mem key later)
    simp [first, others]

/-- The fields of sort keys are words without commas: a key is the first word of a piece between two
commas. -/
theorem readSortKeys_fields (value : String) (key : SortKey) (present : key ∈ readSortKeys value) :
    IsField key.field := by
  obtain ⟨piece, inside, read⟩ := List.mem_filterMap.mp present
  unfold readSortKey? at read
  split at read
  · exact absurd read (by simp)
  · next field direction words =>
    obtain ⟨some, made⟩ := Text.words_made piece field (by simp [words])
    obtain rfl := Option.some.inj read
    constructor
    · simpa using some
    · intro comma
      rw [String.toList_ofList] at comma
      exact Text.split_apart ',' _ piece inside (made ',' comma).1
    · intro char within
      rw [String.toList_ofList] at within
      exact (made char within).2

/-- A truth value is read back from its name. -/
theorem readFlag_written (flag : Bool) :
    readFlag? (if flag then "true" else "false") = some flag := by
  cases flag <;> decide +kernel

/-- A number of 64 bits is read back from its decimal digits, which have no sign and no blanks
before or behind them. -/
theorem readNumber_repr (number : Nat) (bounded : number < 2 ^ 64) :
    readNumber? (Nat.repr number) = some number := by
  have digits : (Nat.repr number).toList = Nat.toDigits 10 number := by simp [Nat.repr]
  have plain : ∀ char ∈ Nat.toDigits 10 number, Text.isBlank char = false := by
    intro char present
    have digit : char.isDigit = true :=
      Nat.isDigit_of_mem_toDigits (by decide) (by decide) present
    exact (Filter.startsNumeral_apart char (.inl digit)).1
  have read := Filter.natural_toDigits number
  obtain ⟨first, others, spelled, digit, _⟩ := Filter.toDigits_cons number
  have noPlus : first ≠ '+' := by rintro rfl; simp at digit
  have unsigned : Text.unsigned? (Nat.toDigits 10 number) = some number := by
    rw [spelled] at read ⊢
    simp [Text.unsigned?, noPlus, read]
  have kept : Text.word64? (Nat.toDigits 10 number) = some number := by
    rw [Text.word64?, unsigned]
    exact Option.filter_some_pos (decide_eq_true bounded)
  rw [readNumber?, digits, Text.trim_plain _ plain, kept]

/-- A number that was read has 64 bits. -/
theorem readNumber_bounded (value : String) (number : Nat)
    (read : readNumber? value = some number) : number < 2 ^ 64 := by
  obtain ⟨_, bounded⟩ := Option.filter_eq_some_iff.mp read
  simpa using bounded

end DocumentQuery.Query
