import DocumentQuery.Proofs.Json.Path
import DocumentQuery.Text.Blank
import Mathlib.Data.List.DropRight

/-!
# Texts that list other texts

A text is put together from pieces with separators or blanks between them, and is cut into the
same pieces again. That holds of pieces in which the separator does not occur, and cutting a text
gives no others.
-/

namespace DocumentQuery.Text

/-- What stands before a separator is a piece if no other separator does. -/
theorem split_append (separator : Char) (piece rest : List Char) (apart : separator ∉ piece) :
    split separator (piece ++ separator :: rest) = piece :: split separator rest := by
  induction piece with
  | nil => simp [split]
  | cons char piece inductionHypothesis =>
    simp only [List.mem_cons, not_or] at apart
    simp [split, Ne.symm apart.1, inductionHypothesis apart.2]

/-- Pieces that are joined by separators are cut apart again if no separator occurs in them. -/
theorem split_intercalate (separator : Char) (pieces : List (List Char)) (some : pieces ≠ [])
    (apart : ∀ piece ∈ pieces, separator ∉ piece) :
    split separator ([separator].intercalate pieces) = pieces := by
  induction pieces with
  | nil => exact absurd rfl some
  | cons piece others inductionHypothesis =>
    have first : separator ∉ piece := apart piece List.mem_cons_self
    cases others with
    | nil => simpa [List.intercalate] using split_absent separator piece first
    | cons next others =>
      have rest := inductionHypothesis (List.cons_ne_nil next others)
        fun other later => apart other (List.mem_cons_of_mem piece later)
      have joined : [separator].intercalate (piece :: next :: others) =
          piece ++ separator :: [separator].intercalate (next :: others) := by
        simp [List.intercalate]
      rw [joined, split_append separator piece _ first, rest]

/-- The separator does not occur in the pieces of a text, since the text is cut at each of them. -/
theorem split_apart (separator : Char) (text piece : List Char)
    (present : piece ∈ split separator text) : separator ∉ piece := by
  induction text generalizing piece with
  | nil =>
    rw [split, List.mem_singleton] at present
    simp [present]
  | cons char text inductionHypothesis =>
    unfold split at present
    split at present
    · rcases List.mem_cons.mp present with rfl | later
      · simp
      · exact inductionHypothesis piece later
    · next different =>
      split at present
      · rw [List.mem_singleton] at present
        simp [present, Ne.symm different]
      · next first others pieces =>
        rcases List.mem_cons.mp present with rfl | later
        · have apart := inductionHypothesis first (by simp [pieces])
          simp [Ne.symm different, apart]
        · exact inductionHypothesis piece (by simp [pieces, later])

/-- A text is cut at its first separator. -/
theorem cut_append (separator : Char) (front rest : List Char) (apart : separator ∉ front) :
    cut? separator (front ++ separator :: rest) = some (front, rest) := by
  induction front with
  | nil => simp [cut?]
  | cons char front inductionHypothesis =>
    simp only [List.mem_cons, not_or] at apart
    simp [cut?, Ne.symm apart.1, inductionHypothesis apart.2]

/-- What stands before a separator that does not occur is the whole text. -/
theorem before_absent (separator : Char) (text : List Char) (absent : separator ∉ text) :
    before separator text = text := by
  refine List.takeWhile_eq_self_iff.mpr fun char inside => ?_
  have different : char ≠ separator := fun same => absent (same ▸ inside)
  simpa using different

/-- A text has a stem if it is the stem with the rest behind it. -/
theorem dropStem_iff (stem text rest : List Char) :
    dropStem? stem text = some rest ↔ text = stem ++ rest := by
  induction stem generalizing text with
  | nil => simp [dropStem?]
  | cons wanted stem inductionHypothesis =>
    cases text with
    | nil => simp [dropStem?]
    | cons char text =>
      by_cases same : wanted = char
      · simp [dropStem?, same, inductionHypothesis]
      · simp [dropStem?, same, Ne.symm same]

/-- Trimming leaves characters of the text only. -/
theorem mem_of_mem_trim (text : List Char) (char : Char) (present : char ∈ trim text) :
    char ∈ text := by
  rw [trim, trimEnd, List.mem_reverse] at present
  have inside := (List.dropWhile_sublist _).mem present
  rw [List.mem_reverse] at inside
  exact (List.dropWhile_sublist _).mem inside

/-- Trimming twice is trimming once: the first character that is left was left by the trimming of
the start already, and the last one by that of the end. -/
theorem trim_trim (text : List Char) : trim (trim text) = trim text := by
  have start : trimStart (trim text) = trim text := by
    cases trimmed : trim text with
    | nil => rfl
    | cons char others =>
      have front : trim text <+: trimStart text := by
        have suffix := List.dropWhile_suffix (l := (trimStart text).reverse) isBlank
        simpa [trim, trimEnd] using List.reverse_prefix.mpr suffix
      obtain ⟨tail, whole⟩ := front
      have first : isBlank char = false := by
        have head := List.head?_dropWhile_not isBlank text
        rw [trimmed] at whole
        have same : text.dropWhile isBlank = char :: (others ++ tail) := whole.symm
        rw [same] at head
        simpa using head
      simp [trimStart, first]
  rw [trim, start]
  simp only [trim, trimEnd, List.reverse_reverse, List.dropWhile_idempotent]

/-- The characters before a blank that are none themselves begin the first word. -/
theorem collect_append (word rest : List Char) (plain : ∀ char ∈ word, isBlank char = false) :
    words.collect (word ++ rest) =
      (word ++ (words.collect rest).1, (words.collect rest).2) := by
  induction word with
  | nil => rfl
  | cons char word inductionHypothesis =>
    have first := plain char List.mem_cons_self
    have others := inductionHypothesis fun other later =>
      plain other (List.mem_cons_of_mem char later)
    simp [words.collect, first, others]

/-- A text that begins with a word and a blank has the word before those of its rest. -/
theorem words_append (word rest : List Char) (blank : Char) (isBlank : isBlank blank = true)
    (some : word ≠ []) (plain : ∀ char ∈ word, Text.isBlank char = false) :
    words (word ++ blank :: rest) = word :: words rest := by
  simp [words, collect_append word _ plain, words.collect, isBlank, some]

/-- Words are not empty, and are made of characters of the text that are no blanks. The induction
keeps the word that is being collected apart from those that are complete. -/
theorem words_made (text word : List Char) (present : word ∈ words text) :
    word ≠ [] ∧ ∀ char ∈ word, char ∈ text ∧ isBlank char = false := by
  have collected : (∀ char ∈ (words.collect text).1, char ∈ text ∧ isBlank char = false) ∧
      ∀ word ∈ (words.collect text).2,
        word ≠ [] ∧ ∀ char ∈ word, char ∈ text ∧ isBlank char = false := by
    clear present
    induction text with
    | nil => simp [words.collect]
    | cons first text inductionHypothesis =>
      obtain ⟨start, others⟩ := inductionHypothesis
      have startLater : ∀ char ∈ (words.collect text).1,
          char ∈ first :: text ∧ isBlank char = false :=
        fun char inside => (start char inside).imp (List.mem_cons_of_mem first) id
      have othersLater : ∀ word ∈ (words.collect text).2,
          word ≠ [] ∧ ∀ char ∈ word, char ∈ first :: text ∧ isBlank char = false :=
        fun word inside => (others word inside).imp id fun all char at_ =>
          (all char at_).imp (List.mem_cons_of_mem first) id
      by_cases blank : isBlank first = true
      · have step : words.collect (first :: text) = ([],
            if (words.collect text).1.isEmpty then (words.collect text).2
            else (words.collect text).1 :: (words.collect text).2) := by
          simp [words.collect, blank]
        rw [step]
        refine ⟨by simp, ?_⟩
        split
        · exact othersLater
        · next some =>
          exact List.forall_mem_cons.mpr ⟨⟨by simpa using some, startLater⟩, othersLater⟩
      · have noBlank : isBlank first = false := by simpa using blank
        have step : words.collect (first :: text) =
            (first :: (words.collect text).1, (words.collect text).2) := by
          simp [words.collect, noBlank]
        rw [step]
        exact ⟨List.forall_mem_cons.mpr ⟨⟨List.mem_cons_self, noBlank⟩, startLater⟩, othersLater⟩
  obtain ⟨start, others⟩ := collected
  simp only [words] at present
  split at present
  · exact others word present
  · next some =>
    rcases List.mem_cons.mp present with rfl | later
    · exact ⟨by simpa using some, start⟩
    · exact others word later

end DocumentQuery.Text
