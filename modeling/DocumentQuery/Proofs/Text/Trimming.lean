import DocumentQuery.Proofs.Filter.Spelling
import DocumentQuery.Proofs.Text.Lists

/-!
# Taking texts apart

Readers take the characters at the start of a text as long as a test holds, or drop the blanks at
its ends. Either way the text is put together again from what was taken and what was left, and what
was taken is settled by where the test fails.
-/

namespace DocumentQuery.Text

/-- Whether all characters of a text are blanks. -/
def AllBlank (text : List Char) : Prop := ∀ char ∈ text, isBlank char = true

instance (text : List Char) : Decidable (AllBlank text) :=
  decidable_of_iff (text.all isBlank = true) List.all_eq_true

/-- The characters at the start of a text that satisfy a test, and the rest behind them: these are
the two parts of which the first satisfies it throughout and the second does not begin so. -/
theorem taken_iff (test : Char → Bool) (text front rest : List Char) :
    text.takeWhile test = front ∧ text.drop (text.takeWhile test).length = rest ↔
      text = front ++ rest ∧ (∀ char ∈ front, test char = true) ∧
        rest.head?.any test = false := by
  constructor
  · rintro ⟨rfl, rfl⟩
    induction text with
    | nil => simp
    | cons char text inductionHypothesis =>
      cases holds : test char with
      | false => simp [holds]
      | true =>
        obtain ⟨whole, all, ends⟩ := inductionHypothesis
        simp only [List.takeWhile_cons, holds, if_true, List.length_cons, List.drop_succ_cons,
          List.cons_append, List.forall_mem_cons, true_and]
        exact ⟨congrArg _ whole, all, ends⟩
  · rintro ⟨rfl, all, ends⟩
    have front := Filter.takeWhile_spelling test front rest all ends
    exact ⟨front, by rw [front, List.drop_left]⟩

/-- Dropping characters as long as a test holds drops as many as are taken. -/
theorem drop_taken (test : Char → Bool) (text : List Char) :
    text.drop (text.takeWhile test).length = text.dropWhile test :=
  calc text.drop (text.takeWhile test).length
    _ = (text.takeWhile test ++ text.dropWhile test).drop (text.takeWhile test).length := by
      rw [List.takeWhile_append_dropWhile]
    _ = text.dropWhile test := List.drop_left

/-- A text of blanks is dropped from the start of another. -/
theorem trimStart_append (blanks text : List Char) (blank : AllBlank blanks) :
    trimStart (blanks ++ text) = trimStart text := by
  induction blanks with
  | nil => rfl
  | cons char blanks inductionHypothesis =>
    obtain ⟨first, others⟩ := List.forall_mem_cons.mp blank
    simpa [trimStart, first] using inductionHypothesis others

/-- A text that begins with no blank keeps its start, whatever follows. It begins with none if
trimming its start leaves it as it is. -/
theorem trimStart_kept (text rest : List Char) (some : text ≠ [])
    (kept : trimStart text = text) : trimStart (text ++ rest) = text ++ rest := by
  cases text with
  | nil => exact absurd rfl some
  | cons char text =>
    have first : isBlank char = false := by
      cases blank : isBlank char with
      | false => rfl
      | true =>
        have shorter := (List.dropWhile_sublist (l := text) isBlank).length_le
        rw [trimStart, List.dropWhile_cons, if_pos blank] at kept
        rw [kept, List.length_cons] at shorter
        omega
    simp [trimStart, first]

/-- The end of a text is trimmed as the start of the reversed text is. -/
theorem trimEnd_reverse (text : List Char) : trimEnd text = (trimStart text.reverse).reverse := rfl

/-- A text without blanks is trimmed. -/
theorem trim_plain (text : List Char) (plain : ∀ char ∈ text, isBlank char = false) :
    trim text = text := by
  have start (text : List Char) (plain : ∀ char ∈ text, isBlank char = false) :
      text.dropWhile isBlank = text := by
    cases text with
    | nil => rfl
    | cons char text => simp [plain char List.mem_cons_self]
  have back := start text.reverse (by simpa using plain)
  simp [trim, trimStart, trimEnd, start text plain, back]

/-- A trimmed text has no blanks at its start and none at its end. -/
theorem trimmed_ends (text : List Char) (trimmed : trim text = text) :
    trimStart text = text ∧ trimEnd text = text := by
  have start : trimStart text = text := by
    have suffix := List.dropWhile_suffix (l := text) isBlank
    have front : trim text <+: trimStart text := by
      have suffix := List.dropWhile_suffix (l := (trimStart text).reverse) isBlank
      simpa [trim, trimEnd] using List.reverse_prefix.mpr suffix
    rw [trimmed] at front
    exact suffix.eq_of_length (Nat.le_antisymm suffix.length_le front.length_le)
  refine ⟨start, ?_⟩
  rwa [trim, start] at trimmed

/-- Blanks around a text are trimmed, down to the text if it has none at its ends. An empty text
between blanks is a case of its own. -/
theorem trim_padded (before text after : List Char) (blankBefore : AllBlank before)
    (blankAfter : AllBlank after) (trimmed : trim text = text) :
    trim (before ++ (text ++ after)) = text := by
  obtain ⟨start, ends⟩ := trimmed_ends text trimmed
  have reversed : AllBlank after.reverse := fun char inside =>
    blankAfter char (List.mem_reverse.mp inside)
  cases text with
  | nil =>
    have all : AllBlank (before ++ after) := fun char inside =>
      (List.mem_append.mp inside).elim (blankBefore char) (blankAfter char)
    have none := trimStart_append (before ++ after) [] all
    simp only [List.append_nil] at none
    rw [trim, List.nil_append, none]
    rfl
  | cons char text =>
    rw [trim, trimStart_append before _ blankBefore,
      trimStart_kept _ after (List.cons_ne_nil char text) start, trimEnd_reverse,
      List.reverse_append, trimStart_append _ _ reversed]
    exact ends

/-- A text is what is left of it between blanks. -/
theorem trim_parts (text : List Char) :
    ∃ before after, text = before ++ (trim text ++ after) ∧ AllBlank before ∧ AllBlank after := by
  refine ⟨text.takeWhile isBlank, ((trimStart text).reverse.takeWhile isBlank).reverse, ?_, ?_, ?_⟩
  · have back := congrArg List.reverse
      (List.takeWhile_append_dropWhile (p := isBlank) (l := (trimStart text).reverse))
    rw [List.reverse_append, List.reverse_reverse] at back
    rw [trim, trimEnd, back, trimStart, List.takeWhile_append_dropWhile]
  · exact fun char inside => (List.mem_takeWhile_imp inside)
  · exact fun char inside => List.mem_takeWhile_imp (List.mem_reverse.mp inside)

/-- The pieces of a text with the separator between them are the text. Cutting a text therefore
loses nothing but the separators. -/
theorem intercalate_split (separator : Char) (text : List Char) :
    [separator].intercalate (split separator text) = text := by
  induction text with
  | nil => rfl
  | cons char text inductionHypothesis =>
    cases pieces : split separator text with
    | nil => exact absurd pieces (split_ne_nil separator text)
    | cons piece others =>
      rw [pieces] at inductionHypothesis
      by_cases same : char = separator
      · subst same
        simpa [split, pieces, List.intercalate] using inductionHypothesis
      · rw [split, if_neg same, pieces]
        cases others with
        | nil => simpa [List.intercalate] using inductionHypothesis
        | cons next others => simpa [List.intercalate] using inductionHypothesis

end DocumentQuery.Text
