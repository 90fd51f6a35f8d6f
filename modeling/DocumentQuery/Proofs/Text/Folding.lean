import DocumentQuery.Proofs.Filter.Spelling
import DocumentQuery.Text.Case

/-!
# Keywords in any letter case

A text writes a keyword if it is the keyword up to the case of its letters. Folding the case of
letters leaves marks and blanks as they are and makes none of other characters, so a keyword is
never taken for either.
-/

namespace DocumentQuery.Text

/-- A letter outside ASCII is folded to a letter. -/
theorem foldRuns_letters (code image : Nat) (found : CaseRun.find? foldRuns code = some image) :
    64 < image := by
  have all : ∀ run ∈ foldRuns, 64 < (run.first : Int) + run.offset := by decide +kernel
  obtain ⟨run, listed, rfl⟩ := Option.map_eq_some_iff.mp found
  have above : run.first ≤ code := by
    have holds := List.find?_some listed
    simp only [Bool.and_eq_true, decide_eq_true_eq] at holds
    exact holds.1.1
  have letters := all run (List.mem_of_find?_eq_some listed)
  omega

/-- A code point is that of its character, or no character has it. -/
theorem toNat_ofNat (code : Nat) :
    (Char.ofNat code).toNat = code ∨ (Char.ofNat code).toNat = 0 := by
  by_cases valid : code.isValidChar
  · exact .inl (congrArg Char.toNat (dif_pos valid))
  · exact .inr (congrArg Char.toNat (dif_neg valid))

/-- Folding leaves a mark as it is, and makes a mark of no other character. Among the first 128
characters this is decided, and all others are folded to themselves or to letters. -/
theorem fold_mark (char mark : Char) (positive : 0 < mark.toNat) (isMark : mark.toNat ≤ 64) :
    fold char = mark ↔ char = mark := by
  have ascii : ∀ code ∈ List.range 128, (Char.ofNat code).toLower = Char.ofNat code ∨
      (64 < code ∧ 64 < (Char.ofNat code).toLower.toNat) := by decide +kernel
  by_cases small : char.toNat < 0x80
  · have folded : fold char = char.toLower := by simp [fold, small]
    have cases := ascii char.toNat (List.mem_range.mpr small)
    rw [Char.ofNat_toNat] at cases
    rw [folded]
    rcases cases with same | ⟨above, aboveToo⟩
    · rw [same]
    · constructor <;> (rintro rfl; omega)
  · have different : char ≠ mark := by rintro rfl; omega
    simp only [different, iff_false]
    intro folded
    simp only [fold, small, if_false] at folded
    split at folded
    · next image found =>
      have letter := foldRuns_letters char.toNat image found
      rw [← folded] at positive isMark
      rcases toNat_ofNat image with same | none <;> omega
    · exact different folded

/-- Whether a text writes a keyword, up to the case of its letters. -/
def WritesKeyword (keyword : String) (text : List Char) : Prop := text.map fold = keyword.toList

instance (keyword : String) (text : List Char) : Decidable (WritesKeyword keyword text) :=
  inferInstanceAs (Decidable (_ = _))

/-- A text is as long as the keyword that it writes. -/
theorem WritesKeyword.length_eq {keyword : String} {text : List Char}
    (writes : WritesKeyword keyword text) : text.length = keyword.length := by
  have lengths := congrArg List.length writes
  rwa [List.length_map, String.length_toList] at lengths

/-- A text that writes a keyword of small letters has no blanks: no blank is folded to a small
letter, as the list of blanks shows. -/
theorem WritesKeyword.noBlank {keyword : String} {text : List Char}
    (writes : WritesKeyword keyword text)
    (small : keyword.toList.all Char.isLower = true) (char : Char) (inside : char ∈ text) :
    isBlank char = false := by
  have lower : (fold char).isLower = true :=
    List.all_eq_true.mp small _ (writes ▸ List.mem_map_of_mem inside)
  have blanks : ∀ code ∈ Filter.blankCodes, (fold (Char.ofNat code)).isLower = false := by
    decide +kernel
  cases blank : isBlank char with
  | false => rfl
  | true =>
    have none := blanks char.toNat (Filter.blank_listed char blank)
    rw [Char.ofNat_toNat] at none
    exact absurd (lower.symm.trans none) (by decide)

end DocumentQuery.Text
