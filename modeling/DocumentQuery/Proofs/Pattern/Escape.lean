import DocumentQuery.Filter.Condition
import DocumentQuery.Proofs.Except
import DocumentQuery.Proofs.Pattern.Matching

/-!
# Escaped texts as patterns

An escaped text is read as the literals of its characters, whatever characters they are, also
between anchors. Where these patterns are found is where the text stands: anywhere in a text, at
its start, or at its end. Reading follows the text from left to right, so what is said of an
escaped text is said with anything behind it.
-/

namespace DocumentQuery.Pattern

/-- The pattern that matches the characters of a text in turn, and another pattern behind them. -/
def literals (text : List Char) (behind : Pattern) : Pattern :=
  text.foldr (fun char later => .sequence (.literal char) later) behind

/-- A special character is literal behind a backslash: it is none of the letters that have a
meaning there. -/
theorem readAtom_escaped (char : Char) (rest : List Char) (special : isSpecial char = true) :
    readAtom ('\\' :: char :: rest) = some (.literal char, rest) := by
  have literal : ("\\.+*?()|[]\x7b\x7d^$#&-~".toList.all fun char =>
      isEscapable char && !"xuUb".toList.contains char) = true := by decide
  have own := List.all_eq_true.mp literal char (List.contains_iff_mem.mp special)
  obtain ⟨escapable, noHex, noShort, noLong, noBoundary⟩ : isEscapable char = true ∧
      char ≠ 'x' ∧ char ≠ 'u' ∧ char ≠ 'U' ∧ char ≠ 'b' := by simpa using own
  simp [readAtom, readEscape, escapable]

/-- Any other character is literal by itself. -/
theorem readAtom_plain (char : Char) (rest : List Char) (plain : isSpecial char = false) :
    readAtom (char :: rest) = some (.literal char, rest) := by
  simp [isSpecial] at plain
  simp [readAtom, plain]

/-- Whether a text begins with no mark of a count. -/
def Unmarked (text : List Char) : Prop := ∀ char ∈ text.head?, char ∉ "?*+\x7b".toList

/-- Counts are read only from their marks. -/
theorem readCounts_unmarked (steps : Nat) (pattern : Pattern) (rest : List Char)
    (unmarked : Unmarked rest) : readCounts steps pattern rest = some (pattern, rest) := by
  have noCount : readCount rest = some (none, rest) := by
    cases rest with
    | nil => rfl
    | cons char rest =>
      have mark := unmarked char rfl
      simp at mark
      simp [readCount, mark]
  cases steps <;> simp [readCounts, noCount]

/-- An escaped text begins with no mark of a count, since these marks are special. -/
theorem escape_unmarked (text tail : List Char) (unmarked : Unmarked tail) :
    Unmarked (escape text ++ tail) := by
  cases text with
  | nil => simpa [escape] using unmarked
  | cons first text =>
    cases special : isSpecial first with
    | true => simp [Unmarked, escape, special]
    | false =>
      intro char head mark
      have same : first = char := by simpa [escape, special] using head
      subst same
      have all : "?*+\x7b".toList.all isSpecial = true := by decide
      simp [List.all_eq_true.mp all first mark] at special

/-- A literal stands before what is read behind it, if that begins with no mark of a count. -/
theorem readBranches_literal {steps : Nat} {first char : Char} {text rest : List Char}
    {whole : Branches} (atom : first ∉ "|()".toList)
    (read : readAtom (first :: text) = some (.literal char, rest)) (unmarked : Unmarked rest)
    (later : readBranches steps {} rest = some whole) :
    readBranches (steps + 1) {} (first :: text) =
      some { whole with first := .sequence (.literal char) whole.first } := by
  obtain ⟨noBranch, noGroup, noEnd⟩ : first ≠ '|' ∧ first ≠ '(' ∧ first ≠ ')' := by
    simpa using atom
  rw [readBranches] <;> simp_all [readCounts_unmarked, Reading.scope]

/-- An escaped text is read as its literals, and what stands behind it as it is read alone. The
induction takes one character at a time, which is escaped or plain, and no count can follow it
because the next character is no mark of a count either. -/
theorem readBranches_escape (text tail : List Char) (whole : Branches) (unmarked : Unmarked tail)
    (tailRead : ∀ steps, tail.length < steps → readBranches steps {} tail = some whole)
    (steps : Nat) (enough : (escape text ++ tail).length < steps) :
    readBranches steps {} (escape text ++ tail) =
      some { whole with first := literals text whole.first } := by
  induction text generalizing steps with
  | nil => simpa [escape, literals] using tailRead steps (by simpa [escape] using enough)
  | cons char text inductionHypothesis =>
    obtain ⟨steps, rfl⟩ : ∃ fewer, steps = fewer + 1 := ⟨steps - 1, by omega⟩
    have behind := escape_unmarked text tail unmarked
    cases special : isSpecial char with
    | true =>
      have first : escape (char :: text) = '\\' :: char :: escape text := by
        simp [escape, special]
      rw [first] at enough ⊢
      simp only [List.cons_append, List.length_cons] at enough ⊢
      exact readBranches_literal (by decide) (readAtom_escaped char _ special) behind
        (inductionHypothesis steps (by omega))
    | false =>
      have first : escape (char :: text) = char :: escape text := by simp [escape, special]
      rw [first] at enough ⊢
      simp only [List.cons_append, List.length_cons] at enough ⊢
      refine readBranches_literal ?_ (readAtom_plain char _ special) behind
        (inductionHypothesis steps (by omega))
      simp_all [isSpecial]

/-- The options that the pattern operator has without letters. -/
def plain : Options := {}

/-- Literals lead through their text, and on from there as what is behind them does. The character
before the place is followed along, since assertions behind the literals look at it. -/
theorem leads_literals (needle : List Char) (behind : Pattern) (before : Option Char)
    (text : List Char) (finish : Place) :
    Leads plain (literals needle behind) (before, text) finish ↔
      ∃ rest, text = needle ++ rest ∧
        Leads plain behind (needle.getLast?.or before, rest) finish := by
  induction needle generalizing before text with
  | nil => simp [literals]
  | cons char needle inductionHypothesis =>
    rw [getLast_cons_or]
    have first : Leads plain (literals (char :: needle) behind) (before, text) finish ↔
        ∃ others, text = char :: others ∧
          Leads plain (literals needle behind) (some char, others) finish := by
      constructor
      · rintro ⟨⟨last, others⟩, ⟨other, same, taken, rfl⟩, later⟩
        obtain rfl : char = other := by simpa [Options.sameChar, plain] using same
        exact ⟨others, taken, later⟩
      · rintro ⟨others, taken, later⟩
        exact ⟨(some char, others), ⟨char, by simp [Options.sameChar, plain], taken, rfl⟩, later⟩
    rw [first]
    constructor
    · rintro ⟨others, rfl, later⟩
      obtain ⟨rest, rfl, led⟩ := (inductionHypothesis (some char) others).mp later
      exact ⟨rest, rfl, led⟩
    · rintro ⟨rest, rfl, led⟩
      exact ⟨needle ++ rest, rfl, (inductionHypothesis (some char) _).mpr ⟨rest, rfl, led⟩⟩

end DocumentQuery.Pattern

namespace DocumentQuery.Filter

open Pattern (literals plain)

/-- Where a text must stand in another one: within it, at its start or at its end. -/
def Placement.Stands (needle text : List Char) : Placement → Prop
  | .anywhere => needle <:+: text
  | .atStart => needle <+: text
  | .atEnd => needle <:+ text

/-- The pattern that finds a text at a placement: its characters one after the other, with an
assertion on the side where it is tied. -/
def Placement.pieces (needle : List Char) : Placement → Pattern
  | .anywhere => literals needle .empty
  | .atStart => .sequence (.assertion .lineStart) (literals needle .empty)
  | .atEnd => literals needle (.sequence (.assertion .lineEnd) .empty)

/-- The written pattern of a placement is read as its pieces, whatever the text is. The anchors are
read around the escaped text: the one in front is not counted, since an escaped text begins with no
mark of a count, and the one behind ends the literals. -/
theorem Placement.pattern_read (placement : Placement) (needle : String) :
    Pattern.ofText? (placement.pattern needle) = some (placement.pieces needle.toList) := by
  have alone (steps : Nat) (enough : (Pattern.escape needle.toList).length < steps) :
      Pattern.readBranches steps {} (Pattern.escape needle.toList) =
        some ⟨literals needle.toList .empty, [], {}, []⟩ := by
    simpa using Pattern.readBranches_escape needle.toList [] ⟨.empty, [], {}, []⟩
      (by simp [Pattern.Unmarked])
      (fun steps enough => by cases steps <;> simp_all [Pattern.readBranches]) steps
      (by simpa using enough)
  simp only [Pattern.ofText?, Placement.pattern, String.toList_ofList, String.length_ofList]
  cases placement with
  | anywhere => simp [alone _ (Nat.lt_succ_self _), Pattern.alternatives, pieces]
  | atStart =>
    have counts (steps : Nat) (pattern : Pattern) :=
      Pattern.readCounts_unmarked steps pattern (Pattern.escape needle.toList)
        (by simpa using Pattern.escape_unmarked needle.toList [] (by simp [Pattern.Unmarked]))
    simp [Pattern.readBranches, Pattern.readAtom, counts, alone _ (Nat.lt_succ_self _), pieces,
      Pattern.alternatives, Pattern.Reading.scope]
  | atEnd =>
    have anchored (steps : Nat) (enough : ['$'].length < steps) :
        Pattern.readBranches steps {} ['$'] =
          some ⟨.sequence (.assertion .lineEnd) .empty, [], {}, []⟩ := by
      obtain ⟨fewer, rfl⟩ : ∃ fewer, steps = fewer + 2 :=
        ⟨steps - 2, by simp only [List.length_singleton] at enough; omega⟩
      rfl
    have whole := Pattern.readBranches_escape needle.toList ['$'] _ (by simp [Pattern.Unmarked])
      anchored _ (Nat.lt_succ_self _)
    rw [Nat.succ_eq_add_one] at whole
    simp only [whole]
    rfl

/-- The pieces of a placement are found exactly where the text stands there. An anchor holds only at
its own end of the text, so it leaves nothing before or behind the literals. -/
theorem Placement.pieces_found (placement : Placement) (needle : List Char) (text : String) :
    Pattern.found plain (placement.pieces needle) text = true ↔
      placement.Stands needle text.toList := by
  rw [Pattern.found_iff]
  cases placement with
  | anywhere =>
    simp only [pieces, Stands, Pattern.leads_literals, Pattern.Leads]
    constructor
    · rintro ⟨front, _, _, division, rest, rfl, _⟩
      exact ⟨front, rest, by rw [division, List.append_assoc]⟩
    · rintro ⟨front, rest, division⟩
      exact ⟨front, needle ++ rest, _, by rw [← division, List.append_assoc], rest, rfl, rfl⟩
  | atStart =>
    simp only [pieces, Stands, Pattern.Leads]
    constructor
    · rintro ⟨front, back, finish, division, _, ⟨starts, rfl⟩, led⟩
      obtain ⟨rest, rfl, _⟩ := (Pattern.leads_literals _ _ _ _ _).mp led
      have first : front = [] := by
        simpa [Pattern.Assertion.holds, plain] using starts
      exact ⟨rest, by rw [division, first, List.nil_append]⟩
    · rintro ⟨rest, division⟩
      exact ⟨[], needle ++ rest, _, division.symm, _, ⟨rfl, rfl⟩,
        (Pattern.leads_literals _ _ _ _ _).mpr ⟨rest, rfl, rfl⟩⟩
  | atEnd =>
    simp only [pieces, Stands, Pattern.leads_literals, Pattern.Leads]
    constructor
    · rintro ⟨front, _, _, division, rest, rfl, _, ⟨ended, _⟩, _⟩
      have empty : rest = [] := by simpa [Pattern.Assertion.holds, plain] using ended
      exact ⟨front, by rw [division, empty, List.append_nil]⟩
    · rintro ⟨front, division⟩
      exact ⟨front, needle, _, division.symm, [], (List.append_nil _).symm, _, ⟨rfl, rfl⟩, rfl⟩

end DocumentQuery.Filter
