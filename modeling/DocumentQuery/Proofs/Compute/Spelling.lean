import DocumentQuery.Proofs.Compute.Printing
import DocumentQuery.Proofs.Text.Trimming
import Mathlib.Data.List.Forall2

/-!
# Spelling computed fields

The tokens of clauses are written with blanks anywhere between them, and without one where a token
ends by itself. A list of clauses is cut at its commas before the tokens are read. Both look at
quotes and parentheses: the cutting counts them, and comes to the same end because a doubled quote
opens a text again that it has closed.
-/

namespace DocumentQuery.Compute

open Text (AllBlank)

/-- The ways in which tokens are written. A quote in a text is doubled, and numbers are the integers
of 64 bits. -/
inductive Spelling : Token → List Char → Prop where
  | opening : Spelling .opening ['(']
  | closing : Spelling .closing [')']
  | comma : Spelling .comma [',']
  | word (first : Char) (others : List Char) (starts : startsWord first = true)
      (continues : ∀ char ∈ others, continuesWord char = true) :
      Spelling (.word (String.ofList (first :: others))) (first :: others)
  | text (content : String) :
      Spelling (.text content) ('\'' :: (Filter.doubled content.toList ++ ['\'']))
  | integer (value : Int) (is64 : IsInteger64 value) :
      Spelling (.number (.ofInt value)) value.repr.toList

/-- Whether a character can continue a numeral. -/
def continuesNumeral (char : Char) : Bool := char.isDigit || char == '.'

/-- Whether a token ends before a text, so that reading it does not go on into the text. A quoted
text goes on only where another quote follows. -/
def Token.EndsBefore (text : List Char) : Token → Prop
  | .word _ => text.head?.any continuesWord = false
  | .number _ => text.head?.any continuesNumeral = false
  | .text _ => text.head? ≠ some '\''
  | .opening | .closing | .comma => True

/-- Texts that write tokens in order, with blanks anywhere between them. A blank is needed only
where a token would otherwise go on into the next one. -/
inductive Rendering : List Token → List Char → Prop where
  | none : Rendering [] []
  | blank {tokens : List Token} {text : List Char} (char : Char)
      (isBlank : Text.isBlank char = true) (others : Rendering tokens text) :
      Rendering tokens (char :: text)
  | token {token : Token} {tokens : List Token} {spelling text : List Char}
      (spelled : Spelling token spelling) (ends : token.EndsBefore text)
      (others : Rendering tokens text) : Rendering (token :: tokens) (spelling ++ text)

/-! ### Reading tokens -/

/-- The first character of a word is no blank and begins no other token. -/
theorem startsWord_apart (char : Char) (starts : startsWord char = true) :
    Text.isBlank char = false ∧ char.isDigit = false ∧
      char ≠ '(' ∧ char ≠ ')' ∧ char ≠ ',' ∧ char ≠ '\'' ∧ char ≠ '-' := by
  refine Filter.startsWord_apart char ?_
  simp only [startsWord, Bool.or_eq_true] at starts
  simp only [Filter.startsWord, Text.isAlphabetic, Bool.or_eq_true]
  tauto

/-- A spelled token is read from its first character and those behind it. The first character shows
which token it is, and what is behind the token does not continue it. -/
theorem readToken_spelling (token : Token) (spelling text : List Char)
    (spelled : Spelling token spelling) (ends : token.EndsBefore text) :
    ∃ first others, spelling = first :: others ∧ Text.isBlank first = false ∧
      readToken? first (others ++ text) = some (token, others.length) := by
  cases spelled with
  | opening | closing | comma => exact ⟨_, [], rfl, by decide, rfl⟩
  | word first others starts continues =>
    obtain ⟨noBlank, noDigit, noOpening, noClosing, noComma, noQuote, noMinus⟩ :=
      startsWord_apart first starts
    refine ⟨first, others, rfl, noBlank, ?_⟩
    simp [readToken?, noDigit, noOpening, noClosing, noComma, noQuote, noMinus, starts,
      Filter.takeWhile_spelling continuesWord others text continues ends]
  | text content =>
    refine ⟨'\'', Filter.doubled content.toList ++ ['\''], rfl, by decide, ?_⟩
    have read := Filter.readQuoted_doubled content.toList text ends
    simp [readToken?, read]
  | integer value is64 =>
    have read := Filter.numeral_repr value is64.1 is64.2
    obtain ⟨first, others, digits, starts, all⟩ := Filter.repr_cons value
    rw [digits] at read
    obtain ⟨noBlank, noOpening, noClosing, noComma, noMark⟩ :=
      Filter.startsNumeral_apart first starts
    have continues : ∀ char ∈ others, continuesNumeral char = true :=
      fun char present => by simp [continuesNumeral, all char present]
    have begins : (first.isDigit || (first = '-' && (others ++ text).head?.any Char.isDigit)) =
        true := by
      rcases starts with digit | rfl
      · simp [digit]
      · cases others with
        | nil =>
          have signed := Filter.signed_repr value
          rw [digits] at signed
          cases signed
        | cons digit others => simp [all digit List.mem_cons_self]
    refine ⟨first, others, digits, noBlank, ?_⟩
    have taken := Filter.takeWhile_spelling continuesNumeral others text continues ends
    unfold continuesNumeral at taken
    rw [readToken?, if_neg noOpening, if_neg noClosing, if_neg noComma, if_neg noMark,
      if_pos begins, taken]
    dsimp only
    rw [read, Option.map_some]

/-- The characters of a token that is read already are passed over. -/
theorem tokensFrom_passed (others text : List Char) :
    tokensFrom others.length (others ++ text) = tokensFrom 0 text := by
  induction others with
  | nil => rfl
  | cons char others inductionHypothesis => simpa [tokensFrom] using inductionHypothesis

/-- What writes tokens is read back as them. -/
theorem tokensFrom_rendering (tokens : List Token) (text : List Char)
    (rendering : Rendering tokens text) : tokensFrom 0 text = some tokens := by
  induction rendering with
  | none => rfl
  | blank char isBlank others inductionHypothesis =>
    simpa [tokensFrom, isBlank] using inductionHypothesis
  | @token token tokens spelling text spelled ends others inductionHypothesis =>
    obtain ⟨first, later, rfl, noBlank, readFirst⟩ :=
      readToken_spelling token spelling text spelled ends
    simp [tokensFrom, noBlank, readFirst, tokensFrom_passed, inductionHypothesis]

/-! ### Blanks at the ends -/

/-- No character of a word is a blank. -/
theorem continuesWord_plain (char : Char) (continues : continuesWord char = true) :
    Text.isBlank char = false := by
  cases blank : Text.isBlank char with
  | false => rfl
  | true =>
    have stops := (Filter.blank_separates char blank).1
    simp only [Filter.continuesWord, Text.isAlphanumeric, Text.isAlphabetic,
      Bool.or_eq_false_iff] at stops
    simp only [continuesWord, continuesName, Char.isAlphanum, Bool.or_eq_true] at continues
    simp_all

/-- A spelling ends with a character that is no blank: a mark, a character of a word, the closing
quote of a text, or the last digit of a number. -/
theorem Spelling.last {token : Token} {spelling front : List Char} {last : Char}
    (spelled : Spelling token spelling) (ends : spelling = front ++ [last]) :
    Text.isBlank last = false := by
  have inside : last ∈ spelling := by simp [ends]
  cases spelled with
  | opening | closing | comma =>
    obtain rfl := List.mem_singleton.mp inside
    decide
  | word first others starts continues =>
    rcases List.mem_cons.mp inside with rfl | later
    · exact (startsWord_apart last starts).1
    · exact continuesWord_plain last (continues last later)
  | text content =>
    have quote := congrArg List.getLast? ends
    rw [← List.cons_append, List.getLast?_concat, List.getLast?_concat] at quote
    obtain rfl := Option.some.inj quote
    decide
  | integer value _ =>
    obtain ⟨first, others, digits, starts, all⟩ := Filter.repr_cons value
    rcases List.mem_cons.mp (digits ▸ inside) with rfl | later
    · exact (Filter.startsNumeral_apart last starts).1
    · exact (Filter.startsNumeral_apart last (.inl (all last later))).1

/-- A token ends where a text does. -/
theorem Token.endsBefore_nil (token : Token) : token.EndsBefore [] := by
  cases token <;> simp [EndsBefore]

/-- A token that ends before a text ends before the front of the text. -/
theorem Token.EndsBefore.front {token : Token} {front back : List Char}
    (ends : token.EndsBefore (front ++ back)) : token.EndsBefore front := by
  cases front with
  | nil => exact token.endsBefore_nil
  | cons char front => exact ends

/-- A blank in front of a text writes no token, since the spelling of a token does not begin with a
blank. -/
theorem Rendering.tail {tokens : List Token} {char : Char} {text : List Char}
    (rendering : Rendering tokens (char :: text)) (blank : Text.isBlank char = true) :
    Rendering tokens text := by
  generalize whole : char :: text = rendered at rendering
  cases rendering with
  | none => cases whole
  | blank other _ rendering =>
    cases whole
    exact rendering
  | token spelled ends _ =>
    obtain ⟨first, _, rfl, noBlank, _⟩ := readToken_spelling _ _ _ spelled ends
    obtain ⟨rfl, _⟩ := List.cons.inj whole
    exact absurd (blank.symm.trans noBlank) (by decide)

/-- Blanks in front of a text write no tokens. -/
theorem Rendering.behind {tokens : List Token} (before text : List Char)
    (blank : AllBlank before) (rendering : Rendering tokens (before ++ text)) :
    Rendering tokens text := by
  induction before with
  | nil => exact rendering
  | cons char before inductionHypothesis =>
    obtain ⟨first, others⟩ := List.forall_mem_cons.mp blank
    exact inductionHypothesis others (rendering.tail first)

/-- Blanks behind a text write no tokens. The spelling of a token ends with no blank, so none of it
is among the blanks that are taken off. -/
theorem Rendering.before {tokens : List Token} {text : List Char}
    (rendering : Rendering tokens text) (front after : List Char) (whole : text = front ++ after)
    (blank : AllBlank after) : Rendering tokens front := by
  induction rendering generalizing front after with
  | none =>
    obtain ⟨rfl, _⟩ := List.append_eq_nil_iff.mp whole.symm
    exact .none
  | blank char isBlank _ inductionHypothesis =>
    cases front with
    | nil =>
      cases whole
      exact inductionHypothesis [] _ rfl (List.forall_mem_cons.mp blank).2
    | cons other front =>
      rw [List.cons_append, List.cons.injEq] at whole
      obtain ⟨rfl, whole⟩ := whole
      exact .blank char isBlank (inductionHypothesis front after whole blank)
  | @token token tokens spelling text spelled ends _ inductionHypothesis =>
    rcases List.append_eq_append_iff.mp whole with ⟨between, rfl, rfl⟩ | ⟨between, rfl, rfl⟩
    · exact .token spelled ends.front (inductionHypothesis between after rfl blank)
    · rcases List.eq_nil_or_concat between with rfl | ⟨others, last, rfl⟩
      · have alone := inductionHypothesis [] text rfl (by simpa using blank)
        rw [List.append_nil] at spelled
        simpa using Rendering.token spelled token.endsBefore_nil alone
      · have noBlank : Text.isBlank last = false :=
          spelled.last (by rw [List.concat_eq_append, ← List.append_assoc])
        have isBlank := blank last (by simp)
        exact absurd (isBlank.symm.trans noBlank) (by decide)

/-- A text without the blanks at its ends writes the same tokens. -/
theorem Rendering.trimmed {tokens : List Token} {text : List Char}
    (rendering : Rendering tokens text) : Rendering tokens (Text.trim text) := by
  obtain ⟨before, after, whole, blankBefore, blankAfter⟩ := Text.trim_parts text
  rw [whole] at rendering
  exact (rendering.behind before _ blankBefore).before _ after rfl blankAfter

/-! ### Cutting lists -/

/-- A text put in front of the first of pieces, as the piece that is being collected. -/
def prepend (text : List Char) : List (List Char) → List (List Char)
  | [] => [text]
  | piece :: pieces => (text ++ piece) :: pieces

/-- Texts are put in front one after the other. -/
theorem prepend_append (front back : List Char) (pieces : List (List Char)) :
    prepend (front ++ back) pieces = prepend front (prepend back pieces) := by
  cases pieces <;> simp [prepend]

/-- There is one piece at least. -/
theorem go_some (depth : Int) (quoted : Bool) (text : List Char) :
    pieces.go depth quoted text ≠ [] := by
  cases text with
  | nil => simp [pieces.go]
  | cons char text =>
    unfold pieces.go
    split
    · simp
    · dsimp only
      split <;> simp

/-- Nothing is put in front of pieces. -/
theorem prepend_nil (depth : Int) (quoted : Bool) (text : List Char) :
    prepend [] (pieces.go depth quoted text) = pieces.go depth quoted text := by
  cases pieces : pieces.go depth quoted text with
  | nil => exact absurd pieces (go_some depth quoted text)
  | cons => rfl

/-- A character other than a comma between clauses cuts nothing. -/
theorem go_cons (depth : Int) (quoted : Bool) (char : Char) (rest : List Char)
    (keeps : (char = ',' && !quoted && depth = 0) = false) :
    pieces.go depth quoted (char :: rest) =
      prepend [char] (pieces.go
        (if quoted then depth
          else if char = '(' then depth + 1
          else if char = ')' then depth - 1
          else depth)
        (if char = '\'' then !quoted else quoted) rest) := by
  rw [pieces.go, keeps]
  rfl

/-- A character in quotes cuts nothing. -/
theorem go_quoted (depth : Int) (char : Char) (rest : List Char) :
    pieces.go depth true (char :: rest) =
      prepend [char] (pieces.go depth (decide (char ≠ '\'')) rest) := by
  rw [go_cons depth true char rest (by simp)]
  by_cases quote : char = '\'' <;> simp [quote]

/-- A quote opens a text. -/
theorem go_opens (depth : Int) (rest : List Char) :
    pieces.go depth false ('\'' :: rest) = prepend ['\''] (pieces.go depth true rest) :=
  go_cons depth false '\'' rest rfl

/-- A quoted text cuts nothing, whatever it holds. Of two quotes within it the first closes the text
and the second opens it again. -/
theorem go_doubled (depth : Int) (content rest : List Char) :
    pieces.go depth true (Filter.doubled content ++ '\'' :: rest) =
      prepend (Filter.doubled content ++ ['\'']) (pieces.go depth false rest) := by
  induction content with
  | nil => exact go_quoted depth '\'' rest
  | cons char content inductionHypothesis =>
    by_cases quote : char = '\''
    · subst quote
      have first : Filter.doubled ('\'' :: content) =
          ['\''] ++ (['\''] ++ Filter.doubled content) := by
        simp [Filter.doubled]
      rw [first, List.append_assoc, List.append_assoc, List.append_assoc, List.append_assoc,
        prepend_append, prepend_append, ← inductionHypothesis]
      exact (go_quoted depth '\'' _).trans (congrArg _ (go_opens depth _))
    · have first : Filter.doubled (char :: content) = [char] ++ Filter.doubled content := by
        simp [Filter.doubled, quote]
      rw [first, List.append_assoc, List.append_assoc, prepend_append, ← inductionHypothesis]
      simpa [quote] using go_quoted depth char (Filter.doubled content ++ '\'' :: rest)

/-- Characters that are no marks cut nothing. -/
theorem go_plain (depth : Int) (text rest : List Char)
    (plain : ∀ char ∈ text, char ≠ '(' ∧ char ≠ ')' ∧ char ≠ ',' ∧ char ≠ '\'') :
    pieces.go depth false (text ++ rest) = prepend text (pieces.go depth false rest) := by
  induction text with
  | nil => exact (prepend_nil depth false rest).symm
  | cons char text inductionHypothesis =>
    obtain ⟨⟨noOpening, noClosing, noComma, noQuote⟩, others⟩ := List.forall_mem_cons.mp plain
    have kept : prepend (char :: text) (pieces.go depth false rest) =
        prepend [char] (prepend text (pieces.go depth false rest)) := prepend_append [char] text _
    rw [List.cons_append, go_cons depth false char _ (by simp [noComma]), kept,
      ← inductionHypothesis others]
    simp [noOpening, noClosing, noQuote]

/-- How many parentheses are open behind a token. A comma must stand between some. -/
def Token.nesting (depth : Int) : Token → Option Int
  | .opening => some (depth + 1)
  | .closing => some (depth - 1)
  | .comma => if depth = 0 then none else some depth
  | .word _ | .number _ | .text _ => some depth

/-- A spelled token cuts nothing, and leaves as many parentheses open as it counts. Only a comma
outside of parentheses cuts, and for that one no count is given. -/
theorem go_spelling (depth next : Int) (token : Token) (spelling rest : List Char)
    (spelled : Spelling token spelling) (nested : token.nesting depth = some next) :
    pieces.go depth false (spelling ++ rest) = prepend spelling (pieces.go next false rest) := by
  cases spelled with
  | opening | closing =>
    obtain rfl := Option.some.inj nested
    exact go_cons depth false _ rest rfl
  | comma =>
    obtain ⟨inside, same⟩ := Option.ite_none_left_eq_some.mp nested
    obtain rfl := Option.some.inj same
    exact go_cons depth false ',' rest (by simpa using inside)
  | word first others starts continues =>
    obtain rfl := Option.some.inj nested
    refine go_plain depth _ rest (List.forall_mem_cons.mpr ⟨?_, fun char inside => ?_⟩)
    · obtain ⟨_, _, noOpening, noClosing, noComma, noQuote, _⟩ := startsWord_apart first starts
      exact ⟨noOpening, noClosing, noComma, noQuote⟩
    · have continues := continues char inside
      refine ⟨?_, ?_, ?_, ?_⟩ <;> (rintro rfl; exact absurd continues (by decide))
  | text content =>
    obtain rfl := Option.some.inj nested
    rw [List.cons_append, List.append_assoc, List.singleton_append, go_opens, go_doubled,
      ← prepend_append]
    rfl
  | integer value _ =>
    obtain rfl := Option.some.inj nested
    obtain ⟨first, others, digits, starts, all⟩ := Filter.repr_cons value
    rw [digits]
    refine go_plain depth _ rest (List.forall_mem_cons.mpr ⟨?_, fun char inside => ?_⟩)
    · exact (Filter.startsNumeral_apart first starts).2
    · exact (Filter.startsNumeral_apart char (.inl (all char inside))).2

/-- A blank is no mark. -/
theorem blank_plain (char : Char) (blank : Text.isBlank char = true) :
    char ≠ '(' ∧ char ≠ ')' ∧ char ≠ ',' ∧ char ≠ '\'' := by
  refine ⟨?_, ?_, ?_, ?_⟩ <;> (rintro rfl; exact absurd blank (by decide))

/-- What writes tokens cuts nothing if their commas stand in parentheses. The depth is carried along
from token to token, and blanks between them leave it as it is. -/
theorem go_rendering (depth final : Int) (tokens : List Token) (text rest : List Char)
    (rendering : Rendering tokens text) (nested : tokens.foldlM Token.nesting depth = some final) :
    pieces.go depth false (text ++ rest) = prepend text (pieces.go final false rest) := by
  induction rendering generalizing depth with
  | none =>
    obtain rfl := Option.some.inj nested
    exact (prepend_nil depth false rest).symm
  | @blank tokens text char isBlank _ inductionHypothesis =>
    rw [← List.singleton_append, List.append_assoc, prepend_append,
      ← inductionHypothesis depth nested]
    exact go_plain depth [char] _ (by simpa using blank_plain char isBlank)
  | token spelled _ _ inductionHypothesis =>
    rw [List.foldlM_cons] at nested
    obtain ⟨next, first, others⟩ := Option.bind_eq_some_iff.mp nested
    rw [List.append_assoc, go_spelling depth next _ _ _ spelled first,
      inductionHypothesis next others, prepend_append]

/-- Texts that write tokens are cut apart again at the commas between them. Each of them closes the
parentheses that it opens, so these commas stand at depth zero, and all others deeper. -/
theorem pieces_intercalate (texts : List (List Char)) (some : texts ≠ [])
    (each : ∀ text ∈ texts, ∃ tokens, Rendering tokens text ∧
      tokens.foldlM Token.nesting 0 = .some 0) : pieces ([','].intercalate texts) = texts := by
  unfold pieces
  induction texts with
  | nil => exact absurd rfl some
  | cons text texts inductionHypothesis =>
    obtain ⟨⟨tokens, rendering, nested⟩, others⟩ := List.forall_mem_cons.mp each
    cases texts with
    | nil =>
      have alone := go_rendering 0 0 tokens text [] rendering nested
      simpa [pieces.go, prepend, List.intercalate] using alone
    | cons next texts =>
      have further := inductionHypothesis (List.cons_ne_nil next texts) others
      have joined : [','].intercalate (text :: next :: texts) =
          text ++ ',' :: [','].intercalate (next :: texts) := by
        simp [List.intercalate]
      rw [joined, go_rendering 0 0 tokens text _ rendering nested]
      simp [pieces.go, prepend, further]

/-! ### Printed clauses -/

/-- The tokens of formulas nest if those of each do and the separator does. -/
theorem nested_separated (depth : Int) (separator : Token)
    (separates : separator.nesting depth = some depth) (formulas : List Formula)
    (each : ∀ formula ∈ formulas, formula.tokens.foldlM Token.nesting depth = some depth) :
    (Formula.separated separator formulas).foldlM Token.nesting depth = some depth := by
  induction formulas with
  | nil => rfl
  | cons formula formulas inductionHypothesis =>
    obtain ⟨first, others⟩ := List.forall_mem_cons.mp each
    cases formulas with
    | nil => rwa [Formula.separated]
    | cons next formulas =>
      rw [Formula.separated, List.foldlM_append, first]
      simpa [separates] using inductionHypothesis others

/-- A formula closes the parentheses that it opens, and its commas stand in them. The operands of a
call are one level deeper than the call, which is why the statement is about any depth that is not
negative. -/
theorem Formula.Printable.nested {levels : Nat} {formula : Formula}
    (printable : formula.Printable levels) (depth : Int) (positive : 0 ≤ depth) :
    formula.tokens.foldlM Token.nesting depth = some depth := by
  induction printable generalizing depth with
  | field path _ => rw [Formula.tokens_field]; rfl
  | text content => rw [Formula.tokens_text]; rfl
  | integer value _ => rw [Formula.tokens_integer]; rfl
  | between function left value isBetween _ _ _ inductionHypothesis =>
    rw [Formula.tokens_between function left value isBetween, List.foldlM_append,
      inductionHypothesis depth positive]
    rfl
  | call function operands enclosed _ _ inductionHypothesis =>
    have inside := nested_separated (depth + 1) .comma (if_neg (by omega)) operands
      fun operand present => inductionHypothesis operand present (depth + 1) (by omega)
    rw [Formula.tokens_call function operands enclosed]
    simp [Token.nesting, inside]

/-- The tokens of formulas are the separator and those of each, so what holds of the separator and
of the tokens of every formula holds of all of them. -/
theorem mem_separated (separator token : Token) (formulas : List Formula)
    (present : token ∈ Formula.separated separator formulas) :
    token = separator ∨ ∃ formula ∈ formulas, token ∈ formula.tokens := by
  induction formulas with
  | nil => simp [Formula.separated] at present
  | cons formula formulas inductionHypothesis =>
    cases formulas with
    | nil => exact .inr ⟨formula, List.mem_cons_self, by rwa [Formula.separated] at present⟩
    | cons next formulas =>
      rw [Formula.separated, List.mem_append, List.mem_cons] at present
      rcases present with first | same | later
      · exact .inr ⟨formula, List.mem_cons_self, first⟩
      · exact .inl same
      · refine (inductionHypothesis later).imp id fun further => ?_
        obtain ⟨other, listed, inside⟩ := further
        exact ⟨other, List.mem_cons_of_mem formula listed, inside⟩

/-- A word is spelled by its characters. -/
theorem word_spelled (name : String) (first : Char) (others : List Char)
    (chars : name.toList = first :: others) (starts : startsWord first = true)
    (continues : others.all continuesWord = true) :
    Spelling (.word name) name.toList := by
  have spelled := Spelling.word first others starts (List.all_eq_true.mp continues)
  rwa [← chars, String.ofList_toList] at spelled

/-- The tokens of a formula have spellings: paths and the names of functions are words, and texts
and integers of 64 bits can be written, whatever they are. -/
theorem Formula.Printable.spelled {levels : Nat} {formula : Formula}
    (printable : formula.Printable levels) (token : Token) (present : token ∈ formula.tokens) :
    ∃ spelling, Spelling token spelling := by
  have named (function : Function) : ∃ spelling, Spelling (.word function.name) spelling := by
    cases function <;> exact ⟨_, word_spelled _ _ _ rfl (by decide) (by decide)⟩
  induction printable with
  | field path isPath =>
    rw [Formula.tokens_field, List.mem_singleton] at present
    subst present
    unfold Compute.isPath at isPath
    cases chars : path.toList with
    | nil => simp [chars] at isPath
    | cons first others =>
      simp only [chars, Bool.and_eq_true, List.all_eq_true] at isPath
      refine ⟨_, word_spelled path first others chars isPath.1
        (List.all_eq_true.mpr fun char inside => ?_)⟩
      have continues := isPath.2 char inside
      simp only [continuesWord, Bool.or_eq_true] at continues ⊢
      tauto
  | text content =>
    rw [Formula.tokens_text, List.mem_singleton] at present
    exact present ▸ ⟨_, .text content⟩
  | integer value is64 =>
    rw [Formula.tokens_integer, List.mem_singleton] at present
    exact present ▸ ⟨_, .integer value is64⟩
  | between function left value isBetween _ _ is64 inductionHypothesis =>
    rw [Formula.tokens_between function left value isBetween, List.mem_append] at present
    simp only [List.mem_cons, List.not_mem_nil, or_false] at present
    rcases present with inside | rfl | rfl
    · exact inductionHypothesis inside
    · exact named function
    · exact ⟨_, .integer value is64⟩
  | call function operands enclosed _ _ inductionHypothesis =>
    rw [Formula.tokens_call function operands enclosed] at present
    simp only [List.mem_cons, List.mem_append, List.not_mem_nil, or_false] at present
    rcases present with rfl | rfl | inside | rfl
    · exact named function
    · exact ⟨_, .opening⟩
    · rcases mem_separated .comma token operands inside with rfl | ⟨operand, among, inside⟩
      · exact ⟨_, .comma⟩
      · exact inductionHypothesis operand among inside
    · exact ⟨_, .closing⟩

/-- Tokens that have spellings can be written. -/
theorem rendering_exists (tokens : List Token)
    (spelled : ∀ token ∈ tokens, ∃ spelling, Spelling token spelling) :
    ∃ text, Rendering tokens text := by
  induction tokens with
  | nil => exact ⟨[], .none⟩
  | cons token tokens inductionHypothesis =>
    obtain ⟨⟨spelling, first⟩, others⟩ := List.forall_mem_cons.mp spelled
    obtain ⟨text, rendering⟩ := inductionHypothesis others
    have ends : token.EndsBefore (' ' :: text) := by
      cases token <;> simp [Token.EndsBefore, continuesWord, continuesName, continuesNumeral]
    exact ⟨_, .token first ends (.blank ' ' (by decide) rendering)⟩

/-- The tokens of a clause have spellings: those of its formula, and behind them two words, of which
the second is the name. -/
theorem Clause.Printable.spelled {clause : Clause} (printable : clause.Printable) (token : Token)
    (present : token ∈ clause.tokens) : ∃ spelling, Spelling token spelling := by
  simp only [Clause.tokens, List.mem_append, List.mem_cons, List.not_mem_nil, or_false] at present
  rcases present with inside | rfl | rfl
  · exact printable.formula.spelled token inside
  · exact ⟨_, word_spelled "as" _ _ rfl (by decide) (by decide)⟩
  · have isName := printable.name
    unfold Compute.isName at isName
    cases chars : clause.name.toList with
    | nil => simp [chars] at isName
    | cons first others =>
      simp only [chars, Bool.and_eq_true, List.all_eq_true] at isName
      refine ⟨_, word_spelled clause.name first others chars isName.1
        (List.all_eq_true.mpr fun char inside => ?_)⟩
      simp [continuesWord, isName.2 char inside]

/-- A clause closes the parentheses that it opens, and its commas stand in them. -/
theorem Clause.Printable.nested {clause : Clause} (printable : clause.Printable) :
    clause.tokens.foldlM Token.nesting 0 = some 0 := by
  rw [Clause.tokens, List.foldlM_append, printable.formula.nested 0 (by decide)]
  rfl

/-- A clause is read from what writes its tokens, without the blanks at its ends. -/
theorem Clause.Printable.ofText {clause : Clause} (printable : clause.Printable)
    {text : List Char} (rendering : Rendering clause.tokens text) :
    Clause.ofText? (Text.trim text) = some clause := by
  rw [Clause.ofText?, tokensFrom_rendering _ _ rendering.trimmed, Option.bind_some]
  exact printable.isRead

/-- A clause that can be written is read from some text, namely one that writes its tokens. -/
theorem Clause.Printable.written {clause : Clause} (printable : clause.Printable) :
    ∃ text, Clause.ofText? text = some clause := by
  obtain ⟨text, rendering⟩ := rendering_exists clause.tokens printable.spelled
  exact ⟨Text.trim text, printable.ofText rendering⟩

/-- Clauses are read from the texts that write them, each by itself. No such text is blank, so none
is left out between the commas. -/
theorem renderings_read (clauses : List Clause) (texts : List (List Char))
    (renderings : List.Forall₂ (fun clause text => Rendering clause.tokens text) clauses texts)
    (printable : ∀ clause ∈ clauses, clause.Printable) :
    (∀ text ∈ texts, ∃ tokens, Rendering tokens text ∧
      tokens.foldlM Token.nesting 0 = some 0) ∧
    ((texts.map Text.trim).filter fun text => !text.isEmpty).filterMap Clause.ofText? =
      clauses := by
  induction renderings with
  | nil => simp
  | @cons clause text clauses texts rendering _ inductionHypothesis =>
    obtain ⟨first, others⟩ := List.forall_mem_cons.mp printable
    obtain ⟨nested, read⟩ := inductionHypothesis others
    have readFirst := first.ofText rendering
    have some : Text.trim text ≠ [] := by
      intro none
      rw [none] at readFirst
      cases readFirst
    refine ⟨List.forall_mem_cons.mpr ⟨⟨_, rendering, first.nested⟩, nested⟩, ?_⟩
    rw [List.map_cons, List.filter_cons_of_pos (by simpa using some),
      List.filterMap_cons_some readFirst, read]

/-- Every list of clauses of the grammar can be written, and is read back from whatever writes its
clauses with commas between them.

Proof: a rendering is cut at the commas that stand outside of quotes and parentheses, and there are
none of these within the rendering of a clause, whose parentheses match. Each piece is read as the
tokens that it renders, and `Clause.ofTokens?` makes the clause of these, by induction on the
formula with anything that may follow it. -/
theorem listOfText_rendering (clauses : List Clause) (some : clauses ≠ [])
    (printable : ∀ clause ∈ clauses, clause.Printable) :
    (∃ texts, List.Forall₂ (fun clause text => Rendering clause.tokens text) clauses texts) ∧
      ∀ texts, List.Forall₂ (fun clause text => Rendering clause.tokens text) clauses texts →
        Clause.listOfText ([','].intercalate texts) = clauses := by
  constructor
  · clear some
    induction clauses with
    | nil => exact ⟨[], .nil⟩
    | cons clause clauses inductionHypothesis =>
      obtain ⟨first, others⟩ := List.forall_mem_cons.mp printable
      obtain ⟨text, rendering⟩ := rendering_exists clause.tokens first.spelled
      obtain ⟨texts, renderings⟩ := inductionHypothesis others
      exact ⟨text :: texts, .cons rendering renderings⟩
  · intro texts renderings
    have someTexts : texts ≠ [] := by
      rintro rfl
      exact some (List.forall₂_nil_right_iff.mp renderings)
    obtain ⟨nested, read⟩ := renderings_read clauses texts renderings printable
    rw [Clause.listOfText, clauseTexts, pieces_intercalate texts someTexts nested, read]

/-- Two clauses, with quotes, a comma and a parenthesis in a text, and blanks only where tokens
would run together. -/
theorem quoted_comma_read :
    Clause.listOfText "concat(name,'it''s, (')as a, price sub -5 as b".toList =
      [⟨.call .concat [.field "name", .literal (.string "it's, (")], "a"⟩,
        ⟨.call .sub [.field "price", .literal (.ofInt (-5))], "b"⟩] := by
  have concat : Formula.Printable 16
      (.call .concat [.field "name", .literal (.string "it's, (")]) :=
    .call .concat _ rfl (by decide) <| List.forall_mem_cons.mpr ⟨.field "name" (by decide),
      List.forall_mem_cons.mpr ⟨.text _, by simp⟩⟩
  have difference : Formula.Printable 16 (.call .sub [.field "price", .literal (.ofInt (-5))]) :=
    .between .sub _ (-5) rfl rfl (.field "price" (by decide)) (by decide)
  have word (name : String) (text : List Char) (chars : name.toList = text)
      (isWord : text.head?.any startsWord = true ∧ text.tail.all continuesWord = true) :
      Spelling (.word name) text := by
    obtain ⟨starts, continues⟩ := isWord
    cases text with
    | nil => cases starts
    | cons first others =>
      exact chars ▸ word_spelled name first others chars starts continues
  have quoted : Spelling (.text "it's, (")
      ['\'', 'i', 't', '\'', '\'', 's', ',', ' ', '(', '\''] := .text "it's, ("
  have five : Spelling (.number (.ofInt (-5))) ['-', '5'] := .integer (-5) (by decide)
  have blank {tokens : List Token} {text : List Char} (rendering : Rendering tokens text) :
      Rendering tokens (' ' :: text) := .blank ' ' (by decide) rendering
  have named (name : String) (char : Char) (chars : name.toList = [char])
      (isWord : startsWord char = true) :
      Rendering [.word "as", .word name] ['a', 's', ' ', char] :=
    .token (word "as" ['a', 's'] (by decide) (by decide)) rfl <| blank <|
      .token (word name [char] chars (by simp [isWord])) rfl .none
  have first : Rendering (Clause.tokens
      ⟨.call .concat [.field "name", .literal (.string "it's, (")], "a"⟩) _ :=
    .token (word "concat" ['c', 'o', 'n', 'c', 'a', 't'] (by decide) (by decide)) (by rfl) <|
      .token .opening trivial <|
      .token (word "name" ['n', 'a', 'm', 'e'] (by decide) (by decide)) (by rfl) <|
      .token .comma trivial <| .token quoted (by simp [Token.EndsBefore]) <|
      .token .closing trivial <| named "a" 'a' (by decide) (by decide)
  have second : Rendering (Clause.tokens
      ⟨.call .sub [.field "price", .literal (.ofInt (-5))], "b"⟩) _ :=
    blank <| .token (word "price" ['p', 'r', 'i', 'c', 'e'] (by decide) (by decide)) (by rfl) <|
      blank <| .token (word "sub" ['s', 'u', 'b'] (by decide) (by decide)) (by rfl) <|
      blank <| .token five (by rfl) <| blank <| named "b" 'b' (by decide) (by decide)
  have read := (listOfText_rendering _ (List.cons_ne_nil _ _) (List.forall_mem_cons.mpr
    ⟨⟨concat, by decide⟩, List.forall_mem_cons.mpr ⟨⟨difference, by decide⟩, by simp⟩⟩)).2 _
    (.cons first (.cons second .nil))
  refine Eq.trans (congrArg Clause.listOfText ?_) read
  decide +kernel

end DocumentQuery.Compute
