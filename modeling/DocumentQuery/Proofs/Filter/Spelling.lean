import DocumentQuery.Proofs.Except
import DocumentQuery.Filter.Token

/-!
# Spelling filters

Tokens written with blanks between them are read back as the same tokens. A quoted text doubles
the quotes in it, and an integer is written in decimal digits. A blank belongs to no word and to
no numeral, so each token ends where its spelling does.
-/

namespace DocumentQuery.Filter

/-- A quoted text without its outer quotes: each quote in it stands twice. -/
def doubled (text : List Char) : List Char :=
  text.flatMap fun char => if char = '\'' then ['\'', '\''] else [char]

/-- The ways in which tokens are written. A literal is a text or a 64-bit integer. -/
inductive Spelling : Token → List Char → Prop where
  | opening : Spelling .opening ['(']
  | closing : Spelling .closing [')']
  | comma : Spelling .comma [',']
  | word (first : Char) (others : List Char) (starts : startsWord first = true)
      (continues : ∀ char ∈ others, continuesWord char = true) :
      Spelling (.word (String.ofList (first :: others))) (first :: others)
  | text (content : String) :
      Spelling (.literal (.string content)) ('\'' :: (doubled content.toList ++ ['\'']))
  | integer (value : Int) (least : -9223372036854775808 ≤ value)
      (most : value ≤ 9223372036854775807) :
      Spelling (.literal (.ofInt value)) value.repr.toList

/-- Texts that write tokens in order. Blanks stand anywhere between them, and at least one
between two tokens. -/
inductive Rendering : List Token → List Char → Prop where
  | none : Rendering [] []
  | blank {tokens : List Token} {text : List Char} (char : Char)
      (isBlank : Text.isBlank char = true) (others : Rendering tokens text) :
      Rendering tokens (char :: text)
  | token {token : Token} {tokens : List Token} {spelling text : List Char}
      (spelled : Spelling token spelling) (others : Rendering tokens text)
      (separated : text.head?.all Text.isBlank = true) :
      Rendering (token :: tokens) (spelling ++ text)

/-- The code points of the blanks, all of them. -/
def blankCodes : List Nat :=
  [9, 10, 11, 12, 13, 0x20, 0x85, 0xa0, 0x1680, 0x2000, 0x2001, 0x2002, 0x2003, 0x2004, 0x2005,
    0x2006, 0x2007, 0x2008, 0x2009, 0x200a, 0x2028, 0x2029, 0x202f, 0x205f, 0x3000]

/-- A blank is one of finitely many characters. -/
theorem blank_listed (char : Char) (blank : Text.isBlank char = true) :
    char.toNat ∈ blankCodes := by
  simp only [Text.isBlank, Bool.or_eq_true, Bool.and_eq_true, decide_eq_true_eq,
    beq_iff_eq] at blank
  simp only [blankCodes, List.mem_cons, List.not_mem_nil, or_false]
  omega

/-- A blank continues neither words nor numerals and is no quote. -/
theorem blank_separates (char : Char) (blank : Text.isBlank char = true) :
    continuesWord char = false ∧ continuesNumeral char = false ∧ char ≠ '\'' := by
  have all : ∀ code ∈ blankCodes, continuesWord (Char.ofNat code) = false ∧
      continuesNumeral (Char.ofNat code) = false ∧ Char.ofNat code ≠ '\'' := by
    decide +kernel
  simpa using all char.toNat (blank_listed char blank)

/-- A digit is one of ten characters. -/
theorem digit_listed (char : Char) (digit : char.isDigit = true) :
    char.toNat ∈ List.range' 48 10 := by
  simp only [Char.isDigit, Bool.and_eq_true, decide_eq_true_eq, ge_iff_le,
    UInt32.le_iff_toNat_le] at digit
  exact List.mem_range'_1.mpr ⟨digit.1, Nat.lt_succ_of_le digit.2⟩

/-- The first character of a numeral is no blank and begins no other token. -/
theorem startsNumeral_apart (char : Char) (starts : char.isDigit = true ∨ char = '-') :
    Text.isBlank char = false ∧ char ≠ '(' ∧ char ≠ ')' ∧ char ≠ ',' ∧ char ≠ '\'' := by
  have all : ∀ code ∈ 45 :: List.range' 48 10, Text.isBlank (Char.ofNat code) = false ∧
      Char.ofNat code ≠ '(' ∧ Char.ofNat code ≠ ')' ∧ Char.ofNat code ≠ ',' ∧
      Char.ofNat code ≠ '\'' := by decide +kernel
  have listed : char.toNat ∈ 45 :: List.range' 48 10 := by
    rcases starts with digit | rfl
    · exact List.mem_cons_of_mem 45 (digit_listed char digit)
    · exact List.mem_cons_self
  simpa using all char.toNat listed

/-- The first character of a word is no blank and begins no other token. Blanks, digits and marks
have few code points, and of each of them it can be checked that it starts no word. -/
theorem startsWord_apart (char : Char) (starts : startsWord char = true) :
    Text.isBlank char = false ∧ char.isDigit = false ∧
      char ≠ '(' ∧ char ≠ ')' ∧ char ≠ ',' ∧ char ≠ '\'' ∧ char ≠ '-' := by
  have all : ∀ code ∈ blankCodes ++ List.range' 48 10 ++ [39, 40, 41, 44, 45],
      startsWord (Char.ofNat code) = false := by decide +kernel
  have unlisted : char.toNat ∉ blankCodes ++ List.range' 48 10 ++ [39, 40, 41, 44, 45] := by
    intro listed
    have never := all char.toNat listed
    simp [starts] at never
  simp only [List.mem_append, List.mem_cons, List.not_mem_nil, or_false, not_or] at unlisted
  obtain ⟨⟨noBlank, noDigit⟩, noMark⟩ := unlisted
  refine ⟨?_, ?_, ?_⟩
  · cases blank : Text.isBlank char with
    | false => rfl
    | true => exact absurd (blank_listed char blank) noBlank
  · cases digit : char.isDigit with
    | false => rfl
    | true => exact absurd (digit_listed char digit) noDigit
  · refine ⟨?_, ?_, ?_, ?_, ?_⟩ <;> (rintro rfl; simp at noMark)

/-- A doubled text is read back up to the quote behind it. -/
theorem readQuoted_doubled (content rest : List Char) (ends : rest.head? ≠ some '\'') :
    readQuoted (doubled content ++ '\'' :: rest) =
      some (content, (doubled content).length + 1) := by
  induction content with
  | nil =>
    cases rest with
    | nil => rfl
    | cons char rest =>
      have different : char ≠ '\'' := by simpa using ends
      simp [doubled, readQuoted, different]
  | cons char content inductionHypothesis =>
    by_cases quote : char = '\''
    · subst quote
      have first : doubled ('\'' :: content) = '\'' :: '\'' :: doubled content := by
        simp [doubled]
      simp [first, readQuoted, inductionHypothesis]
    · have first : doubled (char :: content) = char :: doubled content := by
        simp [doubled, quote]
      simp [first, readQuoted, quote, inductionHypothesis]

/-- The decimal digits of a natural number are read as it. -/
theorem natural_toDigits (number : Nat) :
    Text.natural? (Nat.toDigits 10 number) = some number := by
  have digits : (Nat.toDigits 10 number).all Char.isDigit = true :=
    List.all_eq_true.mpr fun char present =>
      Nat.isDigit_of_mem_toDigits (by decide) (by decide) present
  have value : Text.digitsValue (Nat.toDigits 10 number) = number :=
    Nat.ofDigitChars_ten_toDigits
  simp [Text.natural?, digits, value]

/-- The first digit of a number and those behind it are digits. -/
theorem toDigits_cons (number : Nat) :
    ∃ first others, Nat.toDigits 10 number = first :: others ∧ first.isDigit = true ∧
      ∀ char ∈ others, char.isDigit = true := by
  cases digits : Nat.toDigits 10 number with
  | nil => exact absurd digits Nat.toDigits_ne_nil
  | cons first others =>
    have all (char : Char) (present : char ∈ first :: others) : char.isDigit = true := by
      rw [← digits] at present
      exact Nat.isDigit_of_mem_toDigits (by decide) (by decide) present
    exact ⟨first, others, rfl, all first List.mem_cons_self,
      fun char present => all char (List.mem_cons_of_mem first present)⟩

/-- The decimal digits of an integer, behind a minus sign if it is negative. -/
theorem repr_toList (value : Int) : value.repr.toList =
    if value < 0 then '-' :: Nat.toDigits 10 value.natAbs else Nat.toDigits 10 value.natAbs := by
  cases value with
  | ofNat number => simp [Int.repr]
  | negSucc number => simp [Int.repr, Int.negSucc_lt_zero]

/-- An integer is read from its decimal digits. A negative one has a sign in front of the digits of
its magnitude, and any other begins with a digit and so with no sign. -/
theorem signed_repr (value : Int) : Text.signed? value.repr.toList = some value := by
  rw [repr_toList]
  split
  case isTrue negative =>
    have same : -(value.natAbs : Int) = value := by omega
    rw [Text.signed?, natural_toDigits]
    exact congrArg some same
  case isFalse positive =>
    have read := natural_toDigits value.natAbs
    obtain ⟨first, others, digits, digit, _⟩ := toDigits_cons value.natAbs
    have noMinus : first ≠ '-' := by rintro rfl; simp at digit
    have noPlus : first ≠ '+' := by rintro rfl; simp at digit
    rw [digits] at read ⊢
    have same : (value.natAbs : Int) = value := by omega
    simp [Text.signed?, Text.unsigned?, noMinus, noPlus, read, same]

/-- An integer is written as a digit or a minus sign and the digits behind it. -/
theorem repr_cons (value : Int) : ∃ first others, value.repr.toList = first :: others ∧
    (first.isDigit = true ∨ first = '-') ∧ ∀ char ∈ others, char.isDigit = true := by
  obtain ⟨first, others, digits, digit, all⟩ := toDigits_cons value.natAbs
  rw [repr_toList, digits]
  split
  · exact ⟨'-', first :: others, rfl, .inr rfl, List.forall_mem_cons.mpr ⟨digit, all⟩⟩
  · exact ⟨first, others, rfl, .inl digit, all⟩

/-- A 64-bit integer is read from its decimal digits. -/
theorem numeral_repr (value : Int) (least : -9223372036854775808 ≤ value)
    (most : value ≤ 9223372036854775807) :
    numeral? value.repr.toList = some (.ofInt value) := by
  have range : -Int.pow 2 63 ≤ value ∧ value < Int.pow 2 63 :=
    ⟨least, Int.lt_of_le_of_lt most (by decide)⟩
  have kept : Text.integer64? value.repr.toList = some value := by
    rw [Text.integer64?, signed_repr, Option.filter_some_eq_some]
    exact decide_eq_true range
  simp [numeral?, kept]

/-- The characters that satisfy a test are taken up to the end of a spelling. -/
theorem takeWhile_spelling (test : Char → Bool) (others text : List Char)
    (continues : ∀ char ∈ others, test char = true) (ends : text.head?.any test = false) :
    (others ++ text).takeWhile test = others := by
  rw [List.takeWhile_append_of_pos continues]
  cases text with
  | nil => simp
  | cons char text =>
    have stop : test char = false := by simpa using ends
    simp [stop]

/-- A spelled token is read from its first character and those behind it, if a blank or nothing
follows. A blank goes on with no word and no numeral, and it does not double a quote. -/
theorem readToken_spelling (token : Token) (spelling text : List Char)
    (spelled : Spelling token spelling) (separated : text.head?.all Text.isBlank = true) :
    ∃ first others, spelling = first :: others ∧ Text.isBlank first = false ∧
      readToken first (others ++ text) = .ok (token, others.length) := by
  have stops : text.head?.any continuesWord = false ∧
      text.head?.any continuesNumeral = false ∧ text.head? ≠ some '\'' := by
    cases text with
    | nil => simp
    | cons char text => simpa using blank_separates char (by simpa using separated)
  obtain ⟨wordStops, numeralStops, noQuote⟩ := stops
  cases spelled with
  | opening | closing | comma => exact ⟨_, [], rfl, by decide, rfl⟩
  | word first others starts continues =>
    obtain ⟨noBlank, noDigit, noOpening, noClosing, noComma, noQuote, noMinus⟩ :=
      startsWord_apart first starts
    refine ⟨first, others, rfl, noBlank, ?_⟩
    simp [readToken, noDigit, noOpening, noClosing, noComma, noQuote, noMinus, starts,
      takeWhile_spelling continuesWord others text continues wordStops]
  | text content =>
    refine ⟨'\'', doubled content.toList ++ ['\''], rfl, by decide, ?_⟩
    have read := readQuoted_doubled content.toList text noQuote
    simp [readToken, read]
  | integer value least most =>
    have read := numeral_repr value least most
    obtain ⟨first, others, digits, starts, all⟩ := repr_cons value
    rw [digits] at read
    obtain ⟨noBlank, noOpening, noClosing, noComma, noMark⟩ := startsNumeral_apart first starts
    have continues : ∀ char ∈ others, continuesNumeral char = true :=
      fun char present => by simp [continuesNumeral, all char present]
    refine ⟨first, others, digits, noBlank, ?_⟩
    simp [readToken, noOpening, noClosing, noComma, noMark, starts, read,
      takeWhile_spelling continuesNumeral others text continues numeralStops]

/-- The characters of a token that is read already are passed over. -/
theorem tokensFrom_passed (others text : List Char) (position : Nat) :
    ∃ next, tokensFrom position others.length (others ++ text) = tokensFrom next 0 text := by
  induction others generalizing position with
  | nil => exact ⟨position, rfl⟩
  | cons char others inductionHypothesis =>
    obtain ⟨next, passed⟩ := inductionHypothesis (position + char.utf8Size)
    exact ⟨next, by simpa [tokensFrom] using passed⟩

/-- What writes tokens is read back as them. The places of the tokens depend on where the text
begins, so the statement is about every position, and only the tokens are told. -/
theorem tokensFrom_rendering (tokens : List Token) (text : List Char)
    (rendering : Rendering tokens text) (position : Nat) :
    ∃ placed, tokensFrom position 0 text = .ok placed ∧ placed.map Placed.token = tokens := by
  induction rendering generalizing position with
  | none => exact ⟨[], rfl, rfl⟩
  | blank char isBlank others inductionHypothesis =>
    obtain ⟨placed, read, same⟩ := inductionHypothesis (position + char.utf8Size)
    exact ⟨placed, by simpa [tokensFrom, isBlank] using read, same⟩
  | @token token tokens spelling text spelled others separated inductionHypothesis =>
    obtain ⟨first, later, rfl, noBlank, readFirst⟩ :=
      readToken_spelling token spelling text spelled separated
    obtain ⟨next, passed⟩ := tokensFrom_passed later text (position + first.utf8Size)
    obtain ⟨placed, read, same⟩ := inductionHypothesis next
    refine ⟨⟨token, position⟩ :: placed, ?_, by simp [same]⟩
    simp [tokensFrom, noBlank, readFirst, passed, read]

/-- A text is the spelling of the word that it is, if it may begin and go on as one. -/
theorem Spelling.ofWord (text : String) (starts : text.toList.head?.any startsWord = true)
    (continues : text.toList.tail.all continuesWord = true) :
    Spelling (.word text) text.toList := by
  cases letters : text.toList with
  | nil => simp [letters] at starts
  | cons first others =>
    rw [letters] at starts continues
    have same : text = String.ofList (first :: others) := by rw [← letters, String.ofList_toList]
    rw [same]
    exact .word first others (by simpa using starts) (List.all_eq_true.mp continues)

/-- Spelled tokens with a blank behind each are a rendering of them. So every sequence of tokens
that can be spelled at all has one. -/
theorem rendering_spaced (written : List (Token × List Char))
    (spelled : ∀ part ∈ written, Spelling part.1 part.2) :
    Rendering (written.map Prod.fst) (written.flatMap fun part => part.2 ++ [' ']) := by
  induction written with
  | nil => exact .none
  | cons part written inductionHypothesis =>
    obtain ⟨first, others⟩ := List.forall_mem_cons.mp spelled
    have behind : Rendering (written.map Prod.fst)
        (' ' :: written.flatMap fun part => part.2 ++ [' ']) :=
      .blank ' ' rfl (inductionHypothesis others)
    simpa using Rendering.token first behind rfl

end DocumentQuery.Filter
