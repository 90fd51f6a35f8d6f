import DocumentQuery.Proofs.Query.Reading
import DocumentQuery.Proofs.Text.Folding
import DocumentQuery.Proofs.Text.Trimming
import Mathlib.Data.List.Forall2

/-!
# Reading groupings

A grouping is written `groupby((keys),aggregate(source with operation as name))`, with keywords in
any letter case and blanks around the keys, around the aggregate and between its words. Every text
that writes a grouping is read as that grouping. The converse fails: the reader searches for the
two parts and passes over what stands around them, so that texts beyond the grammar are read as
well. They are those in which something was passed over.
-/

namespace DocumentQuery.Query

open Text (AllBlank WritesKeyword)

/-- Whether a text is of word characters, with one at least. -/
structure IsWordText (text : List Char) : Prop where
  some : text ≠ []
  plain : ∀ char ∈ text, Text.isWord char = true

/-- Whether a text is of blanks, with one at least. -/
structure IsGap (text : List Char) : Prop where
  some : text ≠ []
  blank : AllBlank text

/-- Whether no word goes on at the start of a text. -/
def EndsWord (rest : List Char) : Prop := rest.head?.any Text.isWord = false

/-- The texts `source with operation as name`. The operation is taken as it is written. -/
inductive AggregateText (source written name : String) : List Char → Prop where
  | spelled {behindSource withWord beforeOperation behindOperation asWord beforeName : List Char}
      (operation : Aggregation) (isSource : IsWordText source.toList)
      (gapBehindSource : IsGap behindSource) (isWith : WritesKeyword "with" withWord)
      (gapBeforeOperation : IsGap beforeOperation)
      (isOperation : WritesKeyword operation.name written.toList)
      (gapBehindOperation : IsGap behindOperation) (isAs : WritesKeyword "as" asWord)
      (gapBeforeName : IsGap beforeName) (isName : IsWordText name.toList) :
      AggregateText source written name
        (source.toList ++ (behindSource ++ (withWord ++ (beforeOperation ++ (written.toList ++
          (behindOperation ++ (asWord ++ (beforeName ++ name.toList))))))))

/-- The texts that begin with a grouping. The texts between its parentheses and the text behind it
are taken as they are. -/
inductive GroupingAt (keys inside back : List Char) : List Char → Prop where
  | placed {opening middle closing : List Char} (opens : WritesKeyword "groupby((" opening)
      (someKeys : keys ≠ []) (keysOpen : ')' ∉ keys)
      (separates : WritesKeyword "),aggregate(" middle)
      (someInside : inside ≠ []) (insideOpen : ')' ∉ inside)
      (closes : WritesKeyword "))" closing) :
      GroupingAt keys inside back
        (opening ++ (keys ++ (middle ++ (inside ++ (closing ++ back)))))

/-- The texts of one key, with or without blanks around it. The key itself has none at its ends. -/
inductive KeyText (key : String) : List Char → Prop where
  | padded {before after : List Char} (isEntry : IsEntry key) (blankBefore : AllBlank before)
      (blankAfter : AllBlank after) : KeyText key (before ++ (key.toList ++ after))

/-- The texts that list keys with commas between them, at least one. -/
inductive KeysText (keys : List String) : List Char → Prop where
  | listed {pieces : List (List Char)} (some : pieces ≠ [])
      (each : List.Forall₂ KeyText keys pieces) : KeysText keys ([','].intercalate pieces)

/-- Where the parts of a grouping stand in a text: the text in front of it, its keys, what stands
before, in and after its aggregate, and the text behind it. -/
structure Cut where
  front : List Char
  keys : List Char
  before : List Char
  aggregate : List Char
  after : List Char
  back : List Char

/-- The text between the parentheses of an aggregate. -/
def Cut.inside (cut : Cut) : List Char := cut.before ++ (cut.aggregate ++ cut.after)

/-- Whether nothing but blanks was passed over, and no key is missing. -/
structure Cut.IsWhole (cut : Cut) : Prop where
  front : cut.front = []
  back : cut.back = []
  before : AllBlank cut.before
  after : AllBlank cut.after
  keys : ∀ piece ∈ Text.split ',' cut.keys, Text.trim piece ≠ []

/-- The grammar of groupings, with the grouping that a text of it writes. -/
inductive GroupingText (grouping : Grouping) (text : List Char) : Prop where
  | written {keys before aggregate after : List Char} {source written name : String}
      {operation : Aggregation} (placed : GroupingAt keys (before ++ (aggregate ++ after)) [] text)
      (areKeys : KeysText grouping.keys keys) (blankBefore : AllBlank before)
      (blankAfter : AllBlank after) (isAggregate : AggregateText source written name aggregate)
      (isOperation : Text.lowerAscii written.toList = operation.name.toList)
      (aggregates : grouping.aggregates = [⟨source, operation, name⟩])

/-- Whether nothing of a kind begins within the front of a text. -/
def NoneWithin (Begins : List Char → Prop) (front rest : List Char) : Prop :=
  ∀ later, later <:+ front → later ≠ [] → ¬ Begins (later ++ rest)

/-- Whether a text begins with a grouping. -/
def BeginsGrouping (text : List Char) : Prop := ∃ keys inside back, GroupingAt keys inside back text

/-- Whether a text begins with an aggregate, behind which no word goes on. -/
def BeginsAggregate (text : List Char) : Prop :=
  ∃ source written name aggregate rest,
    AggregateText source written name aggregate ∧ EndsWord rest ∧ text = aggregate ++ rest

/-- What is read from a text with its parts at certain places: the first grouping in it, with the
first aggregate in that. -/
structure Reading (text : List Char) (grouping : Grouping) (cut : Cut) : Prop where
  placed : ∃ rest, text = cut.front ++ rest ∧ GroupingAt cut.keys cut.inside cut.back rest ∧
    NoneWithin BeginsGrouping cut.front rest
  keys : readList (String.ofList cut.keys) = grouping.keys
  ends : EndsWord cut.after
  first : NoneWithin BeginsAggregate cut.before (cut.aggregate ++ cut.after)
  aggregate : ∃ source written name operation, AggregateText source written name cut.aggregate ∧
    Text.lowerAscii written.toList = operation.name.toList ∧
    grouping.aggregates = [⟨source, operation, name⟩]

/-! ### The readers and their grammars -/

/-- A keyword is dropped from a text that begins with it. -/
theorem dropKeyword_iff (keyword : String) (text rest : List Char) :
    dropKeyword? keyword text = some rest ↔
      ∃ word, WritesKeyword keyword word ∧ text = word ++ rest := by
  simp only [dropKeyword?, Option.ite_none_right_eq_some, beq_iff_eq, Option.some.injEq]
  constructor
  · rintro ⟨writes, rfl⟩
    exact ⟨text.take keyword.length, writes, (List.take_append_drop _ text).symm⟩
  · rintro ⟨word, writes, rfl⟩
    rw [← writes.length_eq, List.take_left, List.drop_left]
    exact ⟨writes, rfl⟩

/-- The text before the first closing parenthesis is read if it is not empty. What is read has no
such parenthesis, and one stands behind it. -/
theorem readEnclosed_iff (text inside rest : List Char) :
    readEnclosed? text = some (inside, rest) ↔
      text = inside ++ rest ∧ inside ≠ [] ∧ ')' ∉ inside ∧ rest.head? = some ')' := by
  have taken := Text.taken_iff (· != ')') text inside rest
  have isOpen : (∀ char ∈ inside, (char != ')') = true) ↔ ')' ∉ inside := by
    simp only [bne_iff_ne]
    exact List.forall_mem_ne'
  have closes : rest ≠ [] ∧ rest.head?.any (· != ')') = false ↔ rest.head? = some ')' := by
    cases rest <;> simp
  rw [isOpen] at taken
  simp only [readEnclosed?, Option.ite_none_left_eq_some, Bool.or_eq_true, List.isEmpty_iff,
    not_or, Option.some.injEq, Prod.mk.injEq]
  constructor
  · rintro ⟨⟨some, someRest⟩, rfl, rfl⟩
    obtain ⟨whole, absent, ends⟩ := taken.mp ⟨rfl, rfl⟩
    exact ⟨whole, some, absent, closes.mp ⟨someRest, ends⟩⟩
  · rintro ⟨whole, some, absent, head⟩
    obtain ⟨someRest, ends⟩ := closes.mpr head
    obtain ⟨rfl, rfl⟩ := taken.mpr ⟨whole, absent, ends⟩
    exact ⟨⟨some, someRest⟩, rfl, rfl⟩

/-- A text that writes a keyword with a closing parenthesis in front begins with one. -/
theorem head_of_writes (keyword : String) (word rest : List Char)
    (writes : WritesKeyword keyword word) (closes : keyword.toList.head? = some ')') :
    (word ++ rest).head? = some ')' := by
  rw [← writes] at closes
  cases word with
  | nil => simp at closes
  | cons char word =>
    have folded : Text.fold char = ')' := by simpa using closes
    rw [Text.fold_mark char ')' (by decide) (by decide)] at folded
    simp [folded]

/-- A grouping is read at the start of the texts that begin with one. Each step of the reading has
its own law, and the parts that these give are those of the grouping. -/
theorem readGroupingHere_iff (text keys inside : List Char) :
    readGroupingHere? text = some (keys, inside) ↔ ∃ back, GroupingAt keys inside back text := by
  simp only [readGroupingHere?, bind, Option.bind_eq_some_iff, Option.pure_def, Prod.exists,
    dropKeyword_iff, readEnclosed_iff, Option.some.injEq, Prod.mk.injEq]
  constructor
  · rintro ⟨_, ⟨opening, opens, rfl⟩, keys, _, ⟨rfl, someKeys, keysOpen, _⟩, _,
      ⟨middle, separates, rfl⟩, inside, _, ⟨rfl, someInside, insideOpen, _⟩, back,
      ⟨closing, closes, rfl⟩, rfl, rfl⟩
    exact ⟨back, .placed opens someKeys keysOpen separates someInside insideOpen closes⟩
  · rintro ⟨back, placed⟩
    cases placed with
    | placed opens someKeys keysOpen separates someInside insideOpen closes =>
      exact ⟨_, ⟨_, opens, rfl⟩, keys, _,
        ⟨rfl, someKeys, keysOpen, head_of_writes _ _ _ separates (by decide)⟩, _,
        ⟨_, separates, rfl⟩, inside, _,
        ⟨rfl, someInside, insideOpen, head_of_writes _ _ _ closes (by decide)⟩, back,
        ⟨_, closes, rfl⟩, rfl, rfl⟩

/-- No word character is a blank. -/
theorem blank_of_word (char : Char) (word : Text.isWord char = true) :
    Text.isBlank char = false := by
  have all : ∀ code ∈ Filter.blankCodes, Text.isWord (Char.ofNat code) = false := by
    decide +kernel
  cases blank : Text.isBlank char with
  | false => rfl
  | true =>
    have apart := all char.toNat (Filter.blank_listed char blank)
    rw [Char.ofNat_toNat, word] at apart
    exact absurd apart (by decide)

/-- The longest word at the start of a text is read, so that what stands behind it continues no
word. -/
theorem readWord_iff (text : List Char) (word : String) (rest : List Char) :
    readWord? text = some (word, rest) ↔
      text = word.toList ++ rest ∧ IsWordText word.toList ∧ EndsWord rest := by
  have taken := Text.taken_iff Text.isWord text word.toList rest
  simp only [readWord?, Option.ite_none_left_eq_some, List.isEmpty_iff, Option.some.injEq,
    Prod.mk.injEq]
  constructor
  · rintro ⟨some, rfl, rfl⟩
    simp only [String.toList_ofList, true_and] at taken ⊢
    obtain ⟨whole, plain, ends⟩ := taken.mp trivial
    exact ⟨whole, ⟨some, plain⟩, ends⟩
  · rintro ⟨whole, isWord, ends⟩
    obtain ⟨front, rfl⟩ := taken.mpr ⟨whole, isWord.plain, ends⟩
    refine ⟨?_, ?_, rfl⟩
    · rw [front]
      exact isWord.some
    · rw [front, String.ofList_toList]

/-- The blanks at the start of a text are dropped, if there are any; the rest begins with none. -/
theorem dropBlanks_iff (text rest : List Char) :
    dropBlanks? text = some rest ↔
      ∃ gap, IsGap gap ∧ text = gap ++ rest ∧ rest.head?.any Text.isBlank = false := by
  have trimmed : Text.trimStart text = text.drop (text.takeWhile Text.isBlank).length :=
    (Text.drop_taken Text.isBlank text).symm
  have dropped : dropBlanks? text = some rest ↔
      text.takeWhile Text.isBlank ≠ [] ∧ Text.trimStart text = rest := by
    cases text with
    | nil => simp [dropBlanks?]
    | cons char text =>
      cases blank : Text.isBlank char <;> simp [dropBlanks?, Text.trimStart, blank]
  rw [dropped, trimmed]
  constructor
  · rintro ⟨some, rfl⟩
    obtain ⟨whole, blank, ends⟩ := (Text.taken_iff Text.isBlank text _ _).mp ⟨rfl, rfl⟩
    exact ⟨_, ⟨some, blank⟩, whole, ends⟩
  · rintro ⟨gap, isGap, whole, ends⟩
    obtain ⟨rfl, rfl⟩ := (Text.taken_iff Text.isBlank text gap rest).mpr ⟨whole, isGap.blank, ends⟩
    exact ⟨isGap.some, rfl⟩

/-- What is read as an operation writes the name of one, in whatever case its letters are. -/
theorem readAggregation_sound (text : List Char) (written : String) (rest : List Char)
    (read : readAggregation? text = some (written, rest)) :
    ∃ operation : Aggregation, WritesKeyword operation.name written.toList ∧
      text = written.toList ++ rest := by
  obtain ⟨name, listed, found⟩ := List.exists_of_findSome?_eq_some read
  obtain ⟨_, dropped, same⟩ := Option.map_eq_some_iff.mp found
  obtain ⟨rfl, rfl⟩ := Prod.mk.inj same
  obtain ⟨word, writes, rfl⟩ := (dropKeyword_iff name text _).mp dropped
  have named : ∀ name ∈ ["sum", "avg", "min", "max", "count"],
      ∃ operation : Aggregation, operation.name = name := by
    simp only [List.forall_mem_cons, List.not_mem_nil, false_implies, implies_true, and_true]
    exact ⟨⟨.sum, rfl⟩, ⟨.average, rfl⟩, ⟨.minimum, rfl⟩, ⟨.maximum, rfl⟩, ⟨.count, rfl⟩⟩
  obtain ⟨operation, rfl⟩ := named name listed
  rw [← writes.length_eq, List.take_left, String.toList_ofList]
  exact ⟨operation, writes, rfl⟩

/-- No operation's name begins with that of another. -/
theorem operation_continued (operation other : Aggregation)
    (begins : operation.name.toList <+: other.name.toList) : operation = other := by
  cases operation <;> cases other <;> first | rfl | exact absurd begins (by decide +kernel)

/-- An operation is read up to the case of its letters. No two operations have the same name in any
case, for both would be written at the start of the text, and one would begin with the other. -/
theorem readAggregation_iff (text : List Char) (written : String) (rest : List Char) :
    readAggregation? text = some (written, rest) ↔
      ∃ operation : Aggregation, WritesKeyword operation.name written.toList ∧
        text = written.toList ++ rest := by
  refine ⟨readAggregation_sound text written rest, ?_⟩
  rintro ⟨operation, writes, rfl⟩
  have some : (readAggregation? (written.toList ++ rest)).isSome = true := by
    have dropped := (dropKeyword_iff operation.name _ rest).mpr ⟨_, writes, rfl⟩
    refine List.findSome?_isSome_iff.mpr ⟨operation.name, by cases operation <;> decide, ?_⟩
    rw [dropped]
    rfl
  obtain ⟨⟨found, behind⟩, read⟩ := Option.isSome_iff_exists.mp some
  obtain ⟨other, writesOther, same⟩ := readAggregation_sound _ found behind read
  have fronts : ∀ (name : Aggregation) (word behind : List Char), WritesKeyword name.name word →
      written.toList ++ rest = word ++ behind →
      name.name.toList <+: (written.toList ++ rest).map Text.fold := by
    rintro name word behind writes whole
    rw [whole, List.map_append]
    exact ⟨_, congrArg (· ++ behind.map Text.fold) writes.symm⟩
  have one : other = operation := by
    rcases List.prefix_or_prefix_of_prefix (fronts other _ _ writesOther same)
      (fronts operation _ _ writes rfl) with begins | begins
    · exact operation_continued other operation begins
    · exact (operation_continued operation other begins).symm
  have lengths : written.toList.length = found.toList.length := by
    rw [writes.length_eq, writesOther.length_eq, one]
  obtain ⟨equal, rfl⟩ := List.append_inj same lengths
  rw [read, String.toList_inj.mp equal]

/-- A test that fails on the characters of a text fails at its start. -/
theorem head_fails (test : Char → Bool) (text rest : List Char) (some : text ≠ [])
    (fails : ∀ char ∈ text, test char = false) : (text ++ rest).head?.any test = false := by
  cases text with
  | nil => exact absurd rfl some
  | cons char text => exact fails char List.mem_cons_self

/-- A text of word characters begins with no blank. -/
theorem IsWordText.noBlank {text : List Char} (isWord : IsWordText text) (rest : List Char) :
    (text ++ rest).head?.any Text.isBlank = false :=
  head_fails _ text rest isWord.some fun char inside =>
    blank_of_word char (isWord.plain char inside)

/-- A text that writes a keyword of small letters begins with no blank. -/
theorem noBlank_of_writes {keyword : String} {word : List Char}
    (writes : WritesKeyword keyword word) (some : keyword ≠ "")
    (small : keyword.toList.all Char.isLower = true) (rest : List Char) :
    (word ++ rest).head?.any Text.isBlank = false := by
  refine head_fails _ word rest ?_ (writes.noBlank small)
  rintro rfl
  exact some (String.toList_eq_nil_iff.mp writes.symm)

/-- The names of operations are written in small letters. -/
theorem operation_small (operation : Aggregation) :
    operation.name ≠ "" ∧ operation.name.toList.all Char.isLower = true := by
  cases operation <;> decide +kernel

/-- A word ends where blanks follow. -/
theorem endsWord_of_blank (blanks rest : List Char) (some : blanks ≠ []) (blank : AllBlank blanks) :
    EndsWord (blanks ++ rest) := by
  refine head_fails _ blanks rest some fun char inside => ?_
  cases word : Text.isWord char with
  | false => rfl
  | true => exact absurd ((blank_of_word char word).symm.trans (blank char inside)) (by decide)

/-- No word goes on in a text of blanks. -/
theorem endsWord_of_allBlank (blanks : List Char) (blank : AllBlank blanks) : EndsWord blanks := by
  cases blanks with
  | nil => rfl
  | cons char blanks =>
    simpa using endsWord_of_blank _ [] (List.cons_ne_nil char blanks) blank

/-- An aggregate is read at the start of the texts that begin with one. The words and gaps are taken
as long as they go, which loses no reading since a keyword begins with no blank and a gap with no
letter. -/
theorem readAggregateHere_iff (text : List Char) (source written name : String) :
    readAggregateHere? text = some (source, written, name) ↔
      ∃ aggregate rest, AggregateText source written name aggregate ∧ EndsWord rest ∧
        text = aggregate ++ rest := by
  simp only [readAggregateHere?, bind, Option.bind_eq_some_iff, Option.pure_def, Prod.exists,
    dropKeyword_iff, readWord_iff, dropBlanks_iff, readAggregation_iff, Option.some.injEq,
    Prod.mk.injEq]
  constructor
  · rintro ⟨source, _, ⟨rfl, isSource, _⟩, _, ⟨_, behindSource, rfl, _⟩, _, ⟨_, isWith, rfl⟩,
      _, ⟨_, beforeOperation, rfl, _⟩, written, _, ⟨operation, isOperation, rfl⟩,
      _, ⟨_, behindOperation, rfl, _⟩, _, ⟨_, isAs, rfl⟩, _, ⟨_, beforeName, rfl, _⟩,
      name, rest, ⟨rfl, isName, ends⟩, rfl, rfl, rfl⟩
    refine ⟨_, rest, .spelled operation isSource behindSource isWith beforeOperation isOperation
      behindOperation isAs beforeName isName, ends, ?_⟩
    simp only [List.append_assoc]
  · rintro ⟨aggregate, rest, spelled, ends, rfl⟩
    obtain ⟨operation, isSource, behindSource, isWith, beforeOperation, isOperation,
      behindOperation, isAs, beforeName, isName⟩ := spelled
    obtain ⟨someLetters, small⟩ := operation_small operation
    simp only [List.append_assoc]
    exact ⟨source, _, ⟨rfl, isSource, endsWord_of_blank _ _ behindSource.some behindSource.blank⟩,
      _, ⟨_, behindSource, rfl, noBlank_of_writes isWith (by decide) (by decide) _⟩,
      _, ⟨_, isWith, rfl⟩,
      _, ⟨_, beforeOperation, rfl, noBlank_of_writes isOperation someLetters small _⟩,
      written, _, ⟨operation, isOperation, rfl⟩,
      _, ⟨_, behindOperation, rfl, noBlank_of_writes isAs (by decide) (by decide) _⟩,
      _, ⟨_, isAs, rfl⟩, _, ⟨_, beforeName, rfl, isName.noBlank _⟩,
      name, rest, ⟨rfl, isName, ends⟩, rfl, rfl, rfl⟩

/-! ### Searching -/

/-- Nothing begins within no text. -/
theorem noneWithin_nil (Begins : List Char → Prop) (rest : List Char) :
    NoneWithin Begins [] rest :=
  fun _ within some => absurd (List.suffix_nil.mp within) some

/-- Nothing begins within a text if nothing does at its start or behind that. -/
theorem noneWithin_cons (Begins : List Char → Prop) (char : Char) (front rest : List Char) :
    NoneWithin Begins (char :: front) rest ↔
      ¬ Begins (char :: front ++ rest) ∧ NoneWithin Begins front rest := by
  constructor
  · intro none
    refine ⟨none _ List.suffix_rfl (List.cons_ne_nil char front), fun later within some => ?_⟩
    exact none later (within.trans (List.suffix_cons char front)) some
  · rintro ⟨start, behind⟩ later within some
    rcases List.suffix_cons_iff.mp within with rfl | within
    · exact start
    · exact behind later within some

/-- The first reading in a text is one before which nothing can be read. The search moves on by one
character where nothing is read. -/
theorem firstFrom_iff {Part : Type} (read : List Char → Option Part) (text : List Char)
    (part : Part) :
    firstFrom? read text = some part ↔ ∃ front rest, text = front ++ rest ∧
      read rest = some part ∧
        NoneWithin (fun text => ∃ part, read text = some part) front rest := by
  induction text with
  | nil =>
    constructor
    · exact fun here => ⟨[], [], rfl, here, noneWithin_nil _ _⟩
    · rintro ⟨front, rest, none, here, _⟩
      obtain ⟨rfl, rfl⟩ := List.append_eq_nil_iff.mp none.symm
      exact here
  | cons char text inductionHypothesis =>
    have step : firstFrom? read (char :: text) =
        (read (char :: text)).or (firstFrom? read text) := by
      cases here : read (char :: text) <;> simp [firstFrom?, here]
    rw [step, Option.or_eq_some_iff, inductionHypothesis]
    constructor
    · rintro (here | ⟨none, front, rest, rfl, later, earlier⟩)
      · exact ⟨[], char :: text, rfl, here, noneWithin_nil _ _⟩
      · exact ⟨char :: front, rest, rfl, later, (noneWithin_cons _ _ _ _).mpr
          ⟨by simp [none], earlier⟩⟩
    · rintro ⟨front, rest, whole, later, earlier⟩
      cases front with
      | nil => exact .inl (whole ▸ later)
      | cons other front =>
        obtain ⟨rfl, rfl⟩ := List.cons.inj whole
        obtain ⟨start, behind⟩ := (noneWithin_cons _ _ _ _).mp earlier
        refine .inr ⟨?_, front, rest, rfl, later, behind⟩
        exact Option.eq_none_iff_forall_ne_some.mpr fun part here => start ⟨part, here⟩

/-- There is one first place in a text at which something begins. -/
theorem first_unique {Begins : List Char → Prop} {front rest front' rest' : List Char}
    (same : front ++ rest = front' ++ rest') (begins : Begins rest) (begins' : Begins rest')
    (first : NoneWithin Begins front rest) (first' : NoneWithin Begins front' rest') :
    front = front' ∧ rest = rest' := by
  rcases List.append_eq_append_iff.mp same with ⟨between, rfl, rfl⟩ | ⟨between, rfl, rfl⟩
  · cases between with
    | nil => simp
    | cons char between =>
      exact absurd begins (first' _ (List.suffix_append ..) (List.cons_ne_nil char between))
  · cases between with
    | nil => simp
    | cons char between =>
      exact absurd begins' (first _ (List.suffix_append ..) (List.cons_ne_nil char between))

/-! ### The parts of a text -/

/-- The parts of a grouping stand at one place each. The keys and the aggregate are those that are
read, and each keyword has the length of its name. -/
theorem groupingAt_unique {text keys inside back keys' inside' back' : List Char}
    (placed : GroupingAt keys inside back text) (placed' : GroupingAt keys' inside' back' text) :
    keys = keys' ∧ inside = inside' ∧ back = back' := by
  have read := (readGroupingHere_iff text keys inside).mpr ⟨back, placed⟩
  rw [(readGroupingHere_iff text keys' inside').mpr ⟨back', placed'⟩] at read
  obtain ⟨rfl, rfl⟩ := Prod.mk.inj (Option.some.inj read)
  refine ⟨rfl, rfl, ?_⟩
  obtain @⟨opening, middle, closing, opens, _, _, separates, _, _, closes⟩ := placed
  generalize whole : opening ++ _ = text at placed'
  obtain @⟨opening', middle', closing', opens', _, _, separates', _, _, closes'⟩ := placed'
  have behind := (List.append_inj whole (opens.length_eq.trans opens'.length_eq.symm)).2
  rw [List.append_cancel_left_eq] at behind
  replace behind :=
    (List.append_inj behind (separates.length_eq.trans separates'.length_eq.symm)).2
  rw [List.append_cancel_left_eq] at behind
  exact (List.append_inj behind (closes.length_eq.trans closes'.length_eq.symm)).2

/-- The characters at the start of a text that satisfy a test are told from those behind them. -/
theorem taken_unique {test : Char → Bool} {front rest front' rest' : List Char}
    (same : front ++ rest = front' ++ rest') (all : ∀ char ∈ front, test char = true)
    (all' : ∀ char ∈ front', test char = true) (ends : rest.head?.any test = false)
    (ends' : rest'.head?.any test = false) : front = front' ∧ rest = rest' := by
  obtain ⟨taken, left⟩ := (Text.taken_iff test _ front rest).mpr ⟨rfl, all, ends⟩
  obtain ⟨taken', left'⟩ := (Text.taken_iff test _ front' rest').mpr ⟨same, all', ends'⟩
  exact ⟨taken.symm.trans taken', left.symm.trans left'⟩

/-- An aggregate ends at one place. The names are those that are read; behind each of them the gap
and the keyword are told from what follows, so the two spellings agree piece by piece. -/
theorem aggregate_unique {source written name source' written' name' : String}
    {aggregate rest aggregate' rest' : List Char}
    (same : aggregate ++ rest = aggregate' ++ rest')
    (spelled : AggregateText source written name aggregate) (ends : EndsWord rest)
    (spelled' : AggregateText source' written' name' aggregate') (ends' : EndsWord rest') :
    aggregate = aggregate' ∧ rest = rest' := by
  have read := (readAggregateHere_iff _ source written name).mpr ⟨_, _, spelled, ends, rfl⟩
  rw [(readAggregateHere_iff _ source' written' name').mpr ⟨_, _, spelled', ends', same⟩] at read
  simp only [Option.some.injEq, Prod.mk.injEq] at read
  obtain ⟨rfl, rfl, rfl⟩ := read
  suffices behind : rest = rest' by
    subst behind
    exact ⟨List.append_cancel_right same, rfl⟩
  obtain ⟨operation, isSource, behindSource, isWith, beforeOperation, isOperation,
    behindOperation, isAs, beforeName, isName⟩ := spelled
  obtain ⟨operation', _, behindSource', isWith', beforeOperation', isOperation',
    behindOperation', isAs', beforeName', isName'⟩ := spelled'
  obtain ⟨someLetters, small⟩ := operation_small operation
  simp only [List.append_assoc, List.append_cancel_left_eq] at same
  replace same := (taken_unique same behindSource.blank behindSource'.blank
    (noBlank_of_writes isWith (by decide) (by decide) _)
    (noBlank_of_writes isWith' (by decide) (by decide) _)).2
  replace same := (List.append_inj same (isWith.length_eq.trans isWith'.length_eq.symm)).2
  replace same := (taken_unique same beforeOperation.blank beforeOperation'.blank
    (noBlank_of_writes isOperation someLetters small _)
    (noBlank_of_writes isOperation someLetters small _)).2
  rw [List.append_cancel_left_eq] at same
  replace same := (taken_unique same behindOperation.blank behindOperation'.blank
    (noBlank_of_writes isAs (by decide) (by decide) _)
    (noBlank_of_writes isAs' (by decide) (by decide) _)).2
  replace same := (List.append_inj same (isAs.length_eq.trans isAs'.length_eq.symm)).2
  replace same := (taken_unique same beforeName.blank beforeName'.blank
    (isName.noBlank _) (isName.noBlank _)).2
  exact List.append_cancel_left same

/-- A text has its parts at one place each: the grouping at the first place where one stands, and
the aggregate in it likewise. -/
theorem reading_unique {text : List Char} {grouping : Grouping} {cut cut' : Cut}
    (reading : Reading text grouping cut) (reading' : Reading text grouping cut') :
    cut = cut' := by
  obtain ⟨⟨rest, whole, placed, earliest⟩, _, ends, first, _, _, _, _, spelled, _⟩ := reading
  obtain ⟨⟨rest', whole', placed', earliest'⟩, _, ends', first', _, _, _, _, spelled', _⟩ :=
    reading'
  obtain ⟨front, rfl⟩ := first_unique (whole.symm.trans whole') ⟨_, _, _, placed⟩
    ⟨_, _, _, placed'⟩ earliest earliest'
  obtain ⟨keys, inside, back⟩ := groupingAt_unique placed placed'
  obtain ⟨before, within⟩ := first_unique inside ⟨_, _, _, _, _, spelled, ends, rfl⟩
    ⟨_, _, _, _, _, spelled', ends', rfl⟩ first first'
  obtain ⟨aggregate, after⟩ := aggregate_unique within spelled ends spelled' ends'
  cases cut
  cases cut'
  simp_all

/-- An operation is found by its name. -/
theorem operation_found (name : String) (operation : Aggregation) :
    Aggregation.find? name = some operation ↔ name = operation.name := by
  constructor
  · intro found
    have named := List.find?_some found
    exact (beq_iff_eq.mp named).symm
  · rintro rfl
    cases operation <;> decide +kernel

/-- What is read from a text is the first grouping in it, with the first aggregate between the
parentheses of its second part. Both sides are taken apart into the laws of the steps. -/
theorem readGrouping_iff (value : String) (grouping : Grouping) :
    readGrouping? value = some grouping ↔ ∃ cut, Reading value.toList grouping cut := by
  simp only [readGrouping?, bind, Option.bind_eq_some_iff, Option.pure_def, Prod.exists,
    firstFrom_iff, readGroupingHere_iff, readAggregateHere_iff, operation_found,
    Option.some.injEq]
  constructor
  · rintro ⟨keys, inside, ⟨front, rest, whole, ⟨back, placed⟩, earliest⟩, source, written, name,
      ⟨before, _, rfl, ⟨aggregate, after, spelled, ends, rfl⟩, first⟩, operation, named, rfl⟩
    refine ⟨⟨front, keys, before, aggregate, after, back⟩, ⟨rest, whole, placed, earliest⟩, rfl,
      ends, first, source, written, name, operation, spelled, ?_, rfl⟩
    rw [← named, String.toList_ofList]
  · rintro ⟨⟨front, keys, before, aggregate, after, back⟩, ⟨rest, whole, placed, earliest⟩, areKeys,
      ends, first, source, written, name, operation, spelled, named, aggregates⟩
    refine ⟨keys, _, ⟨front, rest, whole, ⟨back, placed⟩, earliest⟩, source, written, name,
      ⟨before, _, rfl, ⟨aggregate, after, spelled, ends, rfl⟩, first⟩, operation, ?_, ?_⟩
    · rw [named, String.ofList_toList]
    · rw [areKeys, ← aggregates]

/-! ### Texts of the grammar -/

/-- The text of a key is one piece, and trimming leaves the key. -/
theorem KeyText.piece {key : String} {text : List Char} (isKey : KeyText key text) :
    ',' ∉ text ∧ Text.trim text = key.toList := by
  obtain @⟨before, after, isEntry, blankBefore, blankAfter⟩ := isKey
  refine ⟨?_, Text.trim_padded before _ after blankBefore blankAfter isEntry.trimmed⟩
  simp only [List.mem_append, not_or]
  exact ⟨fun comma => absurd (blankBefore _ comma) (by decide), isEntry.single,
    fun comma => absurd (blankAfter _ comma) (by decide)⟩

/-- A list without blank pieces is read as its trimmed pieces. -/
theorem readList_pieces (text : List Char)
    (kept : ∀ piece ∈ Text.split ',' text, Text.trim piece ≠ []) :
    readList (String.ofList text) =
      (Text.split ',' text).map fun piece => String.ofList (Text.trim piece) := by
  rw [readList, String.toList_ofList, List.filter_eq_self.mpr, List.map_map]
  · rfl
  · intro entry present
    obtain ⟨piece, inside, rfl⟩ := List.mem_map.mp present
    simpa using kept piece inside

/-- Texts of keys have no commas and are not blank, and trimmed they are the keys, by induction
along the two lists. -/
theorem KeyText.pieces {keys : List String} {pieces : List (List Char)}
    (each : List.Forall₂ KeyText keys pieces) :
    (∀ piece ∈ pieces, ',' ∉ piece ∧ Text.trim piece ≠ []) ∧
      pieces.map (fun piece => String.ofList (Text.trim piece)) = keys := by
  induction each with
  | nil => simp
  | cons first _ inductionHypothesis =>
    obtain ⟨single, trimmed⟩ := first.piece
    obtain ⟨isEntry, _, _⟩ := first
    obtain ⟨others, same⟩ := inductionHypothesis
    refine ⟨List.forall_mem_cons.mpr ⟨⟨single, ?_⟩, others⟩, ?_⟩
    · rw [trimmed]
      exact isEntry.some
    · rw [List.map_cons, trimmed, String.ofList_toList, same]

/-- A text lists keys exactly if they are read from it and no piece of it is dropped. A blank piece
is passed over by the reading, but no list of keys is written with one. -/
theorem keysText_iff (keys : List String) (text : List Char) :
    KeysText keys text ↔ readList (String.ofList text) = keys ∧
      ∀ piece ∈ Text.split ',' text, Text.trim piece ≠ [] := by
  constructor
  · rintro @⟨pieces, some, each⟩
    obtain ⟨plain, same⟩ := KeyText.pieces each
    have whole := Text.split_intercalate ',' pieces some fun piece present =>
      (plain piece present).1
    have kept : ∀ piece ∈ Text.split ',' ([','].intercalate pieces), Text.trim piece ≠ [] := by
      rw [whole]
      exact fun piece present => (plain piece present).2
    refine ⟨?_, kept⟩
    rw [readList_pieces _ kept, whole, same]
  · rintro ⟨rfl, kept⟩
    have each : List.Forall₂ KeyText (readList (String.ofList text)) (Text.split ',' text) := by
      rw [readList_pieces text kept, List.forall₂_map_left_iff, List.forall₂_same]
      intro piece present
      have isEntry : IsEntry (String.ofList (Text.trim piece)) := by
        refine readList_entries (String.ofList text) _ ?_
        rw [readList_pieces text kept]
        exact List.mem_map_of_mem present
      obtain ⟨before, after, whole, blankBefore, blankAfter⟩ := Text.trim_parts piece
      have padded := KeyText.padded isEntry blankBefore blankAfter
      rwa [String.toList_ofList, ← whole] at padded
    have listed := KeysText.listed (Text.split_ne_nil ',' text) each
    rwa [Text.intercalate_split] at listed

/-- An aggregate begins with a word. -/
theorem AggregateText.begins {source written name : String} {aggregate : List Char}
    (spelled : AggregateText source written name aggregate) (rest : List Char) :
    ¬ EndsWord (aggregate ++ rest) := by
  obtain ⟨_, isSource, _, _, _, _, _, _, _, _⟩ := spelled
  cases letters : source.toList with
  | nil => exact absurd letters isSource.some
  | cons char others =>
    have word := isSource.plain char (by simp [letters])
    simp [EndsWord, word]

/-- A text of the grammar is read with nothing passed over. No aggregate begins before the one that
the text writes, since a text that begins with a blank begins with no aggregate. -/
theorem reading_of_text {grouping : Grouping} {text : List Char}
    (written : GroupingText grouping text) : ∃ cut, Reading text grouping cut ∧ cut.IsWhole := by
  obtain @⟨keys, before, aggregate, after, source, written, name, operation, placed, areKeys,
    blankBefore, blankAfter, spelled, isOperation, aggregates⟩ := written
  obtain ⟨read, kept⟩ := (keysText_iff _ _).mp areKeys
  refine ⟨⟨[], keys, before, aggregate, after, []⟩, ⟨⟨text, rfl, placed, ?_⟩, read, ?_, ?_, source,
    written, name, operation, spelled, isOperation, aggregates⟩,
    ⟨rfl, rfl, blankBefore, blankAfter, kept⟩⟩
  · exact noneWithin_nil _ _
  · exact endsWord_of_allBlank after blankAfter
  · rintro later within some ⟨_, _, _, _, rest, other, _, whole⟩
    have blank : AllBlank later := fun char inside => blankBefore char (within.subset inside)
    have ends := endsWord_of_blank later (aggregate ++ after) some blank
    rw [whole] at ends
    exact other.begins rest ends

/-- A text is of the grammar if it is read with nothing passed over. -/
theorem text_of_reading {grouping : Grouping} {text : List Char} {cut : Cut}
    (reading : Reading text grouping cut) (isWhole : cut.IsWhole) : GroupingText grouping text := by
  obtain ⟨⟨rest, rfl, placed, _⟩, read, _, _, source, written, name, operation, spelled,
    isOperation, aggregates⟩ := reading
  rw [isWhole.front, List.nil_append]
  rw [isWhole.back] at placed
  exact .written placed ((keysText_iff _ _).mpr ⟨read, isWhole.keys⟩) isWhole.before isWhole.after
    spelled isOperation aggregates

/-- Every text of the grammar is read as the grouping that it writes. What is read from any text is
its first grouping with the first aggregate in that, wherever they stand, and such a text is of the
grammar exactly if nothing but blanks stands around them and no key is missing.

Proof: the reader looks at one place after the other, so what it finds first is characterized by
there being nothing before it, and two such readings of one text have the same cut. A text of the
grammar has a reading with nothing passed over, and a reading with nothing passed over is put
together to a text of the grammar again. -/
theorem grouping_read (value : String) (grouping : Grouping) :
    (GroupingText grouping value.toList → readGrouping? value = some grouping) ∧
    (readGrouping? value = some grouping ↔ ∃ cut, Reading value.toList grouping cut) ∧
    ∀ cut, Reading value.toList grouping cut →
      (GroupingText grouping value.toList ↔ cut.IsWhole) := by
  refine ⟨?_, readGrouping_iff value grouping, ?_⟩
  · intro written
    obtain ⟨cut, reading, _⟩ := reading_of_text written
    exact (readGrouping_iff value grouping).mpr ⟨cut, reading⟩
  · intro cut reading
    refine ⟨fun written => ?_, text_of_reading reading⟩
    obtain ⟨whole, readingWhole, isWhole⟩ := reading_of_text written
    rwa [reading_unique reading readingWhole]

/-- A grouping with keywords in any letter case and blanks in all places that may have them is read,
and its reading takes up the whole text. -/
theorem spaced_read :
    GroupingText ⟨["city", "zip code"], [⟨"total", .sum, "t"⟩]⟩
        "GroupBy(( city,zip code ),Aggregate( total  WITH Sum as t ))".toList ∧
      readGrouping? "GroupBy(( city,zip code ),Aggregate( total  WITH Sum as t ))" =
        some ⟨["city", "zip code"], [⟨"total", .sum, "t"⟩]⟩ ∧
      ∃ cut, Reading "GroupBy(( city,zip code ),Aggregate( total  WITH Sum as t ))".toList
        ⟨["city", "zip code"], [⟨"total", .sum, "t"⟩]⟩ cut ∧ cut.IsWhole := by
  have isWord (text : String) (some : text.toList ≠ [])
      (plain : text.toList.all Text.isWord = true) : IsWordText text.toList :=
    ⟨some, List.all_eq_true.mp plain⟩
  have isGap (count : Nat) : IsGap (List.replicate (count + 1) ' ') :=
    ⟨by simp, fun char inside => List.eq_of_mem_replicate inside ▸ by decide⟩
  have aggregate : AggregateText "total" "Sum" "t" _ :=
    .spelled .sum (isWord _ (by decide +kernel) (by decide +kernel)) (isGap 1)
      (show WritesKeyword "with" "WITH".toList by decide +kernel) (isGap 0)
      (by decide +kernel) (isGap 0)
      (show WritesKeyword "as" "as".toList by decide +kernel) (isGap 0)
      (isWord _ (by decide +kernel) (by decide +kernel))
  have keys : KeysText ["city", "zip code"] " city,zip code ".toList :=
    (keysText_iff _ _).mpr ⟨by decide +kernel, by decide +kernel⟩
  have written : GroupingText ⟨["city", "zip code"], [⟨"total", .sum, "t"⟩]⟩
      "GroupBy(( city,zip code ),Aggregate( total  WITH Sum as t ))".toList :=
    .written (.placed (show WritesKeyword "groupby((" "GroupBy((".toList by decide +kernel)
      (by decide) (by decide)
      (show WritesKeyword "),aggregate(" "),Aggregate(".toList by decide +kernel)
      (by decide) (by decide) (show WritesKeyword "))" "))".toList by decide +kernel)) keys
      (show AllBlank [' '] by decide) (show AllBlank [' '] by decide) aggregate
      (by decide +kernel) rfl
  obtain ⟨reads, places, whole⟩ := grouping_read
    "GroupBy(( city,zip code ),Aggregate( total  WITH Sum as t ))"
    ⟨["city", "zip code"], [⟨"total", .sum, "t"⟩]⟩
  obtain ⟨cut, reading⟩ := places.mp (reads written)
  exact ⟨written, reads written, cut, reading, (whole cut reading).mp written⟩

/-- A path is taken for its last name, although no grouping is written that way. Only what stands
directly before the keyword is read as a source, and nothing asks what stands before that. -/
theorem dotted_source_read :
    readGrouping? "groupby((category),aggregate(order.total with sum as t))" =
        some ⟨["category"], [⟨"total", .sum, "t"⟩]⟩ ∧
      ∀ grouping, ¬ GroupingText grouping
        "groupby((category),aggregate(order.total with sum as t))".toList := by
  refine ⟨by decide +kernel, ?_⟩
  rintro grouping @⟨keys, before, aggregate, after, source, written, name, _, placed, _,
    blankBefore, blankAfter, spelled, _, _⟩
  have parts := (readGroupingHere_iff _ _ _).mpr ⟨[], placed⟩
  have found : readGroupingHere? "groupby((category),aggregate(order.total with sum as t))".toList =
      some ("category".toList, "order.total with sum as t".toList) := by decide +kernel
  rw [found] at parts
  have inside := (Prod.mk.inj (Option.some.inj parts)).2
  have read := (readAggregateHere_iff _ source written name).mpr
    ⟨aggregate, after, spelled, endsWord_of_allBlank after blankAfter, rfl⟩
  cases before with
  | nil =>
    rw [List.nil_append] at inside
    rw [← inside] at read
    exact absurd (Option.isSome_iff_exists.mpr ⟨_, read⟩) (by decide +kernel)
  | cons char before =>
    have first := blankBefore char List.mem_cons_self
    rw [← (List.cons.inj inside).1] at first
    exact absurd first (by decide)

end DocumentQuery.Query
