import DocumentQuery.Text.Alphabetic
import DocumentQuery.Text.Blank
import DocumentQuery.Text.Case

/-!
# Text patterns

A pattern is built from characters, sets of characters and assertions about a place by
sequences, alternatives and repetitions. `ends` computes the places in which a match can end
that begins in a given one, and `found` decides whether a pattern matches somewhere in a text.
Only whether there is a match is asked, so nothing depends on which one would be preferred.
-/

namespace DocumentQuery

namespace Pattern

/-- The classes of characters that have an escape of their own. -/
inductive CharClass where
  | decimal
  | blank
  | word
  deriving DecidableEq, Repr

/-- Whether a character is in a class. -/
def CharClass.contains : CharClass → Char → Bool
  | .decimal => Text.isDecimal
  | .blank => Text.isBlank
  | .word => Text.isWord

/-- How two sets are combined: the characters of both, those of the first alone, or those of one of
them alone. -/
inductive SetOperation where
  | both
  | without
  | apart
  deriving DecidableEq, Repr

/-- Whether a combination contains what its parts contain or not. -/
def SetOperation.apply : SetOperation → Bool → Bool → Bool
  | .both, first, second => first && second
  | .without, first, second => first && !second
  | .apart, first, second => first != second

/-- A set of characters. Brackets may stand around a part of it, and inside them sets
are combined. -/
inductive CharSet where
  | none
  | range (low high : Char)
  | ofClass (kind : CharClass) (negated : Bool)
  | either (first second : CharSet)
  | bracketed (negated : Bool) (inside : CharSet)
  | combined (operation : SetOperation) (first second : CharSet)
  deriving DecidableEq, Repr

/-- The set of the characters in some closed ranges. -/
def CharSet.ofRanges (ranges : List (Char × Char)) : CharSet :=
  ranges.foldr (fun range set => .either (.range range.1 range.2) set) .none

/-- A property of characters; up to case, whether some character of the same letter has it. -/
def upToCase (ignoreCase : Bool) (within : Char → Bool) (char : Char) : Bool :=
  if ignoreCase then (Text.sameLetter char).any within else within char

/-- Whether a character is in a set. Case is ignored in brackets before they are negated, and in the
parts of a combination before they are combined. -/
def CharSet.contains (ignoreCase : Bool) : CharSet → Char → Bool
  | .none, _ => false
  | .range low high, char => decide (low ≤ char ∧ char ≤ high)
  | .ofClass kind negated, char => kind.contains char != negated
  | .either first second, char => first.contains ignoreCase char || second.contains ignoreCase char
  | .bracketed negated inside, char =>
    upToCase ignoreCase (inside.contains ignoreCase) char != negated
  | .combined operation first second, char =>
    operation.apply (upToCase ignoreCase (first.contains ignoreCase) char)
      (upToCase ignoreCase (second.contains ignoreCase) char)

/-- What changes the meaning of a pattern: whether letters match up to case, whether the anchors
also match at the lines inside a text, whether a dot matches the end of a line, and whether a line
may end with a carriage return. -/
structure Options where
  ignoreCase : Bool := false
  multiline : Bool := false
  dotAll : Bool := false
  returns : Bool := false
  deriving DecidableEq, Repr

/-- Options that are set or cleared for a part of a pattern. -/
structure Flags where
  ignoreCase : Option Bool := none
  multiline : Option Bool := none
  dotAll : Option Bool := none
  returns : Option Bool := none
  deriving DecidableEq, Repr

namespace Flags

/-- The options of a part with flags. -/
def apply (flags : Flags) (options : Options) : Options where
  ignoreCase := flags.ignoreCase.getD options.ignoreCase
  multiline := flags.multiline.getD options.multiline
  dotAll := flags.dotAll.getD options.dotAll
  returns := flags.returns.getD options.returns

/-- Flags inside of others. -/
def inside (flags outer : Flags) : Flags where
  ignoreCase := flags.ignoreCase <|> outer.ignoreCase
  multiline := flags.multiline <|> outer.multiline
  dotAll := flags.dotAll <|> outer.dotAll
  returns := flags.returns <|> outer.returns

end Flags

/-- What can be asserted of a place in a text without taking a character. -/
inductive Assertion where
  | lineStart
  | lineEnd
  | textStart
  | textEnd
  /-- A word begins or ends here. -/
  | boundary
  | noBoundary
  | wordStart
  | wordEnd
  /-- No word character stands before. -/
  | wordStartHalf
  /-- No word character stands behind. -/
  | wordEndHalf
  deriving DecidableEq, Repr

end Pattern

/-- A pattern. A repetition has a least count, and a greatest one unless it is unbounded. -/
inductive Pattern where
  | empty
  | literal (char : Char)
  | anyChar
  | oneOf (set : Pattern.CharSet)
  | assertion (kind : Pattern.Assertion)
  | sequence (first second : Pattern)
  | either (first second : Pattern)
  | repeated (pattern : Pattern) (least : Nat) (most : Option Nat)
  | under (flags : Pattern.Flags) (pattern : Pattern)
  deriving DecidableEq, Repr

namespace Pattern

/-- A place in a text: the character before it, if any, and the characters behind it. -/
abbrev Place := Option Char × List Char

namespace Options

variable (options : Options)

/-- Whether a character is the one that is wanted. -/
def sameChar (wanted char : Char) : Bool :=
  if options.ignoreCase then Text.fold wanted == Text.fold char else wanted == char

/-- Whether a dot matches a character. -/
def matchesDot (char : Char) : Bool :=
  options.dotAll || !(char == '\n' || (options.returns && char == '\r'))

/-- Whether a line begins at a place inside a text. A carriage return and a line feed behind it are
one end of a line. -/
def startsLine : Place → Bool
  | (some '\n', _) => true
  | (some '\r', rest) => options.returns && rest.head? != some '\n'
  | _ => false

/-- Whether a line ends at a place inside a text. -/
def endsLine : Place → Bool
  | (before, '\n' :: _) => !(options.returns && before == some '\r')
  | (_, '\r' :: _) => options.returns
  | _ => false

end Options

/-- Whether an assertion holds of a place. With multiple lines the ends of each line count as well,
and words are told by the characters on both sides of the place. -/
def Assertion.holds (options : Options) (place : Place) : Assertion → Bool :=
  let before := place.1.any Text.isWord
  let behind := place.2.head?.any Text.isWord
  fun
  | .lineStart => place.1.isNone || (options.multiline && options.startsLine place)
  | .lineEnd => place.2.isEmpty || (options.multiline && options.endsLine place)
  | .textStart => place.1.isNone
  | .textEnd => place.2.isEmpty
  | .boundary => before != behind
  | .noBoundary => before == behind
  | .wordStart => !before && behind
  | .wordEnd => before && !behind
  | .wordStartHalf => !before
  | .wordEndHalf => !behind

/-- The place behind one character of a kind. -/
def pass (accepts : Char → Bool) : Place → List Place
  | (_, []) => []
  | (_, char :: rest) => if accepts char then [(some char, rest)] else []

/-- The places that are reached in a number of steps. -/
def afterSteps (step : Place → List Place) : Nat → List Place → List Place
  | _, [] => []
  | 0, places => places
  | count + 1, places => afterSteps step count (places.flatMap step).eraseDups

/-- The places that are reached in a number of steps or in fewer. -/
def upToSteps (step : Place → List Place) : Nat → List Place → List Place
  | _, [] => []
  | 0, places => places
  | count + 1, places => (places ++ upToSteps step count (places.flatMap step).eraseDups).eraseDups

/-- The places that are reached in a number of steps between two. Steps that take no character lead
nowhere, so no more steps than there are characters are needed where none is the most. -/
def between (step : Place → List Place) (least : Nat) (most : Option Nat) (place : Place) :
    List Place :=
  upToSteps step ((most.map (· - least)).getD place.2.length) (afterSteps step least [place])

/-- The places in which a match can end that begins in a place. They are all found at once, since
only their existence matters, and none of them is listed twice. -/
def ends : Options → Pattern → Place → List Place
  | _, .empty, place => [place]
  | options, .literal wanted, place => pass (options.sameChar wanted) place
  | options, .anyChar, place => pass options.matchesDot place
  | options, .oneOf set, place => pass (set.contains options.ignoreCase) place
  | options, .assertion kind, place => if kind.holds options place then [place] else []
  | options, .sequence first second, place =>
    ((ends options first place).flatMap (ends options second)).eraseDups
  | options, .either first second, place =>
    (ends options first place ++ ends options second place).eraseDups
  | options, .repeated pattern least most, place => between (ends options pattern) least most place
  | options, .under flags pattern, place => ends (flags.apply options) pattern place

/-- Whether a pattern matches from some place of a text on. -/
def foundFrom (options : Options) (pattern : Pattern) (before : Option Char) : List Char → Bool
  | [] => !(ends options pattern (before, [])).isEmpty
  | char :: rest =>
    !(ends options pattern (before, char :: rest)).isEmpty
      || foundFrom options pattern (some char) rest

/-- Whether the pattern matches somewhere in a text. -/
def found (options : Options) (pattern : Pattern) (text : String) : Bool :=
  foundFrom options pattern none text.toList

end Pattern

end DocumentQuery
