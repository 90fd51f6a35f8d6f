import DocumentQuery.Json.Reader
import DocumentQuery.Pattern.Basic

/-!
# Written patterns

The written form of a pattern, and the escaping that makes a text the pattern of itself: the
characters with a meaning of their own get a backslash. A pattern is read from left to right.
What is read of it is the rest of the alternative that is at hand and the alternatives behind it,
up to the end of the text or of the group; flags that are set within a group hold up to its end.

Not read are classes named by properties of Unicode, and the flags that allow blanks and comments
in a pattern or that give up Unicode; a text with one of these is refused like one that writes no
pattern. No text is refused for how deeply its parts are nested or for how large its pattern is.
-/

namespace DocumentQuery.Pattern

/-- The characters that have a meaning in written patterns. -/
def isSpecial (char : Char) : Bool :=
  "\\.+*?()|[]\x7b\x7d^$#&-~".toList.contains char

/-- The written pattern that matches a text literally. -/
def escape (text : List Char) : List Char :=
  text.flatMap fun char => if isSpecial char then ['\\', char] else [char]

/-- Whether a backslash before the character makes it literal. Letters and digits are kept for
classes and other escapes. -/
def isEscapable (char : Char) : Bool :=
  char.toNat < 0x80 && !char.isAlphanum && char != '<' && char != '>'

/-- What a backslash and the characters behind it stand for. -/
inductive Escaped where
  | char (char : Char)
  | ofClass (kind : CharClass) (negated : Bool)
  | assertion (kind : Assertion)
  deriving DecidableEq, Repr

/-- The letters that stand for something behind a backslash. -/
def letterEscapes : List (Char × Escaped) :=
  [('d', .ofClass .decimal false), ('D', .ofClass .decimal true),
   ('s', .ofClass .blank false), ('S', .ofClass .blank true),
   ('w', .ofClass .word false), ('W', .ofClass .word true),
   ('a', .char '\x07'), ('f', .char '\x0c'), ('t', .char '\t'), ('n', .char '\n'),
   ('r', .char '\r'), ('v', .char '\x0b'),
   ('A', .assertion .textStart), ('z', .assertion .textEnd), ('B', .assertion .noBoundary),
   ('<', .assertion .wordStart), ('>', .assertion .wordEnd)]

/-- The words in braces that make an assertion of a word's boundary a narrower one. -/
def boundaryNames : List (String × Assertion) :=
  [("start", .wordStart), ("end", .wordEnd), ("start-half", .wordStartHalf),
   ("end-half", .wordEndHalf)]

/-- The assertion behind a backslash and the letter of a word's boundary. A brace is left for a
count unless a letter or a dash follows it. -/
def readBoundary (text : List Char) : Option (Escaped × List Char) :=
  let inName (char : Char) : Bool := char.isAlpha || char == '-'
  match text with
  | '\x7b' :: [] => none
  | '\x7b' :: first :: rest =>
    if inName first then do
      let name := (first :: rest).takeWhile inName
      let '\x7d' :: rest := (first :: rest).drop name.length | none
      let (_, kind) ← boundaryNames.find? fun entry => entry.1.toList == name
      return (.assertion kind, rest)
    else some (.assertion .boundary, text)
  | _ => some (.assertion .boundary, text)

/-- The character with a code point in hexadecimal digits. -/
def charOfHex? (digits : List Char) : Option Char := do
  let digits ← digits.mapM Json.hexDigit?
  let code := digits.foldl (fun value digit => 16 * value + digit) 0
  if code.isValidChar then some (Char.ofNat code) else none

/-- A character by its code point: in a fixed number of hexadecimal digits, or in any number of them
between braces. -/
def readHex (count : Nat) : List Char → Option (Escaped × List Char)
  | '\x7b' :: rest => do
    let digits := rest.takeWhile (· != '\x7d')
    let _ :: rest := rest.drop digits.length | none
    if digits.isEmpty then none
    return (.char (← charOfHex? digits), rest)
  | text => do
    let digits := text.take count
    if digits.length < count then none
    return (.char (← charOfHex? digits), text.drop count)

/-- Reads an escape behind its backslash: a character by its code, a boundary, a character that is
marked so as to stand for itself, or a letter with a meaning of its own. -/
def readEscape : List Char → Option (Escaped × List Char)
  | [] => none
  | 'x' :: rest => readHex 2 rest
  | 'u' :: rest => readHex 4 rest
  | 'U' :: rest => readHex 8 rest
  | 'b' :: rest => readBoundary rest
  | char :: rest =>
    if isEscapable char then some (.char char, rest)
    else (letterEscapes.find? fun entry => entry.1 == char).map fun entry => (entry.2, rest)

/-! ### Sets -/

/-- The classes that have a name in sets. -/
def namedRanges : List (String × List (Char × Char)) :=
  [("alnum", [('0', '9'), ('A', 'Z'), ('a', 'z')]), ("alpha", [('A', 'Z'), ('a', 'z')]),
   ("ascii", [('\x00', '\x7f')]), ("blank", [('\t', '\t'), (' ', ' ')]),
   ("cntrl", [('\x00', '\x1f'), ('\x7f', '\x7f')]), ("digit", [('0', '9')]),
   ("graph", [('!', '~')]), ("lower", [('a', 'z')]), ("print", [(' ', '~')]),
   ("punct", [('!', '/'), (':', '@'), ('[', '\x60'), ('\x7b', '~')]),
   ("space", [('\t', '\r'), (' ', ' ')]), ("upper", [('A', 'Z')]),
   ("word", [('0', '9'), ('A', 'Z'), ('_', '_'), ('a', 'z')]),
   ("xdigit", [('0', '9'), ('A', 'F'), ('a', 'f')])]

/-- Reads a class by its name between colons, behind an opening bracket. A caret before the name
stands for all other characters. -/
def readNamed? : List Char → Option (CharSet × List Char)
  | ':' :: text => do
    let (negated, text) := match text with
      | '^' :: rest => (true, rest)
      | rest => (false, rest)
    let name := text.takeWhile (· != ':')
    let ':' :: ']' :: rest := text.drop name.length | none
    let (_, ranges) ← namedRanges.find? fun entry => entry.1.toList == name
    return (.bracketed negated (.ofRanges ranges), rest)
  | _ => none

/-- What an opening bracket begins with: whether the set is negated, and the characters that stand
for themselves here. These are dashes, or else one closing bracket. -/
def openSet (text : List Char) : Bool × CharSet × List Char :=
  let (negated, text) := match text with
    | '^' :: rest => (true, rest)
    | rest => (false, rest)
  match text with
  | '-' :: rest => (negated, .range '-' '-', rest.dropWhile (· == '-'))
  | ']' :: rest => (negated, .range ']' ']', rest)
  | rest => (negated, .none, rest)

/-- A character of a set, or an escape. -/
def readSetItem : List Char → Option (Escaped × List Char)
  | [] => none
  | '\\' :: rest => readEscape rest
  | char :: rest => some (.char char, rest)

/-- The set of an item that stands alone. Assertions are none. -/
def Escaped.set? : Escaped → Option CharSet
  | .char only => some (.range only only)
  | .ofClass kind negated => some (.ofClass kind negated)
  | .assertion _ => none

/-- An item of a set, or a range from one to another. A dash stands for itself at the end of the set
and before another dash. -/
def readRange (text : List Char) : Option (CharSet × List Char) := do
  let (first, rest) ← readSetItem text
  let alone : Option (CharSet × List Char) := first.set?.map fun set => (set, rest)
  match rest with
  | '-' :: ']' :: _ | '-' :: '-' :: _ => alone
  | '-' :: rest =>
    match first, ← readSetItem rest with
    | .char low, (.char high, rest) => if low ≤ high then some (.range low high, rest) else none
    | _, _ => none
  | _ => alone

/-- Items that are the second part of a combination, if there is a first. -/
def combine (left : Option (CharSet × SetOperation)) (items : CharSet) : CharSet :=
  match left with
  | some (first, operation) => .combined operation first items
  | none => items

/-- The inside of a set up to its closing bracket, read in at most `steps` steps. Combinations are
read from left to right, none before another. -/
def readInside : Nat → Option (CharSet × SetOperation) → CharSet → List Char →
    Option (CharSet × List Char)
  | 0, _, _, _ => none
  | _ + 1, left, items, ']' :: rest => some (combine left items, rest)
  | steps + 1, left, items, '[' :: rest =>
    match readNamed? rest with
    | some (named, rest) => readInside steps left (.either items named) rest
    | none => do
      let (negated, first, rest) := openSet rest
      let (inside, rest) ← readInside steps none first rest
      readInside steps left (.either items (.bracketed negated inside)) rest
  | steps + 1, left, items, '&' :: '&' :: rest =>
    readInside steps (some (combine left items, .both)) .none rest
  | steps + 1, left, items, '-' :: '-' :: rest =>
    readInside steps (some (combine left items, .without)) .none rest
  | steps + 1, left, items, '~' :: '~' :: rest =>
    readInside steps (some (combine left items, .apart)) .none rest
  | steps + 1, left, items, text => do
    let (item, rest) ← readRange text
    readInside steps left (.either items item) rest

/-- A set behind its opening bracket. -/
def readSet (text : List Char) : Option (CharSet × List Char) := do
  let (negated, first, rest) := openSet text
  let (inside, rest) ← readInside (rest.length + 1) none first rest
  return (.bracketed negated inside, rest)

/-! ### Counts -/

/-- A number in decimal digits with blanks around it, which must be below `2^32`. -/
def readNumber (text : List Char) : Option (Nat × List Char) :=
  let text := Text.trimStart text
  let digits := text.takeWhile Char.isDigit
  let value := Nat.ofDigitChars 10 digits 0
  if digits.isEmpty || Nat.pow 2 32 ≤ value then none
  else some (value, Text.trimStart (text.drop digits.length))

/-- Reads the bounds of a count behind its opening brace. A single number is both bounds, and an
upper bound may be left out but not be below the lower one. -/
def readBounds (text : List Char) : Option ((Nat × Option Nat) × List Char) := do
  let (least, rest) ← readNumber text
  match rest with
  | '\x7d' :: rest => return ((least, some least), rest)
  | ',' :: '\x7d' :: rest => return ((least, none), rest)
  | ',' :: rest => do
    let (most, rest) ← readNumber rest
    let '\x7d' :: rest := rest | none
    if most < least then none
    return ((least, some most), rest)
  | _ => none

/-- The text behind a mark of a count. A question mark there only asks for the shortest match. -/
def afterMark : List Char → List Char
  | '?' :: rest => rest
  | rest => rest

/-- The count at the start of a text, if there is one. -/
def readCount : List Char → Option (Option (Nat × Option Nat) × List Char)
  | '?' :: rest => some (some (0, some 1), afterMark rest)
  | '*' :: rest => some (some (0, none), afterMark rest)
  | '+' :: rest => some (some (1, none), afterMark rest)
  | '\x7b' :: rest => (readBounds rest).map fun (bounds, rest) => (some bounds, afterMark rest)
  | rest => some (none, rest)

/-- A pattern with the counts behind it, each of which repeats what stands before. They are read in
at most `steps` steps. -/
def readCounts : Nat → Pattern → List Char → Option (Pattern × List Char)
  | 0, pattern, text => some (pattern, text)
  | steps + 1, pattern, text => do
    match ← readCount text with
    | (none, rest) => return (pattern, rest)
    | (some (least, most), rest) => readCounts steps (.repeated pattern least most) rest

/-! ### Groups -/

/-- What a parenthesis opens: flags for what follows, or a group with flags of its own and perhaps a
name. -/
inductive Opening where
  | flags (flags : Flags)
  | group (flags : Flags) (name : Option (List Char))

/-- The name of a group up to its closing angle. -/
def readName (text : List Char) : Option (List Char × List Char) := do
  let name := text.takeWhile (· != '>')
  let _ :: rest := text.drop name.length | none
  let first :: others := name | none
  let follows (char : Char) : Bool := Text.isAlphanumeric char || "_.[]".toList.contains char
  if (first == '_' || Text.isAlphabetic first) && others.all follows then some (name, rest)
  else none

/-- The flags that letters set, or clear behind a dash. No letter is repeated, and something follows
the dash. -/
def flagsOf? (letters : List Char) : Option Flags :=
  let (set, cleared) := letters.span (· != '-')
  let known (letter : Char) : Bool := "imsUuR-".toList.contains letter
  if letters.all known && letters.Nodup && letters.getLast? != some '-' &&
      !cleared.contains 'u' then
    let flag (letter : Char) : Option Bool :=
      if set.contains letter then some true
      else if cleared.contains letter then some false
      else none
    some { ignoreCase := flag 'i', multiline := flag 'm', dotAll := flag 's', returns := flag 'R' }
  else none

/-- Reads what stands behind an opening parenthesis. There is no looking around. A group may have a
name or flags of its own, and flags alone hold up to the end of the group around them. -/
def readOpening : List Char → Option (Opening × List Char)
  | '?' :: '=' :: _ | '?' :: '!' :: _ | '?' :: '<' :: '=' :: _ | '?' :: '<' :: '!' :: _ => none
  | '?' :: 'P' :: '<' :: rest | '?' :: '<' :: rest =>
    (readName rest).map fun (name, rest) => (.group {} (some name), rest)
  | '?' :: rest => do
    let letters := rest.takeWhile fun char => char != ':' && char != ')'
    let flags ← flagsOf? letters
    match rest.drop letters.length with
    | ':' :: rest => return (.group flags none, rest)
    | ')' :: rest => if letters.isEmpty then none else return (.flags flags, rest)
    | _ => none
  | rest => some (.group {} none, rest)

/-- What is known where a pattern is read: the flags that hold, and the names of groups so far. -/
structure Reading where
  flags : Flags := {}
  names : List (List Char) := []

/-- The part of a pattern for which the flags hold that hold now. -/
def Reading.scope (reading : Reading) (pattern : Pattern) : Pattern :=
  if reading.flags = {} then pattern else .under reading.flags pattern

/-- The reading inside of a group, unless its name was given before. -/
def Reading.enter? (reading : Reading) (flags : Flags) : Option (List Char) → Option Reading
  | none => some { reading with flags := flags.inside reading.flags }
  | some name =>
    if reading.names.contains name then none
    else some { flags := flags.inside reading.flags, names := name :: reading.names }

/-- What was read: the rest of the alternative at hand, the alternatives behind it, what is known
behind them, and the text there. -/
structure Branches where
  first : Pattern
  others : List Pattern
  reading : Reading
  text : List Char

/-- The pattern of alternatives. -/
def alternatives (first : Pattern) : List Pattern → Pattern
  | [] => first
  | second :: others => .either first (alternatives second others)

/-- An atom at the start of a text: neither a group, nor a mark of a count. -/
def readAtom : List Char → Option (Pattern × List Char)
  | [] => none
  | '\\' :: rest => do
    match ← readEscape rest with
    | (.char char, rest) => return (.literal char, rest)
    | (.ofClass kind negated, rest) => return (.oneOf (.ofClass kind negated), rest)
    | (.assertion kind, rest) => return (.assertion kind, rest)
  | '[' :: rest => (readSet rest).map fun (set, rest) => (.oneOf set, rest)
  | '.' :: rest => some (.anyChar, rest)
  | '^' :: rest => some (.assertion .lineStart, rest)
  | '$' :: rest => some (.assertion .lineEnd, rest)
  | char :: rest => if "?*+\x7b".toList.contains char then none else some (.literal char, rest)

/-- The branches of a text up to its end or to the parenthesis that closes the group, read in at
most `steps` steps. -/
def readBranches : Nat → Reading → List Char → Option Branches
  | 0, _, _ => none
  | _ + 1, reading, [] => some ⟨.empty, [], reading, []⟩
  | _ + 1, reading, ')' :: rest => some ⟨.empty, [], reading, ')' :: rest⟩
  | steps + 1, reading, '|' :: rest => do
    let later ← readBranches steps reading rest
    return { later with first := .empty, others := later.first :: later.others }
  | steps + 1, reading, '(' :: rest => do
    match ← readOpening rest with
    | (.flags flags, rest) =>
      let (none, _) ← readCount rest | none
      readBranches steps { reading with flags := flags.inside reading.flags } rest
    | (.group flags name, rest) =>
      let inside ← readBranches steps (← reading.enter? flags name) rest
      let ')' :: rest := inside.text | none
      let group := alternatives inside.first inside.others
      let (pattern, rest) ← readCounts rest.length group rest
      let later ← readBranches steps { reading with names := inside.reading.names } rest
      return { later with first := .sequence pattern later.first }
  | steps + 1, reading, text => do
    let (atom, rest) ← readAtom text
    let (pattern, rest) ← readCounts rest.length (reading.scope atom) rest
    let later ← readBranches steps reading rest
    return { later with first := .sequence pattern later.first }

/-- The pattern that a text writes, if it writes one. Every step but the last takes a character, so
one step more than there are characters is enough. -/
def ofText? (text : String) : Option Pattern := do
  let whole ← readBranches (text.length + 1) {} text.toList
  if whole.text.isEmpty then some (alternatives whole.first whole.others) else none

end DocumentQuery.Pattern
