import DocumentQuery.Text.CaseTable

/-!
# Letter case

Capitals and small letters of a text under the full case mappings, where one letter may become
several and a sigma at the end of a word has its own small form, and the simple folding under
which two characters are the same letter.
-/

namespace DocumentQuery.Text

/-- The capitals of a character. -/
def upperOf (char : Char) : List Char :=
  if char.toNat < 0x80 then [char.toUpper]
  else match upperSequences.lookup char.toNat with
    | some codes => codes.map Char.ofNat
    | none => match CaseRun.find? upperRuns char.toNat with
      | some code => [Char.ofNat code]
      | none => [char]

/-- The small letters of a character, wherever it stands. -/
def lowerOf (char : Char) : List Char :=
  if char.toNat < 0x80 then [char.toLower]
  else if char == 'İ' then ['i', Char.ofNat 0x307]
  else match CaseRun.find? lowerRuns char.toNat with
    | some code => [Char.ofNat code]
    | none => [char]

/-- Whether a character has letter case. -/
def isCased (char : Char) : Bool := char.isAlpha || inRanges casedRanges char.toNat

/-- Whether a character is passed over when the end of a word is sought. -/
def isCaseIgnorable (char : Char) : Bool :=
  char == '\'' || char == '.' || char == ':' || char == '^' || char.toNat == 0x60
    || inRanges caseIgnorableRanges char.toNat

/-- Whether the first character that counts has letter case. -/
def startsCased (text : List Char) : Bool :=
  match text.dropWhile isCaseIgnorable with
  | [] => false
  | char :: _ => isCased char

/-- The text in capitals. -/
def toUpper (text : List Char) : List Char := text.flatMap upperOf

/-- The text in small letters. A sigma that ends a word is written in its final form. -/
def toLower (text : List Char) : List Char := go [] text
where
  /-- `before` is what precedes, nearest character first. -/
  go (before : List Char) : List Char → List Char
    | [] => []
    | char :: rest =>
      let small :=
        if char == 'Σ' then
          if startsCased before && !startsCased rest then ['ς'] else ['σ']
        else lowerOf char
      small ++ go (char :: before) rest

/-- The representative of a character's letter under simple case folding. -/
def fold (char : Char) : Char :=
  if char.toNat < 0x80 then char.toLower
  else match CaseRun.find? foldRuns char.toNat with
    | some code => Char.ofNat code
    | none => char

/-- The code points of a run that a folding takes to a code point. -/
def CaseRun.sources (run : CaseRun) (code : Nat) : List Nat :=
  let source := ((code : Int) - run.offset).toNat
  if run.first ≤ source && source ≤ run.last && (source - run.first) % run.step == 0 then [source]
  else []

/-- The characters that are the same letter as a character, itself among them. -/
def sameLetter (char : Char) : List Char :=
  let small := fold char
  let ascii := if small.isLower then [small.toUpper] else []
  char :: small :: ascii
    ++ (foldRuns.flatMap fun run => (run.sources small.toNat).map Char.ofNat)

/-- The small form of an ASCII letter; any other character is kept. -/
def lowerAscii (text : List Char) : List Char := text.map Char.toLower

/-- Whether two texts agree up to the case of ASCII letters. -/
def equalIgnoringCase (left right : List Char) : Bool := lowerAscii left == lowerAscii right

end DocumentQuery.Text
