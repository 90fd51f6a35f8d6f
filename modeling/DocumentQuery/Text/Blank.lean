/-!
# White space

The characters of the property White_Space, and what is done with them: dropping them at both
ends of a text, and cutting a text into the words between them.
-/

namespace DocumentQuery.Text

/-- Whether a character has the property White_Space. -/
def isBlank (char : Char) : Bool :=
  let code := char.toNat
  (9 ≤ code && code ≤ 13) || code == 0x20 || code == 0x85 || code == 0xa0 || code == 0x1680
    || (0x2000 ≤ code && code ≤ 0x200a) || code == 0x2028 || code == 0x2029 || code == 0x202f
    || code == 0x205f || code == 0x3000

/-- The text without the blanks at its start. -/
def trimStart (text : List Char) : List Char := text.dropWhile isBlank

/-- The text without the blanks at its end. -/
def trimEnd (text : List Char) : List Char := (text.reverse.dropWhile isBlank).reverse

/-- The text without the blanks at its ends. -/
def trim (text : List Char) : List Char := trimEnd (trimStart text)

/-- The words of a text: its longest pieces without blanks. -/
def words (text : List Char) : List (List Char) :=
  let (word, rest) := collect text
  if word.isEmpty then rest else word :: rest
where
  /-- The word at the start of a text, and the words after it. -/
  collect : List Char → List Char × List (List Char)
    | [] => ([], [])
    | char :: text =>
      let (word, rest) := collect text
      if isBlank char then ([], if word.isEmpty then rest else word :: rest)
      else (char :: word, rest)

end DocumentQuery.Text
