/-!
# Cutting texts at a character

A text is cut at every occurrence of a separator, which leaves one piece more than there are
separators, or at the first one only.
-/

namespace DocumentQuery.Text

/-- The pieces between the separators, empty ones included. -/
def split (separator : Char) : List Char → List (List Char)
  | [] => [[]]
  | char :: rest =>
    if char = separator then [] :: split separator rest
    else match split separator rest with
      | [] => [[char]]
      | piece :: pieces => (char :: piece) :: pieces

/-- What stands before and after the first separator, if there is one. -/
def cut? (separator : Char) : List Char → Option (List Char × List Char)
  | [] => none
  | char :: rest =>
    if char = separator then some ([], rest)
    else (cut? separator rest).map fun (before, after) => (char :: before, after)

/-- What stands before the first separator, or the whole text. -/
def before (separator : Char) (text : List Char) : List Char :=
  text.takeWhile (· != separator)

/-- The rest of a text that begins with a stem. -/
def dropStem? : List Char → List Char → Option (List Char)
  | [], text => some text
  | _ :: _, [] => none
  | wanted :: stem, char :: text => if wanted = char then dropStem? stem text else none

/-- The pieces with a separator text between each two. -/
def join (separator : List Char) : List (List Char) → List Char
  | [] => []
  | [piece] => piece
  | piece :: rest => piece ++ separator ++ join separator rest

/-- The rest of a text from where a needle first occurs, with the number of characters
passed over. -/
def find? (needle : List Char) : List Char → Option (Nat × List Char)
  | [] => if needle.isEmpty then some (0, []) else none
  | char :: rest =>
    match dropStem? needle (char :: rest) with
    | some after => some (0, after)
    | none => (find? needle rest).map fun (passed, after) => (passed + 1, after)

/-- Whether a needle occurs in the text. -/
def contains (needle text : List Char) : Bool := (find? needle text).isSome

end DocumentQuery.Text
