import DocumentQuery.Text.Split

/-!
# Replacing parts of texts

An occurrence of a needle gives place to another text, either the first one or all that are
left when the text is read from its start. The empty needle occurs before every character and
at the end.
-/

namespace DocumentQuery.Text

/-- The text with the first occurrence of a needle replaced. -/
def replaceFirst (needle replacement text : List Char) : List Char :=
  match find? needle text with
  | none => text
  | some (passed, after) => text.take passed ++ replacement ++ after

/-- The text with every occurrence of a needle replaced, from left to right and without overlap. An
empty needle occurs around every character. -/
def replaceAll (needle replacement text : List Char) : List Char :=
  if needle.isEmpty then replacement ++ text.flatMap fun char => char :: replacement
  else go 0 text
where
  /-- `passed` characters still belong to an occurrence that is replaced already. -/
  go (passed : Nat) : List Char → List Char
    | [] => []
    | char :: rest =>
      match passed with
      | passed + 1 => go passed rest
      | 0 =>
        if (dropStem? needle (char :: rest)).isSome then
          replacement ++ go (needle.length - 1) rest
        else char :: go 0 rest

end DocumentQuery.Text
