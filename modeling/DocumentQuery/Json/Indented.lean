import DocumentQuery.Json.Printer

/-!
# Writing JSON for people

The text of a value over several lines: every item and every member stands on a line of its own,
two blanks further in than the value that holds it.
-/

namespace DocumentQuery.Json

/-- A new line at a depth. -/
def newLine (depth : Nat) : String := "\n" ++ String.ofList (List.replicate (2 * depth) ' ')

mutual

/-- The text of a value that stands at a depth, with two spaces for each level. Empty arrays and
objects stay on their line. -/
def indented (depth : Nat) : Json → String
  | .array [] => "[]"
  | .array items => "[" ++ indentedItems (depth + 1) items ++ newLine depth ++ "]"
  | .object [] => "\x7b\x7d"
  | .object members =>
    "\x7b" ++ indentedMembers (depth + 1) members ++ newLine depth ++ "\x7d"
  | value => toText value
termination_by structural value => value

/-- The texts of items with commas between them. -/
def indentedItems (depth : Nat) : List Json → String
  | [] => ""
  | item :: items =>
    newLine depth ++ indented depth item ++ (if items.isEmpty then "" else ",")
      ++ indentedItems depth items
termination_by structural items => items

/-- The texts of members with commas between them. -/
def indentedMembers (depth : Nat) : List (String × Json) → String
  | [] => ""
  | (name, value) :: members =>
    newLine depth ++ quoted name ++ ": " ++ indented depth value
      ++ (if members.isEmpty then "" else ",") ++ indentedMembers depth members
termination_by structural members => members

end

end DocumentQuery.Json
