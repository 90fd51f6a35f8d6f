import DocumentQuery.Json.Reader

/-!
# Identifiers

Rows that come without an identity and the points of change tracking are named by random
identifiers. Which ones are drawn is no matter of the program: a source is any sequence of
texts in which no text comes twice. The store carries its source, so what is proved of a store
holds of every such sequence. The source of the program itself counts in hexadecimal digits
behind zeros, in the form of a random UUID; its digits can be read back as the count.
-/

namespace DocumentQuery

/-- A source of identifiers: the text that is drawn at each turn, and that none is drawn twice.
Nothing is known of a text beyond this, as of a random one. -/
structure Identifiers where
  text : Nat → String
  distinct : ∀ first second, text first = text second → first = second

/-- The identifier with a number, in the form of a random UUID. -/
def identifier (number : Nat) : String :=
  let digits := Nat.toDigits 16 number
  "00000000-0000-4000-8000-" ++ String.ofList (List.replicate (12 - digits.length) '0' ++ digits)

/-- The number that hexadecimal digits write, the last of which counts once. -/
def hexValue (digits : List Char) : Nat :=
  digits.foldl (fun value digit => 16 * value + (Json.hexDigit? digit).getD 0) 0

/-- The last digit counts once, those before it sixteen times. -/
theorem hexValue_append_one (digits : List Char) (digit : Char) :
    hexValue (digits ++ [digit]) = 16 * hexValue digits + (Json.hexDigit? digit).getD 0 := by
  simp [hexValue]

/-- The digit of a value below sixteen writes that value. -/
theorem hexDigit_digitChar (value : Nat) (small : value < 16) :
    Json.hexDigit? value.digitChar = some value := by
  revert value
  decide

/-- The hexadecimal digits of a number write it. A number of several digits is sixteen times the
number of all but the last, and the last is its remainder. -/
theorem hexValue_toDigits (number : Nat) : hexValue (Nat.toDigits 16 number) = number := by
  induction number using Nat.strongRecOn with
  | ind number inductionHypothesis =>
    by_cases small : number < 16
    · rw [Nat.toDigits_of_lt_base small]
      simp [hexValue, hexDigit_digitChar number small]
    · have large : 16 ≤ number := Nat.le_of_not_lt small
      rw [Nat.toDigits_of_base_le (by decide) large, hexValue_append_one,
        inductionHypothesis (number / 16) (by omega),
        hexDigit_digitChar (number % 16) (Nat.mod_lt number (by decide))]
      simp [Nat.div_add_mod]

/-- Zeros in front of digits do not count. -/
theorem hexValue_padded (count : Nat) (digits : List Char) :
    hexValue (List.replicate count '0' ++ digits) = hexValue digits := by
  have zeros : List.foldl (fun value digit => 16 * value + (Json.hexDigit? digit).getD 0) 0
      (List.replicate count '0') = 0 := by
    induction count with
    | zero => rfl
    | succ count inductionHypothesis =>
      rw [List.replicate_succ, List.foldl_cons]
      exact inductionHypothesis
  simp [hexValue, zeros]

/-- No identifier stands for two numbers. The digits behind the fixed part are read back, and
zeros before them leave what they write. -/
theorem identifier_injective (first second : Nat) (same : identifier first = identifier second) :
    first = second := by
  unfold identifier at same
  have digits := String.ofList_inj.mp ((String.append_right_inj _).mp same)
  have values := congrArg hexValue digits
  rw [hexValue_padded, hexValue_padded] at values
  rwa [hexValue_toDigits, hexValue_toDigits] at values

namespace Identifiers

/-- The source that counts. -/
def counted : Identifiers := ⟨identifier, identifier_injective⟩

instance : Inhabited Identifiers := ⟨counted⟩

end Identifiers

end DocumentQuery
