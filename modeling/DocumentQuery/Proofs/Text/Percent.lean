import DocumentQuery.Text.Percent

/-!
# Percent encoding and back

What is percent encoded is decoded to the same text. The encoded text is made of unreserved
characters and percent signs alone, so none of the characters that a URL is cut at occurs in it.
-/

namespace DocumentQuery.Text

/-- A hexadecimal digit in its capital form is read as its value. -/
theorem hexDigit_capital (value : Nat) (below : value < 16) :
    Json.hexDigit? (capitalHexDigit value) = some value := by
  have all : ∀ value : Fin 16, Json.hexDigit? (capitalHexDigit value) = some value.val := by
    decide +kernel
  exact all ⟨value, below⟩

/-- A hexadecimal digit in its capital form is a letter or a digit. -/
theorem capitalHexDigit_unreserved (value : Nat) (below : value < 16) :
    isUnreserved (capitalHexDigit value) = true := by
  have all : ∀ value : Fin 16, isUnreserved (capitalHexDigit value) = true := by decide +kernel
  exact all ⟨value, below⟩

/-- The escape of an octet stands for it. -/
theorem percentOctets_escape (octet : UInt8) (rest : List Char) :
    percentOctets (percentEscape octet ++ rest) = octet :: percentOctets rest := by
  have high : octet.toNat / 16 < 16 := by have := octet.toNat_lt; omega
  have low : octet.toNat % 16 < 16 := Nat.mod_lt _ (by decide)
  have whole : 16 * (octet.toNat / 16) + octet.toNat % 16 = octet.toNat := by omega
  simp [percentEscape, percentOctets, hexDigit_capital _ high, hexDigit_capital _ low, whole]

/-- Escaped octets stand for themselves. -/
theorem percentOctets_escapes (octets : List UInt8) (rest : List Char) :
    percentOctets (octets.flatMap percentEscape ++ rest) = octets ++ percentOctets rest := by
  induction octets with
  | nil => rfl
  | cons octet octets inductionHypothesis =>
    rw [List.flatMap_cons, List.append_assoc, percentOctets_escape, inductionHypothesis,
      List.cons_append]

/-- A character other than the percent sign stands for its own octets. -/
theorem percentOctets_plain (char : Char) (rest : List Char) (plain : char ≠ '%') :
    percentOctets (char :: rest) = String.utf8EncodeChar char ++ percentOctets rest := by
  rw [percentOctets]
  intro _ _ _ sign _
  exact plain sign

/-- A text without percent signs stands for its own octets. -/
theorem percentOctets_raw (text : List Char) (plain : '%' ∉ text) :
    percentOctets text = text.flatMap String.utf8EncodeChar := by
  induction text with
  | nil => rfl
  | cons char text inductionHypothesis =>
    simp only [List.mem_cons, not_or] at plain
    rw [percentOctets_plain char text (Ne.symm plain.1), inductionHypothesis plain.2,
      List.flatMap_cons]

/-- An encoded text stands for the octets of the text: an unreserved character for its one octet,
and the escapes of any other for its octets in turn. -/
theorem percentOctets_encode (text : List Char) :
    percentOctets (percentEncode text) = text.flatMap String.utf8EncodeChar := by
  induction text with
  | nil => rfl
  | cons char text inductionHypothesis =>
    rw [percentEncode, List.flatMap_cons, List.flatMap_cons, ← inductionHypothesis]
    split
    case isTrue unreserved =>
      have plain : char ≠ '%' := by
        rintro rfl
        exact absurd unreserved (by decide)
      exact percentOctets_plain char _ plain
    case isFalse => exact percentOctets_escapes _ _

/-- The octets of a text are decoded to it. -/
theorem utf8Decode_flatMap (text : List Char) :
    ByteArray.utf8Decode? ⟨(text.flatMap String.utf8EncodeChar).toArray⟩ = some text.toArray := by
  have octets : (⟨(text.flatMap String.utf8EncodeChar).toArray⟩ : ByteArray) =
      text.utf8Encode := by
    rw [List.utf8Encode]
    exact ByteArray.ext (by simp)
  rw [octets, List.utf8Decode?_utf8Encode]

/-- An encoded text is decoded to the text. -/
theorem percentDecode_encode (text : List Char) :
    percentDecode? (percentEncode text) = some text := by
  simp [percentDecode?, percentOctets_encode, utf8Decode_flatMap]

/-- A text without percent signs is decoded to itself. -/
theorem percentDecode_raw (text : List Char) (plain : '%' ∉ text) :
    percentDecode? text = some text := by
  simp [percentDecode?, percentOctets_raw text plain, utf8Decode_flatMap]

/-- An encoded text is made of unreserved characters and percent signs; the digits of an escape are
unreserved. -/
theorem percentEncode_made (text : List Char) (char : Char) (present : char ∈ percentEncode text) :
    isUnreserved char = true ∨ char = '%' := by
  obtain ⟨source, _, inside⟩ := List.mem_flatMap.mp present
  split at inside
  case isTrue unreserved =>
    rw [List.mem_singleton.mp inside]
    exact .inl unreserved
  case isFalse =>
    obtain ⟨octet, _, escaped⟩ := List.mem_flatMap.mp inside
    have high : octet.toNat / 16 < 16 := by have := octet.toNat_lt; omega
    have low : octet.toNat % 16 < 16 := Nat.mod_lt _ (by decide)
    simp only [percentEscape, List.mem_cons, List.not_mem_nil, or_false] at escaped
    rcases escaped with rfl | rfl | rfl
    · exact .inr rfl
    · exact .inl (capitalHexDigit_unreserved _ high)
    · exact .inl (capitalHexDigit_unreserved _ low)

/-- A reserved character other than the percent sign does not occur in an encoded text. -/
theorem percentEncode_apart (text : List Char) (char : Char)
    (reserved : isUnreserved char = false) (noSign : char ≠ '%') :
    char ∉ percentEncode text := by
  intro present
  rcases percentEncode_made text char present with unreserved | sign
  · simp [reserved] at unreserved
  · exact noSign sign

end DocumentQuery.Text
