import DocumentQuery.Json.Reader

/-!
# Percent encoding

Texts in URLs: every octet of a character's UTF-8 form that is not unreserved is written as a
percent sign with two hexadecimal digits. A percent sign without them stands for itself when a
text is decoded, and octets that are not UTF-8 have no decoding.
-/

namespace DocumentQuery.Text

/-- Whether a character stands for itself in every part of a URL. -/
def isUnreserved (char : Char) : Bool :=
  char.isAlphanum || char == '-' || char == '_' || char == '.' || char == '~'

/-- A hexadecimal digit in its capital form. -/
def capitalHexDigit (value : Nat) : Char := (Nat.digitChar value).toUpper

/-- The escape of an octet. -/
def percentEscape (octet : UInt8) : List Char :=
  ['%', capitalHexDigit (octet.toNat / 16), capitalHexDigit (octet.toNat % 16)]

/-- The text with everything but unreserved characters escaped. -/
def percentEncode (text : List Char) : List Char :=
  text.flatMap fun char =>
    if isUnreserved char then [char] else (String.utf8EncodeChar char).flatMap percentEscape

/-- The octets that a text stands for. A percent sign that two hexadecimal digits do not follow
stands for itself. -/
def percentOctets : List Char → List UInt8
  | '%' :: high :: low :: rest =>
    match Json.hexDigit? high, Json.hexDigit? low with
    | some highValue, some lowValue =>
      UInt8.ofNat (16 * highValue + lowValue) :: percentOctets rest
    | _, _ => String.utf8EncodeChar '%' ++ percentOctets (high :: low :: rest)
  | char :: rest => String.utf8EncodeChar char ++ percentOctets rest
  | [] => []

/-- The text that a text stands for, if its octets are UTF-8. -/
def percentDecode? (text : List Char) : Option (List Char) :=
  (ByteArray.utf8Decode? ⟨(percentOctets text).toArray⟩).map Array.toList

end DocumentQuery.Text
