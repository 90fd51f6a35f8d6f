import DocumentQuery.Proofs.Query.Parameters
import DocumentQuery.Store.Changes

/-!
# Encoded parameters are read back

A query text whose names and values are all escaped is read as the parameters that it was made of,
whatever characters they hold: an escaped text has no ampersand, no equals sign and no plus sign, so
each of these is where it was put. The link that resolves a token is one such text behind its base.
-/

namespace DocumentQuery.Parameters

/-- A parameter with its name and its value escaped, as clients may write any two texts. -/
def encodedPart (parameter : String × String) : String :=
  String.ofList (Text.percentEncode parameter.1.toList) ++ "=" ++
    String.ofList (Text.percentEncode parameter.2.toList)

/-- Parameters as a query text. -/
def encoded (parameters : Parameters) : String := "&".intercalate (parameters.map encodedPart)

/-- An escaped parameter writes itself. -/
theorem writes_encodedPart (parameter : String × String) :
    Writes (encodedPart parameter) parameter := by
  obtain ⟨name, value⟩ := parameter
  have written := writes_pair (Text.percentEncode name.toList) (Text.percentEncode value.toList)
    (Text.percentEncode_apart _ '=' (by decide) (by decide))
    (Text.percentEncode_apart _ '&' (by decide) (by decide))
    (Text.percentEncode_apart _ '&' (by decide) (by decide))
  rwa [decodePart_encode, decodePart_encode, String.ofList_toList, String.ofList_toList] at written

/-- A query text is read as the parameters that were escaped in it. -/
theorem ofQuery_encoded (parameters : Parameters) :
    ofQuery (encoded parameters).toList = parameters := by
  refine ofQuery_parts _ parameters (List.forall₂_map_left_iff.mpr ?_)
  exact List.forall₂_same.mpr fun parameter _ => writes_encodedPart parameter

/-- The value that is found under a name is that of the first parameter with the name. -/
theorem get_some_iff (parameters : Parameters) (name value : String) :
    parameters.get? name = some value ↔ ∃ ahead behind,
      parameters = ahead ++ (name, value) :: behind ∧ ∀ other ∈ ahead, name ≠ other.1 := by
  simp only [get?, List.lookup_eq_some_iff, bne_iff_ne]

/-- The link of a token is read as the token. -/
theorem ofUrl_changesLink (base token : String) (noQuery : '?' ∉ base.toList) :
    ofUrl (changesLink base token) = [("$deltatoken", token)] := by
  have link : changesLink base token =
      base ++ "?" ++ "&".intercalate [Query.linkPart "$deltatoken" token] :=
    String.toList_injective (by simp [changesLink, Query.linkPart])
  rw [link]
  exact ofUrl_parts base _ _ noQuery (.cons (writes_linkPart "$deltatoken" token (by decide)) .nil)

/-- Parameters are decoded as they were encoded. A query text in which names and values are escaped
is read as its parameters in their order, and under a name the first of its values is found. A link
that resolves a token is read as the token under its name. The escaping behind both leaves only
characters that stand for themselves and percent signs, and it is undone by decoding.

Proof: an escaped text holds no ampersand and no equals sign, so cutting the query text at these
gives the escaped names and values back, and no plus sign, so none of it is taken for a blank. The
escaped texts are decoded character by character, each from the octets that its escape writes. -/
theorem parameters_decoded :
    (∀ parameters : Parameters,
      ofQuery (encoded parameters).toList = parameters ∧
      ∀ name value, (ofQuery (encoded parameters).toList).get? name = some value ↔
        ∃ ahead behind, parameters = ahead ++ (name, value) :: behind ∧
          ∀ other ∈ ahead, name ≠ other.1) ∧
    (∀ base token : String, '?' ∉ base.toList →
      ofUrl (changesLink base token) = [("$deltatoken", token)] ∧
      (ofUrl (changesLink base token)).get? "$deltatoken" = some token) ∧
    (∀ text : List Char,
      (∀ char ∈ Text.percentEncode text, Text.isUnreserved char = true ∨ char = '%') ∧
      Text.percentDecode? (Text.percentEncode text) = some text) := by
  refine ⟨fun parameters => ?_, fun base token noQuery => ?_, fun text => ?_⟩
  · rw [ofQuery_encoded]
    exact ⟨rfl, get_some_iff parameters⟩
  · rw [ofUrl_changesLink base token noQuery]
    exact ⟨rfl, rfl⟩
  · exact ⟨Text.percentEncode_made text, Text.percentDecode_encode text⟩

/-- Parameters with an empty name, an empty value, a repeated name, and characters that a URL is cut
at. -/
def awkward : Parameters := [("", "a&b=c"), ("k ?", ""), ("k ?", "é+%"), ("x", "1")]

/-- They are read back, and so is a token with such characters. -/
theorem awkward_decoded :
    ofQuery (encoded awkward).toList = awkward ∧ awkward.get? "k ?" = some "" ∧
    '?' ∉ "/odata/Items".toList ∧
    (ofUrl (changesLink "/odata/Items" "a&b=c ?é+%")).get? "$deltatoken" = some "a&b=c ?é+%" := by
  obtain ⟨read, found⟩ := parameters_decoded.1 awkward
  have apart : '?' ∉ "/odata/Items".toList := by decide
  have first := (found "k ?" "").mpr ⟨[("", "a&b=c")], [("k ?", "é+%"), ("x", "1")], rfl, by decide⟩
  rw [read] at first
  exact ⟨read, first, apart, (parameters_decoded.2.1 "/odata/Items" "a&b=c ?é+%" apart).2⟩

end DocumentQuery.Parameters
