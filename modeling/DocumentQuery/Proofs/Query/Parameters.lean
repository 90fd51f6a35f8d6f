import DocumentQuery.Plan.Paging
import DocumentQuery.Proofs.Text.Lists
import DocumentQuery.Proofs.Text.Percent
import DocumentQuery.Query.Parameters
import Mathlib.Data.List.Forall2

/-!
# Writing the parameters of a URL

A part of a URL writes a parameter if it is read as that parameter and holds no ampersand. Parts
that are joined behind a question mark are read as their parameters in order. A part is written
either with its value escaped or, where nothing in the value needs it, with the value as it is.
-/

namespace DocumentQuery.Parameters

/-- The characters that are not read as themselves, or that end a name or a part. -/
def marks : List Char := ['&', '=', '+', '%']

/-- Whether a text is read as itself wherever it stands. -/
def IsPlain (text : String) : Prop := ∀ mark ∈ marks, mark ∉ text.toList

instance (text : String) : Decidable (IsPlain text) :=
  List.decidableBAll (fun mark => mark ∉ text.toList) marks

/-- What is left of a text without plus signs when they become blanks. -/
theorem spaced_plain (text : List Char) (plain : '+' ∉ text) :
    text.map (fun char => if char = '+' then ' ' else char) = text := by
  conv_rhs => rw [← List.map_id text]
  refine List.map_congr_left ?_
  intro char present
  have different : char ≠ '+' := fun same => plain (same ▸ present)
  simp [different]

/-- An escaped value is read as the value. -/
theorem decodePart_encode (text : List Char) :
    decodePart (Text.percentEncode text) = String.ofList text := by
  have noPlus := Text.percentEncode_apart text '+' (by decide) (by decide)
  simp only [decodePart, spaced_plain _ noPlus, Text.percentDecode_encode, Option.getD_some]

/-- A plain text is read as itself. -/
theorem decodePart_plain (text : String) (plain : IsPlain text) :
    decodePart text.toList = text := by
  have noPlus : '+' ∉ text.toList := plain '+' (by decide)
  have noSign : '%' ∉ text.toList := plain '%' (by decide)
  simp only [decodePart, spaced_plain _ noPlus, Text.percentDecode_raw _ noSign,
    Option.getD_some, String.ofList_toList]

/-- Whether a part of a URL writes a parameter: it is not empty, it is one part, and it is read as
the parameter. -/
structure Writes (part : String) (parameter : String × String) : Prop where
  some : part.toList ≠ []
  single : '&' ∉ part.toList
  read : ofPart part.toList = parameter

/-- A part is read at its first equals sign, so the text in front must have none. -/
theorem writes_pair (rawName raw : List Char) (apart : '=' ∉ rawName) (single : '&' ∉ rawName)
    (alsoSingle : '&' ∉ raw) :
    Writes (String.ofList rawName ++ "=" ++ String.ofList raw)
      (decodePart rawName, decodePart raw) := by
  have text : (String.ofList rawName ++ "=" ++ String.ofList raw).toList =
      rawName ++ '=' :: raw := by simp
  constructor
  · simp [text]
  · simp [text, single, alsoSingle]
  · simp [ofPart, text, Text.cut_append '=' rawName raw apart]

/-- A part with a plain name is read at its equals sign. -/
theorem writes_named (name value : String) (raw : List Char) (plain : IsPlain name)
    (single : '&' ∉ raw) (read : decodePart raw = value) :
    Writes (name ++ "=" ++ String.ofList raw) (name, value) := by
  have written := writes_pair name.toList raw (plain '=' (by decide)) (plain '&' (by decide)) single
  rwa [decodePart_plain name plain, read, String.ofList_toList] at written

/-- A part with a plain value writes it. -/
theorem writes_plain (name value : String) (plainName : IsPlain name) (plainValue : IsPlain value) :
    Writes (name ++ "=" ++ value) (name, value) := by
  have written := writes_named name value value.toList plainName (plainValue '&' (by decide))
    (decodePart_plain value plainValue)
  simpa using written

/-- A part of a link writes its value, whatever that is. -/
theorem writes_linkPart (name value : String) (plain : IsPlain name) :
    Writes (Query.linkPart name value) (name, value) := by
  refine writes_named name value _ plain ?_ ?_
  · exact Text.percentEncode_apart _ '&' (by decide) (by decide)
  · rw [decodePart_encode, String.ofList_toList]

/-- Each of the parts that write parameters is not empty and holds no ampersand. -/
theorem writes_each (parts : List String) (parameters : Parameters)
    (written : List.Forall₂ Writes parts parameters) :
    ∀ part ∈ parts, part.toList ≠ [] ∧ '&' ∉ part.toList := by
  induction written with
  | nil => simp
  | cons writes _ inductionHypothesis =>
    exact List.forall_mem_cons.mpr ⟨⟨writes.some, writes.single⟩, inductionHypothesis⟩

/-- The parts of a query text are read as the parameters that they write. No part holds an ampersand
or is empty, so that cutting the text gives the parts back. -/
theorem ofQuery_parts (parts : List String) (parameters : Parameters)
    (written : List.Forall₂ Writes parts parameters) :
    ofQuery ("&".intercalate parts).toList = parameters := by
  have each := writes_each parts parameters written
  have kept : (Text.split '&' ("&".intercalate parts).toList).filter (fun part => !part.isEmpty) =
      parts.map String.toList := by
    by_cases none : parts = []
    · simp [none, Text.split]
    · have pieces : Text.split '&' ("&".intercalate parts).toList = parts.map String.toList := by
        rw [String.toList_intercalate]
        refine Text.split_intercalate '&' _ (by simpa using none) ?_
        intro piece present
        obtain ⟨part, inside, rfl⟩ := List.mem_map.mp present
        exact (each part inside).2
      rw [pieces]
      refine List.filter_eq_self.mpr ?_
      intro piece present
      obtain ⟨part, inside, rfl⟩ := List.mem_map.mp present
      simpa using (each part inside).1
  rw [ofQuery, kept, List.map_map]
  clear kept each
  induction written with
  | nil => rfl
  | cons writes _ inductionHypothesis => simp [writes.read, inductionHypothesis]

/-- Parts behind the question mark of a URL are read as the parameters that they write. -/
theorem ofUrl_parts (base : String) (parts : List String) (parameters : Parameters)
    (noQuery : '?' ∉ base.toList) (written : List.Forall₂ Writes parts parameters) :
    ofUrl (base ++ "?" ++ "&".intercalate parts) = parameters := by
  have text : (base ++ "?" ++ "&".intercalate parts).toList =
      base.toList ++ '?' :: ("&".intercalate parts).toList := by
    simp
  rw [ofUrl, text, Text.cut_append '?' base.toList _ noQuery]
  exact ofQuery_parts parts parameters written

end DocumentQuery.Parameters
