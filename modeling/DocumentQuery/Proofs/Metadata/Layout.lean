import DocumentQuery.Metadata.Printer
import DocumentQuery.Text.Replace

/-!
# Metadata is told by its text

The text of metadata is made of lines in a fixed order, and names stand in it between quotes only.
Read from its start, every part of it tells what it was written of and where it ends: an escaped
name ends at the first quote, a list of elements ends where something else begins that none of them
begins with. So no two descriptions have the same text. The characters that make up the markup are
those of the same description with all its names emptied.
-/

namespace DocumentQuery

/-- Replacing a character by a text puts the text in each of its places. -/
theorem Text.replaceAll_char (mark : Char) (form text : List Char) :
    replaceAll [mark] form text =
      text.flatMap fun char => if char = mark then form else [char] := by
  have walked : replaceAll [mark] form text = replaceAll.go [mark] form 0 text := rfl
  rw [walked]
  clear walked
  induction text with
  | nil => rfl
  | cons char text inductionHypothesis =>
    by_cases same : char = mark
    · simp [replaceAll.go, dropStem?, same, inductionHypothesis]
    · simp [replaceAll.go, dropStem?, same, Ne.symm same, inductionHypothesis]

namespace Metadata

section Telling

variable {Part View : Type} {write : Part → List Char} {view : Part → View}

/-- Whether what is written of a part tells a view of the part, and where its text ends. -/
def Tells (write : Part → List Char) (view : Part → View) : Prop :=
  ∀ first second rest others, write first ++ rest = write second ++ others →
    view first = view second ∧ rest = others

/-- Parts that are written one after the other are told up to a stop that none of them begins with.
Two lists are read side by side: both have a next part and agree on it, or both are at the stop,
since a part on one side cannot stand against the stop on the other. -/
theorem Tells.each (tells : Tells write view) (stop : List Char)
    (apart : ∀ part rest others, write part ++ rest ≠ stop ++ others) :
    Tells (fun parts => parts.flatMap write ++ stop) (List.map view) := by
  intro firsts seconds rest others same
  induction firsts generalizing seconds with
  | nil =>
    cases seconds with
    | nil => exact ⟨rfl, List.append_cancel_left same⟩
    | cons second seconds =>
      simp only [List.flatMap_nil, List.nil_append, List.flatMap_cons, List.append_assoc] at same
      exact absurd same.symm (apart second _ rest)
  | cons first firsts inductionHypothesis =>
    cases seconds with
    | nil =>
      simp only [List.flatMap_nil, List.nil_append, List.flatMap_cons, List.append_assoc] at same
      exact absurd same (apart first _ others)
    | cons second seconds =>
      simp only [List.flatMap_cons, List.append_assoc] at same
      obtain ⟨head, behind⟩ := tells first second _ _ same
      obtain ⟨tail, ends⟩ := inductionHypothesis seconds (by simpa using behind)
      exact ⟨by rw [List.map_cons, List.map_cons, head, tail], ends⟩

end Telling

/-- The characters that are escaped and their forms, in the order in which they can be replaced. An
ampersand comes first, since every form has one. -/
def references : List (Char × String) :=
  [('&', "&amp;"), ('<', "&lt;"), ('>', "&gt;"), ('"', "&quot;")]

/-- A character either is escaped and has its reference for a form, or is its own form. There are
only four characters of the first kind, so their forms are decided. -/
theorem escapeChar_cases (char : Char) :
    (∃ reference ∈ references, char = reference.1 ∧ escapeChar char = reference.2.toList) ∨
      (∀ reference ∈ references, char ≠ reference.1) ∧ escapeChar char = [char] := by
  by_cases escaped : ∃ reference ∈ references, char = reference.1
  · obtain ⟨reference, listed, rfl⟩ := escaped
    have forms : ∀ reference ∈ references, escapeChar reference.1 = reference.2.toList := by decide
    exact .inl ⟨reference, listed, rfl, forms reference listed⟩
  · have plain : ∀ reference ∈ references, char ≠ reference.1 :=
      fun reference listed same => escaped ⟨reference, listed, same⟩
    refine .inr ⟨plain, ?_⟩
    simp only [references, List.forall_mem_cons] at plain
    unfold escapeChar
    split <;> simp_all

/-- A text in which characters are replaced by their forms, one character after the other. -/
def replaceInTurn (references : List (Char × String)) (text : List Char) : List Char :=
  references.foldl (fun text (reference : Char × String) =>
    Text.replaceAll [reference.1] reference.2.toList text) text

/-- The first replacement is made before the others. -/
theorem replaceInTurn_cons (reference : Char × String) (references : List (Char × String))
    (text : List Char) : replaceInTurn (reference :: references) text =
      replaceInTurn references (text.flatMap fun char =>
        if char = reference.1 then reference.2.toList else [char]) :=
  congrArg (replaceInTurn references) (Text.replaceAll_char reference.1 reference.2.toList text)

/-- Replacing characters one after the other replaces each character of a text on its own. -/
theorem replaceInTurn_flatMap (references : List (Char × String)) (text : List Char) :
    replaceInTurn references text = text.flatMap fun char => replaceInTurn references [char] := by
  induction references generalizing text with
  | nil => exact (List.flatMap_singleton' text).symm
  | cons reference references inductionHypothesis =>
    rw [replaceInTurn_cons, inductionHypothesis, List.flatMap_assoc]
    refine congrArg text.flatMap (funext fun char => ?_)
    rw [replaceInTurn_cons, List.flatMap_singleton, ← inductionHypothesis]

/-- A character that is not replaced stays. -/
theorem replaceInTurn_plain (references : List (Char × String)) (char : Char)
    (plain : ∀ reference ∈ references, char ≠ reference.1) :
    replaceInTurn references [char] = [char] := by
  induction references with
  | nil => rfl
  | cons reference references inductionHypothesis =>
    obtain ⟨first, others⟩ := List.forall_mem_cons.mp plain
    rw [replaceInTurn_cons, List.flatMap_singleton, if_neg first, inductionHypothesis others]

/-- Escaping a text is replacing the escaped characters by their forms, one after the other.
The forms have ampersands of their own, but these are put in after the text's ampersands
were replaced. -/
theorem escape_replacements (text : String) :
    escape text = replaceInTurn references text.toList := by
  rw [replaceInTurn_flatMap]
  refine congrArg text.toList.flatMap (funext fun char => ?_)
  rcases escapeChar_cases char with ⟨reference, listed, rfl, form⟩ | ⟨plain, form⟩
  · have kept : ∀ reference ∈ references,
        reference.2.toList = replaceInTurn references [reference.1] := by decide
    exact form.trans (kept reference listed)
  · rw [form, replaceInTurn_plain references char plain]

/-- The ampersand of a form is not escaped once more. -/
example : escape "a\"&" = "a&quot;&amp;".toList := by decide

/-- The form of a character tells it: references begin with an ampersand, which is escaped itself,
and none of them begins with another. -/
theorem escapeChar_tells : Tells escapeChar id := by
  have begun : ∀ reference ∈ references, reference.2.toList = '&' :: reference.2.toList.tail := by
    decide
  have ampersand : '&' ∈ references.map Prod.fst := by decide
  have unlike (char : Char) (plain : ∀ reference ∈ references, char ≠ reference.1)
      (reference : Char × String) (listed : reference ∈ references) (rest others : List Char) :
      reference.2.toList ++ rest ≠ [char] ++ others := by
    rw [begun reference listed]
    intro same
    obtain ⟨mark, marked, first⟩ := List.mem_map.mp ampersand
    exact plain mark marked (first.trans (List.cons.inj same).1).symm
  intro first second rest others same
  rcases escapeChar_cases first with ⟨one, listed, rfl, form⟩ | ⟨plain, form⟩ <;>
    rcases escapeChar_cases second with
      ⟨other, alsoListed, rfl, otherForm⟩ | ⟨otherPlain, otherForm⟩ <;>
    rw [form, otherForm] at same
  · have apart : ∀ one ∈ references, ∀ other ∈ references,
        one.2.toList <+: other.2.toList → one = other := by decide
    obtain rfl : one = other := by
      rcases List.prefix_or_prefix_of_prefix ⟨rest, rfl⟩ ⟨others, same.symm⟩ with within | within
      · exact apart one listed other alsoListed within
      · exact (apart other alsoListed one listed within).symm
    exact ⟨rfl, List.append_cancel_left same⟩
  · exact absurd same (unlike second otherPlain one listed rest others)
  · exact absurd same.symm (unlike first plain other alsoListed others rest)
  · exact List.cons.inj same

/-- An escaped text in quotes tells the text. -/
theorem attribute_tells : Tells (fun text : String => escape text ++ ['"']) id := by
  have unquoted (char : Char) (rest others : List Char) :
      escapeChar char ++ rest ≠ ['"'] ++ others := by
    unfold escapeChar
    split <;> simp_all
  intro first second rest others same
  obtain ⟨texts, ends⟩ := escapeChar_tells.each ['"'] unquoted first.toList second.toList rest
    others same
  rw [List.map_id, List.map_id] at texts
  exact ⟨String.toList_injective texts, ends⟩

/-- A name in an attribute is told by it, together with what stands behind the closing quote. -/
theorem attribute_ends {first second : String} {stop : String} {rest others : List Char}
    (quoted : stop.toList = '"' :: stop.toList.tail)
    (same : escape first ++ (stop.toList ++ rest) = escape second ++ (stop.toList ++ others)) :
    first = second ∧ rest = others := by
  rw [quoted] at same
  obtain ⟨names, ends⟩ := attribute_tells first second (stop.toList.tail ++ rest)
    (stop.toList.tail ++ others) (by simpa using same)
  exact ⟨names, List.append_cancel_left ends⟩

/-- A line in front of a text, part by part. -/
theorem line_append (indentation : Nat) (parts : List (List Char)) (rest : List Char) :
    line indentation parts ++ rest =
      List.replicate indentation ' ' ++ (parts.flatten ++ '\n' :: rest) := by
  simp [line]

/-- The element of a property tells the property. The attribute that says that a property cannot be
null is not the end of the element, so it is told from its absence. -/
theorem Property.element_tells : Tells Property.element id := by
  intro first second rest others same
  simp only [Property.element, line_append, List.flatten_cons, List.flatten_nil, List.append_assoc,
    List.append_nil, List.append_cancel_left_eq] at same
  obtain ⟨names, same⟩ := attribute_ends (by decide) same
  obtain ⟨types, same⟩ := attribute_ends (by decide) same
  obtain ⟨name, typeName, nullable⟩ := first
  obtain ⟨other, otherType, otherNullable⟩ := second
  obtain rfl : name = other := names
  obtain rfl : typeName = otherType := types
  cases nullable <;> cases otherNullable <;> simp_all

/-- A name in the only attribute of a line that varies is told by the line. -/
theorem line_ends {indentation : Nat} {start : List Char} {first second stop : String}
    {rest others : List Char} (quoted : stop.toList = '"' :: stop.toList.tail)
    (same : line indentation [start, escape first, stop.toList] ++ rest =
      line indentation [start, escape second, stop.toList] ++ others) :
    first = second ∧ rest = others := by
  simp only [line_append, List.flatten_cons, List.flatten_nil, List.append_assoc, List.append_nil,
    List.append_cancel_left_eq] at same
  obtain ⟨names, ends⟩ := attribute_ends quoted same
  exact ⟨names, (List.cons.inj ends).2⟩

/-- The element of an entity type tells the name, the key and the properties of the type. Each line
is read in turn; the properties end where the line that closes the element begins. -/
theorem EntitySet.typeElement_tells : Tells EntitySet.typeElement
    fun entitySet => (entitySet.typeName, entitySet.key, entitySet.properties) := by
  have ended (property : Property) (rest others : List Char) :
      property.element ++ rest ≠ line 6 ["</EntityType>".toList] ++ others := by
    simp [Property.element, line_append, opening, List.replicate]
  intro first second rest others same
  simp only [EntitySet.typeElement, List.append_assoc] at same
  obtain ⟨types, same⟩ := line_ends (by decide) same
  obtain ⟨keys, same⟩ := line_ends (by decide) (List.append_cancel_left same)
  obtain ⟨properties, ends⟩ := Property.element_tells.each (line 6 ["</EntityType>".toList]) ended
    first.properties second.properties rest others (by simpa using List.append_cancel_left same)
  rw [List.map_id, List.map_id] at properties
  exact ⟨Prod.ext types (Prod.ext keys properties), ends⟩

/-- The element that puts an entity set into the container tells the name of the set. -/
theorem EntitySet.element_tells (schema : String) :
    Tells (EntitySet.element schema) EntitySet.name := by
  intro first second rest others same
  simp only [EntitySet.element, line_append, List.flatten_cons, List.flatten_nil,
    List.append_assoc, List.append_nil, List.append_cancel_left_eq] at same
  obtain ⟨names, same⟩ := attribute_ends (by decide) same
  obtain ⟨-, ends⟩ := attribute_ends (by decide)
    (List.append_cancel_left (List.append_cancel_left same))
  exact ⟨names, (List.cons.inj ends).2⟩

/-- The text of metadata tells the metadata. The schema is read first, then one element for each
type up to the container, then the container and one element for each entity set; the two lists
together hold every part of an entity set. -/
theorem eq_of_toText_eq {first second : Metadata} (same : first.toText = second.toText) :
    first = second := by
  have typesEnd (entitySet : EntitySet) (rest others : List Char) :
      entitySet.typeElement ++ rest ≠
        (List.replicate 6 ' ' ++ opening "EntityContainer" "Name") ++ others := by
    simp [EntitySet.typeElement, line_append, opening]
  have setsEnd (entitySet : EntitySet) (rest others : List Char) :
      entitySet.element first.schema ++ rest ≠ line 6 ["</EntityContainer>".toList] ++ others := by
    simp [EntitySet.element, line_append, opening, List.replicate]
  have texts := String.ofList_injective same
  simp only [List.append_assoc, List.append_cancel_left_eq] at texts
  obtain ⟨schemas, texts⟩ := line_ends (by decide) texts
  rw [line_append 6 [opening "EntityContainer" "Name", _, _],
    line_append 6 [opening "EntityContainer" "Name", _, _]] at texts
  obtain ⟨types, texts⟩ := EntitySet.typeElement_tells.each _ typesEnd first.entitySets
    second.entitySets _ _ (by simpa only [List.flatten_cons, List.append_assoc] using texts)
  obtain ⟨containers, texts⟩ := attribute_ends (by decide) texts
  rw [← schemas] at texts
  obtain ⟨names, -⟩ := (EntitySet.element_tells first.schema).each _ setsEnd first.entitySets
    second.entitySets _ _ (by simpa only [List.append_assoc] using (List.cons.inj texts).2)
  have views : first.entitySets.map (fun entitySet =>
        (entitySet.name, entitySet.typeName, entitySet.key, entitySet.properties)) =
      second.entitySets.map (fun entitySet =>
        (entitySet.name, entitySet.typeName, entitySet.key, entitySet.properties)) := by
    rw [← List.zip_map', names, types, List.zip_map']
  have told : Function.Injective fun entitySet : EntitySet =>
      (entitySet.name, entitySet.typeName, entitySet.key, entitySet.properties) := by
    rintro ⟨⟩ ⟨⟩ same
    simpa using same
  obtain ⟨schema, container, entitySets⟩ := first
  obtain ⟨otherSchema, otherContainer, otherSets⟩ := second
  obtain rfl : schema = otherSchema := schemas
  obtain rfl : container = otherContainer := containers
  obtain rfl : entitySets = otherSets := (List.map_inj_right fun _ _ same => told same).mp views
  rfl

section Markup

/-- Whether a character belongs to the markup of a document: it closes an attribute, or begins or
ends an element. -/
def isMarkup (char : Char) : Bool := ['"', '<', '>'].contains char

/-- The property without its names. -/
def Property.unnamed (property : Property) : Property := ⟨"", "", property.nullable⟩

/-- The entity set without its names. -/
def EntitySet.unnamed (entitySet : EntitySet) : EntitySet :=
  ⟨"", "", "", entitySet.properties.map Property.unnamed⟩

/-- The metadata without their names. -/
def unnamed (metadata : Metadata) : Metadata :=
  ⟨"", "", metadata.entitySets.map EntitySet.unnamed⟩

/-- There is no markup in an escaped text. -/
theorem filter_escape (text : String) : (escape text).filter isMarkup = [] := by
  rw [escape, List.filter_flatMap]
  refine List.flatMap_eq_nil_iff.mpr fun char _ => ?_
  rcases escapeChar_cases char with ⟨reference, listed, -, form⟩ | ⟨plain, form⟩
  · have unmarked : ∀ reference ∈ references, reference.2.toList.filter isMarkup = [] := by decide
    rw [form, unmarked reference listed]
  · rw [form]
    simp_all [references, isMarkup]

/-- The markup of a line is that of its parts. -/
theorem filter_line (indentation : Nat) (parts : List (List Char)) :
    (line indentation parts).filter isMarkup =
      (parts.map fun part => part.filter isMarkup).flatten := by
  have blanks : (List.replicate indentation ' ').filter isMarkup = [] :=
    List.filter_eq_nil_iff.mpr fun char inside => List.eq_of_mem_replicate inside ▸ by decide
  have lineEnd : ['\n'].filter isMarkup = [] := by decide
  simp only [line, List.filter_append, blanks, lineEnd, List.filter_flatten, List.nil_append,
    List.append_nil]

/-- The markup of a property's element does not depend on the names in it. -/
theorem Property.filter_element (property : Property) :
    property.element.filter isMarkup = property.unnamed.element.filter isMarkup := by
  simp only [Property.element, Property.unnamed, filter_line, List.map_cons, List.map_nil,
    filter_escape]
  rfl

/-- The markup of an entity type's element does not depend on the names in it. -/
theorem EntitySet.filter_typeElement (entitySet : EntitySet) :
    entitySet.typeElement.filter isMarkup = entitySet.unnamed.typeElement.filter isMarkup := by
  simp only [EntitySet.typeElement, EntitySet.unnamed, List.filter_append, filter_line,
    List.map_cons, List.map_nil, filter_escape, List.filter_flatMap, List.flatMap_map]
  rw [funext Property.filter_element]

/-- The markup of an entity set's element does not depend on the names in it. -/
theorem EntitySet.filter_element (schema : String) (entitySet : EntitySet) :
    (entitySet.element schema).filter isMarkup =
      (entitySet.unnamed.element "").filter isMarkup := by
  simp only [EntitySet.element, EntitySet.unnamed, filter_line, List.map_cons, List.map_nil,
    filter_escape]

/-- The markup of the text does not depend on the names in it. -/
theorem filter_toText (metadata : Metadata) :
    metadata.toText.toList.filter isMarkup = metadata.unnamed.toText.toList.filter isMarkup := by
  simp only [toText, unnamed, String.toList_ofList, List.filter_append, filter_line,
    List.map_cons, List.map_nil, filter_escape, List.filter_flatMap, List.flatMap_map]
  rw [funext EntitySet.filter_typeElement, funext (EntitySet.filter_element metadata.schema)]

end Markup

/-- The text of metadata cannot be forged through names. Different metadata have different texts,
whatever their names are; and no name closes an attribute or introduces an element, since the markup
is that of the same metadata without names. The escaping behind both is the replacement of the
escaped characters one after the other, the ampersand first.

Proof: an escaped name holds no quote, so it ends at the first quote behind it, and escaping is
undone by its forms. Each element therefore tells what it was made of and where it ends, and lists
of elements do so by induction. For the markup, escaped names hold none of its characters. -/
theorem text_unforgeable :
    Function.Injective toText ∧
    (∀ metadata : Metadata, metadata.toText.toList.filter isMarkup =
      metadata.unnamed.toText.toList.filter isMarkup) ∧
    (∀ text : String, escape text = replaceInTurn references text.toList) :=
  ⟨fun _ _ => eq_of_toText_eq, filter_toText, escape_replacements⟩

end Metadata

end DocumentQuery
