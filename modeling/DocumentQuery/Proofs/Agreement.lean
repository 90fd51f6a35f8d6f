import DocumentQuery.Json.Draft
import DocumentQuery.Proofs.Json.Repeats
import DocumentQuery.Proofs.Pipeline.Partition
import DocumentQuery.Proofs.Predicate
import DocumentQuery.Store.Basic

/-!
# Where equality and order agree

Equality and order recur over values on their own, and they treat objects differently: equality
looks into them, while the order does not tell them apart. On values that hold no object they agree,
so a number or a text equals a bound exactly if it is neither below nor above it.

Equality walks the members of one side only. It does not depend on the side as long as names are
not repeated, and names are not repeated in anything that is read from a text, nor in what stands at
a path in it. So it makes no difference on which side a check by equality has the older value.
-/

namespace DocumentQuery

namespace Json

/-- Whether a value holds no object at any depth. Objects are the only values that equality looks
into and the order does not. -/
inductive IsObjectFree : Json → Prop where
  | null : IsObjectFree .null
  | bool (value : Bool) : IsObjectFree (.bool value)
  | number (value : Number) : IsObjectFree (.number value)
  | string (text : String) : IsObjectFree (.string text)
  | array {items : List Json} (each : ∀ item ∈ items, IsObjectFree item) :
      IsObjectFree (.array items)

/-- Lists compare equal exactly if they are equal, if this holds of the items of the first. -/
theorem compareItems_eq_iff (lefts rights : List Json)
    (each : ∀ left ∈ lefts, ∀ right : Json, left.compare right = .eq ↔ left.equal right = true) :
    compareItems lefts rights = .eq ↔ equalItems lefts rights = true := by
  induction lefts generalizing rights with
  | nil => cases rights <;> simp [compareItems, equalItems]
  | cons left lefts inductionHypothesis =>
    cases rights with
    | nil => simp [compareItems, equalItems]
    | cons right rights =>
      obtain ⟨first, others⟩ := List.forall_mem_cons.mp each
      rw [compareItems_cons, equalItems, Ordering.then_eq_eq, Bool.and_eq_true, first right,
        inductionHypothesis rights others]

/-- A value that holds no object compares equal to exactly those that it is equal to. Nothing is
asked of the other side, since an object there meets a value of another kind. -/
theorem IsObjectFree.compare_eq_iff {left : Json} (plain : left.IsObjectFree) (right : Json) :
    left.compare right = .eq ↔ left.equal right = true := by
  induction plain generalizing right with
  | null => cases right <;> simp [compare, equal, rank]
  | bool first => cases right <;> simp [compare, equal, rank]
  | number first =>
    cases right with
    | number second => exact (Number.equal_iff first second).symm
    | _ => simp [compare, equal, rank]
  | string first => cases right <;> simp [compare, equal, rank]
  | @array lefts each inductionHypothesis =>
    cases right with
    | array rights => exact compareItems_eq_iff lefts rights inductionHypothesis
    | _ => simp [compare, equal, rank]

/-- Two objects always compare equal, whether they are equal or not. -/
example : (object [("a", .ofInt 1)]).compare (object []) = .eq ∧
    (object [("a", .ofInt 1)]).equal (object []) = false := by decide

section Proper

variable {among : Number → Prop}

/-- Equality does not depend on the side if no object repeats a name. -/
theorem IsProper.equal_comm {left right : Json} (proper : left.IsProper among)
    (other : right.IsProper among) : left.equal right = right.equal left :=
  Bool.eq_iff_iff.mpr ⟨proper.equal_symm other, other.equal_symm proper⟩

/-- Entries become an object in which no name is repeated. -/
theorem IsProper.ofList (entries : List (String × Json))
    (each : ∀ entry ∈ entries, entry.2.IsProper among) :
    (Json.object (Members.ofList entries)).IsProper among :=
  .object (Members.distinct_ofList entries) fun member present =>
    each member (Members.mem_ofList entries member present)

/-- What stands at a path of a value repeats no names if the value does not. Each step of the path
leads to a member of an object or an item of an array, and these are proper with the whole. -/
theorem IsProper.get (path : Path) {document value : Json} (proper : document.IsProper among)
    (found : get? path document = some value) : value.IsProper among := by
  induction path generalizing document with
  | nil => exact Option.some.inj found ▸ proper
  | cons step path inductionHypothesis =>
    cases proper with
    | object distinct each =>
      obtain ⟨inner, named, within⟩ := Option.bind_eq_some_iff.mp found
      exact inductionHypothesis (each _ (Members.mem_of_get step inner _ named)) within
    | array each =>
      obtain ⟨inner, item, within⟩ := Option.bind_eq_some_iff.mp found
      obtain ⟨index, -, placed⟩ := Option.bind_eq_some_iff.mp item
      exact inductionHypothesis (each _ (List.mem_of_getElem? placed)) within
    | _ => exact absurd found nofun

/-- The same of the value of a member. -/
theorem IsProper.member {document value : Json} (name : String) (proper : document.IsProper among)
    (found : document.member? name = some value) : value.IsProper among := by
  cases proper with
  | object distinct each => exact each _ (Members.mem_of_get name value _ found)
  | _ => exact absurd found nofun

/-- The same of a value that is null if it is missing. -/
theorem IsProper.getD {value : Option Json} (proper : ∀ present ∈ value, present.IsProper among) :
    (value.getD .null).IsProper among := by
  cases value with
  | none => exact .null
  | some present => exact proper present rfl

end Proper

mutual

/-- No object of a value that a text writes repeats a name: entries become an object by setting one
name after the other. The three proofs follow the nesting of drafts, of their items and of their
members. -/
theorem Draft.json_namesOnce (draft : Draft) (value : Json) (read : draft.json = .ok value) :
    value.NamesOnce := by
  cases draft with
  | null => exact Except.ok.inj read ▸ .null
  | bool truth => exact Except.ok.inj read ▸ .bool truth
  | number number => exact Except.ok.inj read ▸ .number trivial
  | string text => exact Except.ok.inj read ▸ .string text
  | array items =>
    obtain ⟨values, made, rfl⟩ := (map_ok_iff _ _ _).mp read
    exact .array (Draft.jsonItems_namesOnce items values made)
  | object members =>
    obtain ⟨entries, made, rfl⟩ := (map_ok_iff _ _ _).mp read
    exact .ofList entries (Draft.jsonMembers_namesOnce members entries made)
  | _ => exact absurd read nofun
termination_by structural draft

/-- The same of the items of an array. -/
theorem Draft.jsonItems_namesOnce (items : List Draft) (values : List Json)
    (read : Draft.jsonItems items = .ok values) : ∀ value ∈ values, value.NamesOnce := by
  match items with
  | [] => exact Except.ok.inj read ▸ nofun
  | item :: items =>
    obtain ⟨first, made, rest⟩ := (bind_ok_iff _ _ _).mp read
    obtain ⟨others, behind, joined⟩ := (bind_ok_iff _ _ _).mp rest
    rw [← Except.ok.inj joined]
    exact List.forall_mem_cons.mpr ⟨Draft.json_namesOnce item first made,
      Draft.jsonItems_namesOnce items others behind⟩
termination_by structural items

/-- The same of the members of an object. -/
theorem Draft.jsonMembers_namesOnce (members : List (Option String × Draft))
    (entries : List (String × Json)) (read : Draft.jsonMembers members = .ok entries) :
    ∀ entry ∈ entries, entry.2.NamesOnce := by
  match members with
  | [] => exact Except.ok.inj read ▸ nofun
  | (none, _) :: _ => exact absurd read nofun
  | (some name, draft) :: members =>
    obtain ⟨value, made, rest⟩ := (bind_ok_iff _ _ _).mp read
    obtain ⟨others, behind, joined⟩ := (bind_ok_iff _ _ _).mp rest
    rw [← Except.ok.inj joined]
    exact List.forall_mem_cons.mpr ⟨Draft.json_namesOnce draft value made,
      Draft.jsonMembers_namesOnce members others behind⟩
termination_by structural members

end

/-- Items that are what their drafts write are the items that the list of these writes. -/
theorem Draft.jsonItems_ofItems (items : List Json)
    (each : ∀ item ∈ items, (Draft.ofJson item).json = .ok item) :
    Draft.jsonItems (Draft.ofItems items) = .ok items := by
  induction items with
  | nil => rfl
  | cons item items inductionHypothesis =>
    obtain ⟨first, others⟩ := List.forall_mem_cons.mp each
    simp only [Draft.ofItems, Draft.jsonItems, first, inductionHypothesis others, ok_bind,
      pure_eq_ok]

/-- The same of the members of an object. -/
theorem Draft.jsonMembers_ofMembers (members : Members Json)
    (each : ∀ member ∈ members, (Draft.ofJson member.2).json = .ok member.2) :
    Draft.jsonMembers (Draft.ofMembers members) = .ok members := by
  induction members with
  | nil => rfl
  | cons member members inductionHypothesis =>
    obtain ⟨first, others⟩ := List.forall_mem_cons.mp each
    simp only [Draft.ofMembers, Draft.jsonMembers, first, inductionHypothesis others, ok_bind,
      pure_eq_ok]

/-- A value is what its draft writes if no object in it repeats a name. -/
theorem IsProper.json_ofJson {among : Number → Prop} {value : Json}
    (proper : value.IsProper among) : (Draft.ofJson value).json = .ok value := by
  induction proper with
  | array each inductionHypothesis =>
    rw [Draft.ofJson, Draft.json, Draft.jsonItems_ofItems _ inductionHypothesis]
    rfl
  | @object members distinct each inductionHypothesis =>
    rw [Draft.ofJson, Draft.json, Draft.jsonMembers_ofMembers _ inductionHypothesis]
    exact congrArg (fun members => Except.ok (Json.object members))
      (Members.ofList_distinct members distinct)
  | _ => rfl

/-- The values in which no object repeats a name are those that can be written. -/
theorem namesOnce_iff (value : Json) :
    value.NamesOnce ↔ ∃ draft : Draft, draft.json = .ok value :=
  ⟨fun once => ⟨.ofJson value, once.json_ofJson⟩,
    fun ⟨draft, read⟩ => Draft.json_namesOnce draft value read⟩

/-- A value that can be a bound: a number or a text. -/
def IsBound (bound : Json) : Prop := (∃ value, bound = .number value) ∨ ∃ text, bound = .string text

/-- A value equals a bound exactly if it is comparable to it, and neither below nor above it.
Numbers and texts are values without objects, for which equality is to compare equal; nothing else
is comparable to them or equal. -/
theorem IsBound.equal_eq {bound : Json} (limits : bound.IsBound) (value : Json) :
    value.equal bound = ((value.compareLike? bound).any (· != .lt) &&
      (value.compareLike? bound).any (· != .gt)) := by
  have neither (order : Ordering) : (order = .eq) ↔ (order != .lt && order != .gt) = true := by
    cases order <;> decide
  rw [Bool.eq_iff_iff]
  obtain ⟨upper, rfl⟩ | ⟨upper, rfl⟩ := limits
  · cases value with
    | number value => exact (Number.equal_iff value upper).trans (neither _)
    | _ => simp [equal, compareLike?]
  · cases value with
    | string value =>
      exact ((IsObjectFree.string value).compare_eq_iff (.string upper)).symm.trans (neither _)
    | _ => simp [equal, compareLike?]

end Json

namespace Predicate

/-- The condition that a value lies between a bound and itself. -/
def atBound (bound : Json) : Json := .object [("$gte", bound), ("$lte", bound)]

/-- The operator of equality decides equality. -/
theorem meets_eq (actual : Option Json) (bound : Json) :
    meets actual (clause "$eq" bound) = .ok (equals actual bound) := by
  refine meets_operator actual "$eq" bound _ (by decide) ?_
  simp only [meetsAll, ok_bind]

/-- To lie between a bound and itself is to be not below it and not above it. -/
theorem meets_atBound (actual : Option Json) (bound : Json) :
    meets actual (atBound bound) =
      .ok (compares actual bound (· != .lt) && compares actual bound (· != .gt)) := by
  have operators : holdsOperators [("$gte", bound), ("$lte", bound)] = true := by
    simp [holdsOperators, isOperator]
  simp only [meets, atBound, operators, if_true, meetsAll, ok_bind]
  cases compares actual bound (· != .lt) <;> cases compares actual bound (· != .gt) <;> rfl

/-- A field that is no array equals a number or a text exactly if it is not below and not above it.
An array may have one item that is not below a bound and another that is not above it. -/
theorem meets_eq_atBound (actual : Option Json) (bound : Json) (limits : bound.IsBound)
    (single : ∀ items, actual ≠ some (.array items)) :
    meets actual (clause "$eq" bound) = meets actual (atBound bound) := by
  rw [meets_eq, meets_atBound]
  cases actual with
  | none => obtain ⟨_, rfl⟩ | ⟨_, rfl⟩ := limits <;> rfl
  | some value =>
    cases value with
    | array items => exact absurd rfl (single items)
    | _ => simp [equals, compares, limits.equal_eq]

end Predicate

/-- No object of the keys of a row repeats a name if none of the row does. -/
theorem groupKey_namesOnce (keys : List String) {row : Json} (once : row.NamesOnce) :
    (groupKey keys row).NamesOnce := by
  refine .ofList _ fun entry listed => ?_
  obtain ⟨key, -, rfl⟩ := List.mem_map.mp listed
  exact .getD fun _ found => once.get _ found

section Checks

/-- Whether groups have equal keys does not depend on which of them is older. -/
theorem groupKey_comm (keys : List String) {first second : Json} (once : first.NamesOnce)
    (others : second.NamesOnce) :
    (groupKey keys first).equal (groupKey keys second) =
      (groupKey keys second).equal (groupKey keys first) :=
  (groupKey_namesOnce keys once).equal_comm (groupKey_namesOnce keys others)

/-- Whether an identity is there already can be asked of it as well as of those that are there. -/
theorem Store.hasIdentity_comm (rows : List Json) (identity : Json) (once : identity.NamesOnce)
    (others : ∀ row ∈ rows, row.NamesOnce) :
    Store.hasIdentity rows identity = rows.any fun row =>
      (row.member? identityField).any fun existing => identity.equal existing := by
  rw [Store.hasIdentity, Bool.eq_iff_iff, List.any_eq_true, List.any_eq_true]
  refine exists_congr fun row => and_congr_right fun present => ?_
  cases found : row.member? identityField with
  | none => rfl
  | some existing =>
    rw [Option.any_some, Option.any_some,
      ((others row present).member identityField found).equal_comm once]

/-- A value that is no array joins those that it is equal to, missing values being null. -/
theorem Join.matches_eq (localValue foreignValue : Option Json)
    (single : ∀ items, localValue ≠ some (.array items)) :
    Join.matches localValue foreignValue =
      (localValue.getD .null).equal (foreignValue.getD .null) := by
  have absent (value : Json) : value.isNull = Json.null.equal value := by cases value <;> rfl
  cases localValue with
  | none => exact absent _
  | some value =>
    cases value with
    | null => exact absent _
    | array items => exact absurd rfl (single items)
    | _ => rfl

/-- Values that are no arrays join in both directions or in none. -/
theorem Join.matches_comm {first second : Option Json}
    (once : ∀ value ∈ first, value.NamesOnce) (others : ∀ value ∈ second, value.NamesOnce)
    (single : ∀ items, first ≠ some (.array items))
    (alone : ∀ items, second ≠ some (.array items)) :
    Join.matches first second = Join.matches second first := by
  rw [Join.matches_eq first second single, Join.matches_eq second first alone]
  exact (Json.IsProper.getD once).equal_comm (Json.IsProper.getD others)

/-- Whether an array joins a value can be asked of the value as well as of the items. -/
theorem Join.matches_items (items : List Json) {foreignValue : Option Json}
    (once : ∀ item ∈ items, item.NamesOnce) (others : ∀ value ∈ foreignValue, value.NamesOnce) :
    Join.matches (some (.array items)) foreignValue =
      items.any fun item => (foreignValue.getD .null).equal item := by
  rw [Join.matches, Bool.eq_iff_iff, List.any_eq_true, List.any_eq_true]
  refine exists_congr fun item => and_congr_right fun present => ?_
  rw [(once item present).equal_comm (Json.IsProper.getD others)]

end Checks

/-- Equality and order of values agree where no objects are in them, and equality is reflexive and
symmetric on all values that a text can write. So equality with a number or a text is to be not
below and not above it, and the checks of groups, of identities and of joins do not depend on the
order in which they are given what they compare.

Proof: by induction on values for each of the first parts. The values that a text writes are those
in which no object repeats a name, and only such objects have the same members from both sides. What
stands at a path of such a value, and the key that is made of some of its values, repeat no names
either, which gives the parts about the checks. -/
theorem equality_agrees :
    (∀ left right : Json, left.IsObjectFree → right.IsObjectFree →
      (Json.compareOptional (some left) (some right) = .eq ↔ left.equal right = true)) ∧
    (∀ value : Json, value.NamesOnce ↔ ∃ draft : Json.Draft, draft.json = .ok value) ∧
    (∀ value : Json, value.NamesOnce → value.equal value = true) ∧
    (∀ left right : Json, left.NamesOnce → right.NamesOnce →
      left.equal right = right.equal left) ∧
    (∀ (actual : Option Json) (bound : Json), bound.IsBound →
      (∀ items, actual ≠ some (.array items)) →
      Predicate.meets actual (Predicate.clause "$eq" bound) =
        Predicate.meets actual (Predicate.atBound bound)) ∧
    (∀ (keys : List String) (first second : Json), first.NamesOnce → second.NamesOnce →
      (groupKey keys first).equal (groupKey keys second) =
        (groupKey keys second).equal (groupKey keys first)) ∧
    (∀ (rows : List Json) (identity : Json), identity.NamesOnce → (∀ row ∈ rows, row.NamesOnce) →
      Store.hasIdentity rows identity = rows.any fun row =>
        (row.member? identityField).any fun existing => identity.equal existing) ∧
    (∀ first second : Option Json, (∀ value ∈ first, value.NamesOnce) →
      (∀ value ∈ second, value.NamesOnce) → (∀ items, first ≠ some (.array items)) →
      (∀ items, second ≠ some (.array items)) →
      Join.matches first second = Join.matches second first) ∧
    (∀ (items : List Json) (foreignValue : Option Json), (∀ item ∈ items, item.NamesOnce) →
      (∀ value ∈ foreignValue, value.NamesOnce) →
      Join.matches (some (.array items)) foreignValue =
        items.any fun item => (foreignValue.getD .null).equal item) :=
  ⟨fun _ right plain _ => plain.compare_eq_iff right, Json.namesOnce_iff,
    fun _ once => once.equal_refl, fun _ _ once others => once.equal_comm others,
    Predicate.meets_eq_atBound, fun keys _ _ once others => groupKey_comm keys once others,
    Store.hasIdentity_comm, fun _ _ once others single alone =>
      Join.matches_comm once others single alone,
    fun items _ once others => Join.matches_items items once others⟩

/-- An object. -/
def inOrder : Json := .object [("a", .ofInt 1), ("b", .null)]

/-- The object with its members in the other order and its number held as a binary64 number. -/
def reordered : Json := .object [("b", .null), ("a", .number (.float (.ofNat 1)))]

/-- The two objects are equal from both sides, also as keys of groups, identities and partners, and
their numbers agree in equality and order. -/
theorem reordered_agrees :
    inOrder.NamesOnce ∧ reordered.NamesOnce ∧
    Json.compareOptional (some (.array [.ofInt 1, .string "x"]))
      (some (.array [.number (.float (.ofNat 1)), .string "x"])) = .eq ∧
    reordered.equal reordered = true ∧
    reordered.equal inOrder = true ∧
    Predicate.meets (some (.ofInt 1)) (Predicate.atBound (.number (.float (.ofNat 1)))) =
      .ok true ∧
    (groupKey ["b", "a"] reordered).equal (groupKey ["b", "a"] inOrder) = true ∧
    Store.hasIdentity [.object [(identityField, inOrder)]] reordered = true ∧
    Join.matches (some reordered) (some inOrder) = true ∧
    Join.matches (some (.array [inOrder])) (some reordered) = true := by
  obtain ⟨plain, once, reflexive, symmetric, limits, groups, identities, joins, items⟩ :=
    equality_agrees
  have list (number : Number) : (Json.array [.number number, .string "x"]).IsObjectFree :=
    .array (by simpa using ⟨.number number, .string "x"⟩)
  have written : inOrder.NamesOnce := (once _).mpr ⟨.ofJson inOrder, by decide +kernel⟩
  have other : reordered.NamesOnce := (once _).mpr ⟨.ofJson reordered, by decide +kernel⟩
  have row : (Json.object [(identityField, inOrder)]).NamesOnce :=
    .object (by decide) (List.forall_mem_singleton.mpr written)
  refine ⟨written, other, ?_, reflexive _ other, ?_, ?_, ?_, ?_, ?_, ?_⟩
  · exact (plain _ _ (list _) (list _)).mpr (by decide +kernel)
  · rw [symmetric _ _ other written]
    decide +kernel
  · rw [← limits _ _ (.inl ⟨_, rfl⟩) (by simp [Json.ofInt]), Predicate.meets_eq]
    exact congrArg Except.ok (by decide +kernel)
  · rw [groups _ _ _ other written]
    decide +kernel
  · rw [identities _ _ other (List.forall_mem_singleton.mpr row)]
    decide +kernel
  · rw [joins _ _ (by simpa using other) (by simpa using written) (by simp [reordered])
      (by simp [inOrder])]
    decide +kernel
  · rw [items _ _ (List.forall_mem_singleton.mpr written) (by simpa using other)]
    decide +kernel

end DocumentQuery
