import DocumentQuery.Proofs.Batch.IdentityKeys
import DocumentQuery.Proofs.Batch.Writes

/-!
# The row that a key addresses

A key is compared by the predicate with one clause, the key field's. That clause means equality
with the key, unless the key is itself read as a condition, or the value of the key field is an
array that lists the key. Where neither is so, an update or a deletion touches one row with the key
and nothing else, and nothing at all if no row has the key. Keys in URLs are numbers and texts,
which are no conditions; keys in bodies may be any values.
-/

namespace DocumentQuery

namespace Json

/-- Whether the value of a row's key field equals a key. -/
def hasKey (row : Json) (keyField : String) (key : Json) : Bool :=
  (row.valueAt? keyField).any fun value => value.equal key

/-- Whether the value of a row's key field is an array with an item that equals a key. -/
def listsKey (row : Json) (keyField : String) (key : Json) : Bool :=
  ((row.valueAt? keyField).bind array?).any fun items => items.any fun item => item.equal key

/-- A key field equals a key that is not null if the row has the key or lists it. -/
theorem equals_valueAt (row : Json) (keyField : String) (key : Json) (given : key.isNull = false) :
    Predicate.equals (row.valueAt? keyField) key =
      (row.hasKey keyField key || row.listsKey keyField key) := by
  unfold hasKey listsKey
  cases row.valueAt? keyField with
  | none => exact given
  | some value => cases value <;> rfl

end Json

namespace Batch

/-- Whether the predicate of a key reads it as a condition: an object of operators, or the terms
of a combinator whose name the key field has. -/
def IsCondition (keyField : String) : Json → Prop
  | .object members => Predicate.holdsOperators members = true
  | .array _ => keyField ∈ ["$and", "$or", "$nor"]
  | _ => False

/-- No row meets a clause under the name of an operator, unless that is a combinator with
terms. Without terms a combinator is refused, and any other operator is unknown where a field
is expected. -/
theorem not_met_operator (name : String) (condition row : Json)
    (operator : Predicate.isOperator name = true)
    (termless : name ∈ ["$and", "$or", "$nor"] → ∀ terms, condition ≠ .array terms) :
    Predicate.holds row (Predicate.clause name condition) ≠ .ok true := by
  intro met
  by_cases combinator : name ∈ ["$and", "$or", "$nor"]
  · have refused : Predicate.decideTerms row condition = .error .termsNotAnArray := by
      cases condition with
      | array terms => exact absurd rfl (termless combinator terms)
      | _ => rfl
    simp only [List.mem_cons, List.not_mem_nil, or_false] at combinator
    rcases combinator with rfl | rfl | rfl
    all_goals
      simp only [Predicate.clause, Predicate.holds, Predicate.holdsAll, refused] at met
      cases met
  · have andName : name ≠ "$and" := fun same => combinator (by simp [same])
    have orName : name ≠ "$or" := fun same => combinator (by simp [same])
    have norName : name ≠ "$nor" := fun same => combinator (by simp [same])
    simp only [Predicate.clause, Predicate.holds, Predicate.holdsAll, operator, if_true] at met
    cases met

/-- A row that meets the predicate of a key that is no condition has the key or lists it. The key
field is then no operator, since that would be met by no row, so the predicate asks whether the
value of the field, or an item of it, equals the key. -/
theorem hasKey_of_met (keyField : String) (key row : Json) (given : key.isNull = false)
    (value : ¬ IsCondition keyField key)
    (met : Predicate.holds row (keyPredicate keyField key) = .ok true) :
    row.hasKey keyField key = true ∨ row.listsKey keyField key = true := by
  have field : Predicate.isOperator keyField = false := by
    by_contra operator
    refine not_met_operator keyField key row (eq_true_of_ne_false operator) ?_ met
    rintro combinator terms rfl
    exact value combinator
  have equality (actual : Option Json) :
      Predicate.meets actual key = .ok (Predicate.equals actual key) := by
    cases key with
    | object members =>
      have plain : Predicate.holdsOperators members = false := eq_false_of_ne_true value
      simp only [Predicate.meets, plain, Bool.false_eq_true, if_false]
    | _ => rfl
  rw [keyPredicate, Predicate.holds_field row keyField key field, equality,
    Json.equals_valueAt row keyField key given] at met
  exact Bool.or_eq_true_iff.mp (Except.ok.inj met)

/-- A key in a URL is a number or a text. -/
theorem keyOfText_scalar (keyField : String) (text : List Char) :
    ¬ IsCondition keyField (keyOfText text) ∧ (keyOfText text).isNull = false := by
  unfold keyOfText
  split
  · exact ⟨id, rfl⟩
  · split
    · exact ⟨id, rfl⟩
    · exact ⟨id, rfl⟩

/-- A key behind the name of an entity set is written as a text, whether it stands in parentheses or
behind a slash, and whether the text has quotes or not. -/
theorem keyOfPath_text (rest : String) (key : Json) (found : keyOfPath? rest = some key) :
    ∃ text, key = keyOfText text := by
  have ended (text after : List Char)
      (read : (if after.isEmpty || after == ['/'] then some (keyOfText text) else none) =
        some key) : ∃ text, key = keyOfText text := by
    split at read
    · exact ⟨text, (Option.some.inj read).symm⟩
    · exact absurd read (by simp)
  unfold keyOfPath? at found
  dsimp only at found
  split at found
  · obtain ⟨⟨text, after⟩, _, read⟩ := Option.bind_eq_some_iff.mp found
    exact ended text after read
  · obtain ⟨⟨text, after⟩, _, closed⟩ := Option.bind_eq_some_iff.mp found
    dsimp only at closed
    split at closed
    · exact ended _ _ closed
    · exact absurd closed (by simp)
  · exact absurd found (by simp)

/-- The key of an operation is not null, and it is no condition if it stands in the URL. There it is
a text or a number; only a key that is taken from the body may be an object. -/
theorem Target.key_cases (target : Target) (operation : Operation) (rest : String) (key : Json)
    (keyed : target.key? operation rest = some key) :
    key.isNull = false ∧ (keyOfPath? rest ≠ none → ¬ IsCondition target.keyField key) := by
  unfold Target.key? at keyed
  cases written : keyOfPath? rest with
  | some named =>
    rw [written] at keyed
    obtain rfl : named = key := Option.some.inj keyed
    obtain ⟨text, rfl⟩ := keyOfPath_text rest named written
    obtain ⟨value, given⟩ := keyOfText_scalar target.keyField text
    exact ⟨given, fun _ => value⟩
  | none =>
    rw [written] at keyed
    have given := (Option.filter_eq_some_iff.mp keyed).2
    exact ⟨by simpa using given, fun some => absurd rfl some⟩

/-- Whether a store differs from another in one row with a key at most, which was changed or
removed. -/
structure Touches (collection keyField : String) (key : Json) (before after : Store) : Prop where
  others : ∀ other, other ≠ collection → after.rows other = before.rows other
  rows : after.rows collection = before.rows collection ∨
    ∃ front row back, before.rows collection = front ++ row :: back ∧
      row.hasKey keyField key = true ∧
      (after.rows collection = front ++ back ∨
        ∃ changed, after.rows collection = front ++ changed :: back)

/-- Where no row has the key, nothing is touched. -/
theorem Touches.unchanged {collection keyField : String} {key : Json} {before after : Store}
    (touches : Touches collection keyField key before after)
    (missing : ∀ row ∈ before.rows collection, row.hasKey keyField key = false) (other : String) :
    after.rows other = before.rows other := by
  by_cases same : other = collection
  · subst same
    rcases touches.rows with unchanged | ⟨front, row, back, divided, has, -⟩
    · exact unchanged
    · have inside : row ∈ before.rows other := by simp [divided]
      exact absurd has (by simp [missing row inside])
  · exact touches.others other same

/-- Whether a change addresses the row with a key, to change or to remove it. A creation addresses
none. -/
def Change.Addresses (key : Json) : Change → Prop
  | .create _ => False
  | .update named _ | .delete named => named = key

/-- A mutation that addresses a row by a key touches it alone, unless a row meets the predicate of
the key without having the key. -/
theorem Mutation.write_touches (mutation : Mutation) (changeField : String) (key : Json)
    (store after : Store) (addresses : mutation.change.Addresses key)
    (means : ∀ row ∈ store.rows mutation.collection,
      Predicate.holds row (keyPredicate mutation.keyField key) = .ok true →
        row.hasKey mutation.keyField key = true)
    (written : mutation.write changeField store = .ok after) :
    Touches mutation.collection mutation.keyField key store after := by
  have found (front : List Json) (row : Json) (back : List Json)
      (division : Store.FirstMeeting (keyPredicate mutation.keyField key)
        (store.rows mutation.collection) front row back) :
      row.hasKey mutation.keyField key = true :=
    means row (by simp [division.divided]) division.met
  rcases effect_or_unchanged changeField store mutation after written with effect | unchanged
  · obtain ⟨others, effect⟩ := effect
    refine ⟨others, .inr ?_⟩
    cases change : mutation.change with
    | create members => simp [Change.Addresses, change] at addresses
    | update named values =>
      obtain rfl : named = key := by simpa [Change.Addresses, change] using addresses
      simp only [change] at effect
      obtain ⟨front, row, back, division, same⟩ := effect
      exact ⟨front, row, back, division.divided, found front row back division, .inr ⟨_, same⟩⟩
    | delete named =>
      obtain rfl : named = key := by simpa [Change.Addresses, change] using addresses
      simp only [change] at effect
      obtain ⟨front, row, back, division, same⟩ := effect
      exact ⟨front, row, back, division.divided, found front row back division, .inl same⟩
  · exact ⟨fun other _ => unchanged other, .inl (unchanged mutation.collection)⟩

/-- An update or a deletion touches the row with its key alone, and nothing if no row has the key,
both where it is carried out for itself and where it is written within a group. A key from the body
must be no condition, and no row of the collection may list the key without having it.

Proof: the rows that a mutation is written to are those that meet the predicate of its key. A key
from the path is a text or a number and so no condition, and a row that meets the predicate of such
a key has it or lists it. An operation that is carried out for itself writes the same mutation, or
leaves all rows as they are. -/
theorem keyed_mutation_hits_row (coordinator : Coordinator) (operation : Operation)
    (target : Target) (rest : String)
    (routed : coordinator.route? operation.url = some (target, rest)) (method : Method)
    (named : Method.ofName operation.methodName = .ok method)
    (mutates : method = .update ∨ method = .delete) (key : Json)
    (keyed : target.key? operation rest = some key)
    (value : keyOfPath? rest = none → ¬ IsCondition target.keyField key) (store : Store)
    (unlisted : ∀ row ∈ store.rows target.collection.name,
      row.listsKey target.keyField key = true → row.hasKey target.keyField key = true)
    (after : Store)
    (behind : after = (coordinator.single store operation).2 ∨
      coordinator.Writes [operation] store after) :
    Touches target.collection.name target.keyField key store after ∧
    ((∀ row ∈ store.rows target.collection.name, row.hasKey target.keyField key = false) →
      ∀ collection, after.rows collection = store.rows collection) := by
  obtain ⟨given, fromUrl⟩ := target.key_cases operation rest key keyed
  have plain : ¬ IsCondition target.keyField key := by
    by_cases written : keyOfPath? rest = none
    · exact value written
    · exact fromUrl written
  have means : ∀ row ∈ store.rows target.collection.name,
      Predicate.holds row (keyPredicate target.keyField key) = .ok true →
        row.hasKey target.keyField key = true := by
    intro row inside met
    rcases hasKey_of_met target.keyField key row given plain met with has | lists
    · exact has
    · exact unlisted row inside lists
  have writes (mutation : Mutation) (made : coordinator.mutation operation = .ok mutation)
      (after : Store) (written : mutation.write coordinator.changeField store = .ok after) :
      Touches target.collection.name target.keyField key store after := by
    obtain ⟨own, found, behind, change, same, route, asked, rfl⟩ :=
      (coordinator.mutation_ok_iff operation mutation).mp made
    obtain ⟨rfl, rfl⟩ := Prod.mk.inj (Option.some.inj (routed.symm.trans route))
    obtain rfl := Except.ok.inj (named.symm.trans same)
    refine Mutation.write_touches _ coordinator.changeField key store after ?_ means written
    cases asked with
    | create body => rcases mutates with absurdity | absurdity <;> cases absurdity
    | update own _ => exact Option.some.inj (own.symm.trans keyed)
    | delete own => exact Option.some.inj (own.symm.trans keyed)
  have touches : Touches target.collection.name target.keyField key store after := by
    rcases behind with rfl | ⟨other, listed, mutation, made, written⟩
    · rcases coordinator.single_store store operation with spends | ⟨mutation, made, written⟩
      · exact ⟨fun other _ => spends.rows other, .inl (spends.rows _)⟩
      · exact writes mutation made _ written
    · obtain rfl := List.mem_singleton.mp listed
      exact writes mutation made after written
  exact ⟨touches, touches.unchanged⟩

/-- An operation that changes the item with the article number `B`, which its body names. -/
def relabelling : Operation where
  method := some "PATCH"
  url := "/odata/Items"
  body := some (.object [("sku", "B"), ("name", "x")])

/-- The operation touches the item with its article number alone. -/
theorem relabelling_hits_item :
    (∀ row ∈ twoItems.rows "items", row.listsKey "sku" "B" = false) ∧
    Touches "items" "sku" "B" twoItems ((itemsBy "sku").single twoItems relabelling).2 ∧
    (((itemsBy "sku").single twoItems relabelling).2.rows "items").map
      (fun row => (row.member? "name").isSome) = [false, true] := by
  have unlisted : ∀ row ∈ twoItems.rows "items", row.listsKey "sku" "B" = false := by
    decide +kernel
  obtain ⟨touches, -⟩ := keyed_mutation_hits_row (itemsBy "sku") relabelling
    { name := "Items", collection := ⟨"items", true⟩, keyField := "sku" } "" rfl .update rfl
    (.inl rfl) "B" rfl (fun _ => id) twoItems
    (fun row inside lists => absurd lists (by simp [unlisted row inside])) _ (.inl rfl)
  exact ⟨unlisted, touches, by decide +kernel⟩

/-- An operation that removes an item whose identity the body describes by a condition. -/
def removalAbove : Operation where
  method := some "DELETE"
  url := "/odata/Items"
  body := some (.object [(identityField, .object [("$gt", .ofNat 0)])])

/-- An item whose identity is an array. -/
def listedItem : Store where
  collections := [("items", [.object [(identityField, .array [.ofNat 1, .ofNat 2])]])]

/-- A key that is a condition removes an item that does not have it, and so does a key that an item
lists. -/
theorem other_rows_removed :
    (∀ row ∈ twoItems.rows "items",
      row.hasKey identityField (.object [("$gt", .ofNat 0)]) = false) ∧
    (((itemsBy identityField).single twoItems removalAbove).2.rows "items").length = 1 ∧
    (∀ row ∈ listedItem.rows "items", row.hasKey identityField (.ofNat 1) = false) ∧
    ((itemsBy identityField).single listedItem
      { method := some "DELETE", url := "/odata/Items(1)" }).2.rows "items" = [] := by
  refine ⟨by decide +kernel, by decide +kernel, by decide +kernel, ?_⟩
  exact List.isEmpty_iff.mp (by decide +kernel)

end Batch

end DocumentQuery
