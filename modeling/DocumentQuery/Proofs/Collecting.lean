/-!
# Items that are collected into groups

Items are added to the first group that they join, or else make a new one behind the others. The
first group takes every item that joins it, whatever becomes of the rest, and the rest are collected
as if they had been alone.
-/

namespace DocumentQuery

variable {Item Group : Type}

/-- How items are added to groups: to the first group that they join, if a group that has grown is
joined by the same items as before. -/
structure Collects (joins : Group → Item → Bool) (extend : Group → List Item → Group)
    (add : List Group → Item → List Group) : Prop where
  add_cons : ∀ group groups item, add (group :: groups) item =
    if joins group item then extend group [item] :: groups else group :: add groups item
  joins_extend : ∀ group items item, joins (extend group items) item = joins group item
  extend_nil : ∀ group, extend group [] = group
  extend_extend : ∀ group items others,
    extend (extend group items) others = extend group (items ++ others)

/-- The first group takes the items that join it, and the others are collected behind it. -/
theorem Collects.foldl_cons {joins : Group → Item → Bool} {extend : Group → List Item → Group}
    {add : List Group → Item → List Group} (collects : Collects joins extend add) (group : Group)
    (groups : List Group) (items : List Item) :
    items.foldl add (group :: groups) =
      extend group (items.filter (joins group)) ::
        (items.filter fun item => !joins group item).foldl add groups := by
  induction items generalizing group groups with
  | nil => simp [collects.extend_nil]
  | cons item items inductionHypothesis =>
    cases joined : joins group item with
    | true =>
      have same : joins (extend group [item]) = joins group :=
        funext (collects.joins_extend group [item])
      simp [collects.add_cons, joined, inductionHypothesis, same, collects.extend_extend]
    | false => simp [collects.add_cons, joined, inductionHypothesis]

end DocumentQuery
