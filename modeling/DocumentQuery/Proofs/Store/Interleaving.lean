import DocumentQuery.Proofs.Store.Marks

/-!
# Changes under interleaved writers

What a token resolves to when writers and checkpoints interleave in any way. The moment that counts
is the one at which a write is stamped: rows whose last write was stamped after the token was
issued are found, and no others. A write that was under way when the token was issued is missed,
although its row is written afterwards. Where none was under way, nothing is missed.
-/

namespace DocumentQuery.Traffic

/-- Resolving a token finds exactly the rows whose last write was stamped after the token was
issued, for every interleaving of writers, removals and checkpoints from a store without stamps. If
no write was under way when the token was issued, these are the rows that were written since.

Proof: the traffic is timely at the start and after every move, which means that no stamp, neither
in a row nor under way, is ahead of the clock. `resolve_stamped` follows the moves from the token on
with the list of those rows that were written with a later stamp. A write that was under way takes
its stamp along from before, so only such writes tell the two lists apart. -/
theorem late_stamps_found (changeField : String) (plain : '.' ∉ changeField.toList)
    (field : Predicate.isOperator changeField = false) (start : Store)
    (increases : start.clock.Increases)
    (unstamped : ∀ collection, ∀ row ∈ start.rows collection, row.valueAt? changeField = none)
    {traffic after : Traffic} {earlier moves : List Move}
    (before : Walk changeField ⟨start, []⟩ earlier traffic) {resume : Option Json}
    {checkpoint : Checkpoint} {store : Store}
    (issued : traffic.store.initiate resume = .ok (checkpoint, store))
    (walk : Walk changeField ⟨store, traffic.underway⟩ moves after)
    (bounded : after.store.clock.now ≤ 2 ^ 63) (collection : Collection) :
    after.store.resolve changeField checkpoint.token collection =
        .ok (Store.marked (after.store.rows collection.name)
          (Marks.stampedSince ⟨store, traffic.underway⟩ moves collection.name)) ∧
      (traffic.underway = [] →
        Marks.stampedSince ⟨store, traffic.underway⟩ moves collection.name =
          Marks.writtenSince ⟨store, traffic.underway⟩ moves collection.name) := by
  have quiet : Timely changeField ⟨start, []⟩ := by
    refine ⟨increases, ?_, fun _ none => absurd none List.not_mem_nil⟩
    intro other row present stamp shown
    rw [unstamped other row present] at shown
    exact absurd shown (by simp)
  refine ⟨resolve_stamped plain field (before.timely plain quiet) issued walk bounded collection,
    ?_⟩
  intro none
  rw [none]
  rfl

/-- A store without rows, whose clock moves on by one with each reading. -/
def idle : Store := { clock := ⟨0, 1⟩ }

/-- The creation of a row with a number. -/
def creation (number : Nat) : Writing := ⟨"items", none, [("_id", .ofNat number)]⟩

/-- Nothing leads into the change field of such a row. -/
theorem creation_ordinary (number : Nat) : Members.Ordinary "ts" (creation number).members := by
  constructor
  · simp [creation, Members.names]
  · intro name present
    obtain rfl : name = "_id" := by simpa [creation, Members.names] using present
    decide

/-- The idle store while one creation is under way. -/
def busy : Traffic := Traffic.stamp ⟨idle, []⟩ "ts" (creation 1)

/-- The store with a token that was issued while the creation was under way. -/
def watched : Store :=
  { idle with
    clock := ⟨2, 1⟩
    checkpoints := [⟨identifier 0, 1, none⟩]
    issued := 1 }

/-- The store after the creation was carried out. -/
def late : Store := watched.withRow "items" [("_id", .ofNat 1), ("ts", .ofNat 0)]

/-- The creation is stamped before the token is issued and carried out behind it. -/
theorem late_walk : Walk "ts" ⟨idle, []⟩ [.stamped] busy ∧
    busy.store.initiate none = .ok (⟨identifier 0, 1, none⟩, watched) ∧
    Walk "ts" ⟨watched, busy.underway⟩ [.added 0 "items"] ⟨late, []⟩ := by
  refine ⟨(Step.stamped _ _ (creation_ordinary 1)).walk, rfl, ?_⟩
  have done : watched.insert "items" (.object [("_id", .ofNat 1), ("ts", .ofNat 0)]) =
      .ok (_, late) := (Store.insert_ok_iff _ _ _ _ _).mpr ⟨rfl, rfl, rfl⟩
  have written : Step "ts" ⟨watched, busy.underway⟩ (.added 0 "items") ⟨late, []⟩ :=
    .added rfl done
  exact written.walk

/-- Another row that is stamped behind the token is found, and the first one, which was stamped
before it and stored later, is not. -/
theorem later_row_found :
    ∃ after : Traffic, Walk "ts" ⟨idle, []⟩ [.stamped] busy ∧
      busy.store.initiate none = .ok (⟨identifier 0, 1, none⟩, watched) ∧
      Walk "ts" ⟨watched, busy.underway⟩ [.added 0 "items", .stamped, .added 0 "items"] after ∧
      after.store.resolve "ts" (identifier 0) ⟨"items", true⟩ =
        .ok [.object [("_id", .ofNat 2), ("ts", .ofNat 2)]] := by
  obtain ⟨before, issued, first⟩ := late_walk
  have done : (Traffic.stamp ⟨late, []⟩ "ts" (creation 2)).store.insert "items"
      (.object [("_id", .ofNat 2), ("ts", .ofNat 2)]) = .ok (_, _) :=
    (Store.insert_ok_iff _ _ _ _ _).mpr ⟨rfl, rfl, rfl⟩
  have second : Walk "ts" ⟨late, []⟩ [.stamped, .added 0 "items"] _ :=
    .step (.stamped _ (creation 2) (creation_ordinary 2)) (Step.added rfl done).walk
  have walk := first.append second
  refine ⟨_, before, issued, walk, ?_⟩
  obtain ⟨found, -⟩ := late_stamps_found "ts" (by decide) (by decide) idle
    (fun _ => Nat.one_pos) (fun _ _ none => absurd none List.not_mem_nil) before issued walk
    (by decide) ⟨"items", true⟩
  exact found

/-- A row that was written behind a token, and neither changed nor removed since, is not found. -/
theorem late_row_missed :
    ∃ (traffic after : Traffic) (checkpoint : Checkpoint) (store : Store),
      Walk "ts" ⟨idle, []⟩ [.stamped] traffic ∧
      traffic.store.initiate none = .ok (checkpoint, store) ∧
      Walk "ts" ⟨store, traffic.underway⟩ [.added 0 "items"] after ∧
      Marks.writtenSince ⟨store, traffic.underway⟩ [.added 0 "items"] "items" = [true] ∧
      after.store.rows "items" = [.object [("_id", .ofNat 1), ("ts", .ofNat 0)]] ∧
      after.store.resolve "ts" checkpoint.token ⟨"items", true⟩ = .ok [] := by
  obtain ⟨before, issued, walk⟩ := late_walk
  exact ⟨busy, ⟨late, []⟩, _, watched, before, issued, walk, rfl, rfl, rfl⟩

end DocumentQuery.Traffic
