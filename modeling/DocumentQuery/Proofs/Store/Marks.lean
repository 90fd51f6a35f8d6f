import DocumentQuery.Proofs.Store.Traffic

/-!
# Marks agree with stamps

Two invariants hold along every walk. All stamps, of rows and of writes under way, are readings
of the past; for that the clock must move on with every reading. And behind a checkpoint exactly
the marked rows and writes have later stamps than its reading. So resolving the checkpoint's token
gives the marked rows.
-/

namespace DocumentQuery

section Lists

variable {First Second : Type} {related : First → Second → Prop} {firsts : List First}
  {seconds : List Second}

/-- Related lists stay related when the item at one place is removed from both. -/
theorem forall₂_eraseIdx (all : List.Forall₂ related firsts seconds) (place : Nat) :
    List.Forall₂ related (firsts.eraseIdx place) (seconds.eraseIdx place) := by
  induction all generalizing place with
  | nil => simp
  | cons head tail inductionHypothesis =>
    cases place with
    | zero => exact tail
    | succ place => exact .cons head (inductionHypothesis place)

/-- Related lists stay related when the items at one place become related ones. -/
theorem forall₂_modify (all : List.Forall₂ related firsts seconds) (place : Nat)
    (change : First → First) (second : Second)
    (changed : ∀ first ∈ firsts, related (change first) second) :
    List.Forall₂ related (firsts.modify place change) (seconds.set place second) := by
  induction all generalizing place with
  | nil => simp
  | @cons first _ _ _ head tail inductionHypothesis =>
    cases place with
    | zero => exact .cons (changed first List.mem_cons_self) tail
    | succ place =>
      exact .cons head (inductionHypothesis place fun other later =>
        changed other (List.mem_cons_of_mem first later))

/-- The items at one place of related lists are related. -/
theorem forall₂_getD (all : List.Forall₂ related firsts seconds) (place : Nat) (first : First)
    (present : firsts[place]? = some first) (absent : Second) :
    related first (seconds.getD place absent) := by
  induction all generalizing place with
  | nil => simp at present
  | cons head _ inductionHypothesis =>
    cases place with
    | zero =>
      obtain rfl := Option.some.inj present
      exact head
    | succ place => exact inductionHypothesis place present

end Lists

namespace Store

/-- A document that is stored becomes the last row of its collection. -/
theorem insert_ok_iff (store : Store) (collection : String) (members : Members Json) (row : Json)
    (after : Store) : store.insert collection (.object members) = .ok (row, after) ↔
      hasIdentity (store.rows collection) (store.identityOf members) = false ∧
        row = store.rowOf members ∧ after = store.withRow collection members := by
  rw [insert_object]
  split
  · next taken => simp [taken]
  · next free => simp [free, eq_comm]

/-- An update that finds a row changes it. -/
theorem update_found (store : Store) (collection : String) (predicate : Json)
    (values : Members Json) (place count : Nat) (after : Store)
    (found : position? predicate (store.rows collection) = .ok (some place))
    (done : store.update collection predicate values = .ok (count, after)) :
    after = store.setRows collection ((store.rows collection).modify place (setPaths values)) := by
  rcases (store.update_ok_iff collection predicate values count after).mp done with
    ⟨none, -⟩ | ⟨other, same, -, rfl⟩
  · simp [found] at none
  · obtain rfl : place = other := by simpa [found] using same
    rfl

/-- A deletion that finds a row removes it. -/
theorem delete_found (store : Store) (collection : String) (predicate : Json) (place count : Nat)
    (after : Store) (found : position? predicate (store.rows collection) = .ok (some place))
    (done : store.delete collection predicate = .ok (count, after)) :
    after = store.setRows collection ((store.rows collection).eraseIdx place) := by
  rcases (store.delete_ok_iff collection predicate count after).mp done with
    ⟨none, -⟩ | ⟨other, same, -, rfl⟩
  · simp [found] at none
  · obtain rfl : place = other := by simpa [found] using same
    rfl

/-- A token that names a checkpoint names it still when another is kept. -/
theorem checkpoint_append (store : Store) (token : String) (checkpoint other : Checkpoint)
    (kept : store.checkpoint? token = some checkpoint) :
    ({ store with checkpoints := store.checkpoints ++ [other] } : Store).checkpoint? token =
      some checkpoint := by
  simp only [checkpoint?] at kept ⊢
  rw [List.find?_append, kept]
  rfl

end Store

namespace Clock

/-- Whether every reading of a clock is followed by a later one. -/
def Increases (clock : Clock) : Prop := ∀ reading, 0 < clock.pace.after reading

end Clock

/-- Whether a write under way is ordinary and holds a reading of the past. -/
structure Writing.IsTimely (changeField : String) (now : Nat) (writing : Writing) : Prop where
  ordinary : Members.Ordinary changeField writing.members
  stamped : ∃ reading, Members.get? changeField writing.members = some (.ofNat reading) ∧
    reading < now

/-- The stamp of a timely write is one of the past. -/
theorem Writing.IsTimely.stamp {changeField : String} {now : Nat} {writing : Writing}
    (timely : writing.IsTimely changeField now) :
    ∃ stamp, Members.get? changeField writing.members = some stamp ∧
      Store.IsPast now (some stamp) := by
  obtain ⟨reading, stamped, past⟩ := timely.stamped
  refine ⟨.ofNat reading, stamped, ?_⟩
  intro stamp same
  exact ⟨reading, (Option.some.inj same).symm, past⟩

namespace Traffic

variable {changeField : String}

/-- The stamps of the rows and of the writes under way are readings of the past. -/
structure Timely (changeField : String) (traffic : Traffic) : Prop where
  increases : traffic.store.clock.Increases
  rows : ∀ collection, ∀ row ∈ traffic.store.rows collection,
    Store.IsPast traffic.store.clock.now (row.valueAt? changeField)
  underway : ∀ writing ∈ traffic.underway,
    writing.IsTimely changeField traffic.store.clock.now

/-- Timely rows and writes stay so while the clock moves on, and new ones are timely if their stamps
are in the past. -/
theorem Timely.later {traffic : Traffic} (timely : traffic.Timely changeField) (store : Store)
    (underway : List Writing) (pace : store.clock.pace = traffic.store.clock.pace)
    (moved : traffic.store.clock.now ≤ store.clock.now)
    (rows : ∀ collection, ∀ row ∈ store.rows collection,
      row ∈ traffic.store.rows collection ∨
        Store.IsPast store.clock.now (row.valueAt? changeField))
    (writings : ∀ writing ∈ underway, writing ∈ traffic.underway ∨
      writing.IsTimely changeField store.clock.now) :
    Timely changeField ⟨store, underway⟩ := by
  constructor
  · intro reading
    rw [pace]
    exact timely.increases reading
  · intro collection row present
    rcases rows collection row present with before | past
    · exact (timely.rows collection row before).mono moved
    · exact past
  · intro writing present
    rcases writings writing present with before | stamped
    · obtain ⟨ordinary, reading, stamped, past⟩ := timely.underway writing before
      exact ⟨ordinary, reading, stamped, Nat.lt_of_lt_of_le past moved⟩
    · exact stamped

/-- The rows of a store in which those of one collection were replaced. -/
theorem rows_replaced (store : Store) (collection : String) (rows : List Json) (other : String)
    (row : Json) (present : row ∈ (store.setRows collection rows).rows other) :
    row ∈ store.rows other ∨ (other = collection ∧ row ∈ rows) := by
  by_cases same : other = collection
  · subst same
    rw [Store.rows_setRows_same] at present
    exact .inr ⟨rfl, present⟩
  · rw [Store.rows_setRows_other _ _ _ _ same] at present
    exact .inl present

/-- A row of a list in which one was changed is that one or was there before, at whichever place the
change was made. -/
theorem mem_modify (rows : List Json) (place : Nat) (change : Json → Json) (row : Json)
    (present : row ∈ rows.modify place change) :
    row ∈ rows ∨ ∃ before ∈ rows, row = change before := by
  induction rows generalizing place with
  | nil => simp at present
  | cons first rows inductionHypothesis =>
    cases place with
    | zero =>
      rcases List.mem_cons.mp present with rfl | later
      · exact .inr ⟨first, List.mem_cons_self, rfl⟩
      · exact .inl (List.mem_cons_of_mem first later)
    | succ place =>
      rcases List.mem_cons.mp present with rfl | later
      · exact .inl List.mem_cons_self
      · rcases inductionHypothesis place later with before | ⟨before, inside, same⟩
        · exact .inl (List.mem_cons_of_mem first before)
        · exact .inr ⟨before, List.mem_cons_of_mem first inside, same⟩

/-- Each step leaves all stamps in the past. A stamp is taken from the clock, which moves on with
it; a row is then stored with a stamp that was taken before. -/
theorem Step.timely (plain : '.' ∉ changeField.toList) {before after : Traffic} {move : Move}
    (step : Step changeField before move after) (timely : before.Timely changeField) :
    after.Timely changeField := by
  have unmoved (writer : Nat) : ∀ writing ∈ before.underway.eraseIdx writer,
      writing ∈ before.underway ∨ writing.IsTimely changeField before.store.clock.now :=
    fun writing present => .inl ((List.eraseIdx_sublist _ _).mem present)
  have ticks := timely.increases before.store.clock.now
  cases step with
  | stamped writing ordinary =>
    refine timely.later _ _ rfl (Nat.le_add_right _ _) (fun _ _ present => .inl present) ?_
    intro other present
    rcases List.mem_append.mp present with earlier | last
    · exact .inl earlier
    · obtain rfl := List.mem_singleton.mp last
      refine .inr ⟨ordinary.insert _, before.store.clock.now, ?_, ?_⟩
      · exact Members.get_insert_same changeField _ _
      · exact Nat.lt_add_of_pos_right ticks
  | @added writer collection members row store pending done =>
    obtain ⟨-, rfl, rfl⟩ := (Store.insert_ok_iff _ _ _ _ _).mp done
    obtain ⟨stamp, stamped, past⟩ := (timely.underway _ (List.mem_of_getElem? pending)).stamp
    refine timely.later _ _ rfl (Nat.le_refl _) ?_ (unmoved writer)
    intro other row present
    rcases rows_replaced before.store collection _ other row present with earlier | ⟨rfl, listed⟩
    · exact .inl earlier
    · rcases List.mem_append.mp listed with earlier | last
      · exact .inl earlier
      · obtain rfl := List.mem_singleton.mp last
        rw [Store.valueAt_rowOf before.store changeField plain members stamp stamped]
        exact .inr past
  | @changed writer collection predicate values place store pending found done =>
    have writing := timely.underway _ (List.mem_of_getElem? pending)
    obtain ⟨stamp, stamped, past⟩ := writing.stamp
    obtain rfl := Store.update_found _ _ _ _ _ _ _ found done
    refine timely.later _ _ rfl (Nat.le_refl _) ?_ (unmoved writer)
    intro other row present
    rcases rows_replaced before.store collection _ other row present with earlier | ⟨rfl, listed⟩
    · exact .inl earlier
    · rcases mem_modify _ _ _ _ listed with earlier | ⟨old, _, rfl⟩
      · exact .inl earlier
      · rw [Store.valueAt_stamped changeField plain values writing.ordinary stamp stamped old]
        exact .inr past
  | dropped writer =>
    exact timely.later _ _ rfl (Nat.le_refl _) (fun _ _ present => .inl present) (unmoved writer)
  | @removed collection predicate place store found done =>
    obtain rfl := Store.delete_found _ _ _ _ _ _ found done
    refine timely.later _ _ rfl (Nat.le_refl _) ?_ fun _ present => .inl present
    intro other row present
    rcases rows_replaced before.store collection _ other row present with earlier | ⟨rfl, listed⟩
    · exact .inl earlier
    · exact .inl ((List.eraseIdx_sublist _ _).mem listed)
  | issued done =>
    obtain ⟨-, -, rfl⟩ := (Store.initiate_ok_iff _ _ _ _).mp done
    exact timely.later _ _ rfl (Nat.le_add_right _ _) (fun _ _ present => .inl present)
      fun _ present => .inl present
  | waited store spends =>
    refine timely.later _ _ spends.pace spends.reading ?_ fun _ present => .inl present
    exact fun other row present => .inl (spends.rows other ▸ present)

/-- Each walk leaves all stamps in the past. -/
theorem Walk.timely (plain : '.' ∉ changeField.toList) {before after : Traffic} {moves : List Move}
    (walk : Walk changeField before moves after) (timely : before.Timely changeField) :
    after.Timely changeField := by
  induction walk with
  | done => exact timely
  | step first _ inductionHypothesis => exact inductionHypothesis (first.timely plain timely)

/-- No step sets the clock back: stamping, issuing and waiting move it on, and the other steps leave
it. -/
theorem Step.clock_le {before after : Traffic} {move : Move}
    (step : Step changeField before move after) :
    before.store.clock.now ≤ after.store.clock.now := by
  cases step with
  | stamped => exact Nat.le_add_right _ _
  | added _ done =>
    obtain ⟨-, -, rfl⟩ := (Store.insert_ok_iff _ _ _ _ _).mp done
    exact Nat.le_refl _
  | changed _ found done =>
    obtain rfl := Store.update_found _ _ _ _ _ _ _ found done
    exact Nat.le_refl _
  | dropped => exact Nat.le_refl _
  | removed found done =>
    obtain rfl := Store.delete_found _ _ _ _ _ _ found done
    exact Nat.le_refl _
  | issued done =>
    obtain ⟨-, -, rfl⟩ := (Store.initiate_ok_iff _ _ _ _).mp done
    exact Nat.le_add_right _ _
  | waited _ spends => exact spends.reading

/-- A token keeps its checkpoint through every step, as checkpoints are only ever added, behind
those that are there. -/
theorem Step.checkpoint {before after : Traffic} {move : Move}
    (step : Step changeField before move after) (token : String) (checkpoint : Checkpoint)
    (kept : before.store.checkpoint? token = some checkpoint) :
    after.store.checkpoint? token = some checkpoint := by
  cases step with
  | added _ done =>
    obtain ⟨-, -, rfl⟩ := (Store.insert_ok_iff _ _ _ _ _).mp done
    exact kept
  | changed _ found done =>
    obtain rfl := Store.update_found _ _ _ _ _ _ _ found done
    exact kept
  | removed found done =>
    obtain rfl := Store.delete_found _ _ _ _ _ _ found done
    exact kept
  | issued done =>
    obtain ⟨-, -, rfl⟩ := (Store.initiate_ok_iff _ _ _ _).mp done
    exact Store.checkpoint_append before.store token checkpoint _ kept
  | waited store spends =>
    rw [spends.rest]
    exact kept
  | stamped | dropped => exact kept

/-- Whether exactly the marked rows and writes have stamps later than a reading. -/
structure Exact (changeField : String) (since : Nat) (traffic : Traffic) (marks : Marks) :
    Prop where
  rows : ∀ collection,
    Store.MarkedLater changeField since (traffic.store.rows collection) (marks.rows collection)
  underway : List.Forall₂ (fun writing mark => mark = true ↔
    Store.IsLater since (Members.get? changeField writing.members)) traffic.underway marks.underway

/-- Marks stay exact when the rows of one collection and its marks are replaced. -/
theorem Exact.replaced {since : Nat} {traffic : Traffic} {marks : Marks}
    (exact : traffic.Exact changeField since marks) (collection : String)
    (change : List Bool → List Bool) (store : Store)
    (changed : Store.MarkedLater changeField since (store.rows collection)
      (change (marks.rows collection)))
    (others : ∀ other, other ≠ collection → store.rows other = traffic.store.rows other)
    (other : String) : Store.MarkedLater changeField since (store.rows other)
      ((marks.inCollection collection change).rows other) := by
  by_cases same : other = collection
  · subst same
    simpa [Marks.inCollection] using changed
  · rw [others other same]
    simpa [Marks.inCollection, same] using exact.rows other

/-- Each step keeps the marks exact, if the clock has moved on since. A write that is stamped now is
marked; when it is stored, the row takes over the mark of the write, and so rows stay marked by
their stamps. -/
theorem Step.exact (plain : '.' ∉ changeField.toList) {before after : Traffic} {move : Move}
    (step : Step changeField before move after) (timely : before.Timely changeField)
    {since : Nat} (passed : since < before.store.clock.now) {marks : Marks}
    (exact : before.Exact changeField since marks) :
    after.Exact changeField since (marks.after move) := by
  cases step with
  | stamped writing ordinary =>
    refine ⟨exact.rows, List.rel_append exact.underway (.cons ?_ .nil)⟩
    have stamped := Members.get_insert_same changeField (.ofNat before.store.clock.now)
      writing.members
    have later := (Store.isLater_reading since before.store.clock.now).mpr passed
    simpa [Store.stamp, Clock.read, stamped] using later
  | @added writer collection members row store pending done =>
    obtain ⟨-, rfl, rfl⟩ := (Store.insert_ok_iff _ _ _ _ _).mp done
    obtain ⟨stamp, stamped, _⟩ := (timely.underway _ (List.mem_of_getElem? pending)).stamp
    have mark := forall₂_getD exact.underway writer _ pending false
    refine ⟨exact.replaced collection
      (fun rows => rows ++ [marks.underway.getD writer false]) _ ?_
      (before.store.rows_withRow_other collection members),
      forall₂_eraseIdx exact.underway writer⟩
    rw [Store.rows_withRow_same]
    refine List.rel_append (exact.rows collection) (.cons ?_ .nil)
    rw [Store.valueAt_rowOf before.store changeField plain members stamp stamped, ← stamped]
    exact mark
  | @changed writer collection predicate values place store pending found done =>
    have writing := timely.underway _ (List.mem_of_getElem? pending)
    obtain ⟨stamp, stamped, _⟩ := writing.stamp
    obtain rfl := Store.update_found _ _ _ _ _ _ _ found done
    have mark := forall₂_getD exact.underway writer _ pending false
    refine ⟨exact.replaced collection
      (fun rows => rows.set place (marks.underway.getD writer false)) _ ?_
      (before.store.rows_setRows_other collection _),
      forall₂_eraseIdx exact.underway writer⟩
    rw [Store.rows_setRows_same]
    refine forall₂_modify (exact.rows collection) place _ _ ?_
    intro row _
    rw [Store.valueAt_stamped changeField plain values writing.ordinary stamp stamped row,
      ← stamped]
    exact mark
  | dropped writer => exact ⟨exact.rows, forall₂_eraseIdx exact.underway writer⟩
  | @removed collection predicate place store found done =>
    obtain rfl := Store.delete_found _ _ _ _ _ _ found done
    refine ⟨exact.replaced collection (fun rows => rows.eraseIdx place) _ ?_
      (before.store.rows_setRows_other collection _), exact.underway⟩
    rw [Store.rows_setRows_same]
    exact forall₂_eraseIdx (exact.rows collection) place
  | issued done =>
    obtain ⟨-, -, rfl⟩ := (Store.initiate_ok_iff _ _ _ _).mp done
    exact ⟨exact.rows, exact.underway⟩
  | waited store spends =>
    exact ⟨fun collection => (spends.rows collection).symm ▸ exact.rows collection, exact.underway⟩

/-- Each walk keeps the marks exact and all tokens, if the clock has moved on since. -/
theorem Walk.exact (plain : '.' ∉ changeField.toList) {before after : Traffic} {moves : List Move}
    (walk : Walk changeField before moves after) (timely : before.Timely changeField)
    {checkpoint : Checkpoint} {token : String}
    (kept : before.store.checkpoint? token = some checkpoint)
    (passed : checkpoint.since < before.store.clock.now) {marks : Marks}
    (exact : before.Exact changeField checkpoint.since marks) :
    after.Exact changeField checkpoint.since (marks.afterAll moves) ∧
      after.store.checkpoint? token = some checkpoint ∧
      checkpoint.since < after.store.clock.now := by
  induction walk generalizing marks with
  | done => exact ⟨exact, kept, passed⟩
  | step first _ inductionHypothesis =>
    exact inductionHypothesis (first.timely plain timely) (first.checkpoint token checkpoint kept)
      (Nat.lt_of_lt_of_le passed first.clock_le) (first.exact plain timely passed exact)

/-- When a checkpoint is set, all stamps are earlier than its reading, and its token is new. The
marks that begin there are therefore all unset, and they are exact. -/
theorem issued_exact {traffic : Traffic} (timely : traffic.Timely changeField)
    {resume : Option Json} {checkpoint : Checkpoint} {store : Store}
    (issued : traffic.store.initiate resume = .ok (checkpoint, store)) :
    Exact changeField checkpoint.since ⟨store, traffic.underway⟩
        (.beginning ⟨store, traffic.underway⟩ false) ∧
      store.checkpoint? checkpoint.token = some checkpoint ∧
      checkpoint.since < store.clock.now := by
  obtain ⟨new, rfl, rfl⟩ := (Store.initiate_ok_iff _ _ _ _).mp issued
  refine ⟨⟨?_, ?_⟩, ?_, Nat.lt_add_of_pos_right (timely.increases _)⟩
  · intro collection
    refine List.forall₂_map_right_iff.mpr (List.forall₂_same.mpr ?_)
    intro row present
    simpa using (timely.rows collection row present).not_later
  · refine List.forall₂_map_right_iff.mpr (List.forall₂_same.mpr ?_)
    intro writing present
    obtain ⟨stamp, stamped, past⟩ := (timely.underway writing present).stamp
    simpa [stamped] using past.not_later
  · have none : traffic.store.checkpoint? traffic.store.fresh = none := by
      simpa using new
    simp only [Store.checkpoint?] at none ⊢
    simp [List.find?_append, none]

/-- Resolving a token, at the end of any walk from the moment at which it was issued, gives the
rows that were last written by a write that was stamped since. -/
theorem resolve_stamped (plain : '.' ∉ changeField.toList)
    (field : Predicate.isOperator changeField = false) {traffic after : Traffic}
    (timely : traffic.Timely changeField) {resume : Option Json} {checkpoint : Checkpoint}
    {store : Store} (issued : traffic.store.initiate resume = .ok (checkpoint, store))
    {moves : List Move} (walk : Walk changeField ⟨store, traffic.underway⟩ moves after)
    (bounded : after.store.clock.now ≤ 2 ^ 63) (collection : Collection) :
    after.store.resolve changeField checkpoint.token collection =
      .ok (Store.marked (after.store.rows collection.name)
        (Marks.stampedSince ⟨store, traffic.underway⟩ moves collection.name)) := by
  obtain ⟨beginning, token, passed⟩ := issued_exact timely issued
  have begun := (Step.issued issued : Step changeField traffic _ _).timely plain timely
  obtain ⟨exact, kept, later⟩ := walk.exact plain begun token passed beginning
  exact Store.resolve_marked after.store changeField field checkpoint checkpoint.token kept later
    bounded collection ((walk.timely plain begun).rows collection.name) _
    (exact.rows collection.name)

end Traffic

end DocumentQuery
