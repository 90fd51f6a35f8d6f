import DocumentQuery.Proofs.Server.Walks
import DocumentQuery.Proofs.Text.Percent

/-!
# Changes since a token

A server answers requests one after the other, and between them time passes. A token that it
issued is resolved to the rows that were inserted or changed after it was issued, through
whichever requests that happened. What the requests did is told by their accounts: for each
request a walk from the store before it to the store behind it. Every request has one.

Two things are asked of the change field and the clock beyond what stamping needs: the name of the
field is not that of an operator, and the readings stay below `2^63`. Without either of them
changes are missed.
-/

namespace DocumentQuery

namespace Store

/-- Whether no row has the change field. -/
def Unstamped (changeField : String) (store : Store) : Prop :=
  ∀ collection, ∀ row ∈ store.rows collection, row.valueAt? changeField = none

/-- A store whose rows are those of another, and rows without the change field, is unstamped. -/
theorem Unstamped.replaced {changeField : String} {store : Store}
    (unstamped : store.Unstamped changeField) (collection : String) (after : Store)
    (same : ∀ other, other ≠ collection → after.rows other = store.rows other)
    (rows : ∀ row ∈ after.rows collection, row.valueAt? changeField = none) :
    after.Unstamped changeField := by
  intro other row present
  by_cases found : other = collection
  · exact rows row (found ▸ present)
  · exact unstamped other row (same other found ▸ present)

/-- Documents without the change field are stored as rows without it. A row that is stored gets an
identity at most, and a refused document leaves the rows alone. -/
theorem insertMany_unstamped (changeField : String) (plain : '.' ∉ changeField.toList)
    (apart : changeField ≠ identityField) (collection : String) (documents : List Json)
    (bare : ∀ document ∈ documents, document.valueAt? changeField = none) (store : Store)
    (inserted : Nat) (unstamped : store.Unstamped changeField) :
    (store.insertMany collection documents inserted).2.Unstamped changeField ∧
      (store.insertMany collection documents inserted).2.clock = store.clock := by
  induction documents generalizing store inserted with
  | nil => exact ⟨unstamped, rfl⟩
  | cons document documents inductionHypothesis =>
    unfold insertMany
    split
    · next row after added =>
      have done := (add_ok_iff _ _ _ _).mp added
      cases document with
      | object members =>
        obtain ⟨-, rfl, rfl⟩ := (insert_ok_iff _ _ _ _ _).mp done
        have first : Members.get? changeField members = none := by
          rw [← Json.valueAt_member members changeField plain]
          exact bare _ List.mem_cons_self
        have row : (store.rowOf members).valueAt? changeField = none := by
          rw [rowOf, Json.valueAt_member _ changeField plain, Members.get_append, first,
            ownIdentity]
          split
          · rfl
          · simp [Members.get?, Ne.symm apart]
        refine inductionHypothesis (fun other later =>
          bare other (List.mem_cons_of_mem _ later)) _ _ ?_
        refine unstamped.replaced collection _
          (store.rows_withRow_other collection members) ?_
        intro other present
        rw [rows_withRow_same] at present
        rcases List.mem_append.mp present with earlier | last
        · exact unstamped collection other earlier
        · exact List.mem_singleton.mp last ▸ row
      | _ => simp [insert] at done
    · next setback refused =>
      obtain ⟨-, left⟩ := (behind_error_iff _ _ _).mp refused
      have spends := store.spends_attempted document
      rw [left]
      exact ⟨fun other row present => unstamped other row (spends.rows other ▸ present),
        store.clock_attempted document⟩

/-- A collection that is made to exist has no rows. -/
theorem withCollection_unstamped (changeField collection : String) (store : Store)
    (unstamped : store.Unstamped changeField) :
    (store.withCollection collection).Unstamped changeField ∧
      (store.withCollection collection).clock = store.clock := by
  unfold withCollection
  split
  · exact ⟨unstamped, rfl⟩
  · refine ⟨unstamped.replaced collection _
      (store.rows_setRows_other collection []) ?_, rfl⟩
    intro row present
    rw [rows_setRows_same] at present
    exact absurd present List.not_mem_nil

end Store

/-- Links to the changes behind different checkpoints are different. -/
theorem changesLink_inj (base first second : String)
    (same : changesLink base first = changesLink base second) : first = second := by
  have encoded : Text.percentEncode first.toList = Text.percentEncode second.toList := by
    simpa [changesLink] using congrArg String.toList same
  have decoded := congrArg Text.percentDecode? encoded
  rw [Text.percentDecode_encode, Text.percentDecode_encode] at decoded
  exact String.toList_inj.mp (Option.some.inj decoded)

namespace Server

variable (settings : ServerSettings)

/-- A server begins with rows as they are laid down, and with its clock. The entity sets are filled
in turn, and filling one reads no clock. -/
theorem start_unstamped (clock : Clock) (identifiers : Identifiers)
    (plain : '.' ∉ settings.changeField.toList) (apart : settings.changeField ≠ identityField)
    (seeds : ∀ entitySet ∈ settings.entitySets, ∀ row ∈ entitySet.seed,
      row.valueAt? settings.changeField = none) (begun : Store)
    (started : startFrom identifiers settings clock = .ok begun) :
    begun.Unstamped settings.changeField ∧ begun.clock = clock := by
  have folded (entitySets : List EntitySet) (store : Store)
      (bare : ∀ entitySet ∈ entitySets, ∀ row ∈ entitySet.seed,
        row.valueAt? settings.changeField = none)
      (unstamped : store.Unstamped settings.changeField)
      (done : entitySets.foldlM withEntitySet store = .ok begun) :
      begun.Unstamped settings.changeField ∧ begun.clock = store.clock := by
    induction entitySets generalizing store with
    | nil =>
      obtain rfl := Except.ok.inj done
      exact ⟨unstamped, rfl⟩
    | cons entitySet entitySets inductionHypothesis =>
      rw [List.foldlM_cons] at done
      obtain ⟨next, added, done⟩ := (bind_ok_iff _ _ _).mp done
      obtain ⟨empty, sameClock⟩ := store.withCollection_unstamped settings.changeField
        entitySet.collectionName unstamped
      obtain ⟨filled, stillSame⟩ := Store.insertMany_unstamped settings.changeField plain apart
        entitySet.collectionName entitySet.seed (bare entitySet List.mem_cons_self)
        (store.withCollection entitySet.collectionName) 0 empty
      unfold withEntitySet at added
      dsimp only at added
      split at added
      · next count last inserted =>
        obtain rfl := Except.ok.inj added
        rw [inserted] at filled stillSame
        obtain ⟨rest, clockRest⟩ := inductionHypothesis last (fun other later =>
          bare other (List.mem_cons_of_mem entitySet later)) filled done
        exact ⟨rest, clockRest.trans (stillSame.trans sameClock)⟩
      · simp at added
  exact folded settings.entitySets { clock, identifiers } seeds
    (fun _ row none => absurd none (by simp [Store.rows, Members.get?])) started

/-- Whether nothing that is written in a happening leads into the change field. -/
def Happening.IsOrdinary : Happening → Prop
  | .asked request => Server.IsOrdinary settings request
  | .waited _ => True

/-- What happenings do to a store: the moves of a walk for each of them. -/
inductive Accounts : Store → List Happening → List Move → Prop where
  | none (store : Store) : Accounts store [] []
  | next {store : Store} {happening : Happening} {happenings : List Happening}
      {own moves : List Move}
      (walk : Traffic.Walk settings.changeField ⟨store, []⟩ own
        ⟨happen settings store happening, []⟩)
      (rest : Accounts (happen settings store happening) happenings moves) :
      Accounts store (happening :: happenings) (own ++ moves)

variable {settings}

/-- The accounts of happenings are one walk. -/
theorem Accounts.walk {store : Store} {happenings : List Happening} {moves : List Move}
    (accounts : Accounts settings store happenings moves) :
    Traffic.Walk settings.changeField ⟨store, []⟩ moves ⟨run settings store happenings, []⟩ := by
  induction accounts with
  | none store => exact .done _
  | next walk _ inductionHypothesis => exact walk.append inductionHypothesis

/-- Ordinary happenings have accounts. A request is a walk of its own from an idle store to an idle
store, and waiting is a single move. -/
theorem accounts_exist (store : Store) (happenings : List Happening)
    (ordinary : ∀ happening ∈ happenings, happening.IsOrdinary settings) :
    ∃ moves, Accounts settings store happenings moves := by
  induction happenings generalizing store with
  | nil => exact ⟨[], .none store⟩
  | cons happening happenings inductionHypothesis =>
    obtain ⟨moves, rest⟩ := inductionHypothesis (happen settings store happening)
      fun other later => ordinary other (List.mem_cons_of_mem happening later)
    have first := ordinary happening List.mem_cons_self
    cases happening with
    | asked request =>
      obtain ⟨own, walk⟩ := answer_reaches store request first
      exact ⟨own ++ moves, .next walk rest⟩
    | waited reading =>
      have waits : Traffic.Step settings.changeField ⟨store, []⟩ .waited
          ⟨happen settings store (.waited reading), []⟩ :=
        .waited ⟨store, []⟩ _ ⟨Nat.le_max_left _ _, Nat.le_refl _, rfl⟩
      exact ⟨[.waited] ++ moves, .next waits.walk rest⟩

/-- A token that a server issues is resolved, after any requests, to exactly the rows of the
collection that were last inserted or changed since then, in their order. Resolving it leaves the
store as it is.

Proof: every request accounts for moves, that is for writes, removals and checkpoints one after the
other. Along the moves stamps stay behind the clock, and a row shows the reading at which it was
last written, so a row is stamped behind the token exactly if it was written behind it. At the start
no row has a stamp. Below `2^63` the readings are compared as they are, and the condition of the
token selects the rows by their stamps. -/
theorem changes_since_token (settings : ServerSettings) (clock : Clock)
    (identifiers : Identifiers) (plain : '.' ∉ settings.changeField.toList)
    (field : settings.changeField.toList.head? ≠ some '$')
    (apart : settings.changeField ≠ identityField)
    (seeds : ∀ entitySet ∈ settings.entitySets, ∀ row ∈ entitySet.seed,
      row.valueAt? settings.changeField = none)
    (increases : clock.Increases) (begun : Store)
    (started : startFrom identifiers settings clock = .ok begun)
    (earlier later : List Happening)
    (ordinary : ∀ happening ∈ earlier ++ later, happening.IsOrdinary settings)
    (entitySet : EntitySet) (request : Request) (tracks : tracksChanges request = true)
    (answer : Answer) (issued : Store)
    (tracked : read settings (run settings begun earlier) entitySet request =
      .ok (answer, issued))
    (bounded : (run settings issued later).clock.now ≤ 2 ^ 63) :
    (∃ moves, Accounts settings issued later moves) ∧
    ∃ token, answer = .ofDocument 200 (.object [("@odata.deltaLink", .string
        (changesLink (request.origin ++ settings.base ++ "/" ++ entitySet.name) token))]) ∧
      ∀ moves, Accounts settings issued later moves →
      ∀ target resolving, tracksChanges resolving = false →
        resolving.parameters.nonEmpty? "$deltatoken" = some token →
        read settings (run settings issued later) target resolving =
          .ok (.ofDocument 200 (.object [("value", .array
            (Store.marked ((run settings issued later).rows target.collectionName)
              (Marks.writtenSince ⟨issued, []⟩ moves target.collectionName)))]),
            run settings issued later) := by
  obtain ⟨unstamped, sameClock⟩ :=
    start_unstamped settings clock identifiers plain apart seeds begun started
  have quiet : Traffic.Timely settings.changeField ⟨begun, []⟩ := by
    refine ⟨sameClock ▸ increases, ?_, fun _ none => absurd none List.not_mem_nil⟩
    intro other row present stamp shown
    rw [unstamped other row present] at shown
    exact absurd shown (by simp)
  obtain ⟨moves, before⟩ := accounts_exist begun earlier fun happening early =>
    ordinary happening (List.mem_append_left later early)
  have timely := before.walk.timely plain quiet
  refine ⟨accounts_exist issued later fun happening late =>
    ordinary happening (List.mem_append_right earlier late), ?_⟩
  rw [read, if_pos tracks] at tracked
  obtain ⟨⟨checkpoint, store⟩, watched, done⟩ := (bind_ok_iff _ _ _).mp tracked
  have initiated := (Store.watch_ok_iff _ _ _).mp watched
  obtain ⟨rfl, rfl⟩ := Prod.mk.inj (Except.ok.inj done)
  refine ⟨checkpoint.token, rfl, ?_⟩
  intro moves accounts target resolving untracked given
  have noOperator : Predicate.isOperator settings.changeField = false := by
    simpa [Predicate.isOperator] using field
  have resolved := Traffic.resolve_stamped plain noOperator timely initiated accounts.walk bounded
    target.source
  simp only [read, untracked, Bool.false_eq_true, if_false, given, changes, resolved, ok_bind]
  rfl

/-- A server with one entity set, whose rows are created by requests. -/
def stall : ServerSettings := { entitySets := [items] }
where
  /-- The entity set. -/
  items : EntitySet := { name := "Items" }

/-- The store that the server begins with at a reading of its clock. -/
def opened (reading : Nat) : Store := { collections := [("Items", [])], clock := ⟨reading, 1⟩ }

/-- The request that sets a checkpoint. -/
def tracking : Request := { target := "/odata/Items?$delta=true" }

/-- The request sets a checkpoint. -/
theorem tracking_tracks : tracksChanges tracking = true := by decide +kernel

/-- A store behind its first checkpoint, which took a reading of the clock and an identifier. -/
def tracked (store : Store) : Store :=
  { store with
    clock := store.clock.read.2
    checkpoints := [⟨identifier 0, store.clock.now, none⟩]
    issued := 1 }

/-- The request that sets the first checkpoint is answered with its link. -/
theorem read_tracking (settings : ServerSettings) (store : Store) (entitySet : EntitySet)
    (none : store.checkpoints = []) (source : store.identifiers = .counted)
    (unused : store.issued = 0) :
    read settings store entitySet tracking =
      .ok (.ofDocument 200 (.object [("@odata.deltaLink", .string (changesLink
        (tracking.origin ++ settings.base ++ "/" ++ entitySet.name) (identifier 0)))]),
        tracked store) := by
  obtain ⟨collections, checkpoints, clock, identifiers, issued⟩ := store
  obtain rfl : checkpoints = [] := none
  obtain rfl : identifiers = .counted := source
  obtain rfl : issued = 0 := unused
  rw [read, if_pos tracking_tracks]
  rfl

/-- The request that resolves the first checkpoint. -/
def resolving : Request :=
  { target := "/odata/Items?$deltatoken=00000000-0000-4000-8000-000000000000" }

/-- The token of the request is that of the first checkpoint. -/
theorem resolving_token : tracksChanges resolving = false ∧
    resolving.parameters.nonEmpty? "$deltatoken" = some (identifier 0) := by
  constructor <;> decide +kernel

/-- A request that creates a row with an identity and nothing else. -/
def supply : Request :=
  { method := "POST"
    target := "/odata/Items"
    headers := [("content-type", "application/json")]
    body := "\x7b\"_id\":1\x7d" }

/-- The row that is created behind the first checkpoint. -/
def suppliedRow (reading : Nat) : Json :=
  .object [("_id", .ofNat 1), ("_updatedAtMs", .ofNat (reading + 1))]

/-- The store with the row, whose stamp is the reading behind the checkpoint. -/
def supplied (reading : Nat) : Store :=
  { tracked (opened reading) with
    collections := [("Items", [suppliedRow reading])]
    clock := ⟨reading + 2, 1⟩ }

/-- Whether members are those of the row that the request creates, so that reading its body can be
decided. -/
def isSupply : Members Json → Bool
  | [(name, .number number)] => name == "_id" && number == .integer 1
  | _ => false

/-- The members of the row that the request creates: its body is read as one object with an
identity. -/
theorem supply_members : bodyMembers supply = .ok [("_id", .ofNat 1)] := by
  have single : (bodyMembers supply).toOption.any isSupply = true := by decide +kernel
  cases body : bodyMembers supply with
  | error failure =>
    rw [body] at single
    exact absurd single Bool.false_ne_true
  | ok members =>
    rw [body] at single
    have own : isSupply members = true := single
    unfold isSupply at own
    split at own
    · next name number =>
      obtain ⟨rfl, rfl⟩ : name = "_id" ∧ number = .integer 1 := by simpa using own
      rfl
    · exact absurd own Bool.false_ne_true

/-- Nothing that the request writes leads into the change field, whichever action it is
taken for. -/
theorem supply_ordinary : Members.Ordinary "_updatedAtMs" [("_id", .ofNat 1)] ∧
    IsOrdinary stall supply := by
  have apart : Members.Apart "_updatedAtMs" [("_id", .ofNat 1)] := by
    intro name present
    obtain rfl : name = "_id" := by simpa [Members.names] using present
    decide
  refine ⟨⟨bodyMembers_distinct supply _ supply_members, apart⟩, ?_⟩
  have each (members : Members Json) (body : bodyMembers supply = .ok members) :
      Members.Apart "_updatedAtMs" members := by
    obtain rfl := Except.ok.inj (supply_members.symm.trans body)
    exact apart
  have action : action? stall supply = some (.create "Items".toList) := by decide +kernel
  constructor
  · exact fun _ _ => each
  · exact fun _ _ _ => each
  · simp [action]

/-- The request creates the row, as answering it from its address on shows. -/
theorem supply_creates (reading : Nat) :
    happen stall (tracked (opened reading)) (.asked supply) = supplied reading := by
  have created : create stall (tracked (opened reading)) stall.items supply =
      .ok (.ofDocument 201 (suppliedRow reading), supplied reading) := by
    rw [create, supply_members]
    rfl
  have name : decoded "set" "Items".toList = .ok "Items" := rfl
  have exposed : stall.exposed "Items" = .ok stall.items := rfl
  have done : carryOut stall (tracked (opened reading)) supply (.create "Items".toList) =
      .ok (.ofDocument 201 (suppliedRow reading), supplied reading) := by
    simp only [carryOut, name, exposed, created, mapError_ok, Store.behind_ok, ok_bind]
  have routed : Route.ofPath? stall.base.toList supply.path = some (.rows "Items".toList) := by
    decide +kernel
  have acted : (Route.rows "Items".toList).action? supply.method =
      some (.create "Items".toList) := by decide +kernel
  rw [happen, Server.answer, if_neg (by decide)]
  simp only [respond, routed, acted, done]

/-- What the request does at any reading of the clock: a write is stamped, and it adds a row. -/
theorem supply_accounts (reading : Nat) : Accounts stall (tracked (opened reading))
    [.asked supply] [.stamped, .added 0 "Items"] := by
  have stamped := Traffic.Step.stamped ⟨tracked (opened reading), []⟩
    ⟨"Items", none, [("_id", .ofNat 1)]⟩ supply_ordinary.1
  have added : Traffic.Step "_updatedAtMs"
      ⟨{ tracked (opened reading) with clock := ⟨reading + 2, 1⟩ },
        [⟨"Items", none, [("_id", .ofNat 1), ("_updatedAtMs", .ofNat (reading + 1))]⟩]⟩
      (.added 0 "Items") ⟨supplied reading, []⟩ :=
    .added rfl ((Store.insert_ok_iff _ _ _ _ _).mpr ⟨rfl, rfl, rfl⟩)
  have walk : Traffic.Walk stall.changeField ⟨tracked (opened reading), []⟩
      [.stamped, .added 0 "Items"]
      ⟨happen stall (tracked (opened reading)) (.asked supply), []⟩ :=
    supply_creates reading ▸ .step stamped added.walk
  exact .next walk (.none _)

/-- A row that is created behind a checkpoint is among the changes. The token of the link that was
answered is the one that the changes are asked for with. -/
theorem supply_found :
    start stall ⟨0, 1⟩ = .ok (opened 0) ∧ (opened 0).clock.Increases ∧
    IsOrdinary stall supply ∧ tracksChanges tracking = true ∧
    (∃ answer, read stall (opened 0) stall.items tracking = .ok (answer, tracked (opened 0))) ∧
    read stall (run stall (tracked (opened 0)) [.asked supply]) stall.items resolving =
      .ok (.ofDocument 200 (.object [("value", .array [suppliedRow 0])]), supplied 0) := by
  have started : start stall ⟨0, 1⟩ = .ok (opened 0) := rfl
  have increases : (opened 0).clock.Increases := fun _ => Nat.one_pos
  have issued := read_tracking stall (opened 0) stall.items rfl rfl rfl
  have behind : run stall (tracked (opened 0)) [.asked supply] = supplied 0 := supply_creates 0
  refine ⟨started, increases, supply_ordinary.2, tracking_tracks, ⟨_, issued⟩, ?_⟩
  obtain ⟨-, token, link, found⟩ := changes_since_token stall ⟨0, 1⟩ .counted (by decide)
    (by decide) (by decide) (by simp [stall, stall.items]) increases (opened 0) started []
    [.asked supply] (by simpa [Happening.IsOrdinary] using supply_ordinary.2) stall.items tracking
    tracking_tracks _ _ issued (behind ▸ by decide)
  obtain rfl : identifier 0 = token :=
    changesLink_inj _ _ _ (by simpa [Answer.ofDocument] using link)
  have value := found _ (supply_accounts 0) stall.items resolving resolving_token.1
    resolving_token.2
  rw [behind] at value ⊢
  exact value

/-- Readings from `2^63` on are compared as binary64 numbers, and the stamp of the row is then no
later than the checkpoint. -/
theorem supply_not_later :
    (supplied (2 ^ 63)).resolve "_updatedAtMs" (identifier 0) stall.items.source = .ok [] := by
  have none : ((supplied (2 ^ 63)).resolve "_updatedAtMs" (identifier 0)
      stall.items.source).toOption.any List.isEmpty = true := by decide +kernel
  cases found : (supplied (2 ^ 63)).resolve "_updatedAtMs" (identifier 0) stall.items.source with
  | error failure =>
    rw [found] at none
    exact absurd none Bool.false_ne_true
  | ok rows =>
    rw [found] at none
    rw [List.isEmpty_iff.mp none]

/-- A server whose change field has the name of an operator, with a row from the beginning. -/
def shelf : ServerSettings := { changeField := "$ts", entitySets := [items] }
where
  /-- The entity set. -/
  items : EntitySet := { name := "Items", seed := [.object [("_id", .ofNat 1)]] }

/-- The store that the server begins with. -/
def shelved : Store :=
  { collections := [("Items", [.object [("_id", .ofNat 1)]])], clock := ⟨0, 1⟩ }

/-- Where the readings reach `2^63`, a row that was created behind a token is missed; and where
the change field has the name of an operator, a token is issued that is not resolved. -/
theorem changes_missed :
    (start stall ⟨2 ^ 63, 1⟩ = .ok (opened (2 ^ 63)) ∧
      (∃ answer, read stall (opened (2 ^ 63)) stall.items tracking =
        .ok (answer, tracked (opened (2 ^ 63)))) ∧
      Accounts stall (tracked (opened (2 ^ 63))) [.asked supply] [.stamped, .added 0 "Items"] ∧
      Marks.writtenSince ⟨tracked (opened (2 ^ 63)), []⟩ [.stamped, .added 0 "Items"] "Items" =
        [true] ∧
      (run stall (tracked (opened (2 ^ 63))) [.asked supply]).rows "Items" =
        [suppliedRow (2 ^ 63)] ∧
      read stall (run stall (tracked (opened (2 ^ 63))) [.asked supply]) stall.items resolving =
        .ok (.ofDocument 200 (.object [("value", .array [])]), supplied (2 ^ 63))) ∧
    start shelf ⟨0, 1⟩ = .ok shelved ∧
    (∃ answer, read shelf shelved shelf.items tracking = .ok (answer, tracked shelved)) ∧
    read shelf (tracked shelved) shelf.items resolving =
      .error ⟨.pipeline (.predicate (.unknownCombinator "$ts")), tracked shelved⟩ := by
  obtain ⟨untracked, given⟩ := resolving_token
  have issued := read_tracking stall (opened (2 ^ 63)) stall.items rfl rfl rfl
  have behind : run stall (tracked (opened (2 ^ 63))) [.asked supply] = supplied (2 ^ 63) :=
    supply_creates (2 ^ 63)
  have missed : read stall (supplied (2 ^ 63)) stall.items resolving =
      .ok (.ofDocument 200 (.object [("value", .array [])]), supplied (2 ^ 63)) := by
    have resolved : (supplied (2 ^ 63)).resolve stall.changeField (identifier 0)
        stall.items.source = .ok [] := supply_not_later
    simp only [read, untracked, Bool.false_eq_true, if_false, given, changes, resolved, ok_bind]
    rfl
  have kept := read_tracking shelf shelved shelf.items rfl rfl rfl
  have refused : read shelf (tracked shelved) shelf.items resolving =
      .error ⟨.pipeline (.predicate (.unknownCombinator "$ts")), tracked shelved⟩ := by
    simp only [read, untracked, Bool.false_eq_true, if_false, given]
    rfl
  rw [behind]
  exact ⟨⟨rfl, ⟨_, issued⟩, supply_accounts (2 ^ 63), rfl, rfl, missed⟩, rfl, ⟨_, kept⟩, refused⟩

end Server

end DocumentQuery
