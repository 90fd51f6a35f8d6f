import DocumentQuery.Proofs.Store.Setbacks
import DocumentQuery.Proofs.Store.Stamps

/-!
# Writers at work on one store

A write is made in two steps: its members are stamped with a reading of the clock, and later they
are written to a row. Between the two other writers may stamp, write and remove rows, and
checkpoints may be set. Each step is one call of the store's own operations; any interleaving of
them is a walk.

What a walk does to the rows is told by its moves. From them alone marks are computed that say of
each row whether it was last written by a write that was stamped after some moment. The invariant
of walks is that the marks agree with the stamps that the rows hold.
-/

namespace DocumentQuery

/-- A write whose members are stamped and that is still to be performed. -/
structure Writing where
  collection : String
  /-- What a change finds its row by; a creation has none. -/
  predicate : Option Json
  members : Members Json

/-- A store and the writes that are under way to it, the earliest first. -/
structure Traffic where
  store : Store
  underway : List Writing := []

/-- What a step does. A write under way is known by its place among those under way. -/
inductive Move where
  /-- A new write is stamped. -/
  | stamped
  /-- A write adds a row to a collection. -/
  | added (writer : Nat) (collection : String)
  /-- A write changes the row at a place. -/
  | changed (writer : Nat) (collection : String) (place : Nat)
  /-- A write is refused, finds no row, or is given up. -/
  | dropped (writer : Nat)
  /-- The row at a place is removed. -/
  | removed (collection : String) (place : Nat)
  /-- A checkpoint is set. -/
  | issued
  /-- Time passes, and identifiers may be drawn. -/
  | waited
  deriving DecidableEq, Repr

namespace Traffic

/-- The traffic with one more write under way, stamped now and stored at some later time. -/
def stamp (traffic : Traffic) (changeField : String) (writing : Writing) : Traffic :=
  let (members, store) := traffic.store.stamp changeField writing.members
  ⟨store, traffic.underway ++ [{ writing with members }]⟩

/-- One step of a writer, of one who removes rows, or of one who sets a checkpoint. -/
inductive Step (changeField : String) : Traffic → Move → Traffic → Prop where
  | stamped (traffic : Traffic) (writing : Writing)
      (ordinary : Members.Ordinary changeField writing.members) :
      Step changeField traffic .stamped (traffic.stamp changeField writing)
  | added {traffic : Traffic} {writer : Nat} {collection : String} {members : Members Json}
      {row : Json} {store : Store}
      (pending : traffic.underway[writer]? = some ⟨collection, none, members⟩)
      (done : traffic.store.insert collection (.object members) = .ok (row, store)) :
      Step changeField traffic (.added writer collection)
        ⟨store, traffic.underway.eraseIdx writer⟩
  | changed {traffic : Traffic} {writer : Nat} {collection : String} {predicate : Json}
      {values : Members Json} {place : Nat} {store : Store}
      (pending : traffic.underway[writer]? = some ⟨collection, some predicate, values⟩)
      (found : Store.position? predicate (traffic.store.rows collection) = .ok (some place))
      (done : traffic.store.update collection predicate values = .ok (1, store)) :
      Step changeField traffic (.changed writer collection place)
        ⟨store, traffic.underway.eraseIdx writer⟩
  | dropped (traffic : Traffic) (writer : Nat) :
      Step changeField traffic (.dropped writer)
        ⟨traffic.store, traffic.underway.eraseIdx writer⟩
  | removed {traffic : Traffic} {collection : String} {predicate : Json} {place : Nat}
      {store : Store}
      (found : Store.position? predicate (traffic.store.rows collection) = .ok (some place))
      (done : traffic.store.delete collection predicate = .ok (1, store)) :
      Step changeField traffic (.removed collection place) ⟨store, traffic.underway⟩
  | issued {traffic : Traffic} {resume : Option Json} {checkpoint : Checkpoint} {store : Store}
      (done : traffic.store.initiate resume = .ok (checkpoint, store)) :
      Step changeField traffic .issued ⟨store, traffic.underway⟩
  | waited (traffic : Traffic) (store : Store) (spends : traffic.store.Spends store) :
      Step changeField traffic .waited ⟨store, traffic.underway⟩

/-- Any number of steps, interleaved in any way, with their moves in order. -/
inductive Walk (changeField : String) : Traffic → List Move → Traffic → Prop where
  | done (traffic : Traffic) : Walk changeField traffic [] traffic
  | step {before between after : Traffic} {move : Move} {moves : List Move}
      (first : Step changeField before move between)
      (rest : Walk changeField between moves after) :
      Walk changeField before (move :: moves) after

/-- Walks that meet are one walk. -/
theorem Walk.append {changeField : String} {before between after : Traffic}
    {moves others : List Move} (first : Walk changeField before moves between)
    (second : Walk changeField between others after) :
    Walk changeField before (moves ++ others) after := by
  induction first with
  | done => exact second
  | step head _ inductionHypothesis => exact .step head (inductionHypothesis second)

/-- A single step is a walk. -/
theorem Step.walk {changeField : String} {before after : Traffic} {move : Move}
    (only : Step changeField before move after) : Walk changeField before [move] after :=
  .step only (.done after)

end Traffic

/-- Marks on the rows of each collection and on the writes under way. -/
structure Marks where
  rows : String → List Bool
  underway : List Bool

namespace Marks

/-- The marks with those of one collection changed, and those of all others left. -/
def inCollection (marks : Marks) (collection : String) (change : List Bool → List Bool) : Marks :=
  { marks with rows := fun other =>
      if other = collection then change (marks.rows other) else marks.rows other }

/-- The marks after a write is no longer under way. -/
def without (marks : Marks) (writer : Nat) : Marks :=
  { marks with underway := marks.underway.eraseIdx writer }

/-- The marks after a move: a new write is marked, and a row that is written takes the mark of
the write. -/
def after (marks : Marks) : Move → Marks
  | .stamped => { marks with underway := marks.underway ++ [true] }
  | .added writer collection =>
    let mark := marks.underway.getD writer false
    (marks.inCollection collection fun rows => rows ++ [mark]).without writer
  | .changed writer collection place =>
    let mark := marks.underway.getD writer false
    (marks.inCollection collection fun rows => rows.set place mark).without writer
  | .dropped writer => marks.without writer
  | .removed collection place => marks.inCollection collection fun rows => rows.eraseIdx place
  | .issued | .waited => marks

/-- The marks after moves. -/
def afterAll (marks : Marks) (moves : List Move) : Marks := moves.foldl after marks

/-- No row is marked, and all writes under way are marked alike. -/
def beginning (traffic : Traffic) (mark : Bool) : Marks :=
  ⟨fun collection => (traffic.store.rows collection).map fun _ => false,
    traffic.underway.map fun _ => mark⟩

/-- The rows of a collection that were last written, after some traffic, by a write that was
stamped after it. -/
def stampedSince (traffic : Traffic) (moves : List Move) (collection : String) : List Bool :=
  ((beginning traffic false).afterAll moves).rows collection

/-- The rows of a collection that were last written after some traffic, whenever the write was
stamped. -/
def writtenSince (traffic : Traffic) (moves : List Move) (collection : String) : List Bool :=
  ((beginning traffic true).afterAll moves).rows collection

end Marks

end DocumentQuery
