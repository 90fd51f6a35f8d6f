/-!
# Clocks

A clock counts milliseconds in 64 bits. Every reading moves it on at its pace. With a pace of zero
it stands still until it is set by hand; with a pace that is never zero no two readings are equal.
-/

namespace DocumentQuery

/-- How far a reading moves a clock on, which may differ from reading to reading. -/
structure Pace where
  after : Nat → Nat
  deriving Inhabited

/-- A number of milliseconds as the pace that is the same everywhere. -/
instance (milliseconds : Nat) : OfNat Pace milliseconds := ⟨⟨fun _ => milliseconds⟩⟩

/-- A clock: what it shows, and how far each reading moves it on. -/
structure Clock where
  now : Nat := 0
  pace : Pace := 0
  deriving Inhabited

namespace Clock

/-- A reading, and the clock behind it. -/
def read (clock : Clock) : Nat × Clock :=
  (clock.now, { clock with now := clock.now + clock.pace.after clock.now })

/-- The clock set to another reading. -/
def set (clock : Clock) (milliseconds : Nat) : Clock := { clock with now := milliseconds }

/-- The clock moved on by hand. It starts again behind its last reading. -/
def advance (clock : Clock) (milliseconds : Nat) : Clock :=
  { clock with now := (clock.now + milliseconds) % Nat.pow 2 64 }

end Clock

end DocumentQuery
