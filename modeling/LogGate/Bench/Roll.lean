import LogGate.Writer

/-!
# Paper rolls

What a console on a bench prints on. A roll has room for so many bytes, or has no end; it takes as
many of the bytes offered as there is room for. Once there is none, it refuses, takes nothing, or
jams.
-/

namespace LogGate.Bench

/-- What a roll does when there is no room left. -/
inductive WhenFull where
  | refuse
  | takeNothing
  | jam
  deriving DecidableEq, Repr

/-- A roll of paper. -/
structure Roll where
  /-- The name of the console that prints on it. -/
  name : String
  /-- The room for bytes that is left, if it ends. -/
  room : Option Nat := none
  whenFull : WhenFull := .refuse
  /-- Whether flushing fails. -/
  flushFails : Bool := false
  /-- What has been printed. -/
  printed : List UInt8 := []
  deriving DecidableEq, Repr

namespace Roll

/-- What a roll without room does with bytes. -/
def overflow : WhenFull → Writer.Answer
  | .refuse => .stopped (.refused "out of paper")
  | .takeNothing => .took 0
  | .jam => .stopped (.crashed "paper jam")

/-- Offers bytes to a roll. -/
def write (bytes : List UInt8) (roll : Roll) : Writer.Answer × Roll :=
  match roll.room with
  | none => (.took bytes.length, { roll with printed := roll.printed ++ bytes })
  | some 0 => (overflow roll.whenFull, roll)
  | some room =>
    let taken := bytes.take room
    (.took taken.length,
      { roll with room := some (room - taken.length), printed := roll.printed ++ taken })

/-- A roll never interrupts. -/
theorem write_ne_interrupted (bytes : List UInt8) (roll : Roll) :
    (roll.write bytes).1 ≠ .interrupted := by
  unfold write
  split
  · simp
  · cases roll.whenFull <;> simp [overflow]
  · simp

/-- What flushing a roll comes to. -/
def flush (roll : Roll) : Option Trouble :=
  if roll.flushFails then some (.refused "cannot flush") else none

/-- A roll as a writer. -/
def writer : Writer Roll where
  write := write
  flush roll := (roll.flush, roll)
  patience _ := 0
  patience_lt h := absurd h (write_ne_interrupted _ _)

end Roll

end LogGate.Bench
