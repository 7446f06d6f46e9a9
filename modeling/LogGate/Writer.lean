/-!
# Writers

A writer takes bytes, not always all that it is offered. `Writer.writeAll` offers it what is left
until nothing is: it tries again after an interruption, and a writer that takes nothing is an error
like any other. An interruption uses up some of the writer's patience, so that there are not
endlessly many of them.
-/

namespace LogGate

/-- Why a writer stopped. -/
inductive Trouble where
  | refused (reason : String)
  | crashed (message : String)
  deriving DecidableEq, Repr

namespace Writer

/-- What became of the bytes that a writer was offered. -/
inductive Answer where
  /-- The writer took so many of them, from the front. -/
  | took (count : Nat)
  /-- The writer took none and may be offered them again. -/
  | interrupted
  /-- The writer took none and will not. -/
  | stopped (trouble : Trouble)
  deriving DecidableEq, Repr

end Writer

/-- A writer with a state. -/
structure Writer (ω : Type) where
  write : List UInt8 → ω → Writer.Answer × ω
  flush : ω → Option Trouble × ω
  /-- How many interruptions there can still be. -/
  patience : ω → Nat
  patience_lt : ∀ {bytes : List UInt8} {s : ω}, (write bytes s).1 = .interrupted →
    patience (write bytes s).2 < patience s

/-- Writes bytes until all are taken or the writer stops. -/
def Writer.writeAll {ω : Type} (w : Writer ω) (bytes : List UInt8) (s : ω) : Option Trouble × ω :=
  match bytes with
  | [] => (none, s)
  | byte :: rest =>
    match _h : w.write (byte :: rest) s with
    | (.took 0, s') => (some (.refused "failed to write whole buffer"), s')
    | (.took (n + 1), s') => w.writeAll (rest.drop n) s'
    | (.interrupted, s') => w.writeAll (byte :: rest) s'
    | (.stopped trouble, s') => (some trouble, s')
termination_by (bytes.length, w.patience s)
decreasing_by
  · refine Prod.Lex.left _ _ ?_
    rw [List.length_drop, List.length_cons]
    omega
  · refine Prod.Lex.right _ ?_
    have hlt := w.patience_lt (congrArg Prod.fst _h)
    rwa [_h] at hlt

/-- What is left to be written after one answer of the writer. -/
theorem Writer.writeAll_cons {ω : Type} (w : Writer ω) (byte : UInt8) (rest : List UInt8) (s : ω) :
    w.writeAll (byte :: rest) s =
      match w.write (byte :: rest) s with
      | (.took 0, s') => (some (.refused "failed to write whole buffer"), s')
      | (.took (n + 1), s') => w.writeAll (rest.drop n) s'
      | (.interrupted, s') => w.writeAll (byte :: rest) s'
      | (.stopped trouble, s') => (some trouble, s') := by
  rw [Writer.writeAll]
  split <;> next h => rw [h]

end LogGate
