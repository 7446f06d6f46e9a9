/-!
# Contexts

A context accompanies a call and may carry a deadline, a moment on a clock that never runs back.
The clock counts seconds as signed 64-bit numbers, so a timeout can lead off it: then there is no
such context. A deadline is over from its own moment on, and a context without one never expires.
-/

namespace LogGate

/-- A moment on the clock, as nanoseconds since its start. -/
abbrev Moment := Nat

namespace Moment

/-- The nanoseconds of a second. -/
def second : Nat := 1_000_000_000

/-- The first moment that the clock cannot show. -/
def limit : Moment := 9_223_372_036_854_775_808 * second

end Moment

/-- What accompanies a call. -/
structure Context where
  deadline : Option Moment := none
  deriving DecidableEq, Repr

/-- A timeout leads to a moment that the clock cannot show. -/
inductive ClockError where
  | overflow
  deriving DecidableEq, Repr

/-- The text of an error. -/
def ClockError.message : ClockError → String
  | overflow => "overflow when adding duration to instant"

namespace Context

/-- The context without a deadline. -/
def background : Context := {}

/-- The context with another deadline. -/
def withDeadline (_ : Context) (deadline : Moment) : Context := ⟨some deadline⟩

/-- The context whose deadline is so many nanoseconds from now. -/
def withTimeout (ctx : Context) (now : Moment) (duration : Nat) : Except ClockError Context :=
  if now + duration < Moment.limit then .ok (ctx.withDeadline (now + duration))
  else .error .overflow

/-- Whether the deadline of a context is over. -/
def isExpired (ctx : Context) (now : Moment) : Bool := ctx.deadline.any (· ≤ now)

/-- A deadline is over from its own moment on. -/
theorem isExpired_withDeadline (ctx : Context) (deadline now : Moment) :
    (ctx.withDeadline deadline).isExpired now = decide (deadline ≤ now) := rfl

/-- One way to give a context its deadline. -/
inductive Setting where
  | timeout (duration : Nat)
  | deadline (moment : Moment)
  deriving DecidableEq, Repr

/-- The context with its deadline set at a moment. -/
def apply (ctx : Context) (now : Moment) : Setting → Except ClockError Context
  | .timeout duration => ctx.withTimeout now duration
  | .deadline moment => .ok (ctx.withDeadline moment)

/-- The context after settings, each made at a moment of its own. -/
def build (settings : List (Moment × Setting)) : Except ClockError Context :=
  settings.foldlM (fun ctx s => ctx.apply s.1 s.2) background

/-- How a context stands to a moment. -/
inductive Standing where
  /-- It has no deadline. -/
  | unlimited
  /-- Its deadline is to come. -/
  | pending
  /-- Its deadline is over. -/
  | expired
  deriving DecidableEq, Repr

/-- How a context stands to a moment. -/
def standing (ctx : Context) (now : Moment) : Standing :=
  if ctx.deadline = none then .unlimited else if ctx.isExpired now then .expired else .pending

end Context

end LogGate
