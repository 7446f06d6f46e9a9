import LogGate.Proofs.Stage.Ledger

/-!
# Answers to calls

What comes back from a call on a stage, whichever of its operations is called: an outcome, for a
record also what the stage has made of it, or a yes or no. `Call.make` makes a call that is given as
a value, so that runs of calls can be spoken of.
-/

namespace LogGate

/-- Whether a call broke off. -/
def Outcome.isCrash : Outcome → Bool
  | crashed _ => true
  | done | failed _ => false

namespace Stage

/-- What comes back from a call on a stage. -/
inductive Answer where
  | emitted (outcome : Outcome) (r : Record)
  | called (outcome : Outcome)
  | holds (answer : Bool)

/-- Whether the call that was answered broke off. -/
def Answer.isCrash : Answer → Bool
  | emitted outcome _ | called outcome => outcome.isCrash
  | holds _ => false

/-- Makes a call on a stage. -/
def Call.make {σ : Type} (S : Stage σ) : Call → StateM σ Answer
  | emit ctx r => do
    let (outcome, r) ← S.emit ctx r
    return .emitted outcome r
  | enabled ctx q => return .holds (← S.enabled ctx q)
  | shutdown ctx => return .called (← S.shutdown ctx)
  | flush ctx => return .called (← S.flush ctx)
  | filters => return .holds (← S.filters)

end Stage

end LogGate
