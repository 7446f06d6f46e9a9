import LogGate.Stage.Basic

/-!
# Gates

A gate stands in front of a stage and lets through the records that are at least as severe as its
minimum; it drops the others and counts that as done. The minimum is read anew at every call. A
gate answers whether it would process a record from the minimum, and asks the stage behind it only
if that stage decided on records when the gate was built.
-/

namespace LogGate

/-- A gate in front of a stage. -/
structure Gate (σ : Type) where
  downstream : Stage σ
  /-- Reads the minimum. -/
  minimum : StateM σ Severity
  /-- Whether the stage behind the gate is asked too. -/
  consults : Bool

namespace Gate

variable {σ : Type}

/-- What a gate tells when it is built in front of nothing. -/
def discarding : Diagnostic :=
  ⟨.debug, "logger::processors::minsev",
    "no downstream processor given, records will be discarded", []⟩

/-- Builds a gate. Without a stage, it stands in front of the silent one; without a minimum, its
minimum is the default severity. -/
def build (host : Host σ) (downstream : Option (Stage σ)) (minimum : Option (StateM σ Severity)) :
    StateM σ (Gate σ) := do
  if downstream.isNone then modify (host.note discarding)
  let stage := downstream.getD .silent
  return ⟨stage, minimum.getD (pure .default), ← stage.filters⟩

/-- The stage that a gate and the stage behind it make together. -/
def stage (g : Gate σ) : Stage σ where
  emit ctx r := do
    let minimum ← g.minimum
    if minimum ≤ r.severity then g.downstream.emit ctx r else return (.done, r)
  enabled ctx q := do
    let minimum ← g.minimum
    if minimum ≤ q.severity then
      if g.consults then g.downstream.enabled ctx q else return true
    else return false
  shutdown := g.downstream.shutdown
  flush := g.downstream.flush
  filters := pure true

end Gate

end LogGate
