import LogGate.Gate

/-!
# The sample

Five records, one of each family but the last, to be seen through a gate. The gate is asked before
each of them, and one that it would not process is passed over. The first call that is not done
ends the sample.
-/

namespace LogGate.Sample

/-- The severities and bodies of the sample. -/
def entries : List (Severity × String) :=
  [(.base .trace, "Entering poll loop"),
    (.base .debug, "Cache miss for session"),
    (.base .info, "Listening for connections"),
    (.base .warn, "Request queue above 80%"),
    (.base .error, "Failed to persist checkpoint")]

/-- What is told of an entry that is passed over. -/
def skipping (severity : Severity) : Diagnostic :=
  ⟨.trace, "minsev", "skipping disabled severity", [("severity", severity.name)]⟩

/-- The record of an entry, made at a time. -/
def record (time : Time.Instant) (severity : Severity) (body : String) : Record :=
  ({ time, severity, body } : Record).withAttribute "source" "sample"

variable {σ : Type}

/-- Passes entries through a gate, in order. -/
def emitEntries (host : Host σ) (gate : Gate σ) (ctx : Context) :
    List (Severity × String) → StateM σ Outcome
  | [] => return .done
  | (severity, body) :: rest => do
    if ← gate.stage.enabled ctx { severity } then
      let (outcome, _) ← gate.stage.emit ctx (record (host.time (← get)) severity body)
      if outcome = .done then emitEntries host gate ctx rest else return outcome
    else
      modify (host.note (skipping severity))
      emitEntries host gate ctx rest

/-- Passes the sample through a gate. -/
def emit (host : Host σ) (gate : Gate σ) (ctx : Context) : StateM σ Outcome :=
  emitEntries host gate ctx entries

end LogGate.Sample
