import LogGate.Proofs.Bench.Arrangement
import LogGate.Proofs.Gate.Front

/-!
# What is built for a chain

The chain of a stage says what the stage is: the row of its gates, each in front of the next, with a
console or the silent stage at the end (`Row`). A gate was built when what stands behind it was
there, and so it knows whether that decides on records. All stages do but consoles
(`Row.filters`), so only a gate that stands directly in front of a console does not ask it. Whatever
is built on a floor, every stage of an arrangement is the row that its chain describes
(`Arrangement.build_row`).
-/

namespace LogGate.Bench

/-- Whether a stage decides on records, by its chain: all do but consoles. -/
def Chain.decides : Chain → Bool
  | ⟨[], some _⟩ => false
  | ⟨[], none⟩ | ⟨_ :: _, _⟩ => true

/-- Only a stage without a gate may not decide on records. -/
theorem Chain.decides_or (chain : Chain) : chain.decides = true ∨ chain.minima = [] := by
  obtain ⟨_ | ⟨m, minima⟩, console⟩ := chain
  · exact .inr rfl
  · exact .inl rfl

section
variable {ω : Type} {n : Nat}

/-- A stage is the row of gates that a chain describes, with its end behind them. -/
inductive Row (w : Writer ω) : Chain → Stage (Floor ω) → Prop where
  | console (name : String) (i : Nat) : Row w ⟨[], some i⟩ (Floor.console w name i)
  | silent : Row w ⟨[], none⟩ .silent
  | gate {chain : Chain} {S : Stage (Floor ω)} (h : Row w chain S) (m : Level) :
    Row w ⟨m :: chain.minima, chain.console⟩ (Gate.stage ⟨S, m.source.read, chain.decides⟩)

variable {w : Writer ω} {chain : Chain} {S : Stage (Floor ω)}

/-- A row says whether it decides on records without a look at the floor. -/
theorem Row.filters (h : Row w chain S) : S.filters = pure chain.decides := by
  cases h <;> rfl

/-- A level is read as what the floor says, and changes nothing. -/
theorem Level.read_eq_severity (m : Level) (floor : Floor ω) :
    m.source.read floor =
      (m.severity fun number => (floor.thresholds number).severity, floor) := by
  cases m <;> rfl

/-- A minimum that is left out is the default severity. -/
theorem read_getD (minimum : Option Level) :
    (minimum.map fun level => level.source.read).getD (pure .default) =
      ((minimum.getD (.fixed .default)).source.read : StateM (Floor ω) Severity) := by
  cases minimum <;> rfl

/-- A gate that is built in front of a row keeps whether that decides on records. -/
theorem Part.build_gate {stages : Fin n → Stage (Floor ω)} {i : Fin n}
    (h : Row w chain (stages i)) (minimum : Option Level) :
    Part.build w stages (.gate (some i) minimum) = pure (Gate.stage
      ⟨stages i, (minimum.getD (.fixed .default)).source.read, chain.decides⟩) := by
  show (Gate.build Floor.host (some (stages i)) _ >>= fun gate => pure gate.stage) = _
  rw [Gate.build_some h.filters, pure_bind, read_getD]

/-- A stage that is built in front of rows is a row. -/
theorem Part.build_row {chains : Fin n → Chain} {stages : Fin n → Stage (Floor ω)}
    (hs : ∀ i, Row w (chains i) (stages i)) (part : Part n) (floor : Floor ω) :
    Row w (part.chain chains) (part.build w stages floor).1 := by
  cases part with
  | console name => exact .console name n
  | silent => exact .silent
  | gate downstream minimum =>
    cases downstream with
    | none =>
      have hgate := (Row.silent (w := w)).gate (minimum.getD (.fixed .default))
      rwa [← read_getD] at hgate
    | some i =>
      rw [Part.build_gate (hs i)]
      exact (hs i).gate _

/-- Every stage of an arrangement is the row that its chain describes. -/
theorem Arrangement.build_row (w : Writer ω) (a : Arrangement n) (floor : Floor ω) (i : Fin n) :
    Row w (a.chain i) ((a.build w floor).1 i) := by
  induction a with
  | nothing => exact i.elim0
  | add a part ih =>
    show Row w (Fin.snoc (α := fun _ => Chain) a.chain (part.chain a.chain) i)
      (Fin.snoc (α := fun _ => Stage (Floor ω)) (a.build w floor).1
        (part.build w (a.build w floor).1 (a.build w floor).2).1 i)
    induction i using Fin.lastCases with
    | last =>
      rw [Fin.snoc_last, Fin.snoc_last]
      exact part.build_row ih _
    | cast j =>
      rw [Fin.snoc_castSucc, Fin.snoc_castSucc]
      exact ih j

end

end LogGate.Bench
