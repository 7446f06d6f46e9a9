import LogGate.Proofs.Bench.Foresight
import LogGate.Proofs.Bench.Output

/-!
# Operations that can be left out

Queries, calls that are refused and records that are held back leave no trace on a floor. A `Visit`
of a run is an operation with the floor that it found and the answer that it got, and
`Arrangement.visits` lists the visits of a run. `Visit.IsIdle` says, from these alone, that the
operation was of that kind: it was a query, a shutdown or a flush that came too late, a record below
a minimum of its chain, or a record that was refused because the console had been shut down.

Whatever the writers do, an idle operation leaves the whole floor as it found it
(`Visit.IsIdle.floor_eq`). So of a run any idle operations can be left out (`LeavesOut`), and every
visit that remains is the same: the operations find the floors that they found before, get the
answers that they got, and end on the same floor (`visits_leavingOut`). `Writer.recording` makes of
any writer one that keeps an account of its calls, which is then part of the floor.
-/

namespace LogGate

namespace Writer

/-- A call that a writer gets. -/
inductive Request where
  | write (bytes : List UInt8)
  | flush
  deriving DecidableEq, Repr

/-- The writer that does what another one does, and keeps an account of the calls that it gets. -/
def recording {ω : Type} (w : Writer ω) : Writer (ω × List Request) where
  write bytes s := ((w.write bytes s.1).1, ((w.write bytes s.1).2, s.2 ++ [.write bytes]))
  flush s := ((w.flush s.1).1, ((w.flush s.1).2, s.2 ++ [.flush]))
  patience s := w.patience s.1
  patience_lt h := w.patience_lt h

end Writer

namespace Bench

/-! ## Runs, visit by visit -/

/-- A list is another one without some elements that have a property. -/
inductive LeavesOut {α : Type} (P : α → Prop) : List α → List α → Prop where
  | nil : LeavesOut P [] []
  | keep (x : α) {xs ys : List α} (h : LeavesOut P xs ys) : LeavesOut P (x :: xs) (x :: ys)
  | drop {x : α} (hx : P x) {xs ys : List α} (h : LeavesOut P xs ys) : LeavesOut P (x :: xs) ys

section
variable {ω : Type} {n : Nat}

/-- Performs an operation on stages and gives its answer. Setting a threshold has none. -/
def Operation.answer (stages : Fin n → Stage (Floor ω)) :
    Operation n → StateM (Floor ω) (Option Stage.Answer)
  | .emit stage ctx r => some <$> Stage.Call.make (stages stage) (.emit ctx r)
  | .enabled stage ctx q => some <$> Stage.Call.make (stages stage) (.enabled ctx q)
  | .flush stage ctx => some <$> Stage.Call.make (stages stage) (.flush ctx)
  | .shutdown stage ctx => some <$> Stage.Call.make (stages stage) (.shutdown ctx)
  | .set number severity => do
    (Operation.set number severity).perform stages
    return none

/-- An operation of a run, the floor that it found and the answer that it got. -/
structure Visit (ω : Type) (n : Nat) where
  operation : Operation n
  floor : Floor ω
  answer : Option Stage.Answer

/-- Performs an operation and gives the visit that this was. -/
def Operation.visit (stages : Fin n → Stage (Floor ω)) (operation : Operation n) :
    StateM (Floor ω) (Visit ω n) := do
  let floor ← get
  return ⟨operation, floor, ← operation.answer stages⟩

/-- Performs operations in order and gives the visits. -/
def visitAll (stages : Fin n → Stage (Floor ω)) :
    List (Operation n) → StateM (Floor ω) (List (Visit ω n))
  | [] => return []
  | operation :: operations => do
    let visit ← operation.visit stages
    return visit :: (← visitAll stages operations)

/-- Builds an arrangement, performs operations on it and gives the visits. -/
def Arrangement.visits (w : Writer ω) (a : Arrangement n) (operations : List (Operation n)) :
    StateM (Floor ω) (List (Visit ω n)) := do
  visitAll (← a.build w) operations

/-- An operation that was nothing but a query, was too late, was held back or was refused. -/
inductive Visit.IsIdle (a : Arrangement n) : Visit ω n → Prop where
  | query {stage : Fin n} {ctx : Context} {q : Query} {floor : Floor ω}
      {answer : Option Stage.Answer} : IsIdle a ⟨.enabled stage ctx q, floor, answer⟩
  /-- The deadline of a shutdown was over. -/
  | lateShutdown {stage : Fin n} {ctx : Context} {floor : Floor ω} {answer : Option Stage.Answer}
      (h : ctx.isExpired Floor.now = true) : IsIdle a ⟨.shutdown stage ctx, floor, answer⟩
  /-- The deadline of a flush was over. -/
  | lateFlush {stage : Fin n} {ctx : Context} {floor : Floor ω} {answer : Option Stage.Answer}
      (h : ctx.isExpired Floor.now = true) : IsIdle a ⟨.flush stage ctx, floor, answer⟩
  /-- A record was less severe than some minimum of the chain was then. -/
  | below {stage : Fin n} {ctx : Context} {r : Record} {floor : Floor ω}
      {answer : Option Stage.Answer} {m : Level} (hm : m ∈ (a.chain stage).minima)
      (h : r.severity < m.severity fun number => (floor.thresholds number).severity) :
      IsIdle a ⟨.emit stage ctx r, floor, answer⟩
  /-- A record was refused because of a shutdown. -/
  | refused {stage : Fin n} {ctx : Context} {r revised : Record} {floor : Floor ω} :
      IsIdle a ⟨.emit stage ctx r, floor, some (.emitted (.failed .closed) revised)⟩

variable {w : Writer ω} {chain : Chain} {S : Stage (Floor ω)} {floor : Floor ω}
variable {ctx : Context} {r : Record}

/-! ## Calls that leave the floor alone -/

/-- Queries to a row change nothing. -/
theorem Row.enabled_floor (h : Row w chain S) (ctx : Context) (q : Query) (floor : Floor ω) :
    (S.enabled ctx q floor).2 = floor := by
  induction h with
  | console name i => rfl
  | silent => rfl
  | @gate chain S h m ih =>
    have hread := m.read_eq_severity floor
    by_cases hm : (m.severity fun number => (floor.thresholds number).severity) ≤ q.severity
    · rw [Gate.enabled_reached hread hm]
      cases chain.decides with
      | true => exact ih
      | false => rfl
    · rw [Gate.enabled_unreached hread hm]

/-- A row drops a record that is below one of its minima. -/
theorem Row.emit_below (h : Row w chain S) {level : Level} (hlevel : level ∈ chain.minima)
    (hr : r.severity < level.severity fun number => (floor.thresholds number).severity) :
    S.emit ctx r floor = ((.done, r), floor) := by
  induction h with
  | console | silent => cases hlevel
  | @gate chain S h m ih =>
    have hread := m.read_eq_severity floor
    by_cases hm : (m.severity fun number => (floor.thresholds number).severity) ≤ r.severity
    · rw [Gate.emit_reached hread hm]
      cases hlevel with
      | head => exact absurd hm (Nat.not_le_of_gt hr)
      | tail _ hlevel => exact ih hlevel
    · exact Gate.emit_unreached hread hm

/-- What gets to a console and is refused there as closed changes nothing. -/
theorem Reaches.floor_of_refused {i : Nat} {result : (Outcome × Record) × Floor ω}
    (h : Reaches w i r floor result) (hrefused : result.1.1 = .failed .closed) :
    result.2 = floor := by
  cases hc : (floor.consoles i).closed with
  | true => rw [h.closed hc]
  | false =>
    cases hb : (floor.consoles i).broken with
    | true => rw [h.broken hc hb]
    | false =>
      -- no trouble of a writer is answered as closed
      have hoffered := h.offered _ _ hc hb (Prod.eta (Console.print w r.line _)).symm
      rw [hoffered] at hrefused
      generalize (Console.print w r.line (floor.consoles i).writer).1 = trouble at hrefused
      rcases trouble with _ | ⟨reason⟩ | ⟨message⟩ <;> cases hrefused

/-- A record that a row refuses as closed changes nothing. -/
theorem Row.emit_refused (h : Row w chain S)
    (hrefused : (S.emit ctx r floor).1.1 = .failed .closed) : (S.emit ctx r floor).2 = floor := by
  rcases h.foretells ctx r floor with ⟨-, hemit⟩ | ⟨-, i, -, hreaches⟩
  · rw [hemit]
  · exact hreaches.floor_of_refused hrefused

/-- A shutdown that comes too late changes nothing. -/
theorem Row.shutdown_late (h : Row w chain S) (hlate : ctx.isExpired Floor.now = true) :
    (S.shutdown ctx floor).2 = floor := by
  induction h with
  | console name i =>
    rw [Floor.console_shutdown, hlate]
    exact (Floor.consoleSlot i).set_get floor
  | silent => rfl
  | gate _ _ ih => exact ih

/-- A flush that comes too late changes nothing. -/
theorem Row.flush_late (h : Row w chain S) (hlate : ctx.isExpired Floor.now = true) :
    (S.flush ctx floor).2 = floor := by
  induction h with
  | console name i =>
    show ((Floor.consoleSlot i).run
      (Console.flush (Floor.journaling w name) (ctx.isExpired Floor.now)) floor).2 = floor
    rw [hlate]
    exact (Floor.consoleSlot i).set_get floor
  | silent => rfl
  | gate _ _ ih => exact ih

/-! ## Runs -/

variable {a : Arrangement n} {stages : Fin n → Stage (Floor ω)}
variable {operation : Operation n} {operations : List (Operation n)} {rest : List (Visit ω n)}

/-- An operation that is answered is performed. -/
theorem Operation.answer_floor (stages : Fin n → Stage (Floor ω)) (operation : Operation n)
    (floor : Floor ω) :
    (operation.answer stages floor).2 = (operation.perform stages floor).2 := by
  cases operation <;> rfl

/-- A run whose visits are listed is the run. -/
theorem Arrangement.visits_floor (w : Writer ω) (a : Arrangement n)
    (operations : List (Operation n)) (floor : Floor ω) :
    (a.visits w operations floor).2 = (a.run w operations floor).2 := by
  show (visitAll (a.build w floor).1 operations (a.build w floor).2).2 =
    (operations.forM (fun operation => operation.perform (a.build w floor).1)
      (a.build w floor).2).2
  generalize (a.build w floor).1 = stages
  generalize (a.build w floor).2 = floor
  induction operations generalizing floor with
  | nil => rfl
  | cons operation operations ih =>
    show (visitAll stages operations (operation.answer stages floor).2).2 = _
    rw [ih, operation.answer_floor]
    rfl

/-- An idle operation leaves the floor as it found it. -/
theorem Visit.IsIdle.floor_eq (hrow : ∀ i, Row w (a.chain i) (stages i))
    (h : ((operation.visit stages floor).1).IsIdle a) :
    (operation.visit stages floor).2 = floor := by
  show (operation.answer stages floor).2 = floor
  have hvisit : (operation.visit stages floor).1 =
      ⟨operation, floor, (operation.answer stages floor).1⟩ := rfl
  rw [hvisit] at h
  generalize hanswer : (operation.answer stages floor).1 = answer at h
  cases h with
  | query => exact (hrow _).enabled_floor _ _ floor
  | lateShutdown hlate => exact (hrow _).shutdown_late hlate
  | lateFlush hlate => exact (hrow _).flush_late hlate
  | below hm hr => exact congrArg Prod.snd ((hrow _).emit_below hm hr)
  | refused =>
    refine (hrow _).emit_refused ?_
    exact (Stage.Answer.emitted.inj (Option.some.inj hanswer)).1

/-- The visits that remain when idle operations are left out of a run are those of the run without
these operations, which ends on the same floor. -/
theorem visitAll_leavingOut (hrow : ∀ i, Row w (a.chain i) (stages i))
    (h : LeavesOut (Visit.IsIdle a) (visitAll stages operations floor).1 rest) :
    visitAll stages (rest.map Visit.operation) floor =
      (rest, (visitAll stages operations floor).2) := by
  induction operations generalizing floor rest with
  | nil =>
    have hnil : LeavesOut (Visit.IsIdle a) [] rest := h
    cases hnil
    rfl
  | cons operation operations ih =>
    have hcons : LeavesOut (Visit.IsIdle a) ((operation.visit stages floor).1 ::
      (visitAll stages operations (operation.visit stages floor).2).1) rest := h
    show _ = (rest, (visitAll stages operations (operation.visit stages floor).2).2)
    cases hcons with
    | @keep _ _ rest hkeep =>
      have hrest := ih hkeep
      show (((operation.visit stages floor).1 ::
          (visitAll stages (rest.map Visit.operation) (operation.visit stages floor).2).1,
        (visitAll stages (rest.map Visit.operation) (operation.visit stages floor).2).2) :
          List (Visit ω n) × Floor ω) = _
      rw [hrest]
    | drop hidle h =>
      rw [hidle.floor_eq hrow] at h ⊢
      exact ih h

/-- **What can be left out of a run.** Whatever arrangement is built on a floor in any state, with
writers of any kind, and whatever operations are performed on it: if any of the idle ones are left
out, the others find the same floors and get the same answers, and the run ends on the same floor,
with the same thresholds, the same marks on its consoles, the same writers and the same account of
the calls that each writer got. -/
theorem visits_leavingOut (w : Writer ω) (a : Arrangement n) (operations : List (Operation n))
    (floor : Floor (ω × List Writer.Request)) (rest : List (Visit (ω × List Writer.Request) n))
    (h : LeavesOut (Visit.IsIdle a) (a.visits w.recording operations floor).1 rest) :
    a.visits w.recording (rest.map Visit.operation) floor =
      (rest, (a.visits w.recording operations floor).2) :=
  visitAll_leavingOut (a.build_row w.recording floor) h

end

/-- Two gates that share a threshold in front of a console, and a console by itself. -/
def gatesAndConsole : Arrangement 4 := .add twoGates (.console "err")

/-- A record of a severity with a word in it. -/
def wordAt (severity : Severity) (word : String) : Record := ⟨.epoch, severity, word, none, ∅⟩

/-- A record for a console that has been shut down, a query, a record below the threshold, and a
shutdown and a flush that are too late are left out of a run. -/
theorem visits_leavingOut_gatesAndConsole :
    let w := Roll.writer.recording
    let floor := Floor.opened (fun _ => ({ name := "out" }, [])) fun _ => .default
    let run : List (Operation 4) :=
      [.shutdown 3 .background, .emit 3 .background (wordAt (.base .fatal) "a"),
        .emit 1 .background (wordAt (.base .info) "b"), .enabled 2 .background ⟨.base .info, none⟩,
        .set 0 (.base .warn), .emit 2 .background (wordAt (.base .info) "c"),
        .shutdown 2 ⟨some 0⟩, .flush 1 ⟨some 0⟩, .flush 1 .background]
    let short : List (Operation 4) :=
      [.shutdown 3 .background, .emit 1 .background (wordAt (.base .info) "b"),
        .set 0 (.base .warn), .flush 1 .background]
    ∃ visits, visits.map Visit.operation = short ∧
      LeavesOut (Visit.IsIdle gatesAndConsole) (gatesAndConsole.visits w run floor).1 visits ∧
      gatesAndConsole.visits w short floor =
        (visits, (gatesAndConsole.visits w run floor).2) := by
  intro w floor run short
  have hbelow : Level.threshold 0 ∈ (gatesAndConsole.chain 2).minima := by decide
  have hidle : LeavesOut (Visit.IsIdle gatesAndConsole)
      (gatesAndConsole.visits w run floor).1 _ :=
    .keep _ (.drop .refused (.keep _ (.drop .query (.keep _ (.drop (.below hbelow (by decide))
      (.drop (.lateShutdown rfl) (.drop (.lateFlush rfl) (.keep _ .nil))))))))
  exact ⟨_, rfl, hidle, visits_leavingOut Roll.writer gatesAndConsole run floor _ hidle⟩

end Bench

end LogGate
