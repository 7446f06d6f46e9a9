import LogGate.Proofs.Bench.Row
import LogGate.Proofs.Bench.View
import Mathlib.Data.List.Induction

/-!
# What an arrangement prints

Whatever is built on a floor and whatever is called on it, in any order, the text on each console is
made of the lines that `Arrangement.lines` asks for (`printed_run`). Two simulations lead there. The
stages of an arrangement act on the view of the floor as if there were no gates, but one condition
on the chain of each stage (`Leads.perform`), because every stage is a row of gates in front of a
console or of the silent stage (`build_leads`). And the view after a run is a function of the
operations alone (`steps_eq`), where the state of the thresholds and of the consoles at each moment
is read off what came before.
-/

namespace LogGate.Bench

open Floor (Shows)

section
variable {ω : Type} {n : Nat}

/-! ## Steps of a view -/

/-- What an operation changes of a view. -/
def View.step (a : Arrangement n) (view : View) : Operation n → View
  | .emit stage _ r =>
    { view with printed := fun i => view.printed i ++
        if (a.chain stage).console = some i ∧
            (∀ m ∈ (a.chain stage).minima, m.severity view.levels ≤ r.severity) ∧
            view.closed i = false then
          Utf8.encode (String.join (linePieces r))
        else [] }
  | .shutdown stage ctx =>
    { view with closed := fun i =>
        view.closed i || ((a.chain stage).console == some i && !ctx.isExpired Floor.now) }
  | .set number severity => { view with levels := update view.levels number severity }
  | .enabled .. | .flush .. => view

variable {a : Arrangement n} {levels : Nat → Severity} {before operations : List (Operation n)}
variable {operation : Operation n} {console : Nat}

theorem levelsAfter_snoc : Arrangement.levelsAfter levels (before ++ [operation]) =
    match operation with
    | .set number severity => update (Arrangement.levelsAfter levels before) number severity
    | _ => Arrangement.levelsAfter levels before := by
  rw [Arrangement.levelsAfter, List.foldl_append]
  rfl

theorem isShut_snoc : a.isShut console (before ++ [operation]) =
    (a.isShut console before ||
      match operation with
      | .shutdown stage ctx => (a.chain stage).console == some console && !ctx.isExpired Floor.now
      | _ => false) := by
  rw [Arrangement.isShut, List.any_append, List.any_cons, List.any_nil, Bool.or_false]
  rfl

theorem linesFrom_snoc : a.linesFrom levels console before (operations ++ [operation]) =
    a.linesFrom levels console before operations ++
      (a.line? levels console (before ++ operations) operation).toList := by
  induction operations generalizing before with
  | nil => rw [List.nil_append, List.append_nil]; exact List.append_nil _
  | cons first operations ih =>
    rw [List.cons_append, Arrangement.linesFrom, Arrangement.linesFrom, ih, List.append_assoc,
      List.append_assoc, List.singleton_append]

theorem lines_snoc : a.lines levels console (operations ++ [operation]) =
    a.lines levels console operations ++ (a.line? levels console operations operation).toList :=
  linesFrom_snoc

/-- The view that operations lead to is read off them: the severities that were last set, the
consoles that were shut down in time, and the lines that have to be printed. -/
theorem steps_eq (a : Arrangement n) (levels : Nat → Severity) (printed : Nat → List UInt8)
    (operations : List (Operation n)) :
    operations.foldl (View.step a) ⟨levels, fun _ => false, printed⟩ =
      ⟨Arrangement.levelsAfter levels operations, fun i => a.isShut i operations,
        fun i => printed i ++ (a.lines levels i operations).flatMap Utf8.encode⟩ := by
  induction operations using List.reverseRecOn with
  | nil =>
    have hprinted : printed = fun i => printed i ++ [] := funext fun i => (List.append_nil _).symm
    exact congrArg (View.mk levels fun _ => false) hprinted
  | append_singleton operations operation ih =>
    rw [List.foldl_append, ih, List.foldl_cons, List.foldl_nil]
    simp only [levelsAfter_snoc, isShut_snoc, lines_snoc, List.flatMap_append]
    cases operation with
    | emit stage ctx r =>
      simp only [View.step, Arrangement.line?, Bool.or_false, List.append_assoc]
      congr 1
      funext i
      split
      · rw [Option.toList_some, List.flatMap_singleton]
      · rfl
    | shutdown stage ctx =>
      simp only [View.step, Arrangement.line?, Option.toList_none, List.flatMap_nil,
        List.append_nil]
    | set number severity =>
      simp only [View.step, Arrangement.line?, Option.toList_none, List.flatMap_nil,
        List.append_nil, Bool.or_false]
    | enabled stage ctx q =>
      simp only [View.step, Arrangement.line?, Option.toList_none, List.flatMap_nil,
        List.append_nil, Bool.or_false]
    | flush stage ctx =>
      simp only [View.step, Arrangement.line?, Option.toList_none, List.flatMap_nil,
        List.append_nil, Bool.or_false]

/-! ## Stages that lead to a console -/

/-- What stands at the end of a chain. -/
inductive Ends (w : Writer ω) : Option Nat → Stage (Floor ω) → Prop where
  | console (name : String) (i : Nat) : Ends w (some i) (Floor.console w name i)
  | silent : Ends w none .silent

/-- A stage is the row of gates with the minima of a chain, in front of what is at its end. -/
structure Leads (w : Writer ω) (chain : Chain) (S : Stage (Floor ω)) : Prop where
  fronts : ∃ P asks, Ends w chain.console P ∧
    Gate.Fronts P asks (chain.minima.map fun m => m.source.read) S
  /-- Where there is a gate, the stage decides on records. -/
  filters : ∃ b, S.filters = pure b ∧ (b = true ∨ chain.minima = [])

variable {w : Writer ω} {good : ω → Prop} {text : ω → List UInt8} {chain : Chain}
variable {S : Stage (Floor ω)} {floor : Floor ω} {view : View}

/-- A row leads where its chain says. -/
theorem Row.leads (h : Row w chain S) : Leads w chain S := by
  induction h with
  | console name i => exact ⟨⟨_, true, .console name i, .refl _⟩, false, rfl, .inr rfl⟩
  | silent => exact ⟨⟨_, true, .silent, .refl _⟩, true, rfl, .inl rfl⟩
  | @gate chain S h m ih =>
    obtain ⟨P, asks, hends, hfronts⟩ := ih.fronts
    refine ⟨⟨P, asks && chain.decides, hends,
      hfronts.gate (chain.decides_or.imp_right fun hnil => ?_)⟩,
      true, rfl, .inl rfl⟩
    rw [hnil, List.map_nil]

/-! ## Building -/

/-- Building a stage shows nothing. -/
theorem Part.build_shows (h : Shows good text floor view) {chains : Fin n → Chain}
    {stages : Fin n → Stage (Floor ω)} (hs : ∀ i, Row w (chains i) (stages i)) (part : Part n) :
    Shows good text (part.build w stages floor).2 view := by
  cases part with
  | console | silent => exact h
  | gate downstream minimum =>
    cases downstream with
    | none => exact h.enter (.noted Gate.discarding)
    | some i =>
      rw [Part.build_gate (hs i)]
      exact h

/-- Every stage of an arrangement leads where its chain says, and building them shows nothing. -/
theorem Arrangement.build_leads (h : Shows good text floor view) (a : Arrangement n) :
    Shows good text (a.build w floor).2 view ∧
      ∀ i, Leads w (a.chain i) ((a.build w floor).1 i) := by
  refine ⟨?_, fun i => (a.build_row w floor i).leads⟩
  induction a with
  | nothing => exact h
  | add a part ih => exact part.build_shows ih (a.build_row w floor)

/-! ## Operations -/

/-- Where a level is read, its severity is what the floor shows, and the floor stays as it is. -/
theorem Level.read_eq (h : Shows good text floor view) (m : Level) :
    m.source.read floor = (m.severity view.levels, floor) := by
  rw [m.read_eq_severity, funext h.level]

/-- The minima of a chain let an action run if a severity reaches all that they show. -/
theorem behind_levels {β : Type} (h : Shows good text floor view) (minima : List Level)
    (severity : Severity) (otherwise : β) (action : StateM (Floor ω) β) :
    Gate.behind (minima.map fun m => m.source.read) severity otherwise action floor =
      if ∀ m ∈ minima, m.severity view.levels ≤ severity then action floor
      else (otherwise, floor) := by
  induction minima with
  | nil => simp
  | cons m minima ih =>
    rw [List.map_cons, Gate.behind_cons]
    show (if (m.source.read floor).1 ≤ severity then
      Gate.behind (minima.map fun m => m.source.read) severity otherwise action
      else pure otherwise) (m.source.read floor).2 = _
    rw [m.read_eq h]
    by_cases hm : m.severity view.levels ≤ severity
    · rw [if_pos hm, ih]
      simp only [List.forall_mem_cons, hm, true_and]
    · have hall : ¬∀ x ∈ m :: minima, x.severity view.levels ≤ severity :=
        fun hall => hm (List.forall_mem_cons.1 hall).1
      rw [if_neg hm, if_neg hall]
      rfl

/-- The pieces of a line are what a console prints of the record. -/
theorem join_linePieces (r : Record) : String.join (linePieces r) = r.line ++ "\n" := by
  have hpairs : ∀ pairs : List (String × String),
      String.join (pairs.flatMap fun entry => [" ", entry.1, "=", entry.2]) =
        String.join (pairs.map fun entry => " " ++ entry.1 ++ "=" ++ entry.2) := by
    intro pairs
    induction pairs with
    | nil => rfl
    | cons pair pairs ih => simp [ih, String.append_assoc]
  show _ = "(" ++ r.time.clock ++ ") " ++ r.severity.name ++ " : " ++ r.body ++
    String.join (r.attributes.entries.map fun entry => " " ++ entry.1 ++ "=" ++ entry.2) ++ "\n"
  rw [← hpairs]
  simp [linePieces, String.append_assoc]

/-- A stage prints the line of a record on the console that it leads to, if all minima on the way
there are reached and the console is open. -/
theorem Leads.emit (hl : Leads w chain S) (hw : w.Accepts good text)
    (h : Shows good text floor view) (ctx : Context) (r : Record) :
    Shows good text (S.emit ctx r floor).2
      { view with printed := fun i => view.printed i ++
          if chain.console = some i ∧ (∀ m ∈ chain.minima, m.severity view.levels ≤ r.severity) ∧
              view.closed i = false then
            Utf8.encode (String.join (linePieces r))
          else [] } := by
  rw [join_linePieces]
  obtain ⟨minima, console⟩ := chain
  obtain ⟨P, asks, hends, hfronts⟩ := hl.fronts
  rw [hfronts.emit, behind_levels h]
  by_cases hmin : ∀ m ∈ minima, m.severity view.levels ≤ r.severity
  · rw [if_pos hmin]
    cases hends with
    | silent => exact h.congr (fun _ => rfl) (fun _ => rfl) fun i => (List.append_nil _).symm
    | console name j =>
      refine (h.emit hw name ctx r).congr (fun _ => rfl) (fun _ => rfl) fun i => ?_
      dsimp only [update]
      by_cases hi : i = j
      · subst hi
        rw [if_pos rfl]
        cases hclosed : view.closed i with
        | true => rw [if_pos rfl, if_neg fun hc => Bool.noConfusion hc.2.2]
        | false => rw [if_neg Bool.false_ne_true, if_pos ⟨rfl, hmin, rfl⟩]
      · rw [if_neg hi, if_neg fun hc => hi (Option.some.inj hc.1).symm, List.append_nil]
  · rw [if_neg hmin]
    refine h.congr (fun _ => rfl) (fun _ => rfl) fun i => ?_
    dsimp only
    rw [if_neg fun hc => hmin hc.2.1, List.append_nil]

/-- Shutting a stage down closes the console that it leads to, unless the context has expired. -/
theorem Leads.shutdown (hl : Leads w chain S) (hw : w.Accepts good text)
    (h : Shows good text floor view) (ctx : Context) :
    Shows good text (S.shutdown ctx floor).2
      { view with closed := fun i =>
          view.closed i || (chain.console == some i && !ctx.isExpired Floor.now) } := by
  obtain ⟨minima, console⟩ := chain
  obtain ⟨P, asks, hends, hfronts⟩ := hl.fronts
  rw [hfronts.shutdown]
  cases hends with
  | silent => exact h.congr (fun _ => rfl) (fun i => (Bool.or_false _).symm) fun _ => rfl
  | console name j =>
    refine (h.shutdown hw name ctx).congr (fun _ => rfl) (fun i => ?_) fun _ => rfl
    show (if i = j then _ else _) = _
    by_cases hi : i = j
    · subst hi
      simp
    · simp [hi, Ne.symm hi]

/-- Flushing a stage shows nothing. -/
theorem Leads.flush (hl : Leads w chain S) (hw : w.Accepts good text)
    (h : Shows good text floor view) (ctx : Context) :
    Shows good text (S.flush ctx floor).2 view := by
  obtain ⟨minima, console⟩ := chain
  obtain ⟨P, asks, hends, hfronts⟩ := hl.fronts
  rw [hfronts.flush]
  cases hends with
  | silent => exact h
  | console name j => exact h.flush hw name ctx

/-- Asking a stage changes nothing at all. -/
theorem Leads.enabled (hl : Leads w chain S) (h : Shows good text floor view) (ctx : Context)
    (q : Query) : (S.enabled ctx q floor).2 = floor := by
  obtain ⟨minima, console⟩ := chain
  obtain ⟨P, asks, hends, hfronts⟩ := hl.fronts
  rw [hfronts.enabled, behind_levels h]
  split
  · cases asks
    · rfl
    · cases hends <;> rfl
  · rfl

variable {stages : Fin n → Stage (Floor ω)}

/-- An operation on stages that lead where the chains of an arrangement say changes what the floor
shows by a step of the view. -/
theorem Operation.perform_shows (hw : w.Accepts good text)
    (hl : ∀ i, Leads w (a.chain i) (stages i)) (h : Shows good text floor view)
    (operation : Operation n) :
    Shows good text (operation.perform stages floor).2 (view.step a operation) := by
  cases operation with
  | emit stage ctx r => exact (hl stage).emit hw h ctx r
  | enabled stage ctx q =>
    show Shows good text ((stages stage).enabled ctx q floor).2 view
    rw [(hl stage).enabled h]
    exact h
  | flush stage ctx => exact (hl stage).flush hw h ctx
  | shutdown stage ctx => exact (hl stage).shutdown hw h ctx
  | set number severity => exact h.set number severity

/-- And so does a run of operations. -/
theorem perform_all_shows (hw : w.Accepts good text) (hl : ∀ i, Leads w (a.chain i) (stages i))
    (h : Shows good text floor view) (operations : List (Operation n)) :
    Shows good text (operations.forM (fun operation => operation.perform stages) floor).2
      (operations.foldl (View.step a) view) := by
  induction operations generalizing floor view with
  | nil => exact h
  | cons operation operations ih => exact ih (operation.perform_shows hw hl h)

/-- A floor is opened with nothing closed and with what its writers have already. -/
theorem Floor.opened_shows {writers : Nat → ω} (hgood : ∀ i, good (writers i))
    (levels : Nat → Severity) :
    Shows good text (Floor.opened writers levels)
      ⟨levels, fun _ => false, fun i => text (writers i)⟩ where
  level v := Threshold.severity_ofSeverity (levels v)
  good i := ⟨hgood i, rfl⟩
  closed _ := rfl
  printed _ := rfl

/-! ## The law -/

/-- **The output of a run.** Whatever arrangement is built on consoles whose writers accept
everything, and whatever is then called on its stages and set in whatever order, each console gets
exactly the lines that the operations have to print there. -/
theorem printed_run (hw : w.Accepts good text) {writers : Nat → ω}
    (hgood : ∀ i, good (writers i)) (levels : Nat → Severity) (a : Arrangement n)
    (operations : List (Operation n)) (console : Nat) :
    text (((a.run w operations (Floor.opened writers levels)).2).consoles console).writer =
      text (writers console) ++ (a.lines levels console operations).flatMap Utf8.encode := by
  have hopened : Shows good text (Floor.opened writers levels) _ := Floor.opened_shows hgood levels
  obtain ⟨hshows, hleads⟩ := a.build_leads (w := w) hopened
  have hrun := (perform_all_shows hw hleads hshows operations).printed console
  rw [steps_eq] at hrun
  exact hrun

end

/-- A console behind two gates that share a threshold. -/
def twoGates : Arrangement 3 :=
  .add (.add (.add .nothing (.console "out")) (.gate (some 0) (some (.threshold 0))))
    (.gate (some 0) (some (.threshold 0)))

/-- Emits of which the second is held back and the last is too late. -/
def someOperations : List (Operation 3) :=
  [.emit 1 .background ⟨.epoch, .base .info, "a", none, ∅⟩, .set 0 (.base .warn),
    .emit 2 .background ⟨.epoch, .base .info, "b", none, ∅⟩, .shutdown 2 ⟨some 0⟩,
    .emit 2 .background ⟨.epoch, .base .error, "c", none, ∅⟩, .shutdown 1 .background,
    .emit 0 .background ⟨.epoch, .base .fatal, "d", none, ∅⟩]

/-- A record below the threshold is held back, an expired shutdown changes nothing, and what comes
after a shutdown through the other gate is not printed. -/
theorem printed_run_twoGates :
    (((twoGates.run Roll.writer someOperations
        (Floor.opened (fun _ => { name := "out" }) fun _ => .default)).2).consoles 0).writer.printed =
      ["(12:00:00AM) INFO : a\n", "(12:00:00AM) ERROR : c\n"].flatMap Utf8.encode := by
  have hlines : twoGates.lines (fun _ => .default) 0 someOperations =
      ["(12:00:00AM) INFO : a\n", "(12:00:00AM) ERROR : c\n"] := by decide
  rw [← hlines]
  exact printed_run Roll.accepts (fun _ => rfl) (fun _ => .default) twoGates someOperations 0

end LogGate.Bench
