import LogGate.Bench.Floor
import LogGate.Bench.Roll
import LogGate.Proofs.Console.Steps
import LogGate.Proofs.Gate.Stack
import LogGate.Proofs.Sample.Passing

/-!
# Samples without questions

A gate drops what it would not process, so a sample could be passed through it without any question
(`emitUnasked`). Over gates whose minima are read without effect, and with a console or nothing
behind them, that comes to the same: they can be asked without effect (`Plain`), and an entry that
is skipped would have been dropped (`Drops`). They answer for their minima, and do not ask a
console. So where the console is closed, an entry that reaches the minima is emitted all the same,
and fails for that. The writer of the console may be of any kind, also one that counts how often it
is called, and minima and times may be read off its state.

What is told on the way is apart from everything else in a `Scene`, since entries that are skipped
are told of. A minimum that is read with an effect is read once more where there are questions, and
the second reading may give something else (`emit_risingMinimum`).
-/

namespace LogGate

/-- A state, and what has been told in it. -/
structure Scene (τ : Type) where
  state : τ
  told : List Diagnostic := []

namespace Scene

section
variable {τ α : Type}

/-- What stages use of a scene. -/
def host (now : τ → Moment) (time : τ → Time.Instant) : Host (Scene τ) where
  now s := now s.state
  time s := time s.state
  note d s := { s with told := s.told ++ [d] }

/-- A part of the state of a scene. -/
def slot (part : Slot τ α) : Slot (Scene τ) α where
  get s := part.get s.state
  set a s := { s with state := part.set a s.state }
  get_set a s := part.get_set a s.state
  set_get s := by rw [part.set_get]
  set_set a b s := by rw [part.set_set]

/-- Reads a severity off the state, and changes nothing. -/
def reading (severity : τ → Severity) : StateM (Scene τ) Severity := fun s => (severity s.state, s)

end

end Scene

namespace Sample

/-- What stands behind the innermost gate of a stack: a console with a writer of any kind, or
nothing. -/
inductive Ending (τ : Type) where
  | console {ω : Type} (w : Writer ω) (part : Slot τ (Console ω))
  | silent

namespace Ending

/-- The stage at the end of a stack. -/
def stage {τ : Type} (host : Host (Scene τ)) : Ending τ → Stage (Scene τ)
  | console w part => Console.stage host w (Scene.slot part)
  | silent => .silent

/-- Whether the stage at the end decides on records. -/
def decides {τ : Type} : Ending τ → Bool
  | console .. => false
  | silent => true

end Ending

section
variable {σ : Type}

/-- Passes entries through a gate that is not asked about them, in order. -/
def emitEntriesUnasked (host : Host σ) (gate : Gate σ) (ctx : Context) :
    List (Severity × String) → StateM σ Outcome
  | [] => return .done
  | (severity, body) :: rest => do
    let (outcome, _) ← gate.stage.emit ctx (record (host.time (← get)) severity body)
    if outcome = .done then emitEntriesUnasked host gate ctx rest else return outcome

/-- Passes the sample through a gate that is not asked. -/
def emitUnasked (host : Host σ) (gate : Gate σ) (ctx : Context) : StateM σ Outcome :=
  emitEntriesUnasked host gate ctx entries

end

section
variable {τ : Type}

/-- A stage can be asked without effect, and a record that is handed to it has nothing to do with
what is told. -/
structure Plain (S : Stage (Scene τ)) : Prop where
  enabled : ∀ ctx q s, (S.enabled ctx q s).2 = s
  emit : ∀ ctx r, ∃ action : τ → (Outcome × Record) × τ, ∀ state told,
    S.emit ctx r ⟨state, told⟩ = ((action state).1, ⟨(action state).2, told⟩)

/-- A stage drops the records that it would not process, and that counts as done. -/
def Drops (S : Stage (Scene τ)) : Prop :=
  ∀ ctx q r s, q.severity = r.severity → (S.enabled ctx q s).1 = false →
    S.emit ctx r s = ((.done, r), s)

/-- With questions and without, a sample has the same outcome and leaves the same state. Only the
entries that are skipped are told of besides. -/
def AsUnasked (host : Host (Scene τ)) (g : Gate (Scene τ)) (ctx : Context) : Prop :=
  ∀ state told, ∃ outcome after, ∃ skipped : List Severity,
    emitUnasked host g ctx ⟨state, told⟩ = (outcome, ⟨after, told⟩) ∧
    Sample.emit host g ctx ⟨state, told⟩ =
      (outcome, ⟨after, told ++ skipped.map skipping⟩)

variable {P S : Stage (Scene τ)} {asks : Bool} {minima : List (τ → Severity)}
variable {severity : Severity}

/-! ## Stacks -/

/-- Minima that are read without effect are reached or not. -/
theorem admits_reading (severity : Severity) (minima : List (τ → Severity)) (s : Scene τ) :
    Gate.admits severity (minima.map Scene.reading) s =
      (minima.all fun m => m s.state ≤ severity, s) := by
  induction minima with
  | nil => rfl
  | cons m minima ih =>
    rw [List.map_cons, List.all_cons]
    show (if m s.state ≤ severity then Gate.admits severity (minima.map Scene.reading)
      else pure false : StateM (Scene τ) Bool) s = _
    by_cases h : m s.state ≤ severity
    · rw [if_pos h, ih, decide_eq_true h, Bool.true_and]
    · rw [if_neg h, decide_eq_false h, Bool.false_and]
      rfl

variable {ending : Ending τ} {host : Host (Scene τ)}

/-- Gates in front of a stage are as plain as that. -/
theorem Plain.fronts (h : Plain P) (hS : Gate.Fronts P asks (minima.map Scene.reading) S) :
    Plain S where
  enabled ctx q s := by
    have hadmits := admits_reading q.severity minima s
    rw [hS.enabled]
    cases hall : minima.all fun m => m s.state ≤ q.severity <;> rw [hall] at hadmits
    · rw [Gate.behind_refused (by rw [hadmits]), hadmits]
    · rw [Gate.behind_admitted hadmits]
      cases asks with
      | true => exact h.enabled ctx q s
      | false => rfl
  emit ctx r := by
    obtain ⟨action, haction⟩ := h.emit ctx r
    refine ⟨fun state => if minima.all fun m => m state ≤ r.severity then action state
      else ((.done, r), state), fun state told => ?_⟩
    have hadmits := admits_reading r.severity minima ⟨state, told⟩
    rw [hS.emit]
    dsimp only at hadmits ⊢
    cases hall : minima.all fun m => m state ≤ r.severity <;> rw [hall] at hadmits
    · rw [Gate.behind_refused (by rw [hadmits]), hadmits]
      rfl
    · rw [Gate.behind_admitted hadmits, haction]
      rfl

/-- Gates drop what they would not process, if the stage behind them does so when it is asked. -/
theorem Drops.fronts (hP : asks = true → Drops P)
    (hS : Gate.Fronts P asks (minima.map Scene.reading) S) : Drops S := by
  intro ctx q r s hq henabled
  have hadmits := admits_reading q.severity minima s
  rw [hS.enabled] at henabled
  rw [hS.emit, ← hq]
  cases hall : minima.all fun m => m s.state ≤ q.severity <;> rw [hall] at hadmits
  · rw [Gate.behind_refused (by rw [hadmits]), hadmits]
  · rw [Gate.behind_admitted hadmits] at henabled ⊢
    cases asks with
    | true => exact hP rfl ctx q r s hq henabled
    | false => cases henabled

/-- A console has nothing to do with what is told when it is handed a record. -/
theorem Ending.plain (ending : Ending τ) (host : Host (Scene τ)) : Plain (ending.stage host) := by
  cases ending with
  | console w part =>
    exact ⟨fun _ _ _ => rfl, fun ctx r => ⟨fun state =>
      (((Console.emit w r (part.get state)).1, r),
        part.set (Console.emit w r (part.get state)).2 state), fun _ _ => rfl⟩⟩
  | silent =>
    exact ⟨fun _ _ _ => rfl, fun _ r => ⟨fun state => ((.done, r), state), fun _ _ => rfl⟩⟩

/-- A stage at the end that is asked drops what it would not process. -/
theorem Ending.drops (h : ending.decides = true) : Drops (ending.stage host) := by
  cases ending with
  | console => cases h
  | silent => exact fun _ _ _ _ _ _ => rfl

/-- A stack is built without a change of the scene. -/
theorem Ending.stack_eq (ending : Ending τ) (host : Host (Scene τ)) (inner : τ → Severity)
    (outer : List (τ → Severity)) (s : Scene τ) :
    Gate.stack host (ending.stage host) (Scene.reading inner) (outer.map Scene.reading) s =
      (Gate.stacked (ending.stage host) ending.decides (Scene.reading inner)
        (outer.map Scene.reading), s) := by
  rw [Gate.stack_eq]
  cases ending <;> rfl

/-! ## Entries -/

/-- An entry decides by its outcome whether the others follow. -/
theorem emitEntriesUnasked_cons {σ : Type} {host : Host σ} {gate : Gate σ} {ctx : Context}
    {s t : σ} {severity : Severity} {body : String} {rest : List (Severity × String)}
    {outcome : Outcome} {r : Record}
    (hemit : gate.stage.emit ctx (record (host.time s) severity body) s = ((outcome, r), t)) :
    emitEntriesUnasked host gate ctx ((severity, body) :: rest) s =
      if outcome = .done then emitEntriesUnasked host gate ctx rest t else (outcome, t) := by
  show (match gate.stage.emit ctx (record (host.time s) severity body) s with
    | ((outcome, _), t) =>
      (if outcome = Outcome.done then emitEntriesUnasked host gate ctx rest else pure outcome :
        StateM σ Outcome) t) = _
  rw [hemit]
  dsimp only
  split <;> rfl

/-- Where an entry that is skipped would have been dropped, questions change nothing. -/
theorem emitEntries_unasked {now : τ → Moment} {time : τ → Time.Instant} {g : Gate (Scene τ)}
    (hplain : Plain g.stage) (hdrops : Drops g.stage) (ctx : Context)
    (entries : List (Severity × String)) (state : τ) (told told' : List Diagnostic) :
    ∃ outcome after, ∃ skipped : List Severity,
      emitEntriesUnasked (Scene.host now time) g ctx entries ⟨state, told⟩ =
        (outcome, ⟨after, told⟩) ∧
      pass (Scene.host now time) g.stage ctx entries ⟨state, told'⟩ =
        (outcome, ⟨after, told' ++ skipped.map skipping⟩) := by
  induction entries generalizing state told' with
  | nil => exact ⟨.done, state, [], rfl, by rw [List.map_nil, List.append_nil]; rfl⟩
  | cons entry rest ih =>
    obtain ⟨severity, body⟩ := entry
    -- the record is the same one in both loops, and so is what becomes of it
    obtain ⟨action, haction⟩ := hplain.emit ctx (record (time state) severity body)
    have hkeeps := hplain.enabled ctx { severity } ⟨state, told'⟩
    rcases henabled : g.stage.enabled ctx { severity } ⟨state, told'⟩ with ⟨answer, s⟩
    obtain rfl : s = ⟨state, told'⟩ := by rw [henabled] at hkeeps; exact hkeeps
    cases answer with
    | false =>
      have hdropped := hdrops ctx { severity } (record (time state) severity body) ⟨state, told'⟩
        rfl (by rw [henabled])
      have hunasked := haction state told
      rw [haction, Prod.mk.injEq, Scene.mk.injEq] at hdropped
      rw [hdropped.1, hdropped.2.1] at hunasked
      obtain ⟨outcome, after, skipped, hrest, hrest'⟩ := ih state (told' ++ [skipping severity])
      refine ⟨outcome, after, severity :: skipped, ?_, ?_⟩
      · rw [emitEntriesUnasked_cons hunasked, if_pos rfl, hrest]
      · rw [pass_skip henabled, List.map_cons, List.append_cons]
        exact hrest'
    | true =>
      have hunasked := haction state told
      have hasked := haction state told'
      generalize action state = result at hunasked hasked
      obtain ⟨⟨outcome, r⟩, after⟩ := result
      rw [emitEntriesUnasked_cons hunasked, pass_emit henabled hasked]
      by_cases houtcome : outcome = .done
      · rw [if_pos houtcome, if_pos houtcome]
        exact ih after told'
      · rw [if_neg houtcome, if_neg houtcome]
        exact ⟨outcome, after, [], rfl, by rw [List.map_nil, List.append_nil]⟩

/-! ## The law -/

/-- **How a sample passes.** Through any gate, in any state, a sample passes entry by entry, as the
gate answers and as long as nothing fails. Over a stack of gates with minima that are read without
effect, in front of a console or of nothing, it makes no difference that the gate is asked. -/
theorem passing_law :
    (∀ {σ : Type} (host : Host σ) (g : Gate σ) (ctx : Context) (s : σ),
      ∃ deeds outcome after, Sample.emit host g ctx s = (outcome, after) ∧
        Passing host g ctx s deeds outcome after) ∧
    ∀ {τ : Type} (now : τ → Moment) (time : τ → Time.Instant) (ending : Ending τ)
      (inner : τ → Severity) (outer : List (τ → Severity)) (s : Scene τ),
      ∃ g, Gate.stack (Scene.host now time) (ending.stage (Scene.host now time))
          (Scene.reading inner) (outer.map Scene.reading) s = (g, s) ∧
        ∀ ctx, AsUnasked (Scene.host now time) g ctx := by
  refine ⟨exists_passing, ?_⟩
  intro τ now time ending inner outer s
  refine ⟨_, ending.stack_eq _ inner outer s, fun ctx state told => ?_⟩
  have hfronts := Gate.stacked_fronts (ending.stage (Scene.host now time)) ending.decides
    (Scene.reading inner) (outer.map Scene.reading)
  have hminima : outer.map Scene.reading ++ [Scene.reading inner] =
      (outer ++ [inner]).map Scene.reading := by rw [List.map_append]; rfl
  rw [hminima] at hfronts
  rw [emitUnasked, Sample.emit, emitEntries_eq_pass]
  exact emitEntries_unasked ((ending.plain _).fronts hfronts) (Drops.fronts Ending.drops hfronts)
    ctx entries state told told

/-- A minimum that rises as it is read has risen after the question, so that the gate drops an entry
that it would have handed on without. Here the console is closed, and refuses an entry only if it
gets there. -/
theorem emit_risingMinimum :
    let floor : Bench.Floor Bench.Roll := {
      scripts := fun _ => { name := "script", next := .base .trace, rest := [.base .fatal] }
      consoles := fun _ => { writer := { name := "console" }, closed := true } }
    let g := (Gate.stack Bench.Floor.host (Bench.Floor.console Bench.Roll.writer "console" 0)
      (Bench.Floor.Source.script 0).read [] floor).1
    (Sample.emit Bench.Floor.host g .background floor).1 = .done ∧
      (emitUnasked Bench.Floor.host g .background floor).1 = .failed .closed :=
  ⟨rfl, rfl⟩

end

end Sample

end LogGate
