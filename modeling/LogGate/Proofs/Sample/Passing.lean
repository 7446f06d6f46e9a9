import LogGate.Proofs.Stage.Ledger
import LogGate.Sample

/-!
# Passing entries through a stage

The entries of a sample are passed through a gate one after the other. The gate is asked about an
entry, and by its answer the entry is skipped or emitted; that is a `Deed`. Each deed is done in the
state that the one before it has left, and an emission that is not done is the last (`Passes`).
There is one way through the entries (`exists_passes`), and it is the way of the loop
(`Passes.pass_eq`).

The loop makes sense of any stage (`pass`), so also of one with a ledger. There it enters the calls
of its deeds and no others (`Passes.kept`), and that is how often, with what and in which order a
gate is called. `Passing` collects what this comes to for a sample.
-/

namespace LogGate

/-- What stages use of a state, beside a ledger. -/
def Host.kept {σ : Type} (host : Host σ) : Host (Stage.Ledger σ) where
  now l := host.now l.state
  time l := host.time l.state
  note d l := { l with state := host.note d l.state }

namespace Sample

open Stage (Call Ledger)

/-- What is done about an entry. -/
inductive Deed where
  | skipped (entry : Severity × String)
  | emitted (entry : Severity × String) (time : Time.Instant) (outcome : Outcome)

namespace Deed

/-- The entry that something is done about. -/
def entry : Deed → Severity × String
  | skipped entry | emitted entry _ _ => entry

/-- What comes of a deed. To skip an entry cannot fail. -/
def outcome : Deed → Outcome
  | skipped _ => .done
  | emitted _ _ outcome => outcome

/-- The calls of a deed. -/
def calls (ctx : Context) : Deed → List Call
  | skipped (severity, _) => [.enabled ctx { severity }]
  | emitted (severity, body) time _ =>
    [.enabled ctx { severity }, .emit ctx (record time severity body)]

end Deed

section
variable {σ : Type}

/-- Passes entries through a stage, in order. -/
def pass (host : Host σ) (S : Stage σ) (ctx : Context) : List (Severity × String) → StateM σ Outcome
  | [] => return .done
  | (severity, body) :: rest => do
    if ← S.enabled ctx { severity } then
      let (outcome, _) ← S.emit ctx (record (host.time (← get)) severity body)
      if outcome = .done then pass host S ctx rest else return outcome
    else
      modify (host.note (skipping severity))
      pass host S ctx rest

/-- What is done about entries from a state on, what comes of it, and the state that it leaves. -/
inductive Passes (host : Host σ) (S : Stage σ) (ctx : Context) :
    List (Severity × String) → σ → List Deed → Outcome → σ → Prop where
  | finish (s : σ) : Passes host S ctx [] s [] .done s
  /-- An entry that the stage would not process is skipped, and that is told. -/
  | skip {severity : Severity} {body : String} {rest : List (Severity × String)} {s t after : σ}
    {deeds : List Deed} {outcome : Outcome}
    (henabled : S.enabled ctx { severity } s = (false, t))
    (hrest : Passes host S ctx rest (host.note (skipping severity) t) deeds outcome after) :
    Passes host S ctx ((severity, body) :: rest) s
      (.skipped (severity, body) :: deeds) outcome after
  /-- An entry that it would process is emitted, and if that is done the others follow. -/
  | emit {severity : Severity} {body : String} {rest : List (Severity × String)} {s t u after : σ}
    {r : Record} {deeds : List Deed} {outcome : Outcome}
    (henabled : S.enabled ctx { severity } s = (true, t))
    (hemit : S.emit ctx (record (host.time t) severity body) t = ((.done, r), u))
    (hrest : Passes host S ctx rest u deeds outcome after) :
    Passes host S ctx ((severity, body) :: rest) s
      (.emitted (severity, body) (host.time t) .done :: deeds) outcome after
  /-- If it is not done, nothing follows. -/
  | stop {severity : Severity} {body : String} {rest : List (Severity × String)} {s t after : σ}
    {r : Record} {outcome : Outcome}
    (henabled : S.enabled ctx { severity } s = (true, t))
    (hemit : S.emit ctx (record (host.time t) severity body) t = ((outcome, r), after))
    (houtcome : outcome ≠ .done) :
    Passes host S ctx ((severity, body) :: rest) s
      [.emitted (severity, body) (host.time t) outcome] outcome after

/-- How a sample passes through a gate: the deeds, and what they come to. -/
structure Passing (host : Host σ) (g : Gate σ) (ctx : Context) (s : σ) (deeds : List Deed)
    (outcome : Outcome) (after : σ) : Prop where
  /-- The deeds follow each other from the first entry on. -/
  passes : Passes host g.stage ctx entries s deeds outcome after
  /-- The gate is called for the deeds, in their order, and for nothing else. -/
  calls : ∀ calls, pass host.kept g.stage.kept ctx entries ⟨s, calls⟩ =
    (outcome, ⟨after, calls ++ deeds.flatMap (Deed.calls ctx)⟩)
  /-- No entry is passed over, put out of its order or dealt with twice. -/
  inOrder : deeds.map Deed.entry <+: entries
  /-- The sample is done if and only if no emission has failed. -/
  done_iff : outcome = .done ↔ ∀ deed ∈ deeds, deed.outcome = .done
  /-- Then something has been done about every entry. -/
  complete : outcome = .done → deeds.map Deed.entry = entries
  /-- Otherwise the last deed is the first that failed, and gives the outcome. -/
  stopped : outcome ≠ .done → ∃ earlier last, deeds = earlier ++ [last] ∧
    last.outcome = outcome ∧ ∀ deed ∈ earlier, deed.outcome = .done
  /-- What is emitted says that it is the sample. -/
  source : ∀ r, .emit ctx r ∈ deeds.flatMap (Deed.calls ctx) →
    r.attributes.entries = [("source", "sample")]

variable {host : Host σ} {S : Stage σ} {ctx : Context} {entries : List (Severity × String)}
variable {s t u after : σ} {deeds : List Deed} {outcome : Outcome}
variable {severity : Severity} {body : String} {rest : List (Severity × String)}

/-! ## The loop -/

/-- The loop over a gate is the loop over its stage. -/
theorem emitEntries_eq_pass (host : Host σ) (g : Gate σ) (ctx : Context)
    (entries : List (Severity × String)) :
    emitEntries host g ctx entries = pass host g.stage ctx entries := by
  induction entries with
  | nil => rfl
  | cons entry rest ih => rw [emitEntries, pass, ih]

/-- An entry that is skipped is only told of. -/
theorem pass_skip (henabled : S.enabled ctx { severity } s = (false, t)) :
    pass host S ctx ((severity, body) :: rest) s =
      pass host S ctx rest (host.note (skipping severity) t) := by
  simp only [pass, bind, StateT.bind, henabled]
  rfl

/-- An entry that is emitted decides by its outcome whether the others follow. -/
theorem pass_emit {r : Record} (henabled : S.enabled ctx { severity } s = (true, t))
    (hemit : S.emit ctx (record (host.time t) severity body) t = ((outcome, r), u)) :
    pass host S ctx ((severity, body) :: rest) s =
      if outcome = .done then pass host S ctx rest u else (outcome, u) := by
  simp only [pass, bind, StateT.bind, henabled]
  show (match S.emit ctx (record (host.time t) severity body) t with
    | ((outcome, _), u) =>
      (if outcome = Outcome.done then pass host S ctx rest else pure outcome :
        StateM σ Outcome) u) = _
  rw [hemit]
  dsimp only
  split <;> rfl

/-- There is a way through the entries from every state. -/
theorem exists_passes (host : Host σ) (S : Stage σ) (ctx : Context)
    (entries : List (Severity × String)) (s : σ) :
    ∃ deeds outcome after, Passes host S ctx entries s deeds outcome after := by
  induction entries generalizing s with
  | nil => exact ⟨_, _, _, .finish s⟩
  | cons entry rest ih =>
    obtain ⟨severity, body⟩ := entry
    rcases henabled : S.enabled ctx { severity } s with ⟨_ | _, t⟩
    · obtain ⟨deeds, outcome, after, hrest⟩ := ih (host.note (skipping severity) t)
      exact ⟨_, _, _, .skip henabled hrest⟩
    · rcases hemit : S.emit ctx (record (host.time t) severity body) t with ⟨⟨outcome, r⟩, u⟩
      by_cases houtcome : outcome = .done
      · obtain ⟨deeds, outcome', after, hrest⟩ := ih u
        exact ⟨_, _, _, .emit henabled (houtcome ▸ hemit) hrest⟩
      · exact ⟨_, _, _, .stop henabled hemit houtcome⟩

/-- It is the way that the loop takes. -/
theorem Passes.pass_eq (h : Passes host S ctx entries s deeds outcome after) :
    pass host S ctx entries s = (outcome, after) := by
  induction h with
  | finish => rfl
  | skip henabled _ ih => rw [pass_skip henabled, ih]
  | emit henabled hemit _ ih => rw [pass_emit henabled hemit, if_pos rfl, ih]
  | stop henabled hemit houtcome => rw [pass_emit henabled hemit, if_neg houtcome]

/-! ## Calls -/

/-- A query is entered in a ledger. -/
theorem kept_enabled {q : Query} {answer : Bool} (h : S.enabled ctx q s = (answer, t))
    (calls : List Call) :
    S.kept.enabled ctx q ⟨s, calls⟩ = (answer, ⟨t, calls ++ [.enabled ctx q]⟩) := by
  show ((S.enabled ctx q s).1, (⟨(S.enabled ctx q s).2, _⟩ : Ledger σ)) = _
  rw [h]

/-- A record is entered in a ledger, as it is handed over. -/
theorem kept_emit {r r' : Record} (h : S.emit ctx r s = ((outcome, r'), t)) (calls : List Call) :
    S.kept.emit ctx r ⟨s, calls⟩ = ((outcome, r'), ⟨t, calls ++ [.emit ctx r]⟩) := by
  show ((S.emit ctx r s).1, (⟨(S.emit ctx r s).2, _⟩ : Ledger σ)) = _
  rw [h]

/-- An entry that is emitted is first asked about. -/
theorem append_calls_emitted (calls : List Call) (ctx : Context) (severity : Severity)
    (body : String) (time : Time.Instant) (outcome : Outcome) :
    calls ++ Deed.calls ctx (.emitted (severity, body) time outcome) =
      calls ++ [.enabled ctx { severity }] ++ [.emit ctx (record time severity body)] := by
  rw [List.append_assoc]
  rfl

/-- Beside a ledger the way is the same, and the calls of its deeds are entered. -/
theorem Passes.kept (h : Passes host S ctx entries s deeds outcome after) (calls : List Call) :
    Passes host.kept S.kept ctx entries ⟨s, calls⟩ deeds outcome
      ⟨after, calls ++ deeds.flatMap (Deed.calls ctx)⟩ := by
  induction h generalizing calls with
  | finish s => rw [List.flatMap_nil, List.append_nil]; exact .finish _
  | skip henabled _ ih =>
    rw [List.flatMap_cons, ← List.append_assoc]
    exact .skip (kept_enabled henabled calls) (ih _)
  | emit henabled hemit _ ih =>
    rw [List.flatMap_cons, ← List.append_assoc, append_calls_emitted]
    exact .emit (kept_enabled henabled calls) (kept_emit hemit _) (ih _)
  | stop henabled hemit houtcome =>
    rw [List.flatMap_singleton, append_calls_emitted]
    exact .stop (kept_enabled henabled calls) (kept_emit hemit _) houtcome

/-- The records that are emitted are those of the sample. -/
theorem attributes_of_mem_calls {deed : Deed} {r : Record} (h : .emit ctx r ∈ deed.calls ctx) :
    r.attributes.entries = [("source", "sample")] := by
  cases deed with
  | skipped entry => simp [Deed.calls] at h
  | emitted entry time outcome =>
    simp only [Deed.calls, List.mem_cons, reduceCtorEq, Call.emit.injEq, true_and, false_or,
      List.not_mem_nil, or_false] at h
    rw [h]
    rfl

/-! ## Outcomes -/

/-- Something is done about entries from the first on. -/
theorem Passes.inOrder (h : Passes host S ctx entries s deeds outcome after) :
    deeds.map Deed.entry <+: entries := by
  induction h with
  | finish => exact List.prefix_rfl
  | skip _ _ ih | emit _ _ _ ih => exact (List.prefix_cons_inj _).mpr ih
  | stop => exact (List.prefix_cons_inj _).mpr List.nil_prefix

/-- If all is done, something is done about every entry. -/
theorem Passes.complete (h : Passes host S ctx entries s deeds outcome after)
    (hdone : outcome = .done) :
    deeds.map Deed.entry = entries ∧ ∀ deed ∈ deeds, deed.outcome = .done := by
  induction h with
  | finish => exact ⟨rfl, List.forall_mem_nil _⟩
  | skip _ _ ih | emit _ _ _ ih =>
    obtain ⟨hentries, hall⟩ := ih hdone
    exact ⟨congrArg (_ :: ·) hentries, List.forall_mem_cons.mpr ⟨rfl, hall⟩⟩
  | stop _ _ houtcome => exact absurd hdone houtcome

/-- If not, the deed that has failed is the last one. -/
theorem Passes.stopped (h : Passes host S ctx entries s deeds outcome after)
    (hfailed : outcome ≠ .done) :
    ∃ earlier last, deeds = earlier ++ [last] ∧ last.outcome = outcome ∧
      ∀ deed ∈ earlier, deed.outcome = .done := by
  induction h with
  | finish => exact absurd rfl hfailed
  | skip _ _ ih | emit _ _ _ ih =>
    obtain ⟨earlier, last, rfl, hlast, hall⟩ := ih hfailed
    exact ⟨_ :: earlier, last, rfl, hlast, List.forall_mem_cons.mpr ⟨rfl, hall⟩⟩
  | stop => exact ⟨[], _, rfl, rfl, List.forall_mem_nil _⟩

/-- So it can be told from the deeds whether all is done. -/
theorem Passes.done_iff (h : Passes host S ctx entries s deeds outcome after) :
    outcome = .done ↔ ∀ deed ∈ deeds, deed.outcome = .done := by
  refine ⟨fun hdone => (h.complete hdone).2, fun hall => ?_⟩
  refine Classical.byContradiction fun hfailed => ?_
  obtain ⟨earlier, last, rfl, hlast, -⟩ := h.stopped hfailed
  exact hfailed (hlast.symm.trans (hall last List.mem_concat_self))

/-- Every sample passes through a gate in this way. -/
theorem exists_passing (host : Host σ) (g : Gate σ) (ctx : Context) (s : σ) :
    ∃ deeds outcome after, Sample.emit host g ctx s = (outcome, after) ∧
      Passing host g ctx s deeds outcome after := by
  obtain ⟨deeds, outcome, after, h⟩ := exists_passes host g.stage ctx Sample.entries s
  have hemit : Sample.emit host g ctx s = (outcome, after) := by
    rw [Sample.emit, emitEntries_eq_pass, h.pass_eq]
  refine ⟨deeds, outcome, after, hemit, h, fun calls => (h.kept calls).pass_eq, h.inOrder,
    h.done_iff, fun hdone => (h.complete hdone).1, h.stopped, fun r hr => ?_⟩
  obtain ⟨deed, -, hcall⟩ := List.mem_flatMap.mp hr
  exact attributes_of_mem_calls hcall

end

end Sample

end LogGate
