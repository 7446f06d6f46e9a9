import LogGate.Proofs.Gate.Front
import LogGate.Proofs.Severity.Scale
import LogGate.Proofs.Stage.Ledger
import Mathlib.Order.MinMax

/-!
# Stacks of gates

A stack is one or more gates, each built in front of the one before, the innermost in front of any
stage at all. It acts as a single gate whose minimum is the greatest of the minima (`greatest`), as
they stand when the call is made. `Obeys` states this for each operation, with the calls that the
stage at the end gets, and `stack_law` proves it of every stack. Reading a minimum is an action, so
what it does to the state is part of the law: a stack reads its minima from the outermost on, and
none behind one that is not reached.
-/

namespace LogGate.Gate

open Stage (Ledger)

section
variable {σ : Type}

/-- Builds gates in front of a stage: an innermost one and, one in front of the other, those of a
list, of which the first is the outermost. -/
def stack (host : Host σ) (P : Stage σ) (inner : StateM σ Severity) :
    List (StateM σ Severity) → StateM σ (Gate σ)
  | [] => build host (some P) (some inner)
  | m :: outer => do build host (some (← stack host P inner outer).stage) (some m)

/-- The greatest of the minima of a stack, all of them read, the outermost first. -/
def greatest (inner : StateM σ Severity) : List (StateM σ Severity) → StateM σ Severity
  | [] => inner
  | m :: outer => do return max (← m) (← greatest inner outer)

/-- What a stack of gates does with each call, if the stage at its end has said whether it decides
on records. -/
structure Obeys (P : Stage σ) (decides : Bool) (inner : StateM σ Severity)
    (outer : List (StateM σ Severity)) (g : Gate (Ledger σ)) : Prop where
  /-- A record below the greatest minimum is dropped, unchanged and without a call. -/
  emit_below : ∀ ctx r l, r.severity < (greatest inner outer l.state).1 →
    g.stage.emit ctx r l = ((.done, r),
      { l with state := (admits r.severity (outer ++ [inner]) l.state).2 })
  /-- Any other record is handed on once, and the answer is that of the stage. -/
  emit_above : ∀ ctx r l, (greatest inner outer l.state).1 ≤ r.severity →
    g.stage.emit ctx r l =
      P.kept.emit ctx r { l with state := (greatest inner outer l.state).2 }
  /-- A query below the greatest minimum is answered without a call. -/
  enabled_below : ∀ ctx q l, q.severity < (greatest inner outer l.state).1 →
    g.stage.enabled ctx q l = (false,
      { l with state := (admits q.severity (outer ++ [inner]) l.state).2 })
  /-- Any other query is handed on once to a stage that decides on records. -/
  enabled_decides : ∀ ctx q l, decides = true → (greatest inner outer l.state).1 ≤ q.severity →
    g.stage.enabled ctx q l =
      P.kept.enabled ctx q { l with state := (greatest inner outer l.state).2 }
  /-- A stage that does not decide on records is not asked. -/
  enabled_alive : ∀ ctx q l, decides = false → (greatest inner outer l.state).1 ≤ q.severity →
    g.stage.enabled ctx q l = (true, { l with state := (greatest inner outer l.state).2 })
  /-- Shutting down is handed on once, and reads no minimum. -/
  shutdown : ∀ ctx l, g.stage.shutdown ctx l = P.kept.shutdown ctx l
  /-- Flushing is handed on once, and reads no minimum. -/
  flush : ∀ ctx l, g.stage.flush ctx l = P.kept.flush ctx l
  /-- The stack decides on records, and says so without a call. -/
  filters : ∀ l, g.stage.filters l = (true, l)

variable {P : Stage σ} {decides : Bool} {inner : StateM σ Severity}
variable {outer minima : List (StateM σ Severity)} {severity : Severity} {s : σ}

/-! ## The greatest minimum -/

/-- A severity that reaches the greatest minimum reaches all of them, and they are all read. -/
theorem admits_of_greatest_le (h : (greatest inner outer s).1 ≤ severity) :
    admits severity (outer ++ [inner]) s = (true, (greatest inner outer s).2) := by
  induction outer generalizing s with
  | nil =>
    have hm : (inner s).1 ≤ severity := h
    show (if (inner s).1 ≤ severity then pure true else pure false : StateM σ Bool) (inner s).2 = _
    rw [if_pos hm]
    rfl
  | cons m outer ih =>
    have hmax : max (m s).1 (greatest inner outer (m s).2).1 ≤ severity := h
    obtain ⟨hm, hrest⟩ := max_le_iff.1 hmax
    show (if (m s).1 ≤ severity then admits severity (outer ++ [inner]) else pure false)
      (m s).2 = _
    rw [if_pos hm, ih hrest]
    rfl

/-- A severity below the greatest minimum does not reach all of them. -/
theorem admits_of_lt_greatest (h : severity < (greatest inner outer s).1) :
    (admits severity (outer ++ [inner]) s).1 = false := by
  induction outer generalizing s with
  | nil =>
    have hm : ¬ (inner s).1 ≤ severity := not_le_of_gt h
    show ((if (inner s).1 ≤ severity then pure true else pure false : StateM σ Bool)
      (inner s).2).1 = _
    rw [if_neg hm]
    rfl
  | cons m outer ih =>
    have hmax : severity < max (m s).1 (greatest inner outer (m s).2).1 := h
    show ((if (m s).1 ≤ severity then admits severity (outer ++ [inner]) else pure false)
      (m s).2).1 = _
    by_cases hm : (m s).1 ≤ severity
    · rw [if_pos hm]
      exact ih ((lt_max_iff.1 hmax).resolve_left (not_lt_of_ge hm))
    · rw [if_neg hm]
      rfl

/-! ## Minima beside a ledger -/

/-- Minima that enter nothing are read as they are without a ledger. -/
theorem admits_quiet (severity : Severity) (minima : List (StateM σ Severity)) :
    admits severity (minima.map Ledger.quiet) = Ledger.quiet (admits severity minima) := by
  induction minima with
  | nil => rfl
  | cons m minima ih =>
    rw [List.map_cons, admits, admits, Ledger.quiet_bind]
    refine bind_congr fun a => ?_
    split
    · exact ih
    · rfl

/-- Behind minima that are reached, an action runs in the state that reading them left. -/
theorem behind_quiet_of_greatest_le {α : Type} {otherwise : α} {action : StateM (Ledger σ) α}
    {l : Ledger σ} (h : (greatest inner outer l.state).1 ≤ severity) :
    behind ((outer ++ [inner]).map Ledger.quiet) severity otherwise action l =
      action { l with state := (greatest inner outer l.state).2 } := by
  refine behind_admitted ?_
  rw [admits_quiet, Ledger.quiet, admits_of_greatest_le h]

/-- Behind a minimum that is not reached, nothing is entered. -/
theorem behind_quiet_of_lt_greatest {α : Type} {otherwise : α} {action : StateM (Ledger σ) α}
    {l : Ledger σ} (h : severity < (greatest inner outer l.state).1) :
    behind ((outer ++ [inner]).map Ledger.quiet) severity otherwise action l =
      (otherwise, { l with state := (admits severity (outer ++ [inner]) l.state).2 }) := by
  have hadmits := admits_of_lt_greatest h
  rw [behind_refused] <;> rw [admits_quiet] <;> simp only [Ledger.quiet, hadmits]

/-! ## The law -/

/-- The gate that a stack comes to, if the stage at its end has said whether it decides. -/
def stacked (P : Stage σ) (decides : Bool) (inner : StateM σ Severity) :
    List (StateM σ Severity) → Gate σ
  | [] => ⟨P, inner, decides⟩
  | m :: outer => ⟨(stacked P decides inner outer).stage, m, true⟩

/-- Building a stack asks the stage at its end once, and no gate asks it again. -/
theorem stack_eq (host : Host σ) (P : Stage σ) (inner : StateM σ Severity)
    (outer : List (StateM σ Severity)) :
    stack host P inner outer = (do return stacked P (← P.filters) inner outer) := by
  induction outer with
  | nil => rfl
  | cons m outer ih => rw [stack, ih]; rfl

/-- A stack is a row of gates in front of the stage at its end. -/
theorem stacked_fronts (P : Stage σ) (decides : Bool) (inner : StateM σ Severity)
    (outer : List (StateM σ Severity)) :
    Fronts P decides (outer ++ [inner]) (stacked P decides inner outer).stage := by
  induction outer with
  | nil => exact (Fronts.refl P).gate (.inr rfl)
  | cons m outer ih =>
    have h := ih.gate (m := m) (.inl rfl)
    rwa [Bool.and_true] at h

/-- A row of gates in front of a stage with a ledger obeys the law. -/
theorem Fronts.obeys {g : Gate (Ledger σ)}
    (h : Fronts P.kept decides ((outer ++ [inner]).map Ledger.quiet) g.stage) :
    Obeys P decides inner outer g where
  emit_below ctx r l hr := by rw [h.emit]; exact behind_quiet_of_lt_greatest hr
  emit_above ctx r l hr := by rw [h.emit]; exact behind_quiet_of_greatest_le hr
  enabled_below ctx q l hq := by rw [h.enabled]; exact behind_quiet_of_lt_greatest hq
  enabled_decides ctx q l hd hq := by
    rw [h.enabled, hd]
    exact behind_quiet_of_greatest_le hq
  enabled_alive ctx q l hd hq := by
    rw [h.enabled, hd]
    exact behind_quiet_of_greatest_le hq
  shutdown ctx l := congrFun (h.shutdown ctx) l
  flush ctx l := congrFun (h.flush ctx) l
  filters _ := rfl

/-- **The law of stacks.** Building a stack of gates, of any height and over any stage, asks that
stage once whether it decides on records and makes no other call. From then on, in every state, the
stack acts as one gate at the greatest of its minima. -/
theorem stack_law (host : Host (Ledger σ)) (P : Stage σ) (inner : StateM σ Severity)
    (outer : List (StateM σ Severity)) (l : Ledger σ) :
    ∃ g, stack host P.kept (Ledger.quiet inner) (outer.map Ledger.quiet) l =
        (g, ⟨(P.filters l.state).2, l.calls ++ [.filters]⟩) ∧
      Obeys P (P.filters l.state).1 inner outer g := by
  refine ⟨stacked P.kept (P.filters l.state).1 (Ledger.quiet inner) (outer.map Ledger.quiet),
    ?_, ?_⟩
  · rw [stack_eq]
    rfl
  · refine Fronts.obeys ?_
    rw [List.map_append]
    exact stacked_fronts _ _ _ _

end

end LogGate.Gate
