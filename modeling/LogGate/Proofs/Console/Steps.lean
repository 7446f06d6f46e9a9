import LogGate.Console
import LogGate.Proofs.Stage.Answer

/-!
# What a call on a console does

Each call looks at the deadline of its context, at the mark that the console is closed and at the
writer, in an order of its own, and the first of these that stands in the way decides. The theorems
of this module give each call at each of these points, as the answer and the console after it;
`use` is what is left to be decided by the writer. Of the marks on a console, only a shutdown in
time changes that it is open, and only a call that breaks off changes that it is sound
(`emit_marks`, `flush_marks`, `shutdown_marks`). A console that is part of a state does there what
it does alone (`stage_emit`), and a shutdown that closes it is noted (`stage_shutdown`).
-/

namespace LogGate.Console

section
variable {ω : Type} {w : Writer ω} {c : Console ω} {r : Record}

/-! ## The writer -/

/-- Nothing comes to the writer of a broken console. -/
theorem use_of_broken (action : ω → Option Trouble × ω) (hc : c.broken = true) :
    use action c = (.failed unusable, c) := by
  rw [use, if_pos hc]

/-- Without a crash of the writer, a call does not break off. -/
theorem isCrash_outcome {trouble : Option Trouble}
    (h : ∀ message, trouble ≠ some (.crashed message)) : (outcome trouble).isCrash = false := by
  rcases trouble with _ | ⟨reason⟩ | ⟨message⟩
  · rfl
  · rfl
  · exact absurd rfl (h message)

/-- On a sound console, a use of the writer gives what became of it. A crash breaks the console, and
nothing else is changed but the writer. -/
theorem use_of_sound {action : ω → Option Trouble × ω} {trouble : Option Trouble} {s : ω}
    (hc : c.broken = false) (ha : action c.writer = (trouble, s)) :
    use action c = (outcome trouble, ⟨s, c.closed, (outcome trouble).isCrash⟩) := by
  obtain ⟨writer, closed, broken⟩ := c
  obtain rfl : broken = false := hc
  simp only [use, ha]
  rcases trouble with _ | ⟨reason⟩ | ⟨message⟩ <;> rfl

/-- A use of the writer closes nothing, and breaks the console if it breaks off. -/
theorem use_marks (action : ω → Option Trouble × ω) (c : Console ω) :
    (use action c).2.closed = c.closed ∧
      (use action c).2.broken = (c.broken || (use action c).1.isCrash) := by
  cases hc : c.broken with
  | true =>
    rw [use_of_broken action hc]
    exact ⟨rfl, hc⟩
  | false =>
    rw [use_of_sound hc (Prod.eta (action c.writer)).symm]
    exact ⟨rfl, rfl⟩

/-! ## Emitting -/

/-- A closed console refuses a record. -/
theorem emit_of_closed (hc : c.closed = true) : emit w r c = (.failed .closed, c) := by
  show (if c.closed = true then pure (.failed .closed) else use (print w r.line) :
    StateM (Console ω) Outcome) c = _
  rw [if_pos hc]
  rfl

/-- An open console leaves a record to the writer. -/
theorem emit_of_open (hc : c.closed = false) : emit w r c = use (print w r.line) c := by
  show (if c.closed = true then pure (.failed .closed) else use (print w r.line) :
    StateM (Console ω) Outcome) c = _
  rw [hc]
  rfl

/-- Emitting closes nothing. -/
theorem emit_marks (w : Writer ω) (r : Record) (c : Console ω) :
    (emit w r c).2.closed = c.closed ∧
      (emit w r c).2.broken = (c.broken || (emit w r c).1.isCrash) := by
  cases hc : c.closed with
  | true =>
    rw [emit_of_closed hc]
    exact ⟨hc, (Bool.or_false _).symm⟩
  | false =>
    rw [emit_of_open hc, ← hc]
    exact use_marks _ c

/-- Only an open and sound console fails for an error of the writer, and it stays so. -/
theorem emit_io {reason : String} (h : (emit w r c).1 = .failed (.io reason)) :
    (emit w r c).2.closed = false ∧ (emit w r c).2.broken = false := by
  obtain ⟨hclosed, hbroken⟩ := emit_marks w r c
  have hc : c.closed = false := by
    rw [← Bool.not_eq_true]
    intro hc
    rw [emit_of_closed hc] at h
    cases h
  have hb : c.broken = false := by
    rw [← Bool.not_eq_true]
    intro hb
    rw [emit_of_open hc, use_of_broken _ hb] at h
    cases h
  exact ⟨hclosed.trans hc, by rw [hbroken, hb, h]; rfl⟩

/-! ## Flushing -/

/-- An expired context stops a flush. -/
theorem flush_expired : flush w true c = (.failed .deadlineExceeded, c) := rfl

/-- Any other flush is left to the writer. -/
theorem flush_live : flush w false c = use w.flush c := rfl

/-- Flushing closes nothing. -/
theorem flush_marks (w : Writer ω) (expired : Bool) (c : Console ω) :
    (flush w expired c).2.closed = c.closed ∧
      (flush w expired c).2.broken = (c.broken || (flush w expired c).1.isCrash) := by
  cases expired with
  | true => exact ⟨rfl, (Bool.or_false _).symm⟩
  | false => exact use_marks _ c

/-! ## Shutting down -/

/-- An expired context stops a shutdown. -/
theorem shutdown_expired : shutdown w true c = (.failed .deadlineExceeded, c) := rfl

/-- A closed console is not shut down again. -/
theorem shutdown_of_closed (hc : c.closed = true) :
    shutdown w false c = (.failed .closed, c) := by
  show (if c.closed = true then pure (.failed .closed) else _ :
    StateM (Console ω) Outcome) c = _
  rw [if_pos hc]
  rfl

/-- An open console is closed before the rest is left to the writer. -/
theorem shutdown_of_open (hc : c.closed = false) :
    shutdown w false c = use w.flush { c with closed := true } := by
  show (if c.closed = true then pure (.failed .closed) else (do
    modify fun c => { c with closed := true }
    use w.flush) : StateM (Console ω) Outcome) c = _
  rw [hc]
  rfl

/-- Shutting down in time closes the console, whatever comes of it. -/
theorem shutdown_marks (w : Writer ω) (expired : Bool) (c : Console ω) :
    (shutdown w expired c).2.closed = (c.closed || !expired) ∧
      (shutdown w expired c).2.broken = (c.broken || (shutdown w expired c).1.isCrash) := by
  cases expired with
  | true => exact ⟨(Bool.or_false _).symm, (Bool.or_false _).symm⟩
  | false =>
    rw [Bool.not_false, Bool.or_true]
    cases hc : c.closed with
    | true =>
      rw [shutdown_of_closed hc]
      exact ⟨hc, (Bool.or_false _).symm⟩
    | false =>
      rw [shutdown_of_open hc]
      exact use_marks w.flush { c with closed := true }

/-! ## Consoles in a state -/

/-- A console that is part of a state is handed a record there. -/
theorem stage_emit {σ : Type} (host : Host σ) (w : Writer ω) (slot : Slot σ (Console ω))
    (ctx : Context) (r : Record) (s : σ) :
    (stage host w slot).emit ctx r s =
      (((emit w r (slot.get s)).1, r), slot.set (emit w r (slot.get s)).2 s) := rfl

/-- A console that is part of a state says so there before it is shut down, unless the context has
expired or there is nothing to shut down. -/
theorem stage_shutdown {σ : Type} (host : Host σ) (w : Writer ω) (slot : Slot σ (Console ω))
    (ctx : Context) (s : σ) :
    (stage host w slot).shutdown ctx s = slot.run (shutdown w (ctx.isExpired (host.now s)))
      (if ctx.isExpired (host.now s) || (slot.get s).closed then s else host.note closing s) := by
  show (do
    unless ctx.isExpired (host.now s) || (slot.get s).closed do modify (host.note closing)
    slot.run (shutdown w (ctx.isExpired (host.now s))) : StateM σ Outcome) s = _
  cases ctx.isExpired (host.now s) || (slot.get s).closed <;> rfl

end

end LogGate.Console
