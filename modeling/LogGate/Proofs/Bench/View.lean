import LogGate.Bench.Floor
import LogGate.Bench.Roll
import LogGate.Proofs.Writer.Accepting

/-!
# What a floor shows

Of a floor whose writers accept everything one can see the severities that its thresholds are at,
which consoles are closed and what each of them has printed: a `View`. `Floor.Shows` ties a floor to
its view, and the theorems of this module say how the calls on one console change the view: emitting
prints on that console if it is open, flushing changes nothing, and shutting down closes it. They
leave all other consoles and the thresholds as they are.
-/

namespace LogGate.Bench

/-- A roll without an end accepts everything. -/
theorem Roll.accepts : Roll.writer.Accepts (fun roll => roll.room = none) Roll.printed where
  write byte rest s hs := by
    have hwrite : Roll.writer.write (byte :: rest) s =
        (.took (byte :: rest).length, { s with printed := s.printed ++ byte :: rest }) := by
      show Roll.write (byte :: rest) s = _
      rw [Roll.write, hs]
    rw [hwrite]
    refine ⟨hs, .inl ⟨rest.length, rfl, ?_⟩⟩
    rw [List.take_length]
  flush s hs := ⟨hs, rfl⟩
  sound s message _ := by
    show (if s.flushFails = true then some (Trouble.refused "cannot flush") else none) ≠ _
    split <;> simp

/-- Severities of thresholds, and for each console whether it is closed and what it has printed. -/
structure View where
  levels : Nat → Severity
  closed : Nat → Bool
  printed : Nat → List UInt8

namespace Floor

/-- A floor shows a view, and the writers of its consoles are in good states. -/
structure Shows {ω : Type} (good : ω → Prop) (text : ω → List UInt8) (floor : Floor ω)
    (view : View) : Prop where
  level : ∀ v, (floor.thresholds v).severity = view.levels v
  good : ∀ i, (floor.consoles i).IsGood good
  closed : ∀ i, (floor.consoles i).closed = view.closed i
  printed : ∀ i, text (floor.consoles i).writer = view.printed i

section
variable {ω α : Type} {w : Writer ω} {good : ω → Prop} {text : ω → List UInt8}
variable {floor : Floor ω} {view : View} {i : Nat}

/-- A writer that enters its flushes in the journal accepts what it accepts without. -/
theorem journaling_accepts (h : w.Accepts good text) (name : String) :
    (journaling w name).Accepts (fun s => good s.1) (fun s => text s.1) where
  write byte rest s hs := h.write byte rest s.1 hs
  flush s hs := h.flush s.1 hs
  sound s message hs := h.sound s.1 message hs

/-- Entering something in the journal shows nothing. -/
theorem Shows.enter (h : Shows good text floor view) (event : Event) :
    Shows good text (Floor.enter event floor) view :=
  ⟨h.level, h.good, h.closed, h.printed⟩

/-- A floor that shows a view shows whatever agrees with it at every number. -/
theorem Shows.congr (h : Shows good text floor view) {seen : View}
    (hlevels : ∀ v, view.levels v = seen.levels v) (hclosed : ∀ i, view.closed i = seen.closed i)
    (hprinted : ∀ i, view.printed i = seen.printed i) : Shows good text floor seen where
  level v := (h.level v).trans (hlevels v)
  good := h.good
  closed i := (h.closed i).trans (hclosed i)
  printed i := (h.printed i).trans (hprinted i)

/-- Setting a threshold changes its severity only. -/
theorem Shows.set (h : Shows good text floor view) (v : Nat) (s : Severity) :
    Shows good text
      { floor with thresholds := update floor.thresholds v ((floor.thresholds v).set s) }
      { view with levels := update view.levels v s } where
  level u := by
    by_cases hu : u = v
    · subst hu
      simp only [update_same]
      exact Threshold.severity_ofSeverity s
    · simp only [update_of_ne _ _ hu]
      exact h.level u
  good := h.good
  closed := h.closed
  printed := h.printed

/-- An action on one console changes what that console shows, and nothing else. -/
theorem Shows.run (h : Shows good text floor view) (i : Nat)
    (action : StateM (Console (ω × List Event)) α) (closed : Bool) (printed : List UInt8)
    (hact : ∀ c : Console (ω × List Event), c.IsGood (fun s => good s.1) →
      c.closed = view.closed i → text c.writer.1 = view.printed i →
      (action c).2.IsGood (fun s => good s.1) ∧ (action c).2.closed = closed ∧
        text (action c).2.writer.1 = printed) :
    Shows good text ((consoleSlot i).run action floor).2
      { view with closed := update view.closed i closed
                  printed := update view.printed i printed } := by
  obtain ⟨hgood, hclosed, hprinted⟩ :=
    hact ((consoleSlot i).get floor) (h.good i) (h.closed i) (h.printed i)
  have hconsoles : ((consoleSlot i).run action floor).2.consoles =
      update floor.consoles i
        ⟨(action ((consoleSlot i).get floor)).2.writer.1,
          (action ((consoleSlot i).get floor)).2.closed,
          (action ((consoleSlot i).get floor)).2.broken⟩ := rfl
  refine ⟨h.level, fun j => ?_, fun j => ?_, fun j => ?_⟩ <;> rw [hconsoles] <;>
    by_cases hj : j = i
  · subst hj; rw [update_same]; exact hgood
  · rw [update_of_ne _ _ hj]; exact h.good j
  · subst hj; simp only [update_same]; exact hclosed
  · simp only [update_of_ne _ _ hj]; exact h.closed j
  · subst hj; simp only [update_same]; exact hprinted
  · simp only [update_of_ne _ _ hj]; exact h.printed j

/-- A console prints the line of a record if it is open. -/
theorem Shows.emit (h : Shows good text floor view) (hw : w.Accepts good text) (name : String)
    (ctx : Context) (r : Record) :
    Shows good text ((console w name i).emit ctx r floor).2
      { view with printed := update view.printed i (view.printed i ++
          if view.closed i then [] else Utf8.encode (r.line ++ "\n")) } := by
  have hrun := h.run i (Console.emit (journaling w name) r) (view.closed i) _
    fun c hc hclosed hprinted => by
      have hemit := Console.emit_accepting (journaling_accepts hw name) hc r
      rw [hclosed, hprinted] at hemit
      exact hemit
  rw [update_self] at hrun
  exact hrun

/-- Flushing a console shows nothing. -/
theorem Shows.flush (h : Shows good text floor view) (hw : w.Accepts good text) (name : String)
    (ctx : Context) : Shows good text ((console w name i).flush ctx floor).2 view := by
  have hrun := h.run i (Console.flush (journaling w name) (ctx.isExpired now)) (view.closed i)
    (view.printed i) fun c hc hclosed hprinted => by
      have hflush := Console.flush_accepting (journaling_accepts hw name) hc (ctx.isExpired now)
      rw [hclosed, hprinted] at hflush
      exact hflush
  rw [update_self, update_self] at hrun
  exact hrun

/-- Shutting a console down starts with a note, unless the context has expired or there is nothing
to shut down. -/
theorem console_shutdown (w : Writer ω) (name : String) (i : Nat) (ctx : Context)
    (floor : Floor ω) :
    (console w name i).shutdown ctx floor =
      (consoleSlot i).run (Console.shutdown (journaling w name) (ctx.isExpired now))
        (if ctx.isExpired now || (floor.consoles i).closed then floor
          else Floor.enter (.noted Console.closing) floor) :=
  Console.stage_shutdown ..

/-- Shutting a console down closes it unless the context has expired. -/
theorem Shows.shutdown (h : Shows good text floor view) (hw : w.Accepts good text)
    (name : String) (ctx : Context) :
    Shows good text ((console w name i).shutdown ctx floor).2
      { view with closed := update view.closed i (view.closed i || !ctx.isExpired now) } := by
  have hnoted : Shows good text
      (if ctx.isExpired now || (floor.consoles i).closed then floor
        else Floor.enter (.noted Console.closing) floor) view := by
    split
    · exact h
    · exact h.enter _
  have hrun := hnoted.run i (Console.shutdown (journaling w name) (ctx.isExpired now)) _
    (view.printed i) fun c hc hclosed hprinted => by
      have hshut :=
        Console.shutdown_accepting (journaling_accepts hw name) hc (ctx.isExpired now)
      rw [hclosed, hprinted] at hshut
      exact hshut
  rw [update_self] at hrun
  rw [console_shutdown]
  exact hrun

end

end Floor

end LogGate.Bench
