import LogGate.Proofs.Bench.Row
import LogGate.Proofs.Console.Steps
import LogGate.Proofs.Gate.Steps

/-!
# What an answer foretells

A stage that is asked whether it would process a record answers for that record: if it would not,
being handed it changes nothing, and if it would, the record gets to the console at the end of its
chain (`Row.foretells`). The two are decided apart from each other. A gate directly in front of a
console lets the console go unasked, so it may say that it would process a record though the console
is closed; but no stage says that it would not process a record that is then printed.
`Reaches` says what comes of a record that gets to a console, and `emit_foretold` puts it all
together for the stages of an arrangement, on a floor in any state.
-/

namespace LogGate.Bench

open Console (print outcome)

/-! ## Consoles of an arrangement -/

/-- Whether a stage is a console. -/
def Part.isConsole {n : Nat} : Part n → Bool
  | .console _ => true
  | .silent | .gate .. => false

/-- Whether a stage of an arrangement is a console, and neither a gate nor silent. -/
def Arrangement.isConsole : {n : Nat} → Arrangement n → Fin n → Bool
  | _, .nothing => Fin.elim0
  | _, .add a part => Fin.snoc (α := fun _ => Bool) a.isConsole part.isConsole

section
variable {ω : Type} {n : Nat}

/-- What comes of a record that gets to a console of a floor: its line is offered to the writer,
unless the console is closed or broken. Nothing else on the floor is changed. -/
structure Reaches (w : Writer ω) (i : Nat) (r : Record) (floor : Floor ω)
    (result : (Outcome × Record) × Floor ω) : Prop where
  closed : (floor.consoles i).closed = true → result = ((.failed .closed, r), floor)
  broken : (floor.consoles i).closed = false → (floor.consoles i).broken = true →
    result = ((.failed (.other "console writer mutex poisoned"), r), floor)
  offered : ∀ trouble s, (floor.consoles i).closed = false → (floor.consoles i).broken = false →
    print w r.line (floor.consoles i).writer = (trouble, s) →
    result = ((outcome trouble, r),
      { floor with consoles := update floor.consoles i ⟨s, false, (outcome trouble).isCrash⟩ })

variable {w : Writer ω} {chain : Chain} {S : Stage (Floor ω)} {floor : Floor ω}

/-- Consoles are the stages that do not decide on records. -/
theorem Arrangement.decides_chain (a : Arrangement n) (i : Fin n) :
    (a.chain i).decides = !a.isConsole i := by
  induction a with
  | nothing => exact i.elim0
  | add a part ih =>
    show (Fin.snoc (α := fun _ => Chain) a.chain (part.chain a.chain) i : Chain).decides =
      !(Fin.snoc (α := fun _ => Bool) a.isConsole part.isConsole i : Bool)
    induction i using Fin.lastCases with
    | last =>
      rw [Fin.snoc_last, Fin.snoc_last]
      cases part <;> rfl
    | cast j =>
      rw [Fin.snoc_castSucc, Fin.snoc_castSucc]
      exact ih j

/-! ## Consoles -/

/-- A writer that enters its flushes in the journal writes what it writes without. -/
theorem writeAll_journaling (w : Writer ω) (name : String) (bytes : List UInt8) (s : ω)
    (journal : List Event) :
    (Floor.journaling w name).writeAll bytes (s, journal) =
      ((w.writeAll bytes s).1, (w.writeAll bytes s).2, journal) := by
  have hwrite : ∀ bytes s, (Floor.journaling w name).write bytes (s, journal) =
      ((w.write bytes s).1, (w.write bytes s).2, journal) := fun _ _ => rfl
  fun_induction Writer.writeAll w bytes s with
  | case1 s => rw [Writer.writeAll]
  | case2 s byte rest s' hw => rw [Writer.writeAll_cons, hwrite, hw]
  | case3 s byte rest n s' hw ih =>
    rw [Writer.writeAll_cons, hwrite, hw]
    exact ih
  | case4 s byte rest s' hw ih =>
    rw [Writer.writeAll_cons, hwrite, hw]
    exact ih
  | case5 s byte rest trouble s' hw => rw [Writer.writeAll_cons, hwrite, hw]

/-- And so it prints what it prints without. -/
theorem print_journaling (w : Writer ω) (name line : String) (s : ω) (journal : List Event) :
    print (Floor.journaling w name) line (s, journal) =
      ((print w line s).1, (print w line s).2, journal) := by
  rw [print, print, writeAll_journaling]
  generalize w.writeAll (Utf8.encode line) s = x
  obtain ⟨_ | trouble, s'⟩ := x
  · exact writeAll_journaling w name _ s' journal
  · rfl

/-- A record that is handed to a console gets there. -/
theorem reaches_console (w : Writer ω) (name : String) (i : Nat) (ctx : Context) (r : Record)
    (floor : Floor ω) : Reaches w i r floor ((Floor.console w name i).emit ctx r floor) := by
  have hclosed : (floor.consoles i).closed = ((Floor.consoleSlot i).get floor).closed := rfl
  have hbroken : (floor.consoles i).broken = ((Floor.consoleSlot i).get floor).broken := rfl
  rw [Floor.console, Console.stage_emit]
  constructor
  case closed =>
    intro hc
    rw [hclosed] at hc
    rw [Console.emit_of_closed hc, Slot.set_get]
  case broken =>
    intro hc hb
    rw [hclosed] at hc
    rw [hbroken] at hb
    rw [Console.emit_of_open hc, Console.use_of_broken _ hb, Slot.set_get]
    rfl
  case offered =>
    intro trouble s hc hb hprint
    have hjournaling : print (Floor.journaling w name) r.line
        ((Floor.consoleSlot i).get floor).writer = (trouble, s, floor.journal) := by
      show print _ _ ((floor.consoles i).writer, floor.journal) = _
      rw [print_journaling, hprint]
    rw [hclosed] at hc
    rw [hbroken] at hb
    rw [Console.emit_of_open hc, Console.use_of_sound hb hjournaling, hc]
    rfl

/-! ## Rows -/

/-- What a row answers to a query comes true when the record is handed to it. -/
theorem Row.foretells (h : Row w chain S) (ctx : Context) (r : Record) (floor : Floor ω) :
    (S.enabled ctx r.query floor = (false, floor) ∧ S.emit ctx r floor =
      ((if chain.decides then .done else .failed .closed, r), floor)) ∨
    (S.enabled ctx r.query floor = (true, floor) ∧ ∃ i, chain.console = some i ∧
      Reaches w i r floor (S.emit ctx r floor)) := by
  induction h with
  | console name i =>
    have hreaches := reaches_console w name i ctx r floor
    have henabled : (Floor.console w name i).enabled ctx r.query floor =
        (!(floor.consoles i).closed, floor) := rfl
    cases hc : (floor.consoles i).closed with
    | true => exact .inl ⟨by rw [henabled, hc]; rfl, hreaches.closed hc⟩
    | false => exact .inr ⟨by rw [henabled, hc]; rfl, i, rfl, hreaches⟩
  | silent => exact .inl ⟨rfl, rfl⟩
  | @gate chain S h m ih =>
    have hread := m.read_eq_severity floor
    by_cases hm : (m.severity fun number => (floor.thresholds number).severity) ≤ r.severity
    · rw [Gate.emit_reached hread hm, Gate.enabled_reached (q := r.query) hread hm]
      cases hd : chain.decides with
      | true =>
        rw [hd] at ih
        exact ih
      | false =>
        -- the gate stands directly in front of a console, and lets it go unasked
        cases h with
        | console name i => exact .inr ⟨rfl, i, rfl, reaches_console w name i ctx r floor⟩
        | silent | gate => cases hd
    · exact .inl ⟨Gate.enabled_unreached hread hm, Gate.emit_unreached hread hm⟩

/-! ## The law -/

/-- **What an answer foretells.** On a floor in any state, a stage of any arrangement that would not
process a record does nothing with it, and answers that this is done unless it is a console; and one
that would process the record gets it to the console at the end of its chain. The question itself
changes nothing. -/
theorem emit_foretold (w : Writer ω) (a : Arrangement n) (start floor : Floor ω) (i : Fin n)
    (ctx : Context) (r : Record) :
    (((a.build w start).1 i).enabled ctx r.query floor = (false, floor) ∧
      ((a.build w start).1 i).emit ctx r floor =
        ((if a.isConsole i then .failed .closed else .done, r), floor)) ∨
    (((a.build w start).1 i).enabled ctx r.query floor = (true, floor) ∧
      ∃ console, (a.chain i).console = some console ∧
        Reaches w console r floor (((a.build w start).1 i).emit ctx r floor)) := by
  have hforetells := (a.build_row w start i).foretells ctx r floor
  rw [a.decides_chain] at hforetells
  cases hconsole : a.isConsole i <;> rw [hconsole] at hforetells <;> exact hforetells

end

end LogGate.Bench
