import LogGate.Proofs.Console.Steps

/-!
# The life of a console

A console stands by itself on a `Desk`, and calls are made on it, each at a moment of its own
(`Visit`). Whatever the writer does at each of them, two marks say how the console has fared: it is
closed from the first shutdown on whose context has not expired then, and it is broken from the
first crash of the writer on. One visit changes the marks by what the visit is and by what came of
it (`Visit.make_marks`), so after any visits they are read off the visits and the answers
(`makeAll_marks`). The marks decide what any further call does, and `Lives` lists it call by call;
`lifecycle_law` is that every console lives so.

A writer is any writer here, also one that counts what is asked of it. So where a desk is left as it
was, the writer was not called, and where its writer is left as one flush leaves it, it was flushed
once and not called otherwise.
-/

namespace LogGate.Console

/-! ## Visits -/

/-- A console by itself, and what has been told of it. -/
structure Desk (ω : Type) where
  console : Console ω
  told : List Diagnostic := []

/-- A call at a moment. -/
structure Visit where
  now : Moment
  call : Stage.Call

/-- Whether a visit shuts a console down in time. -/
def Visit.closes : Visit → Bool
  | ⟨now, .shutdown ctx⟩ => !ctx.isExpired now
  | _ => false

section
variable {ω : Type}

namespace Desk

/-- What a console uses of its desk at a moment. -/
def host (now : Moment) : Host (Desk ω) where
  now _ := now
  time _ := .epoch
  note d desk := { desk with told := desk.told ++ [d] }

/-- The console on a desk. -/
def slot : Slot (Desk ω) (Console ω) where
  get := console
  set console desk := { desk with console }
  get_set _ _ := rfl
  set_get _ := rfl
  set_set _ _ _ := rfl

/-- The stage that the console on a desk is at a moment. -/
def stage (w : Writer ω) (now : Moment) : Stage (Desk ω) := Console.stage (host now) w slot

end Desk

/-- Makes a visit. -/
def Visit.make (w : Writer ω) (v : Visit) : StateM (Desk ω) Stage.Answer :=
  v.call.make (Desk.stage w v.now)

/-- Makes visits in order. -/
def Visit.makeAll (w : Writer ω) : List Visit → StateM (Desk ω) (List Stage.Answer)
  | [] => return []
  | v :: visits => return (← v.make w) :: (← makeAll w visits)

/-- How a console lives: the marks on it after visits, and what every further call does then. -/
structure Lives (w : Writer ω) (visits : List Visit) (answers : List Stage.Answer)
    (desk : Desk ω) : Prop where
  /-- A console is closed by a shutdown in time, whatever that is answered, and by nothing else; it
  never opens again. -/
  closed_iff : desk.console.closed = true ↔ ∃ v ∈ visits, v.closes = true
  /-- It is broken by a crash, and never mended. -/
  broken_iff : desk.console.broken = true ↔ ∃ answer ∈ answers, answer.isCrash = true
  /-- It would process records as long as it is open, whatever the context and the writer. -/
  enabled : ∀ now ctx q,
    (Desk.stage w now).enabled ctx q desk = (!desk.console.closed, desk)
  /-- A closed console refuses records, whatever the context. -/
  emit_closed : ∀ now ctx r, desk.console.closed = true →
    (Desk.stage w now).emit ctx r desk = ((.failed .closed, r), desk)
  /-- An open one writes the line of a record, whatever the context. -/
  emit_open : ∀ now ctx r trouble s, desk.console.closed = false → desk.console.broken = false →
    print w r.line desk.console.writer = (trouble, s) →
    (Desk.stage w now).emit ctx r desk =
      ((outcome trouble, r), { desk with console := ⟨s, false, (outcome trouble).isCrash⟩ })
  /-- Unless it is broken. -/
  emit_broken : ∀ now ctx r, desk.console.closed = false → desk.console.broken = true →
    (Desk.stage w now).emit ctx r desk =
      ((.failed (.other "console writer mutex poisoned"), r), desk)
  /-- Of what stands in the way of a flush, an expired context comes first. -/
  flush_late : ∀ now ctx, ctx.isExpired now = true →
    (Desk.stage w now).flush ctx desk = (.failed .deadlineExceeded, desk)
  /-- Any other flush is one of the writer, on an open and on a closed console alike. -/
  flush : ∀ now ctx trouble s, ctx.isExpired now = false → desk.console.broken = false →
    w.flush desk.console.writer = (trouble, s) →
    (Desk.stage w now).flush ctx desk =
      (outcome trouble,
        { desk with console := ⟨s, desk.console.closed, (outcome trouble).isCrash⟩ })
  /-- Unless the console is broken. -/
  flush_broken : ∀ now ctx, ctx.isExpired now = false → desk.console.broken = true →
    (Desk.stage w now).flush ctx desk = (.failed (.other "console writer mutex poisoned"), desk)
  /-- Of what stands in the way of a shutdown, an expired context comes first. -/
  shutdown_late : ∀ now ctx, ctx.isExpired now = true →
    (Desk.stage w now).shutdown ctx desk = (.failed .deadlineExceeded, desk)
  /-- A closed console is not shut down again, and its writer not flushed. -/
  shutdown_closed : ∀ now ctx, ctx.isExpired now = false → desk.console.closed = true →
    (Desk.stage w now).shutdown ctx desk = (.failed .closed, desk)
  /-- The shutdown that closes a console is answered by what comes of a flush of its writer. -/
  shutdown_open : ∀ now ctx trouble s, ctx.isExpired now = false →
    desk.console.closed = false → desk.console.broken = false →
    w.flush desk.console.writer = (trouble, s) →
    (Desk.stage w now).shutdown ctx desk =
      (outcome trouble, ⟨⟨s, true, (outcome trouble).isCrash⟩, desk.told ++ [closing]⟩)
  /-- A broken console is closed all the same. -/
  shutdown_broken : ∀ now ctx, ctx.isExpired now = false →
    desk.console.closed = false → desk.console.broken = true →
    (Desk.stage w now).shutdown ctx desk =
      (.failed (.other "console writer mutex poisoned"),
        ⟨{ desk.console with closed := true }, desk.told ++ [closing]⟩)

variable {w : Writer ω} {desk : Desk ω} {now : Moment} {ctx : Context} {r : Record}

/-! ## Calls on a desk -/

/-- A record is handed to the console. -/
theorem Desk.emit_eq : (stage w now).emit ctx r desk =
    (((Console.emit w r desk.console).1, r),
      { desk with console := (Console.emit w r desk.console).2 }) := rfl

/-- A flush is one of the console. -/
theorem Desk.flush_eq : (stage w now).flush ctx desk =
    ((Console.flush w (ctx.isExpired now) desk.console).1,
      { desk with console := (Console.flush w (ctx.isExpired now) desk.console).2 }) := rfl

/-- A shutdown is one of the console, and is told of if it closes the console. -/
theorem Desk.shutdown_eq : (stage w now).shutdown ctx desk =
    ((Console.shutdown w (ctx.isExpired now) desk.console).1,
      ⟨(Console.shutdown w (ctx.isExpired now) desk.console).2,
        if ctx.isExpired now || desk.console.closed then desk.told
        else desk.told ++ [closing]⟩) := by
  rw [stage, stage_shutdown]
  show slot.run (Console.shutdown w (ctx.isExpired now))
    (if ctx.isExpired now || desk.console.closed then desk
      else ⟨desk.console, desk.told ++ [closing]⟩) = _
  cases ctx.isExpired now || desk.console.closed <;> rfl

/-! ## Marks -/

/-- A visit closes the console if it shuts it down in time, and breaks it if it breaks off. -/
theorem Visit.make_marks (w : Writer ω) (v : Visit) (desk : Desk ω) :
    (v.make w desk).2.console.closed = (desk.console.closed || v.closes) ∧
      (v.make w desk).2.console.broken = (desk.console.broken || (v.make w desk).1.isCrash) := by
  obtain ⟨now, call⟩ := v
  cases call with
  | emit ctx r =>
    obtain ⟨hclosed, hbroken⟩ := emit_marks w r desk.console
    exact ⟨hclosed.trans (Bool.or_false _).symm, hbroken⟩
  | shutdown ctx =>
    have hmarks := shutdown_marks w (ctx.isExpired now) desk.console
    show ((Desk.stage w now).shutdown ctx desk).2.console.closed = _ ∧
      ((Desk.stage w now).shutdown ctx desk).2.console.broken =
        (_ || ((Desk.stage w now).shutdown ctx desk).1.isCrash)
    rw [Desk.shutdown_eq]
    exact hmarks
  | flush ctx =>
    obtain ⟨hclosed, hbroken⟩ := flush_marks w (ctx.isExpired now) desk.console
    exact ⟨hclosed.trans (Bool.or_false _).symm, hbroken⟩
  | enabled | filters => exact ⟨(Bool.or_false _).symm, (Bool.or_false _).symm⟩

/-- After visits the marks are read off the visits and the answers. -/
theorem makeAll_marks (w : Writer ω) (visits : List Visit) (desk : Desk ω) :
    (Visit.makeAll w visits desk).2.console.closed =
        (desk.console.closed || visits.any Visit.closes) ∧
      (Visit.makeAll w visits desk).2.console.broken =
        (desk.console.broken || (Visit.makeAll w visits desk).1.any Stage.Answer.isCrash) := by
  induction visits generalizing desk with
  | nil => exact ⟨(Bool.or_false _).symm, (Bool.or_false _).symm⟩
  | cons v visits ih =>
    obtain ⟨hclosed, hbroken⟩ := v.make_marks w desk
    obtain ⟨ihclosed, ihbroken⟩ := ih (v.make w desk).2
    rw [hclosed, Bool.or_assoc] at ihclosed
    rw [hbroken, Bool.or_assoc] at ihbroken
    exact ⟨ihclosed, ihbroken⟩

/-! ## The law -/

/-- **The life of a console.** Whatever its writer does and whichever visits are made, a console is
closed by the first shutdown in time and broken by the first crash, and these marks and the context
decide what comes of the next call. -/
theorem lifecycle_law (w : Writer ω) (writer : ω) (visits : List Visit) :
    Lives w visits (Visit.makeAll w visits { console := { writer } }).1
      (Visit.makeAll w visits { console := { writer } }).2 := by
  obtain ⟨hclosed, hbroken⟩ := makeAll_marks w visits { console := { writer } }
  generalize (Visit.makeAll w visits { console := { writer } }).1 = answers at hbroken ⊢
  generalize (Visit.makeAll w visits { console := { writer } }).2 = desk at hclosed hbroken ⊢
  constructor
  case closed_iff => rw [hclosed, Bool.false_or, List.any_eq_true]
  case broken_iff => rw [hbroken, Bool.false_or, List.any_eq_true]
  case enabled => exact fun _ _ _ => rfl
  case emit_closed =>
    intro now ctx r hc
    rw [Desk.emit_eq, emit_of_closed hc]
  case emit_open =>
    intro now ctx r trouble s hc hb hprint
    rw [Desk.emit_eq, emit_of_open hc, use_of_sound hb hprint, hc]
  case emit_broken =>
    intro now ctx r hc hb
    rw [Desk.emit_eq, emit_of_open hc, use_of_broken _ hb]
    rfl
  case flush_late =>
    intro now ctx hlate
    rw [Desk.flush_eq, hlate, flush_expired]
  case flush =>
    intro now ctx trouble s hlive hb hflush
    rw [Desk.flush_eq, hlive, flush_live, use_of_sound hb hflush]
  case flush_broken =>
    intro now ctx hlive hb
    rw [Desk.flush_eq, hlive, flush_live, use_of_broken _ hb]
    rfl
  case shutdown_late =>
    intro now ctx hlate
    rw [Desk.shutdown_eq, hlate, shutdown_expired]
    rfl
  case shutdown_closed =>
    intro now ctx hlive hc
    rw [Desk.shutdown_eq, hlive, shutdown_of_closed hc, hc]
    rfl
  case shutdown_open =>
    intro now ctx trouble s hlive hc hb hflush
    have huse := use_of_sound (c := { desk.console with closed := true }) hb hflush
    rw [Desk.shutdown_eq, hlive, shutdown_of_open hc, hc, huse]
    rfl
  case shutdown_broken =>
    intro now ctx hlive hc hb
    have huse := use_of_broken (c := { desk.console with closed := true }) w.flush hb
    rw [Desk.shutdown_eq, hlive, shutdown_of_open hc, hc, huse]
    rfl

end

end LogGate.Console
