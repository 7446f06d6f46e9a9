import LogGate.Proofs.Console.Lifecycle
import LogGate.Proofs.Writer.Delivery

/-!
# What a console asks of its writer

The writer of a console is watched through any visits. Watching changes nothing that a visitor
could see (`makeAll_watched`), and the list of uses then shows what each call has asked for
(`Sees`). Emitting delivers the line of the record with its end (`emit_watched`), a flush and a
shutdown that get to the writer flush it once, and a broken console does not come to it at all. Only
a use in which the writer crashes breaks the console, so the mark is read off the uses, and from the
first such use on the list grows no more (`makeAll_unused`).

So whatever the writer does, no byte of a line is written twice or out of its order. An error of the
writer costs that record at most. A crash costs all records that follow, but the console can still
be closed (`Spent`). `integrity_law` says so of every writer and of every run of visits.
-/

namespace LogGate.Console

open Writer (Use Delivery)

section
variable {ω : Type}

/-- A console as it is without its writer being watched. -/
def unwatched (c : Console (ω × List Use)) : Console ω := { c with writer := c.writer.1 }

/-- What a call uses the writer of a console for, beside doing what it does anyway. -/
structure Sees (call : StateM (Console ω) Outcome)
    (call' : StateM (Console (ω × List Use)) Outcome) (c : Console (ω × List Use))
    (uses : List Use) : Prop where
  /-- Being watched, the writer does what it does anyway. -/
  same : call c.unwatched = ((call' c).1, (call' c).2.unwatched)
  /-- The uses are listed after those before. -/
  listed : (call' c).2.writer.2 = c.writer.2 ++ uses
  /-- The call breaks off if and only if the writer crashes. -/
  isCrash : uses.any Use.isCrash = (call' c).1.isCrash
  /-- A broken console does not use its writer. -/
  unused : c.broken = true → uses = []

namespace Desk

/-- A desk as it is without the writer of its console being watched. -/
def unwatched (desk : Desk (ω × List Use)) : Desk ω := ⟨desk.console.unwatched, desk.told⟩

/-- What the writer of the console on a desk has been used for. -/
def uses (desk : Desk (ω × List Use)) : List Use := desk.console.writer.2

end Desk

/-- A console on a desk offers its writer the line of the next record, whichever that is. -/
def Usable (w : Writer ω) (desk : Desk (ω × List Use)) : Prop :=
  ∀ now ctx r, ∃ answer uses, ((Desk.stage w.watched now).emit ctx r desk).2.uses =
    desk.uses ++ .write (Utf8.encode r.line) answer :: uses

/-- How a console does after a crash of its writer. -/
structure Spent (w : Writer ω) (desk : Desk (ω × List Use)) : Prop where
  /-- Whatever is still called for, the writer is not used again. -/
  unused : ∀ visits, (Visit.makeAll w.watched visits desk).2.uses = desk.uses
  /-- Records fail. -/
  emit_open : ∀ now ctx r, desk.console.closed = false →
    (Desk.stage w.watched now).emit ctx r desk =
      ((.failed (.other "console writer mutex poisoned"), r), desk)
  /-- When the console is closed, they are refused for that instead. -/
  emit_closed : ∀ now ctx r, desk.console.closed = true →
    (Desk.stage w.watched now).emit ctx r desk = ((.failed .closed, r), desk)
  /-- Flushes in time fail. -/
  flush : ∀ now ctx, ctx.isExpired now = false →
    (Desk.stage w.watched now).flush ctx desk =
      (.failed (.other "console writer mutex poisoned"), desk)
  /-- The first shutdown in time fails, and closes the console. -/
  shutdown : ∀ now ctx, ctx.isExpired now = false → desk.console.closed = false →
    (Desk.stage w.watched now).shutdown ctx desk =
      (.failed (.other "console writer mutex poisoned"),
        ⟨{ desk.console with closed := true }, desk.told ++ [closing]⟩)
  /-- Until then the console would process records. -/
  enabled : ∀ now ctx q,
    (Desk.stage w.watched now).enabled ctx q desk = (!desk.console.closed, desk)

/-- What a console has asked of its writer in visits, and what it asks next. -/
structure Integrity (w : Writer ω) (start : ω) (visits : List Visit)
    (answers : List Stage.Answer) (desk : Desk (ω × List Use)) : Prop where
  /-- The console answers as it does with the writer alone, and leaves it in the same state. -/
  same : Visit.makeAll w visits { console := { writer := start } } = (answers, desk.unwatched)
  /-- It is closed by a shutdown in time. -/
  closed_iff : desk.console.closed = true ↔ ∃ v ∈ visits, v.closes = true
  /-- It is broken by a crash of the writer, in whichever use. -/
  broken_iff : desk.console.broken = true ↔ ∃ use ∈ desk.uses, use.isCrash = true
  /-- Emitting leaves the record as it is, and delivers its line with an end: to a writer that may
  take the bytes in pieces, none of them twice, or stop at any of them. -/
  emit : ∀ now ctx r, ∃ outcome uses desk',
    (Desk.stage w.watched now).emit ctx r desk = ((outcome, r), desk') ∧
    desk'.uses = desk.uses ++ uses ∧ Delivery (Utf8.encode (r.line ++ "\n")) uses outcome
  /-- A console can be used as long as it is neither closed nor broken. -/
  usable : desk.console.closed = false → desk.console.broken = false → Usable w desk
  /-- An error of the writer changes neither. -/
  emit_io : ∀ now ctx r reason desk',
    (Desk.stage w.watched now).emit ctx r desk = ((.failed (.io reason), r), desk') →
    desk'.console.closed = false ∧ desk'.console.broken = false ∧ Usable w desk'
  /-- A crash is final. -/
  spent : (∃ use ∈ desk.uses, use.isCrash = true) → Spent w desk

variable {w : Writer ω} {c : Console (ω × List Use)} {uses : List Use}

/-! ## Calls on a console -/

/-- A call that does not come to the writer does not use it. -/
theorem Sees.of_failed {call : StateM (Console ω) Outcome}
    {call' : StateM (Console (ω × List Use)) Outcome} {failure : Failure}
    (h : call c.unwatched = (.failed failure, c.unwatched)) (h' : call' c = (.failed failure, c)) :
    Sees call call' c [] where
  same := by rw [h, h']
  listed := by rw [h', List.append_nil]
  isCrash := by rw [h']; rfl
  unused _ := rfl

/-- A call that comes to another one uses the writer as that does. -/
theorem Sees.of_eq {call next : StateM (Console ω) Outcome}
    {call' next' : StateM (Console (ω × List Use)) Outcome} {c' : Console (ω × List Use)}
    (h : Sees next next' c' uses) (hwriter : c'.writer = c.writer) (hbroken : c'.broken = c.broken)
    (hcall : call c.unwatched = next c'.unwatched) (hcall' : call' c = next' c') :
    Sees call call' c uses where
  same := by rw [hcall, hcall', h.same]
  listed := by rw [hcall', h.listed, hwriter]
  isCrash := by rw [hcall', h.isCrash]
  unused hb := h.unused (hbroken.trans hb)

/-- On a sound console, an action that lists its uses does so as part of a call. -/
theorem use_watched {action : ω → Option Trouble × ω}
    {action' : ω × List Use → Option Trouble × ω × List Use} (hc : c.broken = false)
    (ha : action' c.writer =
      ((action c.writer.1).1, (action c.writer.1).2, c.writer.2 ++ uses))
    (huses : uses.any Use.isCrash = (outcome (action c.writer.1).1).isCrash) :
    Sees (use action) (use action') c uses where
  same := by
    have huse : use action c.unwatched = _ := use_of_sound hc (Prod.eta (action c.writer.1)).symm
    rw [huse, use_of_sound hc ha]
    rfl
  listed := by rw [use_of_sound hc ha]
  isCrash := by rw [use_of_sound hc ha, huses]
  unused hb := absurd (hc.symm.trans hb) nofun

/-- The line of a record is not empty. -/
theorem encode_line_ne_nil (r : Record) : Utf8.encode r.line ≠ [] := by
  have hopening : Utf8.encode "(" ≠ [] := by rw [Utf8.encode_eq]; decide
  simp only [Record.line, Utf8.encode_append, List.append_assoc]
  exact List.append_ne_nil_of_left_ne_nil hopening _

/-- A record is delivered to the writer of an open and sound console, and to no other. -/
theorem emit_watched (w : Writer ω) (r : Record) (c : Console (ω × List Use)) :
    ∃ uses, Sees (emit w r) (emit w.watched r) c uses ∧
      Delivery (Utf8.encode (r.line ++ "\n")) uses (emit w.watched r c).1 ∧
      (c.closed = false → c.broken = false →
        ∃ answer uses', uses = .write (Utf8.encode r.line) answer :: uses') := by
  have hbytes : Utf8.encode (r.line ++ "\n") ≠ [] := by
    rw [Utf8.encode_append]
    exact List.append_ne_nil_of_left_ne_nil (encode_line_ne_nil r) _
  cases hc : c.closed with
  | true =>
    have hrefused : emit w.watched r c = (.failed .closed, c) := emit_of_closed hc
    refine ⟨[], .of_failed (emit_of_closed hc) hrefused, ?_, nofun⟩
    rw [hrefused]
    exact .of_failed _ hbytes
  | false =>
    have hemit : emit w r c.unwatched = use (print w r.line) c.unwatched := emit_of_open hc
    have hemit' : emit w.watched r c = use (print w.watched r.line) c := emit_of_open hc
    cases hb : c.broken with
    | true =>
      have hfailed := hemit'.trans (use_of_broken _ hb)
      refine ⟨[], .of_failed (hemit.trans (use_of_broken _ hb)) hfailed, ?_, fun _ => nofun⟩
      rw [hfailed]
      exact .of_failed _ hbytes
    | false =>
      obtain ⟨answer, uses, hprint, hdelivery⟩ :=
        print_watched w (encode_line_ne_nil r) c.writer.1 c.writer.2
      have hsees := use_watched hb hprint hdelivery.isCrash
      refine ⟨_, hsees.of_eq rfl rfl hemit hemit', ?_, fun _ _ => ⟨answer, uses, rfl⟩⟩
      rw [hemit', use_of_sound hb hprint]
      exact hdelivery

/-- The writer of a sound console is flushed when it comes to that. -/
theorem use_flush_watched (w : Writer ω) (c : Console (ω × List Use)) :
    ∃ uses, Sees (use w.flush) (use w.watched.flush) c uses := by
  cases hb : c.broken with
  | true => exact ⟨[], .of_failed (use_of_broken _ hb) (use_of_broken _ hb)⟩
  | false =>
    refine ⟨[.flush (w.flush c.writer.1).1], use_watched hb rfl ?_⟩
    cases (w.flush c.writer.1).1 with
    | none => rfl
    | some trouble => cases trouble <;> rfl

/-- A flush uses the writer unless the context has expired. -/
theorem flush_watched (w : Writer ω) (expired : Bool) (c : Console (ω × List Use)) :
    ∃ uses, Sees (flush w expired) (flush w.watched expired) c uses := by
  cases expired with
  | true => exact ⟨[], .of_failed flush_expired flush_expired⟩
  | false =>
    obtain ⟨uses, hsees⟩ := use_flush_watched w c
    exact ⟨uses, hsees.of_eq rfl rfl flush_live flush_live⟩

/-- A shutdown uses the writer if it closes the console. -/
theorem shutdown_watched (w : Writer ω) (expired : Bool) (c : Console (ω × List Use)) :
    ∃ uses, Sees (shutdown w expired) (shutdown w.watched expired) c uses := by
  cases expired with
  | true => exact ⟨[], .of_failed shutdown_expired shutdown_expired⟩
  | false =>
    cases hc : c.closed with
    | true => exact ⟨[], .of_failed (shutdown_of_closed hc) (shutdown_of_closed hc)⟩
    | false =>
      obtain ⟨uses, hsees⟩ := use_flush_watched w { c with closed := true }
      exact ⟨uses, hsees.of_eq rfl rfl (shutdown_of_open hc) (shutdown_of_open hc)⟩

/-! ## Visits -/

/-- A visit is the same on a desk with a watched writer, and lists what it uses the writer for. -/
theorem Visit.make_watched (w : Writer ω) (v : Visit) (desk : Desk (ω × List Use)) :
    v.make w desk.unwatched = ((v.make w.watched desk).1, (v.make w.watched desk).2.unwatched) ∧
      ∃ uses, (v.make w.watched desk).2.uses = desk.uses ++ uses ∧
        uses.any Use.isCrash = (v.make w.watched desk).1.isCrash ∧
        (desk.console.broken = true → uses = []) := by
  obtain ⟨now, call⟩ := v
  cases call with
  | emit ctx r =>
    obtain ⟨uses, hsees, -⟩ := emit_watched w r desk.console
    refine ⟨?_, uses, hsees.listed, hsees.isCrash, hsees.unused⟩
    show (Stage.Answer.emitted (emit w r desk.console.unwatched).1 r,
      (⟨(emit w r desk.console.unwatched).2, desk.told⟩ : Desk ω)) = _
    rw [hsees.same]
    rfl
  | shutdown ctx =>
    obtain ⟨uses, hsees⟩ := shutdown_watched w (ctx.isExpired now) desk.console
    have hmake : Visit.make w.watched ⟨now, .shutdown ctx⟩ desk =
        (.called ((Desk.stage w.watched now).shutdown ctx desk).1,
          ((Desk.stage w.watched now).shutdown ctx desk).2) := rfl
    rw [Desk.shutdown_eq] at hmake
    rw [hmake]
    refine ⟨?_, uses, hsees.listed, hsees.isCrash, hsees.unused⟩
    show (Stage.Answer.called ((Desk.stage w now).shutdown ctx desk.unwatched).1,
      ((Desk.stage w now).shutdown ctx desk.unwatched).2) = _
    rw [Desk.shutdown_eq, show desk.unwatched.console = desk.console.unwatched from rfl, hsees.same]
    rfl
  | flush ctx =>
    obtain ⟨uses, hsees⟩ := flush_watched w (ctx.isExpired now) desk.console
    refine ⟨?_, uses, hsees.listed, hsees.isCrash, hsees.unused⟩
    show (Stage.Answer.called (flush w (ctx.isExpired now) desk.console.unwatched).1,
      (⟨(flush w (ctx.isExpired now) desk.console.unwatched).2, desk.told⟩ : Desk ω)) = _
    rw [hsees.same]
    rfl
  | enabled | filters => exact ⟨rfl, [], (List.append_nil _).symm, rfl, fun _ => rfl⟩

/-- Watching changes nothing about visits. -/
theorem makeAll_watched (w : Writer ω) (visits : List Visit) (desk : Desk (ω × List Use)) :
    Visit.makeAll w visits desk.unwatched =
      ((Visit.makeAll w.watched visits desk).1,
        (Visit.makeAll w.watched visits desk).2.unwatched) := by
  induction visits generalizing desk with
  | nil => rfl
  | cons v visits ih =>
    show ((v.make w desk.unwatched).1 :: (Visit.makeAll w visits (v.make w desk.unwatched).2).1,
      (Visit.makeAll w visits (v.make w desk.unwatched).2).2) = _
    rw [(v.make_watched w desk).1, ih]
    rfl

/-- The writer crashes in those visits that break off. -/
theorem makeAll_uses (w : Writer ω) (visits : List Visit) (desk : Desk (ω × List Use)) :
    (Visit.makeAll w.watched visits desk).2.uses.any Use.isCrash =
      (desk.uses.any Use.isCrash ||
        (Visit.makeAll w.watched visits desk).1.any Stage.Answer.isCrash) := by
  induction visits generalizing desk with
  | nil => exact (Bool.or_false _).symm
  | cons v visits ih =>
    obtain ⟨-, uses, huses, hcrash, -⟩ := v.make_watched w desk
    have hrest := ih (v.make w.watched desk).2
    rw [huses, List.any_append, hcrash, Bool.or_assoc] at hrest
    exact hrest

/-- In no visit does a broken console use its writer. -/
theorem makeAll_unused (w : Writer ω) (visits : List Visit) {desk : Desk (ω × List Use)}
    (hb : desk.console.broken = true) :
    (Visit.makeAll w.watched visits desk).2.uses = desk.uses := by
  induction visits generalizing desk with
  | nil => rfl
  | cons v visits ih =>
    obtain ⟨-, uses, huses, -, hnone⟩ := v.make_watched w desk
    have hb' : (v.make w.watched desk).2.console.broken = true := by
      rw [(v.make_marks w.watched desk).2, hb, Bool.true_or]
    rw [hnone hb, List.append_nil] at huses
    exact (ih hb').trans huses

/-! ## The law -/

/-- A console that is neither closed nor broken can be used. -/
theorem Usable.of_sound {desk : Desk (ω × List Use)} (hc : desk.console.closed = false)
    (hb : desk.console.broken = false) : Usable w desk := by
  intro now ctx r
  obtain ⟨uses, hsees, -, hnext⟩ := emit_watched w r desk.console
  obtain ⟨answer, rest, rfl⟩ := hnext hc hb
  exact ⟨answer, rest, hsees.listed⟩

/-- A broken console is spent. -/
theorem Spent.of_broken {desk : Desk (ω × List Use)} (hb : desk.console.broken = true) :
    Spent w desk where
  unused visits := makeAll_unused w visits hb
  emit_open now ctx r hc := by
    rw [Desk.emit_eq, emit_of_open hc, use_of_broken _ hb]
    rfl
  emit_closed now ctx r hc := by rw [Desk.emit_eq, emit_of_closed hc]
  flush now ctx hlive := by
    rw [Desk.flush_eq, hlive, flush_live, use_of_broken _ hb]
    rfl
  shutdown now ctx hlive hc := by
    have huse := use_of_broken (c := { desk.console with closed := true }) w.watched.flush hb
    rw [Desk.shutdown_eq, hlive, shutdown_of_open hc, hc, huse]
    rfl
  enabled _ _ _ := rfl

/-- **What a console asks of its writer.** Whatever the writer does, at whichever byte of whichever
line, and whichever visits are made, each emission delivers one line with its end or a first part of
it, and after a crash of the writer the console does not come to it any more. -/
theorem integrity_law (w : Writer ω) (start : ω) (visits : List Visit) :
    Integrity w start visits
      (Visit.makeAll w.watched visits { console := { writer := (start, []) } }).1
      (Visit.makeAll w.watched visits { console := { writer := (start, []) } }).2 := by
  have hsame := makeAll_watched w visits { console := { writer := (start, []) } }
  have huses := makeAll_uses w visits { console := { writer := (start, []) } }
  obtain ⟨hclosed, hbroken⟩ :=
    makeAll_marks w.watched visits { console := { writer := (start, []) } }
  generalize (Visit.makeAll w.watched visits { console := { writer := (start, []) } }).1 = answers
    at *
  generalize (Visit.makeAll w.watched visits { console := { writer := (start, []) } }).2 = desk at *
  have hbroken_iff : desk.console.broken = true ↔ ∃ use ∈ desk.uses, use.isCrash = true := by
    rw [hbroken, ← List.any_eq_true, huses]
    rfl
  constructor
  case same => exact hsame
  case closed_iff => rw [hclosed, Bool.false_or, List.any_eq_true]
  case broken_iff => exact hbroken_iff
  case emit =>
    intro now ctx r
    obtain ⟨uses, hsees, hdelivery, -⟩ := emit_watched w r desk.console
    exact ⟨_, uses, _, Desk.emit_eq, hsees.listed, hdelivery⟩
  case usable => exact Usable.of_sound
  case emit_io =>
    intro now ctx r reason desk' hemit
    rw [Desk.emit_eq] at hemit
    obtain ⟨hanswer, rfl⟩ := Prod.mk.inj hemit
    obtain ⟨hc, hb⟩ := emit_io (Prod.mk.inj hanswer).1
    exact ⟨hc, hb, .of_sound hc hb⟩
  case spent => exact fun hcrash => .of_broken (hbroken_iff.mpr hcrash)

end

end LogGate.Console
