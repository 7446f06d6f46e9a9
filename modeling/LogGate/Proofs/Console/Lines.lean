import LogGate.Proofs.Bench.View
import LogGate.Proofs.Console.Lifecycle
import LogGate.Proofs.Text.Decimal
import LogGate.Proofs.Text.Lines

/-!
# The lines of a console

A console puts a line feed behind the line of a record, and does nothing about the line feeds that
the record brings along in its body, its keys and its values. Those are all there are in the line of
a record (`Record.feeds_line`), since neither the clock nor the name of a severity has any.

So a console prints for each record the lines that its line falls into (`makeAll_lines`). They are
as many as there are records if and only if no record has a line feed, and only then is each line
that of a record (`lines_law`). A record that has one prints lines that it is not, and they may look
like those of another record: what two records print, one can print alone (`lines_forged`).
-/

namespace LogGate

open Text (IsLines feeds_append feeds_eq_zero_iff feeds_join)

namespace Record

/-- The line feeds in the body, the keys and the values of a record. -/
def feeds (r : Record) : Nat :=
  Text.feeds r.body +
    (r.attributes.entries.map fun entry => Text.feeds entry.1 + Text.feeds entry.2).sum

/-- The lines that a record takes up on a console. -/
def lines (r : Record) : List String := Text.lines r.line

/-! ## Line feeds of a record -/

/-- A number is written without line feeds. -/
theorem feeds_padded (width n : Nat) : Text.feeds (Text.padded width n) = 0 := by
  refine feeds_eq_zero_iff.2 fun hfeed => ?_
  exact absurd ((Text.numeral_padded width n).isDigit '\n' hfeed) (by decide)

/-- A clock has no line feeds. -/
theorem feeds_clock (t : Time.Instant) : Text.feeds t.clock = 0 := by
  have hmark : Text.feeds (if t.hour < 12 then "AM" else "PM") = 0 := by split <;> rfl
  simp only [Time.Instant.clock, feeds_append, feeds_padded, hmark]
  rfl

/-- The names of severities have none. -/
theorem feeds_name (s : Severity) : Text.feeds s.name = 0 := by
  obtain ⟨family, step⟩ := s
  revert step
  cases family <;> decide

/-- The line of a record has the line feeds of the record. -/
theorem feeds_line (r : Record) : Text.feeds r.line = r.feeds := by
  have hentry : Text.feeds ∘ (fun entry : String × String => " " ++ entry.1 ++ "=" ++ entry.2) =
      fun entry => Text.feeds entry.1 + Text.feeds entry.2 := by
    funext entry
    simp [show Text.feeds " " = 0 from rfl, show Text.feeds "=" = 0 from rfl]
  show Text.feeds ("(" ++ r.time.clock ++ ") " ++ r.severity.name ++ " : " ++ r.body ++
    String.join (r.attributes.entries.map fun entry => " " ++ entry.1 ++ "=" ++ entry.2)) = _
  simp only [feeds_append, feeds_clock, feeds_name, feeds_join, List.map_map, hentry, feeds]
  show 0 + 0 + 0 + 0 + 0 + _ + _ = _
  omega

/-- A record takes up one line, and one more for each of its line feeds. -/
theorem length_lines (r : Record) : r.lines.length = r.feeds + 1 := by
  rw [lines, Text.length_lines, feeds_line]

/-- A record without line feeds takes up its line. -/
theorem lines_of_feeds {r : Record} (h : r.feeds = 0) : r.lines = [r.line] :=
  Text.lines_of_feeds (r.feeds_line.trans h)

end Record

/-- The record that was emitted, if the stage is done with it. -/
def Stage.Answer.done? : Answer → Option Record
  | emitted .done r => some r
  | _ => none

namespace Console

/-- The text of records on a console, one behind the other. -/
def textOf (records : List Record) : String := String.join (records.map fun r => r.line ++ "\n")

section
variable {ω : Type} {w : Writer ω} {good : ω → Prop} {text : ω → List UInt8} {start : ω}

/-! ## Lines of records -/

/-- The text of records is made of the lines that each of them takes up. -/
theorem isLines_textOf (records : List Record) :
    IsLines (textOf records) (records.flatMap Record.lines) := by
  induction records with
  | nil => exact Text.isLines_nil
  | cons r records ih =>
    rw [textOf, List.map_cons, String.join_cons, List.flatMap_cons]
    exact (Text.isLines_lines r.line).append ih

/-- Records take up a line each, and one more for each of their line feeds. -/
theorem length_flatMap_lines (records : List Record) :
    (records.flatMap Record.lines).length = records.length + (records.map Record.feeds).sum := by
  induction records with
  | nil => rfl
  | cons r records ih =>
    rw [List.flatMap_cons, List.length_append, ih, r.length_lines, List.length_cons, List.map_cons,
      List.sum_cons]
    omega

/-- Records without line feeds take up their lines. -/
theorem flatMap_lines_of_feeds {records : List Record} (h : ∀ r ∈ records, r.feeds = 0) :
    records.flatMap Record.lines = records.map Record.line := by
  induction records with
  | nil => rfl
  | cons r records ih =>
    obtain ⟨hr, hrest⟩ := List.forall_mem_cons.1 h
    rw [List.flatMap_cons, Record.lines_of_feeds hr, ih hrest]
    rfl

/-- The bytes of records are those of each of them. -/
theorem encode_textOf (records : List Record) :
    Utf8.encode (textOf records) = records.flatMap fun r => Utf8.encode (r.line ++ "\n") := by
  induction records with
  | nil => exact Utf8.encode_eq ""
  | cons r records ih =>
    rw [textOf, List.map_cons, String.join_cons, Utf8.encode_append, List.flatMap_cons, ← ih]
    rfl

/-! ## Visits -/

/-- A visit prints the line of the record that the console is done with, if there is one. -/
theorem Visit.make_lines (hw : w.Accepts good text) (v : Visit) {desk : Desk ω}
    (hdesk : desk.console.IsGood good) :
    (v.make w desk).2.console.IsGood good ∧
      text (v.make w desk).2.console.writer = text desk.console.writer ++
        (v.make w desk).1.done?.toList.flatMap fun r => Utf8.encode (r.line ++ "\n") := by
  obtain ⟨now, call⟩ := v
  cases call with
  | emit ctx r =>
    obtain ⟨hgood, -, htext⟩ := emit_accepting hw hdesk r
    have hanswer := emit_accepting_answer hw hdesk r
    refine ⟨hgood, htext.trans (congrArg (text desk.console.writer ++ ·) ?_)⟩
    show _ = (Stage.Answer.emitted (emit w r desk.console).1 r).done?.toList.flatMap _
    rw [hanswer]
    cases desk.console.closed with
    | true => rfl
    | false => exact (List.append_nil _).symm
  | flush ctx =>
    obtain ⟨hgood, -, htext⟩ := flush_accepting hw hdesk (ctx.isExpired now)
    exact ⟨hgood, htext.trans (List.append_nil _).symm⟩
  | shutdown ctx =>
    have hshutdown := shutdown_accepting hw hdesk (ctx.isExpired now)
    show ((Desk.stage w now).shutdown ctx desk).2.console.IsGood good ∧
      text ((Desk.stage w now).shutdown ctx desk).2.console.writer = _ ++ []
    rw [Desk.shutdown_eq, List.append_nil]
    exact ⟨hshutdown.1, hshutdown.2.2⟩
  | enabled | filters => exact ⟨hdesk, (List.append_nil _).symm⟩

/-- Visits print the lines of the records that the console is done with, in order. -/
theorem makeAll_lines (hw : w.Accepts good text) (visits : List Visit) {desk : Desk ω}
    (hdesk : desk.console.IsGood good) :
    text (Visit.makeAll w visits desk).2.console.writer = text desk.console.writer ++
      ((Visit.makeAll w visits desk).1.filterMap Stage.Answer.done?).flatMap
        fun r => Utf8.encode (r.line ++ "\n") := by
  induction visits generalizing desk with
  | nil => exact (List.append_nil _).symm
  | cons v visits ih =>
    obtain ⟨hgood, htext⟩ := v.make_lines hw hdesk
    show text (Visit.makeAll w visits (v.make w desk).2).2.console.writer =
      _ ++ (((v.make w desk).1 ::
        (Visit.makeAll w visits (v.make w desk).2).1).filterMap Stage.Answer.done?).flatMap _
    rw [ih hgood, htext, List.append_assoc, List.filterMap_cons]
    cases (v.make w desk).1.done? with
    | none => rfl
    | some r => rw [Option.toList_some, List.flatMap_singleton, List.flatMap_cons]

/-- A console that is open is done with all records that it is handed. -/
theorem makeAll_emits (hw : w.Accepts good text) (now : Moment) (ctx : Context)
    (records : List Record) {desk : Desk ω} (hdesk : desk.console.IsGood good)
    (hopen : desk.console.closed = false) :
    (Visit.makeAll w (records.map fun r => ⟨now, .emit ctx r⟩) desk).1.filterMap
      Stage.Answer.done? = records := by
  induction records generalizing desk with
  | nil => rfl
  | cons r records ih =>
    obtain ⟨hgood, hclosed, -⟩ := emit_accepting hw hdesk r
    have hanswer := emit_accepting_answer hw hdesk r
    rw [hopen, if_neg Bool.false_ne_true] at hanswer
    show (Stage.Answer.emitted (emit w r desk.console).1 r :: (Visit.makeAll w _
      { desk with console := (emit w r desk.console).2 }).1).filterMap Stage.Answer.done? = _
    rw [hanswer, List.filterMap_cons, ih hgood (hclosed.trans hopen)]
    rfl

/-! ## The law -/

/-- **The lines of a console.** On a writer that accepts everything, the records that a console is
done with take up the lines that each of them has, in order, and no others. Each of them takes up
one line, which is its own, if and only if none has a line feed in its body, its keys or its
values. -/
theorem lines_law (hw : w.Accepts good text) (hstart : good start) (visits : List Visit) :
    let run := Visit.makeAll w visits { console := { writer := start } }
    let records := run.1.filterMap Stage.Answer.done?
    ∃ printed, text run.2.console.writer = text start ++ Utf8.encode printed ∧
      (∀ rows, IsLines printed rows ↔ rows = records.flatMap Record.lines) ∧
      (records.flatMap Record.lines).length =
        records.length + (records.map Record.feeds).sum ∧
      (IsLines printed (records.map Record.line) ↔ ∀ r ∈ records, r.feeds = 0) := by
  intro run records
  have hlines := isLines_textOf records
  refine ⟨textOf records, ?_, fun rows => ⟨fun hrows => hrows.unique hlines, ?_⟩,
    length_flatMap_lines records, ?_, ?_⟩
  · rw [encode_textOf]
    exact makeAll_lines hw visits ⟨hstart, rfl⟩
  · rintro rfl
    exact hlines
  · intro h r hr
    exact r.feeds_line.symm.trans (h.whole _ (List.mem_map_of_mem hr))
  · intro h
    rw [← flatMap_lines_of_feeds h]
    exact hlines

end

/-- A record that is nothing much but its body. -/
def ofBody (body : String) : Record := ⟨.epoch, .base .info, body, none, ∅⟩

/-- The visits that emit such records at the start of the clock. -/
def emitBodies (bodies : List String) : List Visit :=
  (bodies.map ofBody).map fun r => ⟨0, .emit .background r⟩

/-- The answers to visits to a console on a roll of paper without an end, and the roll then. -/
def onRoll (visits : List Visit) : List Stage.Answer × Bench.Roll :=
  let run := Visit.makeAll Bench.Roll.writer visits { console := { writer := { name := "out" } } }
  (run.1, run.2.console.writer)

/-- A record of two lines and one of one line take up three. -/
theorem lines_law_twoRecords :
    ∃ printed, (onRoll (emitBodies ["a\nb", "c"])).2.printed = Utf8.encode printed ∧
      IsLines printed ["(12:00:00AM) INFO : a", "b", "(12:00:00AM) INFO : c"] ∧
      ¬ IsLines printed ["(12:00:00AM) INFO : a\nb", "(12:00:00AM) INFO : c"] := by
  have hstart : ({ name := "out" } : Bench.Roll).room = none := rfl
  obtain ⟨printed, hprinted, hrows, -, hown⟩ :=
    lines_law Bench.Roll.accepts hstart (emitBodies ["a\nb", "c"])
  rw [emitBodies, makeAll_emits Bench.Roll.accepts 0 .background _ ⟨rfl, rfl⟩ rfl] at hrows hown
  exact ⟨printed, hprinted, (hrows _).2 (by decide), fun h => absurd (hown.1 h) (by decide)⟩

/-- **Two lines of one record.** A console is done with one record, whose body has a line feed. The
text that it has printed has two lines, neither of which is that of the record, and it is the text
that it prints of two records. -/
theorem lines_forged :
    (onRoll (emitBodies ["a\n(12:00:00AM) INFO : b"])).1.filterMap Stage.Answer.done? =
      [ofBody "a\n(12:00:00AM) INFO : b"] ∧
    (onRoll (emitBodies ["a\n(12:00:00AM) INFO : b"])).2.printed =
      Utf8.encode "(12:00:00AM) INFO : a\n(12:00:00AM) INFO : b\n" ∧
    (onRoll (emitBodies ["a", "b"])).2.printed =
      Utf8.encode "(12:00:00AM) INFO : a\n(12:00:00AM) INFO : b\n" ∧
    ∀ rows, IsLines "(12:00:00AM) INFO : a\n(12:00:00AM) INFO : b\n" rows ↔
      rows = ["(12:00:00AM) INFO : a", "(12:00:00AM) INFO : b"] := by
  have hdone : ∀ bodies, (onRoll (emitBodies bodies)).1.filterMap Stage.Answer.done? =
      bodies.map ofBody :=
    fun bodies => makeAll_emits Bench.Roll.accepts 0 .background _ ⟨rfl, rfl⟩ rfl
  have hprinted : ∀ bodies, (onRoll (emitBodies bodies)).2.printed =
      Utf8.encode (textOf (bodies.map ofBody)) := by
    intro bodies
    rw [encode_textOf, ← hdone bodies]
    exact makeAll_lines Bench.Roll.accepts (emitBodies bodies) ⟨rfl, rfl⟩
  have hrows : IsLines "(12:00:00AM) INFO : a\n(12:00:00AM) INFO : b\n"
      ["(12:00:00AM) INFO : a", "(12:00:00AM) INFO : b"] := ⟨by decide, by decide⟩
  refine ⟨hdone _, (hprinted _).trans (congrArg _ (by decide)),
    (hprinted _).trans (congrArg _ (by decide)), fun rows => ⟨fun h => h.unique hrows, ?_⟩⟩
  rintro rfl
  exact hrows

end Console

end LogGate
