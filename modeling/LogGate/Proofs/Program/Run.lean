import LogGate.Proofs.CommandLine.Options
import LogGate.Proofs.Config.Resolve
import LogGate.Proofs.Program.Report
import LogGate.Proofs.Program.Sample

/-!
# What a run of the program prints

For a command line of options the program is determined by the configuration that they lead to
(`run_law`). With a configuration its output is the lines of the sample from the minimum up, and
once more from the raised minimum up if there is one; the two do not depend on each other, so the
minimum may also be raised to a lower one. Each line shows the time of day at which its record was
made. The program succeeds just if it is in time with shutting the console down
(`InTime`), and what it has printed does not depend on that. Without a configuration it
fails, prints nothing and reports the reason with all its causes (`Reports`). Diagnostics, and
complaints about their filter, do not go to the output, so the filter has no part in this.

Every action of the program but the last is done in a state in which the console is open, and
leaves such a state (`emit_running`), so the actions can be followed one by one (`run_bind`). The
last one closes the console, if it is not too late (`close_running`).
-/

namespace LogGate.Program

open CommandLine (Key written)
open Config (given FirstFails)

/-- The entries that the program prints: those that reach the first minimum, and then those that
reach the raised one. -/
def printed (minimum : Severity) (raiseTo : Option Severity) : List (Severity × String) :=
  Sample.reaching minimum Sample.entries ++
    (raiseTo.map fun level => Sample.reaching level Sample.entries).getD []

/-- The console is shut down in time after so many calls: the clock can show the moment five seconds
ahead, and it has not come when the console looks at the clock. -/
def InTime (now : Nat → Moment) (calls : Nat) : Prop :=
  now calls + 5 * Moment.second < Moment.limit ∧
    now (calls + 1) < now calls + 5 * Moment.second

/-- What shutting the console down comes to, after so many calls. -/
def closed (now : Nat → Moment) (calls : Nat) : Except Outcome Unit :=
  if now calls + patience < Moment.limit then
    if now calls + patience ≤ now (calls + 1) then .error (.failed .deadlineExceeded) else .ok ()
  else .error (.crashed ClockError.overflow.message)

section
variable {now : Nat → Moment} {calls : Nat} {told : List Diagnostic} {s t : State} {α β : Type}

/-! ## Actions of the program -/

/-- What follows an action that ends well goes on in the state that it left. -/
theorem run_bind {x : Action α} {f : α → Action β} {a : α} (h : x.run.run s = (.ok a, t)) :
    (x >>= f).run.run s = (f a).run.run t := by
  simp only [ExceptT.run_bind, StateT.run_bind, h]
  rfl

/-- What only changes the state and gives a value ends well. -/
theorem run_lift {action : StateM State α} {a : α} (h : action s = (a, t)) :
    (liftM action : Action α).run.run s = (.ok a, t) := by
  show (match action s with
    | (a, t) => ((Except.ok a : Except Outcome α), t)) = _
  rw [h]

/-- The program goes on behind something that was done, and ends with any other outcome. -/
theorem run_proceed {action : StateM State Outcome} {outcome : Outcome}
    (h : action s = (outcome, t)) :
    (proceed action).run.run s = (if outcome = .done then .ok () else .error outcome, t) := by
  rw [proceed, run_bind (run_lift h)]
  by_cases hdone : outcome = .done
  · rw [if_pos hdone, if_pos hdone]
    rfl
  · rw [if_neg hdone, if_neg hdone]
    rfl

/-- What the program prints of the sample. -/
theorem emit_running (now : Nat → Moment) (time : Nat → Time.Instant) (minimum : Threshold)
    (out : List UInt8) (told : List Diagnostic) (calls : Nat) :
    ∃ told', (proceed (Sample.emit (State.host now time) (gate now time) .background)).run.run
        (.running minimum out told calls) =
      (.ok (), .running minimum (out ++ Utf8.encode (Sample.linesAt time calls
          (Sample.reaching minimum.severity Sample.entries))) told'
        (calls + (Sample.reaching minimum.severity Sample.entries).length)) := by
  obtain ⟨told', h⟩ :=
    emitEntries_eq now time .background Sample.entries minimum out told calls
  exact ⟨told', run_proceed h⟩

/-- Shutting the console down prints nothing, and is refused if the deadline is over by then. -/
theorem shutdown_running (now : Nat → Moment) (time : Nat → Time.Instant) (ctx : Context)
    (minimum : Threshold) (out : List UInt8) (told : List Diagnostic) (calls : Nat) :
    ∃ s, (gate now time).stage.shutdown ctx (.running minimum out told calls) =
        (if ctx.isExpired (now (calls + 1)) then .failed .deadlineExceeded else .done, s) ∧
      s.console.writer = out := by
  show ∃ s, (Console.stage (State.host now time) output State.consoleSlot).shutdown ctx
    (.running minimum out told (calls + 1)) = _ ∧ _
  rw [Console.stage_shutdown]
  show ∃ s, State.consoleSlot.run (Console.shutdown output (ctx.isExpired (now (calls + 1))))
    (if ctx.isExpired (now (calls + 1)) || false then _ else _) = _ ∧ _
  cases ctx.isExpired (now (calls + 1)) <;> exact ⟨_, rfl, rfl⟩

/-- The last action of the program prints nothing. -/
theorem close_running (now : Nat → Moment) (time : Nat → Time.Instant) (minimum : Threshold)
    (out : List UInt8) (told : List Diagnostic) (calls : Nat) :
    ∃ s, (close (State.host now time) (gate now time)).run.run
        (.running minimum out told calls) = (closed now calls, s) ∧ s.console.writer = out := by
  have hget : (get : Action State).run.run (.running minimum out told calls) =
      (.ok (.running minimum out told calls), .running minimum out told calls) := rfl
  have hnow : (State.host now time).now (.running minimum out told calls) = now calls := rfl
  rw [close, run_bind hget, hnow, Context.withTimeout, closed]
  by_cases hclock : now calls + patience < Moment.limit
  · rw [if_pos hclock, if_pos hclock]
    obtain ⟨s, hshutdown, hwriter⟩ := shutdown_running now time
      (Context.background.withDeadline (now calls + patience)) minimum out told calls
    refine ⟨s, (run_proceed hshutdown).trans ?_, hwriter⟩
    rw [Context.isExpired_withDeadline]
    by_cases hlate : now calls + patience ≤ now (calls + 1)
    · rw [decide_eq_true hlate, if_pos hlate]
      rfl
    · rw [decide_eq_false hlate, if_neg hlate]
      rfl
  · rw [if_neg hclock, if_neg hclock]
    exact ⟨_, rfl, rfl⟩

/-- What the program prints of the sample once the minimum is raised. -/
theorem raise_running (now : Nat → Moment) (time : Nat → Time.Instant) (minimum : Threshold)
    (out : List UInt8) (told : List Diagnostic) (calls : Nat) (level : Severity) :
    ∃ told', (raise (State.host now time) (gate now time) level).run.run
        (.running minimum out told calls) =
      (.ok (), .running (.ofSeverity level) (out ++ Utf8.encode (Sample.linesAt time calls
          (Sample.reaching level Sample.entries))) told'
        (calls + (Sample.reaching level Sample.entries).length)) := by
  have hset : (modify fun s => { s with minimum := s.minimum.set level } : Action Unit).run.run
      (.running minimum out told calls) =
        (.ok (), .running (.ofSeverity level) out told calls) := rfl
  have hnote : (modify ((State.host now time).note (raised level)) : Action Unit).run.run
      (.running (.ofSeverity level) out told calls) =
        (.ok (), .running (.ofSeverity level) out (told ++ [raised level]) calls) := rfl
  obtain ⟨told', hemit⟩ :=
    emit_running now time (.ofSeverity level) out (told ++ [raised level]) calls
  rw [Threshold.severity_ofSeverity] at hemit
  refine ⟨told', ?_⟩
  rw [raise, run_bind hset, run_bind hnote, hemit]

/-- The program prints the sample once or twice, and then comes to its last action. -/
theorem perform_running (now : Nat → Moment) (time : Nat → Time.Instant) (minimum : Severity)
    (told : List Diagnostic) (raiseTo : Option Severity) :
    ∃ s, (perform now time raiseTo).run.run (start ⟨minimum⟩ told) =
        (closed now (printed minimum raiseTo).length, s) ∧
      s.console.writer = Utf8.encode (Sample.linesAt time 0 (printed minimum raiseTo)) := by
  have hstart : start ⟨minimum⟩ told =
      .running (.ofSeverity minimum) [] (told ++ [starting minimum]) 0 := rfl
  have hgate := run_lift (build_gate now time (start ⟨minimum⟩ told))
  obtain ⟨told', hemit⟩ :=
    emit_running now time (.ofSeverity minimum) [] (told ++ [starting minimum]) 0
  rw [Threshold.severity_ofSeverity, List.nil_append, Nat.zero_add] at hemit
  unfold perform
  dsimp only
  rw [run_bind hgate, hstart, run_bind hemit]
  cases raiseTo with
  | none =>
    rw [printed, Option.map_none, Option.getD_none, List.append_nil]
    exact close_running ..
  | some level =>
    obtain ⟨told'', hraise⟩ := raise_running now time (.ofSeverity minimum)
      (Utf8.encode (Sample.linesAt time 0 (Sample.reaching minimum Sample.entries))) told'
      (Sample.reaching minimum Sample.entries).length level
    rw [printed, Option.map_some, Option.getD_some, Sample.linesAt_append, Utf8.encode_append,
      Nat.zero_add, List.length_append]
    dsimp only
    rw [run_bind hraise]
    exact close_running ..

/-! ## Runs -/

/-- The program ends well just if it has shut the console down in time. -/
theorem ending_closed : (ending (closed now calls)).1 = 0 ↔ InTime now calls := by
  unfold closed InTime patience
  by_cases hclock : now calls + 5 * Moment.second < Moment.limit
  · rw [if_pos hclock]
    by_cases hlate : now calls + 5 * Moment.second ≤ now (calls + 1)
    · rw [if_pos hlate]
      have hfailed : (ending (.error (.failed .deadlineExceeded))).1 = 1 := rfl
      rw [hfailed]
      exact ⟨nofun, fun h => absurd h.2 (Nat.not_lt.2 hlate)⟩
    · rw [if_neg hlate]
      exact ⟨fun _ => ⟨hclock, Nat.not_le.1 hlate⟩, fun _ => rfl⟩
  · rw [if_neg hclock]
    have hcrashed : (ending (.error (.crashed ClockError.overflow.message))).1 = 101 := rfl
    rw [hcrashed]
    exact ⟨nofun, fun h => absurd h.1 hclock⟩

/-- How the program is invoked with options only, each one written with its value and none of them
twice. The level that counts is that of the command line, or else that of the environment. It has to
be a severity, and so has the level to raise the minimum to; a path must not be empty. -/
structure Invocation.Asks (inv : Invocation) (options : List (Key × String))
    (level raiseTo : Option Severity) : Prop where
  arguments : inv.arguments = options.map written
  once : (options.map Prod.fst).Nodup
  path : options.lookup .config ≠ some ""
  level : ((options.lookup .minSeverity).or inv.environment).map Severity.parse = level.map .ok
  raiseTo : (options.lookup .raiseTo).map Severity.parse = raiseTo.map .ok

variable {inv : Invocation} {arguments : CommandLine.Arguments} {config : Config}
variable {e : ConfigError}

/-- Without a configuration the program reports why there is none, and prints nothing. -/
theorem work_of_error (h : (Config.resolve inv.sources arguments.config arguments.configUrl
    arguments.minSeverity).finish = (.error e, told)) :
    work inv arguments =
      { exit := 1, errors := showTold inv told ++ report e.message e.causes } := by
  unfold work
  dsimp only
  rw [h]

/-- With a configuration the program prints the sample, and succeeds if it is in time. -/
theorem work_of_ok (h : (Config.resolve inv.sources arguments.config arguments.configUrl
      arguments.minSeverity).finish = (.ok config, told)) :
    (work inv arguments).output = Utf8.encode
        (Sample.linesAt inv.time 0 (printed config.minSeverity arguments.raiseTo)) ∧
      ((work inv arguments).exit = 0 ↔
        InTime inv.now (printed config.minSeverity arguments.raiseTo).length) := by
  obtain ⟨s, hperform, hwriter⟩ := perform_running inv.now inv.time config.minSeverity told
    arguments.raiseTo
  have hwork : work inv arguments = conclude inv
      (closed inv.now (printed config.minSeverity arguments.raiseTo).length) s := by
    unfold work
    dsimp only
    rw [h]
    dsimp only
    rw [hperform]
  rw [hwork, output_conclude, exit_conclude]
  exact ⟨hwriter, ending_closed⟩

/-- **What a run prints.** Invoked with options, whatever the environment, the files, the answers to
requests, the clock and the filter of diagnostics are: if there is a configuration, the program has
printed the entries of the sample that reach the minimum, and those that reach the raised one if it
was to raise it, above or below, each with its own time of day, and it succeeds just if it shuts the
console down in time. If there is none, the program fails, has printed nothing and ends with the
report of what it was about and of all its causes. -/
theorem run_law {options : List (Key × String)} {level raiseTo : Option Severity}
    (h : inv.Asks options level raiseTo) :
    match (Config.resolve inv.sources (options.lookup .config) (options.lookup .configUrl)
      level).finish.1 with
    | .ok config =>
      (run inv).output = Utf8.encode
          (Sample.linesAt inv.time 0 (printed config.minSeverity raiseTo)) ∧
        ((run inv).exit = 0 ↔ InTime inv.now (printed config.minSeverity raiseTo).length)
    | .error e => (run inv).exit = 1 ∧ (run inv).output = [] ∧
      ∃ before shown rows, (run inv).errors = before ++ shown ∧ Text.IsLines shown rows ∧
        Reports e.message e.causes rows ∧
        FirstFails inv.sources (given (options.lookup .config) (options.lookup .configUrl)) e
          (e.message :: e.causes) := by
  have hparse := CommandLine.parse_options h.once h.path h.level h.raiseTo
  rw [← h.arguments] at hparse
  have hrespond : respond inv = work inv
      ⟨level, options.lookup .config, options.lookup .configUrl, raiseTo⟩ := by
    rw [respond, hparse]
  have hexit : (run inv).exit = (respond inv).exit := rfl
  have houtput : (run inv).output = (respond inv).output := rfl
  have herrors : (run inv).errors = String.join ((Filter.warnings (inv.filter.getD "")).map
      (· ++ "\n")) ++ (respond inv).errors := rfl
  rw [hexit, houtput, herrors, hrespond]
  cases hresolve : (Config.resolve inv.sources (options.lookup .config)
    (options.lookup .configUrl) level).finish with
  | mk result told =>
    cases result with
    | ok config => exact work_of_ok hresolve
    | error e =>
      obtain ⟨rows, hreports, hlines⟩ := isLines_report e.message e.causes
      rw [work_of_error hresolve]
      exact ⟨rfl, rfl, _, _, rows, (String.append_assoc ..).symm, hlines, hreports,
        Config.resolve_eq_error.1 (congrArg Prod.fst hresolve)⟩

end

/-- The time of day so many seconds after midnight. -/
def seconds (n : Nat) : Time.Instant := (Time.Instant.of? 0 n 0).getD .epoch

/-- The program is to print what is an error at least, and then what is a warning at least. The
environment holds no level. Each call on the console takes a second. -/
def errorsThenWarnings : Invocation where
  arguments := ["--raise-to=warn", "--min-severity=error"]
  environment := some "loud"
  filter := some "trace"
  sources := ⟨fun _ => .error .missing, fun _ => .error ⟨"there is no transport", []⟩⟩
  now calls := calls * Moment.second
  time := seconds
  stamp _ := "TIME"

/-- The program is to take its configuration from where nobody listens. -/
def unanswered : Invocation where
  arguments := ["--config-url=http://localhost/"]
  sources := ⟨fun _ => .error .missing, fun _ => .error {
    text := "error sending request"
    causes := ["Connection refused"] }⟩
  now _ := 0
  time := seconds
  stamp _ := "TIME"

/-- The minimum may be raised to a lower one, and the level in the environment is not read. A
request that fails is reported with all that the transport says of it. -/
theorem run_law_twoRuns :
    (InTime errorsThenWarnings.now 3 ∧ (run errorsThenWarnings).exit = 0 ∧
      (run errorsThenWarnings).output = Utf8.encode
        ("(12:00:00AM) ERROR : Failed to persist checkpoint source=sample\n" ++
          "(12:00:01AM) WARN : Request queue above 80% source=sample\n" ++
          "(12:00:02AM) ERROR : Failed to persist checkpoint source=sample\n")) ∧
    (run unanswered).exit = 1 ∧ (run unanswered).output = [] ∧
      ∃ before shown, (run unanswered).errors = before ++ shown ∧ Text.IsLines shown
        ["Error: Failed to fetch config from http://localhost/", "", "Caused by:",
          "    0: HTTP request failed. error sending request",
          "    1: error sending request",
          "    2: Connection refused"] := by
  have herrors : errorsThenWarnings.Asks [(.raiseTo, "warn"), (.minSeverity, "error")]
      (some (.base .error)) (some (.base .warn)) := by
    constructor
    case arguments => rfl
    case once => decide
    case path => exact nofun
    case level => rfl
    case raiseTo => rfl
  have hunanswered : unanswered.Asks [(.configUrl, "http://localhost/")] none none := by
    constructor
    case arguments => rfl
    case once => decide
    case path => exact nofun
    case level => rfl
    case raiseTo => rfl
  constructor
  · have htime : InTime errorsThenWarnings.now 3 := by
      constructor <;> decide
    obtain ⟨houtput, hexit⟩ := run_law herrors
    exact ⟨htime, hexit.2 htime, houtput⟩
  · obtain ⟨hexit, houtput, before, shown, rows, herrors, hlines, hreports, -⟩ :=
      run_law hunanswered
    refine ⟨hexit, houtput, before, shown, herrors, ?_⟩
    cases hreports with
    | several => exact hlines

end LogGate.Program
