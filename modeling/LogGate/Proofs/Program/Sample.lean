import LogGate.Program.Basic
import LogGate.Proofs.Gate.Steps
import LogGate.Proofs.Sample.Passing
import LogGate.Proofs.Writer.Accepting

/-!
# What the program prints of the sample

The program passes the sample through a gate in front of its console, whose writer takes everything.
As long as the console is open, each entry that reaches the minimum adds a line to what is printed,
and the others add nothing (`emitEntries_eq`), so the sample is printed in its order and without the
entries below the minimum.

Two steps carry this, one for each answer of the gate (`emitEntries_of_enabled`,
`emitEntries_of_disabled`); they hold for any gate and any state. In the program the gate does not
ask the console (`build_gate`), so it answers from the minimum alone.
-/

namespace LogGate

namespace Sample

section
variable {σ : Type} {host : Host σ} {gate : Gate σ} {ctx : Context} {s t u : σ}
variable {severity : Severity} {body : String} {rest : List (Severity × String)}

/-- An entry that the gate would process is handed to it, and if that is done the others follow. -/
theorem emitEntries_of_enabled {r : Record}
    (henabled : gate.stage.enabled ctx { severity } s = (true, t))
    (hemit : gate.stage.emit ctx (record (host.time t) severity body) t = ((.done, r), u)) :
    emitEntries host gate ctx ((severity, body) :: rest) s = emitEntries host gate ctx rest u := by
  rw [emitEntries_eq_pass, emitEntries_eq_pass, pass_emit henabled hemit, if_pos rfl]

/-- Any other entry is only told of. -/
theorem emitEntries_of_disabled
    (henabled : gate.stage.enabled ctx { severity } s = (false, t)) :
    emitEntries host gate ctx ((severity, body) :: rest) s =
      emitEntries host gate ctx rest (host.note (skipping severity) t) := by
  rw [emitEntries_eq_pass, emitEntries_eq_pass, pass_skip henabled]

end

/-- The line that is printed of an entry. -/
def line (time : Time.Instant) (entry : Severity × String) : String :=
  "(" ++ time.clock ++ ") " ++ entry.1.name ++ " : " ++ entry.2 ++ " source=sample\n"

/-- The entries that reach a minimum. -/
def reaching (minimum : Severity) (entries : List (Severity × String)) :
    List (Severity × String) :=
  entries.filter fun entry => minimum ≤ entry.1

/-- The lines of entries. Each one shows the time of day after so many calls as entries are before
it, and as there have been calls before all of them. -/
def linesAt (time : Nat → Time.Instant) (calls : Nat) : List (Severity × String) → String
  | [] => ""
  | entry :: rest => line (time calls) entry ++ linesAt time (calls + 1) rest

/-- The lines of further entries come behind those of the first ones, and show later times. -/
theorem linesAt_append (time : Nat → Time.Instant) (calls : Nat)
    (first further : List (Severity × String)) : linesAt time calls (first ++ further) =
      linesAt time calls first ++ linesAt time (calls + first.length) further := by
  induction first generalizing calls with
  | nil => exact (String.empty_append).symm
  | cons entry rest ih =>
    have hcalls : calls + (rest.length + 1) = calls + 1 + rest.length := by omega
    rw [List.cons_append, linesAt, linesAt, ih, String.append_assoc, List.length_cons, hcalls]

/-- A record of the sample shows its source behind its body. -/
theorem line_record (time : Time.Instant) (severity : Severity) (body : String) :
    (record time severity body).line ++ "\n" = line time (severity, body) := by
  have hattributes : String.join ((record time severity body).attributes.entries.map
      fun entry => " " ++ entry.1 ++ "=" ++ entry.2) = " source=sample" := rfl
  show "(" ++ time.clock ++ ") " ++ severity.name ++ " : " ++ body ++
    String.join ((record time severity body).attributes.entries.map
      fun entry => " " ++ entry.1 ++ "=" ++ entry.2) ++ "\n" = _
  rw [hattributes, line, String.append_assoc]
  rfl

end Sample

namespace Program

section
variable {now : Nat → Moment} {time : Nat → Time.Instant} {minimum : Threshold} {out : List UInt8}
variable {told : List Diagnostic} {ctx : Context} {calls : Nat}

/-- The gate of the program, in front of its console. -/
def gate (now : Nat → Moment) (time : Nat → Time.Instant) : Gate State where
  downstream := State.lasting (Console.stage (State.host now time) output State.consoleSlot)
  minimum := do return (← get).minimum.severity
  consults := false

/-- The program builds its gate without a change of the state. -/
theorem build_gate (now : Nat → Moment) (time : Nat → Time.Instant) (s : State) :
    Gate.build (State.host now time)
      (some (State.lasting (Console.stage (State.host now time) output State.consoleSlot)))
      (some (do return (← get).minimum.severity)) s = (gate now time, s) := rfl

/-- The writer of the program accepts everything. -/
theorem output_accepts : output.Accepts (fun _ => True) id where
  write byte rest s _ := by
    refine ⟨trivial, .inl ⟨rest.length, rfl, ?_⟩⟩
    rw [List.take_length]
    rfl
  flush s _ := ⟨trivial, rfl⟩
  sound s message _ := nofun

/-- The state of the program while its console is open. -/
def State.running (minimum : Threshold) (out : List UInt8) (told : List Diagnostic)
    (calls : Nat) : State :=
  ⟨minimum, { writer := out }, told, calls⟩

/-- The open console of the program prints the line of a record, and time goes on. -/
theorem emit_console (r : Record) :
    (gate now time).downstream.emit ctx r (.running minimum out told calls) =
      ((.done, r),
        .running minimum (out ++ Utf8.encode (r.line ++ "\n")) told (calls + 1)) := by
  obtain ⟨-, hdone, hwritten⟩ := Console.print_accepting output_accepts r.line out trivial
  have hprint : Console.print output r.line out = (none, out ++ Utf8.encode (r.line ++ "\n")) :=
    Prod.ext hdone hwritten
  have hget : State.consoleSlot.get (.running minimum out told (calls + 1)) = { writer := out } :=
    rfl
  show (Console.stage (State.host now time) output State.consoleSlot).emit ctx r
    (.running minimum out told (calls + 1)) = _
  rw [Console.stage_emit, hget, Console.emit_of_open rfl, Console.use_of_sound rfl hprint]
  rfl

/-- What the program prints of entries. -/
theorem emitEntries_eq (now : Nat → Moment) (time : Nat → Time.Instant) (ctx : Context)
    (entries : List (Severity × String)) (minimum : Threshold) (out : List UInt8)
    (told : List Diagnostic) (calls : Nat) :
    ∃ told', Sample.emitEntries (State.host now time) (gate now time) ctx entries
        (.running minimum out told calls) =
      (.done, .running minimum
        (out ++ Utf8.encode (Sample.linesAt time calls (Sample.reaching minimum.severity entries)))
        told' (calls + (Sample.reaching minimum.severity entries).length)) := by
  induction entries generalizing out told calls with
  | nil =>
    have hnil : Utf8.encode (Sample.linesAt time calls []) = [] := Utf8.encode_eq ""
    refine ⟨told, ?_⟩
    rw [Sample.reaching, List.filter_nil, hnil, List.append_nil]
    rfl
  | cons entry rest ih =>
    obtain ⟨severity, body⟩ := entry
    have hread : (gate now time).minimum (.running minimum out told calls) =
        (minimum.severity, .running minimum out told calls) := rfl
    -- the gate answers from the minimum alone, so the same comparison decides on both calls
    by_cases h : minimum.severity ≤ severity
    · have henabled :
          (gate now time).stage.enabled ctx { severity } (.running minimum out told calls) =
            (true, .running minimum out told calls) := Gate.enabled_reached hread h
      have hrecord : minimum.severity ≤ (Sample.record (time calls) severity body).severity := h
      have hemit : (gate now time).stage.emit ctx
          (Sample.record ((State.host now time).time (.running minimum out told calls)) severity
            body) (.running minimum out told calls) =
          ((.done, Sample.record (time calls) severity body), .running minimum
            (out ++ Utf8.encode ((Sample.record (time calls) severity body).line ++ "\n")) told
            (calls + 1)) :=
        (Gate.emit_reached hread hrecord).trans (emit_console _)
      have hreaching : Sample.reaching minimum.severity ((severity, body) :: rest) =
          (severity, body) :: Sample.reaching minimum.severity rest :=
        List.filter_cons_of_pos (decide_eq_true h)
      obtain ⟨told', hrest⟩ :=
        ih (out ++ Utf8.encode (Sample.line (time calls) (severity, body))) told (calls + 1)
      refine ⟨told', ?_⟩
      rw [Sample.emitEntries_of_enabled henabled hemit, Sample.line_record, hrest, hreaching,
        Sample.linesAt, Utf8.encode_append, List.append_assoc, List.length_cons, Nat.add_assoc,
        Nat.add_comm 1]
    · have henabled :
          (gate now time).stage.enabled ctx { severity } (.running minimum out told calls) =
            (false, .running minimum out told calls) := Gate.enabled_unreached hread h
      have hreaching : Sample.reaching minimum.severity ((severity, body) :: rest) =
          Sample.reaching minimum.severity rest :=
        List.filter_cons_of_neg (by simpa using h)
      rw [Sample.emitEntries_of_disabled henabled, hreaching]
      exact ih out (told ++ [Sample.skipping severity]) calls

end

end Program

end LogGate
