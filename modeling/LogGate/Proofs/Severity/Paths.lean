import LogGate.Program.Basic
import LogGate.Proofs.CommandLine.Report
import LogGate.Proofs.Config.Document
import LogGate.Proofs.Json.Refusal
import LogGate.Proofs.Record.Fields

/-!
# The paths on which severities are read

A text is read as a severity in a document of its own, in that of a configuration or of a record, as
a threshold, and on the command line or from the environment. `Path` lists these paths, with what
comes of the text on each. `paths_agree` says that all of them do what `Severity.parse` does: they
find the same severity, or they fail with an error that contains the text of the same parse error.
A severity is written as its name, and that is read as the severity on every path.

In documents the readers of values are exact, so a severity that is found fills its place, and what
stands in other places is the same as before. A text that is refused is refused behind whatever
comes before it in the document (`Json.Refuses`), since that is valid; what comes behind it is not
looked at. On the command line, the report is what is drawn for a terminal. Shown elsewhere it is
plain, so there the text of the parse error is complete only if the level has no control characters
(`paths_agree_bell`).
-/

namespace LogGate

open Json (TextOf OptionalTextOf Spells HasMembers IsList Formed valuesOf Reader Fills Refuses
  RefusesMember RefusesRow)
open CommandLine (Key UsageError Request Gives refusal written)

section
variable {document text : String} {value : List Char} {e : Severity.ParseError}
variable {named before : List (String × List Char)} {c : Json.Complaint}

/-! ## Refused texts -/

/-- A text that is no severity is refused for what is wrong with it. -/
theorem Severity.refuses (h : TextOf value text) (he : parse text = .error e) :
    Refuses reader value (.refused e.message) :=
  (Json.exact_text "a string").refuses_refineLate h he

/-- An object is refused as a configuration for the severity in it. -/
theorem Config.refuses_hasMembers (h : HasMembers document named)
    (hvalue : valuesOf "min_severity" named = [value])
    (hrefuses : Refuses Severity.reader value c) :
    ∃ error, reader.decode document = .error error ∧ error.complaint = c := by
  refine h.refused exact_step hvalue (fun before after hnamed hempty => ?_) _ (some listReader)
  have hfilled : Filled before none none :=
    ⟨fun n hn => h.formed n (hnamed ▸ List.mem_append_left after hn), hempty ▸ .kept⟩
  exact ⟨none, fun ms hms => follows_effect_iff.mpr ⟨before, hms, hfilled⟩,
    hrefuses.once "min_severity"⟩

/-- And so is a list for its item. -/
theorem Config.refuses_isList (h : IsList document [value])
    (hrefuses : Refuses Severity.reader value c) :
    ∃ error, reader.decode document = .error error ∧ error.complaint = c := by
  have hmade : Refuses (do return Config.mk (← Severity.reader)) value c :=
    fun space rest hspace hrest => (hrefuses space rest hspace hrest).bind
  have hreader : RefusesRow true listReader [value] c :=
    hmade.item (y := fun more => if more then (do return ⟨← Severity.reader⟩) else pure default)
      (if_pos rfl) true []
  exact hreader.decode h (some objectReader)

/-- The fields of a record other than its severity fill a draft, as far as they have come. -/
theorem Record.OtherFields.exists_filled {after : List (String × List Char)} {r : Record}
    (h : OtherFields (before ++ after) r) (hseverity : valuesOf "severity" before = [])
    (hformed : ∀ n ∈ before, Formed .value n.2) :
    ∃ p, Draft.Filled before {} p ∧ p.severity = none := by
  obtain ⟨htime, hbody, heventName, hattributes⟩ := h
  have hone : ∀ {name : String} {α : Type} {accepts : List Char → α → Prop} {a : α},
      (∃ value, valuesOf name (before ++ after) = [value] ∧ accepts value a) →
        ∃ mid, Fills accepts (valuesOf name before) none mid :=
    fun h => (Json.fills_none_some_iff.mpr h).exists_front
  obtain ⟨time, htime⟩ := hone htime
  obtain ⟨body, hbody⟩ := hone hbody
  obtain ⟨attributes, hattributes⟩ := hone hattributes
  obtain ⟨field, hfield⟩ : ∃ field,
      Fills OptionalTextOf (valuesOf "event_name" (before ++ after)) none field := by
    obtain ⟨hnone, -⟩ | hsome := heventName
    · rw [hnone]
      exact ⟨none, .kept⟩
    · exact ⟨_, Json.fills_none_some_iff.mpr hsome⟩
  obtain ⟨eventName, heventName⟩ := hfield.exists_front
  exact ⟨⟨time, none, body, eventName, attributes⟩,
    ⟨hformed, htime, hseverity ▸ .kept, hbody, heventName, hattributes⟩, rfl⟩

/-- An object is refused as a record for the severity in it, if its other fields are good. -/
theorem Record.refuses_hasMembers {r : Record} (h : HasMembers document named)
    (hothers : OtherFields named r) (hvalue : valuesOf "severity" named = [value])
    (hrefuses : Refuses Severity.reader value c) :
    ∃ error, reader.decode document = .error error ∧ error.complaint = c := by
  refine h.refused Draft.exact_step hvalue (fun before after hnamed hempty => ?_) Draft.finish
    (some listReader)
  rw [hnamed] at hothers
  obtain ⟨p, hfilled, hseverity⟩ := hothers.exists_filled hempty fun n hn =>
    h.formed n (hnamed ▸ List.mem_append_left after hn)
  have honce : RefusesMember (Reader.once "severity" p.severity Severity.reader) value c :=
    hseverity ▸ hrefuses.once "severity"
  exact ⟨p, fun ms hms => Draft.follows_effect_iff.mpr ⟨before, hms, hfilled⟩, honce.bind⟩

/-- And so is a list, if the time in front of the severity is good. -/
theorem Record.refuses_isList {time : List Char} {vs : List (List Char)} {t : Time.Instant}
    (h : IsList document (time :: value :: vs)) (htime : TimeOf time t)
    (hrefuses : Refuses Severity.reader value c) :
    ∃ error, reader.decode document = .error error ∧ error.complaint = c := by
  have hitem : RefusesRow false (item 1 Severity.reader) (value :: vs) c :=
    hrefuses.item (y := fun more => if more then Severity.reader else Reader.complain _)
      (if_pos rfl) false vs
  have hreader : RefusesRow true listReader (time :: value :: vs) c :=
    (exact_item Time.Instant.exact_reader 0).refusesRow htime hitem.bind
  exact hreader.decode h (some _)

end

/-! ## Refused command lines -/

/-- Without a filter there is nothing to warn of. -/
theorem Filter.warnings_empty : Filter.warnings "" = [] := by
  have hsplit : "".splitOn "," = [""] := by
    rw [String.splitOn, if_neg (by decide), String.splitOnAux]
    decide +kernel
  rw [warnings, parts, hsplit]
  decide +kernel

/-- A command line that is not understood ends the program with its report, which is shown plain. -/
theorem Program.run_of_error {inv : Invocation} {e : UsageError}
    (h : CommandLine.parse inv.environment inv.arguments = .error e) :
    run inv = {
      exit := 2
      errors := String.join ((Filter.warnings (inv.filter.getD "")).map (· ++ "\n")) ++
        Text.plain e.report } := by
  have hrespond : respond inv = { exit := 2, errors := Text.plain e.report } := by
    rw [respond, h]
  rw [run, hrespond]

/-! ## Paths -/

/-- The severity in a document as it is found by a reader, or the text of its error. -/
def severityIn {α : Type} (x : Reader α) (severity : α → Severity) (document : String) :
    Except String (Option Severity) :=
  ((x.decode document).mapError Json.Error.message).map fun a => some (severity a)

/-- The level that is asked for with a command line. -/
def CommandLine.Request.level : Request → Option Severity
  | .version => none
  | .run arguments => arguments.minSeverity

namespace Severity

/-- The paths on which a text is read as a severity, with what comes of it: a severity, or the text
of an error. -/
inductive Path (t : String) : Except String (Option Severity) → Prop where
  /-- A document that is the text. -/
  | text {document : String} {value : List Char} (h : Spells document value) (ht : TextOf value t) :
    Path t (severityIn reader id document)
  /-- The configuration with the text as its one minimum, among other members. -/
  | config {document : String} {named : List (String × List Char)} {value : List Char}
    (h : HasMembers document named) (hvalue : valuesOf "min_severity" named = [value])
    (ht : TextOf value t) : Path t (severityIn Config.reader Config.minSeverity document)
  | configList {document : String} {value : List Char} (h : IsList document [value])
    (ht : TextOf value t) : Path t (severityIn Config.reader Config.minSeverity document)
  /-- A record with the text as its one severity and with good fields otherwise, among other
  members. -/
  | record {document : String} {named : List (String × List Char)} {value : List Char} {r : Record}
    (h : HasMembers document named) (hothers : Record.OtherFields named r)
    (hvalue : valuesOf "severity" named = [value]) (ht : TextOf value t) :
    Path t (severityIn Record.reader Record.severity document)
  | recordList {document : String} {time value body eventName attributes : List Char} {r : Record}
    (h : IsList document [time, value, body, eventName, attributes]) (htime : TimeOf time r.time)
    (hbody : TextOf body r.body) (heventName : OptionalTextOf eventName r.eventName)
    (hattributes : AttributesOf attributes r.attributes) (ht : TextOf value t) :
    Path t (severityIn Record.reader Record.severity document)
  | threshold :
    Path t (((Threshold.parse t).mapError ParseError.message).map fun x => some x.severity)
  /-- A command line of good options otherwise, with the text as the level or without a level and
  with the text in the environment. -/
  | commandLine {environment : Option String} {options : List (Key × String)}
    {raise : Option Severity} (h : Gives environment options raise t) :
    Path t (((CommandLine.parse environment (options.map written)).mapError
      UsageError.report).map Request.level)

/-- What comes of a text on a path is its severity, or an error that says what is wrong with it. -/
structure Agrees (t : String) (found : Except String (Option Severity)) : Prop where
  ok : ∀ {s}, parse t = .ok s → found = .ok (some s)
  error : ∀ {e}, parse t = .error e →
    ∃ text, found = .error text ∧ e.message.toList <:+: text.toList

section
variable {t document : String} {found : Except String (Option Severity)}

/-- A document in which the severity is found, or refused for what is wrong with it, agrees. -/
theorem agrees_severityIn {α : Type} {x : Reader α} {severity : α → Severity}
    (hok : ∀ {s}, parse t = .ok s → ∃ a, x.decode document = .ok a ∧ severity a = s)
    (herror : ∀ {e}, parse t = .error e →
      ∃ error, x.decode document = .error error ∧ error.complaint = .refused e.message) :
    Agrees t (severityIn x severity document) where
  ok {s} h := by
    obtain ⟨a, hdecode, rfl⟩ := hok h
    rw [severityIn, hdecode]
    rfl
  error {e} h := by
    obtain ⟨error, hdecode, hcomplaint⟩ := herror h
    refine ⟨error.message, ?_, ?_⟩
    · rw [severityIn, hdecode]
      rfl
    · have hcontains := error.complaint_infix_message
      rwa [hcomplaint] at hcontains

/-- On every path comes of a text what is read in it. -/
theorem Path.agrees (h : Path t found) : Agrees t found := by
  cases h with
  | text h ht =>
    refine agrees_severityIn (fun hs => ?_) fun he => (Severity.refuses ht he).decode h
    exact ⟨_, (h.decode_iff exact_reader).mpr ⟨t, ht, hs⟩, rfl⟩
  | config h hvalue ht =>
    refine agrees_severityIn (fun {s} hs => ?_) fun he =>
      Config.refuses_hasMembers h hvalue (Severity.refuses ht he)
    refine ⟨⟨s⟩, (h.decode_iff Config.exact_reader).mpr ?_, rfl⟩
    rw [hvalue]
    exact .severity ⟨t, ht, hs⟩
  | configList h ht =>
    refine agrees_severityIn (fun {s} hs => ?_) fun he =>
      Config.refuses_isList h (Severity.refuses ht he)
    exact ⟨⟨s⟩, (h.decode_iff Config.exact_reader).mpr (.severity ⟨t, ht, hs⟩), rfl⟩
  | @record _ named value r h hothers hvalue ht =>
    refine agrees_severityIn (fun {s} hs => ?_) fun he =>
      Record.refuses_hasMembers h hothers hvalue (Severity.refuses ht he)
    have hfields : Record.Fields named { r with severity := s } :=
      ⟨⟨hothers.time, hothers.body, hothers.eventName, hothers.attributes⟩,
        value, hvalue, t, ht, hs⟩
    exact ⟨_, (h.decode_iff Record.exact_reader).mpr hfields, rfl⟩
  | @recordList _ _ _ _ _ _ r h htime hbody heventName hattributes ht =>
    refine agrees_severityIn (fun {s} hs => ?_) fun he =>
      Record.refuses_isList h htime (Severity.refuses ht he)
    have hitems : Record.Items _ { r with severity := s } :=
      .mk htime ⟨t, ht, hs⟩ hbody heventName hattributes
    exact ⟨_, (h.decode_iff Record.exact_reader).mpr hitems, rfl⟩
  | threshold =>
    constructor
    · intro s hs
      rw [Threshold.parse, hs]
      exact congrArg (Except.ok ∘ some) (Threshold.severity_ofSeverity s)
    · intro e he
      rw [Threshold.parse, he]
      exact ⟨e.message, rfl, List.infix_rfl⟩
  | commandLine h =>
    constructor
    · intro s hs
      rw [h.parse_eq, hs]
      rfl
    · intro e he
      rw [h.parse_eq, he]
      exact ⟨_, rfl, CommandLine.message_infix_report ..⟩

end

/-! ## The law -/

/-- **All paths agree.** On every path a text is read as the severity that it is, or it is refused
with an error that contains the text of the same parse error, and that quotes it as it is unless its
offset leads off the scale. A level that is refused ends the program, and its report is shown plain:
if the level has no control characters, it is complete, and the text of the parse error ends its
first line unless the level itself has a line feed. A severity is written as its name, which is read
as the severity on every path. -/
theorem paths_agree :
    (∀ t found, Path t found → Agrees t found) ∧
    (∀ t e, parse t = .error e →
      e.message = "Unknown severity name \"" ++ t ++ "\"" ∨
      e.message = "Invalid severity offset in \"" ++ t ++ "\"" ∨
      ∃ n : Int, ofValue? n = none ∧
        e.message = "Severity value " ++ Int.repr n ++ " is outside the range 1..=24") ∧
    (∀ (inv : Program.Invocation) options raise t e, inv.arguments = options.map written →
      Gives inv.environment options raise t → parse t = .error e →
      Program.run inv = {
        exit := 2
        errors := String.join ((Filter.warnings (inv.filter.getD "")).map (· ++ "\n")) ++
          Text.plain (UsageError.invalidValue .minSeverity t e).report }) ∧
    (∀ t e, parse t = .error e → (∀ c ∈ t.toList, Text.isControl c = false) →
      Text.plain (UsageError.invalidValue .minSeverity t e).report =
        refusal .minSeverity t e ++ "\n\nFor more information, try '--help'.\n" ∧
      ((∀ c ∈ t.toList, c ≠ '\n') → ∀ c ∈ (refusal .minSeverity t e).toList, c ≠ '\n')) ∧
    ∀ s : Severity, s.write = "\"" ++ s.name ++ "\"" ∧ TextOf s.write.toList s.name ∧
      reader.decode s.write = .ok s ∧ ∀ found, Path s.name found → found = .ok (some s) := by
  refine ⟨fun _ _ h => h.agrees, ?_, ?_, ?_, ?_⟩
  · intro t e h
    obtain rfl | rfl | ⟨n, hn, rfl⟩ := parse_eq_error h
    · exact .inl rfl
    · exact .inr (.inl rfl)
    · exact .inr (.inr ⟨n, hn, rfl⟩)
  · intro inv options raise t e harguments hgives h
    refine Program.run_of_error ?_
    rw [harguments, hgives.parse_eq, h]
  · intro t e h htext
    exact ⟨CommandLine.plain_report htext h, fun hline =>
      CommandLine.ne_newline_of_mem_refusal hline h⟩
  · intro s
    have hwrite : s.write = "\"" ++ s.name ++ "\"" := by
      obtain ⟨family, step⟩ := s
      revert step
      cases family <;> decide
    have htext : TextOf s.write.toList s.name := Json.textOf_write s.name
    have hspells : Spells s.write s.write.toList := Json.spells_self htext.formed
    refine ⟨hwrite, htext, (hspells.decode_iff exact_reader).mpr ⟨_, htext, s.parse_name⟩, ?_⟩
    exact fun found h => h.agrees.ok s.parse_name

/-- The program is asked for a level that is none, behind a good one to raise the minimum to. -/
def loud : Program.Invocation where
  arguments := ["--raise-to=warn", "--min-severity=loud "]
  filter := none
  sources := ⟨fun _ => .error .missing, fun _ => .error ⟨"there is no transport", []⟩⟩
  now _ := 0
  time _ := .epoch
  stamp _ := "TIME"

/-- Escapes and white space are read on the path of a document as elsewhere, and the first line of a
report quotes white space. -/
theorem paths_agree_padded :
    severityIn reader id " \"\\u0020Info3 \"" = .ok (some ⟨.info, 2⟩) ∧
    (Program.run loud).errors =
      "error: invalid value 'loud ' for '--min-severity <MIN_SEVERITY>': " ++
        "Unknown severity name \"loud \"\n\nFor more information, try '--help'.\n" := by
  constructor
  · have hdecode : (Reader.text "a string").decode " \"\\u0020Info3 \"" = .ok " Info3 " := by
      decide +kernel
    obtain ⟨value, hspells, hvalue⟩ := (Json.exact_text _).decode_iff.mp hdecode
    exact (paths_agree.1 _ _ (.text hspells hvalue)).ok (by decide)
  · have hgives : Gives none [(.raiseTo, "warn"), (.minSeverity, "loud ")] (some (.base .warn))
        "loud " := by
      constructor
      case once => decide
      case path => exact nofun
      case level => rfl
      case raiseTo => rfl
    have hparse : parse "loud " = .error (.unknownName "loud ") := by decide
    have hrun := paths_agree.2.2.1 loud _ _ _ _ rfl hgives hparse
    have hreport := (paths_agree.2.2.2.1 "loud " _ hparse
      (Text.isControl_of_all (by decide))).1
    rw [hreport] at hrun
    rw [hrun, show Filter.warnings (loud.filter.getD "") = [] from Filter.warnings_empty]
    decide +kernel

/-- The program is asked for a level with a control character in it, the bell. -/
def loudBell : Program.Invocation := { loud with arguments := ["--min-severity=loud\x07"] }

/-- The first line of the report of a level does not contain the text of the parse error if the
level has a control character. -/
theorem paths_agree_bell :
    parse "loud\x07" = .error (.unknownName "loud\x07") ∧
    (Program.run loudBell).errors =
      "error: invalid value 'loud' for '--min-severity <MIN_SEVERITY>': " ++
        "Unknown severity name \"loud\"\n\nFor more information, try '--help'.\n" ∧
    ¬ (ParseError.unknownName "loud\x07").message.toList <:+:
      ((Program.run loudBell).errors.toList.takeWhile (· ≠ '\n')) := by
  have hparse : CommandLine.parse none ["--min-severity=loud\x07"] =
      .error (.invalidValue .minSeverity "loud\x07" (.unknownName "loud\x07")) := by decide +kernel
  have herrors : (Program.run loudBell).errors =
      "error: invalid value 'loud' for '--min-severity <MIN_SEVERITY>': " ++
        "Unknown severity name \"loud\"\n\nFor more information, try '--help'.\n" := by
    rw [Program.run_of_error hparse, show Filter.warnings (loudBell.filter.getD "") = [] from
      Filter.warnings_empty]
    decide +kernel
  refine ⟨by decide, herrors, fun hcontains => ?_⟩
  have hbell : '\x07' ∈ (ParseError.unknownName "loud\x07").message.toList := by decide
  have hmem := List.takeWhile_subset _ (hcontains.subset hbell)
  rw [herrors] at hmem
  exact absurd hmem (by decide +kernel)

end Severity

end LogGate
