import LogGate.CommandLine.Parse
import LogGate.Proofs.Text.Split

/-!
# Command lines of options

A command line may consist of options only, each one written with its value behind `=` and none of
them twice. If the levels on it are severities and the path is not empty, it is read as what the
options say, in whatever order they stand (`parse_options`). The level comes from the environment if
it is not on the command line, and otherwise the environment is not looked at.

`Arguments.Says` is what arguments have to be for one option, whether that is given or not. An
option that has not been given before makes them right for itself and leaves them right for all
others (`give_settles`), so reading options keeps the arguments right for all that have been read,
and `parseFrom_options` follows by induction over those that are left.
-/

namespace LogGate.CommandLine

/-- An option with its value, as it is written on the command line. -/
def written (option : Key × String) : String := "--" ++ option.1.name ++ "=" ++ option.2

/-- Arguments have for an option what its value says, or nothing if it is not given. -/
def Arguments.Says (a : Arguments) : Key → Option String → Prop
  | .minSeverity, value => value.map Severity.parse = a.minSeverity.map .ok
  | .config, value => value = a.config
  | .configUrl, value => value = a.configUrl
  | .raiseTo, value => value.map Severity.parse = a.raiseTo.map .ok

section
variable {key : Key} {value : String} {a last : Arguments} {options before : List (Key × String)}

/-! ## Single options -/

/-- An option is found under its name. -/
theorem Key.ofName?_name (key : Key) : ofName? key.name = some key := by cases key <;> rfl

/-- The name of an option has no `=` in it. -/
theorem Key.ne_of_mem_name (key : Key) : ∀ c ∈ key.name.toList, decide (c ≠ '=') = true := by
  have hall : key.name.toList.all (fun c => decide (c ≠ '=')) = true := by cases key <;> rfl
  exact List.all_eq_true.mp hall

/-- An option that is written with a value looks like one. -/
theorem shape_written (key : Key) (value : String) :
    shape (written (key, value)) = .long key.name (some value) := by
  have hlist : (written (key, value)).toList =
      '-' :: '-' :: (key.name.toList ++ '=' :: value.toList) := by
    simp [written]
  have hstops : Text.Stops (fun c => decide (c ≠ '=')) ('=' :: value.toList) := by simp
  have htake := Text.takeWhile_append key.ne_of_mem_name hstops
  have hdrop := Text.dropWhile_append key.ne_of_mem_name hstops
  obtain ⟨c, cs, hname⟩ : ∃ c cs, key.name.toList = c :: cs := by
    cases key <;> exact ⟨_, _, rfl⟩
  unfold shape
  rw [hlist]
  split
  · next h => simp [hname] at h
  · next h =>
    cases h
    rw [htake, hdrop]
    dsimp only
    rw [String.ofList_toList, String.ofList_toList]
  · next hlong h =>
    cases h
    exact (hlong rfl).elim
  · next hlong _ => exact (hlong _ rfl).elim

/-- An option of which arguments have nothing has not been given. -/
theorem Arguments.Says.has_eq_false (h : a.Says key none) : a.has key = false := by
  obtain ⟨minSeverity, config, configUrl, raiseTo⟩ := a
  cases key with
  | minSeverity => cases minSeverity with
    | none => rfl
    | some _ => cases h
  | config => cases h; rfl
  | configUrl => cases h; rfl
  | raiseTo => cases raiseTo with
    | none => rfl
    | some _ => cases h

/-- A level that arguments are to have is a severity. -/
theorem severityOf_eq (key : Key) {s : Option Severity}
    (h : (some value).map Severity.parse = s.map .ok) :
    ∃ severity, severityOf key value = .ok severity ∧ s = some severity := by
  cases s with
  | none => cases h
  | some severity =>
    rw [Option.map_some, Option.map_some, Option.some_inj] at h
    exact ⟨severity, by rw [severityOf, h], rfl⟩

/-- An option that has not been given before makes the arguments right for itself, and leaves them
right for all others. -/
theorem give_settles (hfresh : a.has key = false) (hlast : last.Says key (some value))
    (hpath : key = .config → value ≠ "") :
    ∃ a', a.give key value = .ok a' ∧ a'.Says key (some value) ∧
      ∀ other, other ≠ key → ∀ text, a.Says other text → a'.Says other text := by
  unfold Arguments.give
  rw [hfresh]
  cases key with
  | minSeverity =>
    obtain ⟨severity, hseverity, hs⟩ := severityOf_eq .minSeverity hlast
    dsimp only
    rw [hseverity]
    refine ⟨{ a with minSeverity := severity }, rfl, ?_, ?_⟩
    · rw [Arguments.Says, hlast, hs]
    · intro other hother text h
      cases other with
      | minSeverity => exact absurd rfl hother
      | config | configUrl | raiseTo => exact h
  | config =>
    dsimp only
    rw [if_neg (hpath rfl)]
    refine ⟨{ a with config := value }, rfl, rfl, ?_⟩
    intro other hother text h
    cases other with
    | config => exact absurd rfl hother
    | minSeverity | configUrl | raiseTo => exact h
  | configUrl =>
    refine ⟨{ a with configUrl := value }, rfl, rfl, ?_⟩
    intro other hother text h
    cases other with
    | configUrl => exact absurd rfl hother
    | minSeverity | config | raiseTo => exact h
  | raiseTo =>
    obtain ⟨severity, hseverity, hs⟩ := severityOf_eq .raiseTo hlast
    dsimp only
    rw [hseverity]
    refine ⟨{ a with raiseTo := severity }, rfl, ?_, ?_⟩
    · rw [Arguments.Says, hlast, hs]
    · intro other hother text h
      cases other with
      | raiseTo => exact absurd rfl hother
      | minSeverity | config | configUrl => exact h

/-- Levels that are read from one text are the same. -/
theorem map_ok_injective {s t : Option Severity}
    (h : s.map (Except.ok (ε := Severity.ParseError)) = t.map .ok) : s = t := by
  cases s <;> cases t <;> cases h <;> rfl

/-- Arguments that say the same of all options are the same. -/
theorem Arguments.Says.unique {value : Key → Option String} (h : ∀ key, a.Says key (value key))
    (hlast : ∀ key, last.Says key (value key)) : a = last := by
  obtain ⟨minSeverity, config, configUrl, raiseTo⟩ := a
  obtain ⟨minSeverity', config', configUrl', raiseTo'⟩ := last
  obtain rfl : minSeverity = minSeverity' :=
    map_ok_injective ((h .minSeverity).symm.trans (hlast .minSeverity))
  obtain rfl : raiseTo = raiseTo' := map_ok_injective ((h .raiseTo).symm.trans (hlast .raiseTo))
  obtain rfl : config = config' := (h .config).symm.trans (hlast .config)
  obtain rfl : configUrl = configUrl' := (h .configUrl).symm.trans (hlast .configUrl)
  rfl

/-! ## Command lines -/

/-- An option that stands first is settled before the others are read. -/
theorem parseFrom_cons (a : Arguments) (key : Key) (value : String) (rest : List String) :
    parseFrom a none (written (key, value) :: rest) =
      (a.give key value >>= fun a => parseFrom a none rest) := by
  simp only [parseFrom, shape_written, Key.ofName?_name, settle]
  rfl

/-- An option that stands once among others does not stand before its place. -/
theorem lookup_eq_none_of_nodup
    (hnodup : ((before ++ (key, value) :: options).map Prod.fst).Nodup) :
    before.lookup key = none := by
  rw [List.map_append, List.map_cons, List.nodup_append] at hnodup
  refine List.lookup_eq_none_iff.mpr fun p hp => ?_
  have hne := hnodup.2.2 p.1 (List.mem_map_of_mem hp) key (.head _)
  exact bne_iff_ne.mpr hne.symm

/-- Options are read behind others that have been read, if no option stands twice, and then the
arguments behind them are. -/
theorem parseFrom_options (hnodup : ((before ++ options).map Prod.fst).Nodup)
    (hpath : (before ++ options).lookup .config ≠ some "")
    (hright : ∀ key, a.Says key (before.lookup key))
    (hlast : ∀ key, last.Says key ((before ++ options).lookup key)) (rest : List String) :
    parseFrom a none (options.map written ++ rest) = parseFrom last none rest := by
  -- an option that is read goes over to those before, and the hypotheses speak of both together
  induction options generalizing a before with
  | nil =>
    rw [List.append_nil] at hlast
    rw [Arguments.Says.unique hright hlast]
    rfl
  | cons option options ih =>
    obtain ⟨key, value⟩ := option
    have hbefore : before.lookup key = none := lookup_eq_none_of_nodup hnodup
    have hvalue : (before ++ (key, value) :: options).lookup key = some value := by
      rw [List.lookup_append, hbefore, List.lookup_cons_self]
      rfl
    have hfresh : a.has key = false := by
      have hkey := hright key
      rw [hbefore] at hkey
      exact hkey.has_eq_false
    have hlastkey := hlast key
    rw [hvalue] at hlastkey
    have hnonempty : key = .config → value ≠ "" := by
      rintro rfl rfl
      exact hpath hvalue
    obtain ⟨a', hgive, hkey, hothers⟩ := give_settles hfresh hlastkey hnonempty
    have hright' : ∀ other, a'.Says other ((before ++ [(key, value)]).lookup other) := by
      intro other
      rw [List.lookup_append]
      by_cases hother : other = key
      · subst hother
        rw [hbefore, List.lookup_cons_self]
        exact hkey
      · rw [List.lookup_cons, beq_false_of_ne hother]
        dsimp only
        rw [List.lookup_nil, Option.or_none]
        exact hothers other hother _ (hright other)
    rw [List.append_cons] at hnodup hpath
    rw [List.map_cons, List.cons_append, parseFrom_cons, hgive]
    refine ih hnodup hpath hright' fun other => ?_
    rw [← List.append_cons]
    exact hlast other

/-- A level that options do not give is read as none. -/
theorem map_parse_lookup (h : options.lookup key = none) :
    (options.lookup key).map Severity.parse = (none : Option Severity).map .ok := by
  rw [h]
  rfl

/-- Options are read as what they say, from the start of a command line. -/
theorem parseFrom_written {level raise : Option Severity} (hnodup : (options.map Prod.fst).Nodup)
    (hpath : options.lookup .config ≠ some "")
    (hlevel : (options.lookup .minSeverity).map Severity.parse = level.map .ok)
    (hraise : (options.lookup .raiseTo).map Severity.parse = raise.map .ok) (rest : List String) :
    parseFrom {} none (options.map written ++ rest) =
      parseFrom ⟨level, options.lookup .config, options.lookup .configUrl, raise⟩ none rest := by
  have hfirst : ∀ key, ({} : Arguments).Says key (([] : List (Key × String)).lookup key) := by
    intro key
    cases key <;> rfl
  refine @parseFrom_options {} _ options [] hnodup hpath hfirst (fun key => ?_) rest
  cases key with
  | minSeverity => exact hlevel
  | config => rfl
  | configUrl => rfl
  | raiseTo => exact hraise

/-- **Command lines of options.** Options that are written with their values, none of them twice,
are read as what they say. A level that is not among them comes from the environment, and otherwise
the environment may hold anything. -/
theorem parse_options {environment : Option String} {level raise : Option Severity}
    (hnodup : (options.map Prod.fst).Nodup) (hpath : options.lookup .config ≠ some "")
    (hlevel : ((options.lookup .minSeverity).or environment).map Severity.parse = level.map .ok)
    (hraise : (options.lookup .raiseTo).map Severity.parse = raise.map .ok) :
    parse environment (options.map written) =
      .ok (.run ⟨level, options.lookup .config, options.lookup .configUrl, raise⟩) := by
  cases hgiven : options.lookup .minSeverity with
  | none =>
    rw [hgiven, Option.none_or] at hlevel
    have hread := parseFrom_written hnodup hpath (map_parse_lookup hgiven) hraise []
    rw [parse, ← List.append_nil (options.map written), hread]
    cases environment with
    | none =>
      rw [← map_ok_injective (s := none) hlevel]
      rfl
    | some value =>
      obtain ⟨severity, hseverity, rfl⟩ := severityOf_eq .minSeverity hlevel
      simp only [parseFrom, settle, pure, Except.pure, bind, Except.bind, hseverity]
  | some value =>
    rw [hgiven, Option.some_or] at hlevel
    rw [← hgiven] at hlevel
    have hread := parseFrom_written hnodup hpath hlevel hraise []
    rw [parse, ← List.append_nil (options.map written), hread]
    rw [hgiven] at hlevel
    obtain ⟨severity, -, rfl⟩ := severityOf_eq .minSeverity hlevel
    rfl

/-- Options give a text as the level: as the value of its option, or in the environment if that
option is not there. All other options are good, and none of them stands twice. -/
structure Gives (environment : Option String) (options : List (Key × String))
    (raise : Option Severity) (text : String) : Prop where
  once : (options.map Prod.fst).Nodup
  path : options.lookup .config ≠ some ""
  level : (options.lookup .minSeverity).or environment = some text
  raiseTo : (options.lookup .raiseTo).map Severity.parse = raise.map .ok

/-- The level that options give is read as a severity, or refused for what is wrong with it. -/
theorem Gives.parse_eq {environment : Option String} {raise : Option Severity} {text : String}
    (h : Gives environment options raise text) :
    parse environment (options.map written) =
      match Severity.parse text with
      | .ok s => .ok (.run ⟨s, options.lookup .config, options.lookup .configUrl, raise⟩)
      | .error e => .error (.invalidValue .minSeverity text e) := by
  obtain ⟨hnodup, hpath, hlevel, hraise⟩ := h
  cases hparse : Severity.parse text with
  | ok s =>
    refine parse_options hnodup hpath ?_ hraise
    rw [hlevel, Option.map_some, hparse]
    rfl
  | error e =>
    have hseverity : severityOf .minSeverity text = .error (.invalidValue .minSeverity text e) := by
      rw [severityOf, hparse]
    cases hgiven : options.lookup .minSeverity with
    | none =>
      rw [hgiven, Option.none_or] at hlevel
      have hread := parseFrom_written hnodup hpath (map_parse_lookup hgiven) hraise []
      rw [parse, ← List.append_nil (options.map written), hread, hlevel]
      simp only [parseFrom, settle, pure, Except.pure, bind, Except.bind, hseverity]
    | some value =>
      -- the options before that of the level are good, and are read before it is refused
      rw [hgiven, Option.some_or, Option.some_inj] at hlevel
      subst hlevel
      obtain ⟨before, after, rfl, hbefore⟩ := List.lookup_eq_some_iff.mp hgiven
      have hnone := map_parse_lookup (List.lookup_eq_none_iff.mpr hbefore)
      rw [List.lookup_append] at hpath hraise
      have hbeforepath : before.lookup .config ≠ some "" := by
        intro heq
        rw [heq] at hpath
        exact hpath rfl
      obtain ⟨raise', hraise'⟩ : ∃ raise' : Option Severity,
          (before.lookup .raiseTo).map Severity.parse = raise'.map .ok := by
        cases hlookup : before.lookup .raiseTo with
        | none => exact ⟨none, rfl⟩
        | some level =>
          rw [hlookup, Option.some_or] at hraise
          exact ⟨raise, hraise⟩
      rw [List.map_append, List.nodup_append] at hnodup
      have hread := parseFrom_written hnodup.1 hbeforepath hnone hraise'
        (written (.minSeverity, value) :: after.map written)
      rw [parse, List.map_append, List.map_cons, hread, parseFrom_cons, Arguments.give]
      simp only [Arguments.has, Option.isSome_none, hseverity]
      rfl

end

end LogGate.CommandLine
