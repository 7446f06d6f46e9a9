import LogGate.Config.Resolve
import LogGate.Proofs.Fetch.Steps
import LogGate.Proofs.Json.Keys

/-!
# Which source decides

A configuration comes from a file, a URL and a level, each if it is given, and `resolve_law` says
what it comes to for any contents of the file and any answer to the request (`Resolution`). A source
either gives a configuration (`Source.Gives`) or fails (`Source.Fails`); the two say what it takes
in terms of bytes, statuses and documents, and a failure comes with the texts that report it. There
is a configuration only if every source gives one, and otherwise the first failure is reported
(`FirstFails`). A source replaces all that the sources before it said, so a document from the URL
that leaves the severity out brings the default one back, whatever the file says.

The sources are read by `readAll`, one after another. `read_of_gives` and `read_of_fails` are what
reading one source does, and `readAll_eq_ok` and `readAll_eq_error` follow by induction over the
sources.
-/

namespace LogGate.Config

open Json (Reader)

/-! ## Documents that say nothing -/

section
variable {s r : List Char} {ks : List String}

/-- Members without the key `min_severity` are read as the default configuration. -/
theorem objectReader_of_silent
    (h : Reader.membersFrom Reader.listKey true [] s = .ok (ks, r)) (hks : "min_severity" ∉ ks) :
    objectReader.run s = .ok (default, r) := by
  have hstep : ∀ key, key ∉ ["min_severity"] → ∀ acc : Option Severity,
      (if key = "min_severity" then Reader.once key acc Severity.reader
        else do Reader.unknown; return acc) = (do Reader.unknown; return acc) := by
    intro key hkey acc
    exact if_neg fun heq => hkey (List.mem_singleton.mpr heq)
  have hnone : ∀ key ∈ ks, key ∉ ["min_severity"] := by
    intro key hkey hknown
    cases List.mem_singleton.mp hknown
    exact hks hkey
  exact Reader.bind_eq_ok.mpr ⟨none, r, Reader.membersFrom_unknown hstep h hnone none, rfl⟩

/-- And so is a list without items. -/
theorem listReader_of_close (h : Reader.close .list s = .ok r) :
    listReader.run s = .ok (default, ']' :: r) := by
  rw [Reader.close_eq_ok] at h
  refine Reader.bind_eq_ok.mpr ⟨false, ']' :: r, ?_, rfl⟩
  unfold Reader.nextItem
  dsimp only
  rw [h]
  rfl

/-- A document without the key `min_severity` is the default configuration, if its keys can be
read. -/
theorem parse_of_silent {document : String} (h : Reader.keys.decode document = .ok ks)
    (hks : "min_severity" ∉ ks) : parse document = .ok default := by
  obtain ⟨r, hrun, hr⟩ := Reader.decode_eq_ok.mp h
  refine Reader.decode_eq_ok.mpr ⟨r, Reader.bracketed_eq_ok.mpr ?_, hr⟩
  rcases Reader.bracketed_eq_ok.mp hrun with ⟨_, t, hkeys, ht, hrun⟩ | ⟨_, t, hkeys, ht, hrun⟩
  · cases hkeys
    obtain ⟨u, hu, hclose⟩ := Reader.enclosed_eq_ok.mp hrun
    cases hu
    exact .inl ⟨_, t, rfl, ht, Reader.enclosed_eq_ok.mpr ⟨_, listReader_of_close hclose, rfl⟩⟩
  · cases hkeys
    obtain ⟨u, hu, hclose⟩ := Reader.enclosed_eq_ok.mp hrun
    exact .inr
      ⟨_, t, rfl, ht, Reader.enclosed_eq_ok.mpr ⟨u, objectReader_of_silent hu hks, hclose⟩⟩

end

/-! ## Sources -/

/-- A source of configurations. -/
inductive Source where
  | file (path : String)
  | url (address : String)

/-- The sources that are given, in the order in which they are read. -/
def given (file url : Option String) : List Source :=
  (file.map .file).toList ++ (url.map .url).toList

namespace Source

/-- A source is read and decoded successfully, and gives a configuration. -/
inductive Gives (sources : Sources) : Source → Config → Prop where
  | file {path text : String} {bytes : List UInt8} {config : Config}
      (hread : sources.file path = .ok bytes) (htext : Utf8.decode? bytes = some text)
      (hdocument : parse text = .ok config) : Gives sources (.file path) config
  | url {address : String} {status : Fetch.Status} {body : List UInt8} {config : Config}
      (hresponse : sources.url address = .ok ⟨status, .whole body⟩)
      (hstatus : 200 ≤ status ∧ status ≤ 299)
      (hdocument : parse (Utf8.decodeLossy body) = .ok config) : Gives sources (.url address) config

/-- A source fails. The texts that report it are what was attempted and then the causes. Those of a
request that failed end with what the transport says of it. -/
inductive Fails (sources : Sources) : Source → ConfigError → List String → Prop where
  | unreadable {path : String} {e : FileError} (hread : sources.file path = .error e) :
      Fails sources (.file path) (.unreadable path e)
        ["Failed to read config file " ++ path, e.message]
  | notText {path : String} {bytes : List UInt8} (hread : sources.file path = .ok bytes)
      (htext : Utf8.decode? bytes = none) :
      Fails sources (.file path) (.unreadable path .notText)
        ["Failed to read config file " ++ path, "stream did not contain valid UTF-8"]
  | invalid {path text : String} {bytes : List UInt8} {e : Json.Error}
      (hread : sources.file path = .ok bytes) (htext : Utf8.decode? bytes = some text)
      (hdocument : parse text = .error e) :
      Fails sources (.file path) (.invalid path e) ["Invalid config file " ++ path, e.message]
  | unanswered {address : String} {error : Fetch.TransportError}
      (hresponse : sources.url address = .error error) :
      Fails sources (.url address) (.unfetched address (.request error))
        (["Failed to fetch config from " ++ address, "HTTP request failed. " ++ error.text,
          error.text] ++ error.causes)
  | brokenOff {address : String} {status : Fetch.Status} {part : List UInt8}
      {error : Fetch.TransportError}
      (hresponse : sources.url address = .ok ⟨status, .brokenOff part error⟩) :
      Fails sources (.url address) (.unfetched address (.request error))
        (["Failed to fetch config from " ++ address, "HTTP request failed. " ++ error.text,
          error.text] ++ error.causes)
  | status {address : String} {status : Fetch.Status} {body : List UInt8}
      (hresponse : sources.url address = .ok ⟨status, .whole body⟩)
      (hstatus : ¬(200 ≤ status ∧ status ≤ 299)) :
      Fails sources (.url address) (.unfetched address (.status status (Utf8.decodeLossy body)))
        ["Failed to fetch config from " ++ address,
          "Server responded with " ++ status.render ++ ": " ++ Utf8.decodeLossy body]
  | decode {address : String} {status : Fetch.Status} {body : List UInt8} {e : Json.Error}
      (hresponse : sources.url address = .ok ⟨status, .whole body⟩)
      (hstatus : 200 ≤ status ∧ status ≤ 299)
      (hdocument : parse (Utf8.decodeLossy body) = .error e) :
      Fails sources (.url address) (.unfetched address (.decode e))
        ["Failed to fetch config from " ++ address,
          "Response was not the expected JSON. " ++ e.message, e.message]

/-- Reads a configuration from a source. -/
def read (sources : Sources) : Source → Telling ConfigError Config
  | file path => liftExcept (ofContents path (sources.file path))
  | url address => ofExchange address (sources.url address)

/-- What is told while a source is read: before a URL is asked for, and of a status without
success. -/
def tells (sources : Sources) : Source → List Diagnostic
  | file _ => []
  | url address => Fetch.asking address :: match sources.url address with
    | .ok ⟨status, .whole _⟩ =>
      if 200 ≤ status ∧ status ≤ 299 then [] else [Fetch.rejected address status]
    | .ok ⟨_, .brokenOff ..⟩ | .error _ => []

end Source

/-- The first of several sources that fails, and how. -/
inductive FirstFails (sources : Sources) : List Source → ConfigError → List String → Prop where
  | here {s : Source} {rest : List Source} {e : ConfigError} {texts : List String}
      (hs : s.Fails sources e texts) : FirstFails sources (s :: rest) e texts
  | later {s : Source} {rest : List Source} {config : Config} {e : ConfigError}
      {texts : List String} (hs : s.Gives sources config)
      (hrest : FirstFails sources rest e texts) : FirstFails sources (s :: rest) e texts

/-- Sources that all give a configuration, each one in place of what was there before. -/
inductive Replaces (sources : Sources) : List Source → Config → Config → Prop where
  | nil {config : Config} : Replaces sources [] config config
  | cons {s : Source} {rest : List Source} {start next last : Config}
      (hs : s.Gives sources next) (hrest : Replaces sources rest next last) :
      Replaces sources (s :: rest) start last

/-- The severity that is chosen where no source fails: the level if there is one, else what the URL
gives, else what the file gives, else INFO. -/
inductive Chosen (sources : Sources) :
    Option String → Option String → Option Severity → Severity → Prop where
  | level {file url : Option String} {level : Severity} :
      Chosen sources file url (some level) level
  | url {file : Option String} {address : String} {config : Config}
      (hurl : (Source.url address).Gives sources config) :
      Chosen sources file (some address) none config.minSeverity
  | file {path : String} {config : Config} (hfile : (Source.file path).Gives sources config) :
      Chosen sources (some path) none none config.minSeverity
  | nothing : Chosen sources none none none (.base .info)

/-- Reads configurations from sources one after another, beginning with another one. -/
def readAll (sources : Sources) (given : List Source) (start : Config) :
    Telling ConfigError Config :=
  given.foldlM (fun _ s => s.read sources) start

section
variable {sources : Sources} {s : Source} {rest : List Source} {config start : Config}
variable {e : ConfigError} {texts : List String}

open Source

/-- Every source gives a configuration or fails. -/
theorem Source.gives_or_fails (sources : Sources) (s : Source) :
    (∃ config, s.Gives sources config) ∨ ∃ e texts, s.Fails sources e texts := by
  cases s with
  | file path =>
    cases hread : sources.file path with
    | error e => exact .inr ⟨_, _, .unreadable hread⟩
    | ok bytes =>
      cases htext : Utf8.decode? bytes with
      | none => exact .inr ⟨_, _, .notText hread htext⟩
      | some text =>
        cases hdocument : parse text with
        | error e => exact .inr ⟨_, _, .invalid hread htext hdocument⟩
        | ok config => exact .inl ⟨_, .file hread htext hdocument⟩
  | url address =>
    match hresponse : sources.url address with
    | .error error => exact .inr ⟨_, _, .unanswered hresponse⟩
    | .ok ⟨status, .brokenOff part error⟩ => exact .inr ⟨_, _, .brokenOff hresponse⟩
    | .ok ⟨status, .whole body⟩ =>
      by_cases hstatus : 200 ≤ status ∧ status ≤ 299
      · cases hdocument : parse (Utf8.decodeLossy body) with
        | error e => exact .inr ⟨_, _, .decode hresponse hstatus hdocument⟩
        | ok config => exact .inl ⟨_, .url hresponse hstatus hdocument⟩
      · exact .inr ⟨_, _, .status hresponse hstatus⟩

/-- What reading a file comes to, and nothing is told. -/
theorem Source.read_file (path : String) (told : List Diagnostic) :
    ((Source.file path).read sources).run.run told =
      (ofContents path (sources.file path), told) := by
  unfold Source.read
  dsimp only
  cases ofContents path (sources.file path) <;> rfl

/-- What reading a URL comes to is what fetching the document does, with another account of a
failure. -/
theorem Source.read_url (address : String) (told : List Diagnostic) :
    ((Source.url address).read sources).run.run told =
      let fetched := (Fetch.get reader address (sources.url address)).run.run told
      (fetched.1.mapError (.unfetched address), fetched.2) :=
  Telling.run_mapError ..

/-- Reading a source that gives a configuration comes to it. -/
theorem Source.read_of_gives (h : s.Gives sources config) (told : List Diagnostic) :
    (s.read sources).run.run told = (.ok config, told ++ s.tells sources) := by
  cases h with
  | file hread htext hdocument =>
    simp only [Source.read_file, ofContents, hread, htext, hdocument, tells, List.append_nil]
    rfl
  | url hresponse hstatus hdocument =>
    rw [Source.read_url, tells, hresponse, Fetch.run_get_whole]
    dsimp only
    rw [if_pos hstatus, if_pos hstatus, show reader.decode _ = _ from hdocument]
    rfl

/-- Reading a source that fails comes to its error, which is reported by its texts. -/
theorem Source.read_of_fails (h : s.Fails sources e texts) (told : List Diagnostic) :
    (s.read sources).run.run told = (.error e, told ++ s.tells sources) ∧
      e.message :: e.causes = texts := by
  cases h with
  | unreadable hread =>
    simp only [Source.read_file, ofContents, hread, tells, List.append_nil]
    exact ⟨rfl, rfl⟩
  | notText hread htext =>
    simp only [Source.read_file, ofContents, hread, htext, tells, List.append_nil]
    exact ⟨rfl, rfl⟩
  | invalid hread htext hdocument =>
    simp only [Source.read_file, ofContents, hread, htext, hdocument, tells, List.append_nil]
    exact ⟨rfl, rfl⟩
  | unanswered hresponse =>
    rw [Source.read_url, tells, hresponse, Fetch.run_get_unanswered]
    exact ⟨rfl, rfl⟩
  | brokenOff hresponse =>
    rw [Source.read_url, tells, hresponse, Fetch.run_get_brokenOff]
    exact ⟨rfl, rfl⟩
  | status hresponse hstatus =>
    rw [Source.read_url, tells, hresponse, Fetch.run_get_whole]
    dsimp only
    rw [if_neg hstatus, if_neg hstatus, List.append_assoc]
    exact ⟨rfl, rfl⟩
  | decode hresponse hstatus hdocument =>
    rw [Source.read_url, tells, hresponse, Fetch.run_get_whole]
    dsimp only
    rw [if_pos hstatus, if_pos hstatus, show reader.decode _ = _ from hdocument]
    exact ⟨rfl, rfl⟩

/-- A source gives one configuration. -/
theorem Source.Gives.unique {config' : Config} (h : s.Gives sources config)
    (h' : s.Gives sources config') : config = config' := by
  have heq := (read_of_gives h []).symm.trans (read_of_gives h' [])
  cases heq
  rfl

/-- A source that gives a configuration does not fail. -/
theorem Source.Gives.not_fails (h : s.Gives sources config) : ¬s.Fails sources e texts := by
  intro h'
  cases (read_of_gives h []).symm.trans (read_of_fails h' []).1

/-- A source fails in one way. -/
theorem Source.Fails.unique {e' : ConfigError} {texts' : List String}
    (h : s.Fails sources e texts) (h' : s.Fails sources e' texts') : e = e' := by
  have heq := (read_of_fails h []).1.symm.trans (read_of_fails h' []).1
  cases heq
  rfl

/-! ## One source after another -/

/-- A source that gives a configuration is followed by the next ones. -/
theorem readAll_of_gives (h : s.Gives sources config) (told : List Diagnostic) :
    (readAll sources (s :: rest) start).run.run told =
      (readAll sources rest config).run.run (told ++ s.tells sources) := by
  simp only [readAll, List.foldlM_cons, ExceptT.run_bind, StateT.run_bind, read_of_gives h]
  rfl

/-- A source that fails is not followed by any other. -/
theorem readAll_of_fails (h : s.Fails sources e texts) (told : List Diagnostic) :
    (readAll sources (s :: rest) start).run.run told = (.error e, told ++ s.tells sources) := by
  simp only [readAll, List.foldlM_cons, ExceptT.run_bind, StateT.run_bind, (read_of_fails h _).1]
  rfl

/-- Sources come to a configuration just if all of them give one. -/
theorem readAll_eq_ok {l : List Source} {told : List Diagnostic} :
    ((readAll sources l start).run.run told).1 = .ok config ↔
      Replaces sources l start config := by
  induction l generalizing start told with
  | nil =>
    constructor
    · intro h
      cases h
      exact .nil
    · intro h
      cases h
      rfl
  | cons s rest ih =>
    -- the first source decides whether the others are read at all
    rcases s.gives_or_fails sources with ⟨next, hs⟩ | ⟨e, texts, hs⟩
    · rw [readAll_of_gives hs, ih]
      constructor
      · exact .cons hs
      · intro h
        cases h with
        | cons hs' hrest =>
          cases hs.unique hs'
          exact hrest
    · rw [readAll_of_fails hs]
      constructor
      · intro h
        cases h
      · intro h
        cases h with
        | cons hs' hrest => exact absurd hs hs'.not_fails

/-- Sources come to an error just if one of them fails, and then to that of the first one. -/
theorem readAll_eq_error {l : List Source} {told : List Diagnostic} :
    ((readAll sources l start).run.run told).1 = .error e ↔
      FirstFails sources l e (e.message :: e.causes) := by
  induction l generalizing start told with
  | nil =>
    constructor
    · intro h
      cases h
    · intro h
      cases h
  | cons s rest ih =>
    rcases s.gives_or_fails sources with ⟨next, hs⟩ | ⟨e', texts, hs⟩
    · rw [readAll_of_gives hs, ih]
      constructor
      · exact .later hs
      · intro h
        cases h with
        | here hs' => exact absurd hs' hs.not_fails
        | later _ hrest => exact hrest
    · rw [readAll_of_fails hs]
      constructor
      · intro h
        cases h
        rw [(read_of_fails hs []).2]
        exact .here hs
      · intro h
        cases h with
        | here hs' => rw [hs.unique hs']
        | later hs' _ => exact absurd hs hs'.not_fails

/-! ## The law -/

/-- What a configuration comes to that is resolved from a file, a URL and a level. -/
structure Resolution (sources : Sources) (file url : Option String) (level : Option Severity) :
    Prop where
  /-- There is a configuration just if every source that is given gives one, and then it has the
  severity that is chosen. -/
  success : ∀ config, (resolve sources file url level).finish.1 = .ok config ↔
    (∀ s ∈ given file url, ∃ config, s.Gives sources config) ∧
      Chosen sources file url level config.minSeverity
  /-- There is an error just if a source fails, and then it is that of the first one. -/
  failure : ∀ e, (resolve sources file url level).finish.1 = .error e ↔
    FirstFails sources (given file url) e (e.message :: e.causes)
  /-- After a file that gives a configuration, the URL is asked for. -/
  asked : ∀ address, url = some address →
    (∀ path, file = some path → ∃ config, (Source.file path).Gives sources config) →
    ∃ told, (resolve sources file url level).finish.2 = Fetch.asking address :: told
  /-- After a file that fails, it is not, and the answers to requests play no part. -/
  unasked : ∀ path e texts, file = some path → (Source.file path).Fails sources e texts →
    ∀ answers, (resolve ⟨sources.file, answers⟩ file url level).finish = (.error e, [])
  /-- A document from the URL without a severity replaces that of the file all the same. -/
  silent : ∀ address status body keys, url = some address →
    (∀ path, file = some path → ∃ config, (Source.file path).Gives sources config) →
    sources.url address = .ok ⟨status, .whole body⟩ → 200 ≤ status ∧ status ≤ 299 →
    Reader.keys.decode (Utf8.decodeLossy body) = .ok keys → "min_severity" ∉ keys →
    (resolve sources file url level).finish.1 = .ok ⟨level.getD (.base .info)⟩

/-- Resolving a configuration is reading the sources that are given one after another. A level then
replaces the severity. -/
theorem resolve_eq (sources : Sources) (file url : Option String) (level : Option Severity) :
    resolve sources file url level = (do
      let config ← readAll sources (given file url) default
      return { config with minSeverity := level.getD config.minSeverity }) := by
  cases file <;> cases url <;> cases level <;> simp [resolve, readAll, given, Source.read]

/-- What reading the sources comes to, and what the level makes of it. -/
theorem finish_resolve (sources : Sources) (file url : Option String) (level : Option Severity) :
    (resolve sources file url level).finish =
      (((readAll sources (given file url) default).run.run []).1.map fun config =>
          ⟨level.getD config.minSeverity⟩,
        ((readAll sources (given file url) default).run.run []).2) := by
  rw [resolve_eq, Telling.finish, ExceptT.run_bind, StateT.run_bind]
  cases h : (readAll sources (given file url) default).run.run [] with
  | mk result told => cases result <;> rfl

/-- Sources that all give a configuration come to one. -/
theorem exists_replaces {l : List Source} (h : ∀ s ∈ l, ∃ config, s.Gives sources config)
    (start : Config) : ∃ last, Replaces sources l start last := by
  induction l generalizing start with
  | nil => exact ⟨start, .nil⟩
  | cons s rest ih =>
    obtain ⟨next, hs⟩ := h s (.head _)
    obtain ⟨last, hrest⟩ := ih (fun s hs => h s (.tail _ hs)) next
    exact ⟨last, .cons hs hrest⟩

/-- Sources that come to a configuration all give one. -/
theorem Replaces.gives {l : List Source} (h : Replaces sources l start config) :
    ∀ s ∈ l, ∃ config, s.Gives sources config := by
  induction h with
  | nil => exact nofun
  | cons hs _ ih =>
    intro s hmem
    rcases List.mem_cons.mp hmem with rfl | hmem
    · exact ⟨_, hs⟩
    · exact ih s hmem

/-- What sources come to, the last one gives. -/
theorem Replaces.last_gives {l : List Source} (h : Replaces sources (l ++ [s]) start config) :
    s.Gives sources config := by
  induction l generalizing start with
  | nil =>
    cases h with
    | cons hs hrest => cases hrest; exact hs
  | cons _ l ih =>
    cases h with
    | cons _ hrest => exact ih hrest

/-- What the sources come to, or the level in its place, is what is chosen. -/
theorem chosen_iff {file url : Option String} {level : Option Severity} {severity : Severity}
    (h : Replaces sources (given file url) default config) :
    Chosen sources file url level severity ↔ level.getD config.minSeverity = severity := by
  constructor
  · intro hchosen
    cases hchosen with
    | level => rfl
    | url hurl => rw [hurl.unique h.last_gives, Option.getD_none]
    | @file path _ hfile =>
      have hlast : (Source.file path).Gives sources config := Replaces.last_gives (l := []) h
      rw [hfile.unique hlast, Option.getD_none]
    | nothing => cases h; rfl
  · rintro rfl
    cases level with
    | some level => exact .level
    | none =>
      cases url with
      | some address => exact .url h.last_gives
      | none =>
        cases file with
        | some path => exact .file (Replaces.last_gives (l := []) h)
        | none => cases h; exact .nothing

/-- A configuration is resolved just if every source gives one, with the severity that is chosen. -/
theorem resolve_eq_ok {file url : Option String} {level : Option Severity} :
    (resolve sources file url level).finish.1 = .ok config ↔
      (∀ s ∈ given file url, ∃ config, s.Gives sources config) ∧
        Chosen sources file url level config.minSeverity := by
  rw [finish_resolve]
  constructor
  · intro h
    cases hall : ((readAll sources (given file url) default).run.run []).1 with
    | error e => rw [hall] at h; cases h
    | ok last =>
      rw [hall] at h
      cases h
      have hreplaces := readAll_eq_ok.mp hall
      exact ⟨hreplaces.gives, (chosen_iff hreplaces).mpr rfl⟩
  · rintro ⟨hgives, hchosen⟩
    obtain ⟨last, hreplaces⟩ := exists_replaces hgives default
    dsimp only
    rw [readAll_eq_ok.mpr hreplaces, Except.map, (chosen_iff hreplaces).mp hchosen]

/-- Else it is the first failure that is reported. -/
theorem resolve_eq_error {file url : Option String} {level : Option Severity} :
    (resolve sources file url level).finish.1 = .error e ↔
      FirstFails sources (given file url) e (e.message :: e.causes) := by
  have herror : ((readAll sources (given file url) default).run.run []).1 = .error e ↔
      FirstFails sources (given file url) e (e.message :: e.causes) := readAll_eq_error
  rw [finish_resolve, ← herror]
  cases ((readAll sources (given file url) default).run.run []).1 with
  | error e' => exact Iff.rfl
  | ok last =>
    constructor
    · intro h
      cases h
    · intro h
      cases h

/-- If the file gives a configuration and the URL does, every source that is given does. -/
theorem gives_of_file {file : Option String} {address : String}
    (hfile : ∀ path, file = some path → ∃ config, (Source.file path).Gives sources config)
    (hurl : (Source.url address).Gives sources config) :
    ∀ s ∈ given file (some address), ∃ config, s.Gives sources config := by
  intro s hs
  rcases List.mem_append.mp hs with hs | hs
  · cases file with
    | none => cases hs
    | some path =>
      cases List.mem_singleton.mp hs
      exact hfile path rfl
  · cases List.mem_singleton.mp hs
    exact ⟨config, hurl⟩

/-- What is told of a single source. -/
theorem readAll_singleton (told : List Diagnostic) :
    ((readAll sources [s] start).run.run told).2 = told ++ s.tells sources := by
  rcases s.gives_or_fails sources with ⟨config, hs⟩ | ⟨e, texts, hs⟩
  · rw [readAll_of_gives hs]
    rfl
  · rw [readAll_of_fails hs]

/-- **Which source decides.** For any contents of files, any answers to requests and any
combination of sources, a configuration is resolved just if every source that is given gives one,
and it has the level that is given outright, or what the last source gives; else the first failure
is reported, with what it was about and its causes. -/
theorem resolve_law (sources : Sources) (file url : Option String) (level : Option Severity) :
    Resolution sources file url level := by
  constructor
  case success => exact fun config => resolve_eq_ok
  case failure => exact fun e => resolve_eq_error
  case asked =>
    rintro address rfl hfile
    have htells : ((readAll sources (given file (some address)) default).run.run []).2 =
        (Source.url address).tells sources := by
      cases file with
      | none => exact readAll_singleton []
      | some path =>
        obtain ⟨config, hgives⟩ := hfile path rfl
        have hread : (readAll sources [.file path, .url address] default).run.run [] =
            (readAll sources [.url address] config).run.run [] := readAll_of_gives hgives []
        exact (congrArg Prod.snd hread).trans (readAll_singleton [])
    rw [finish_resolve]
    exact ⟨_, htells⟩
  case unasked =>
    rintro path e texts rfl hfails answers
    have hfails' : (Source.file path).Fails ⟨sources.file, answers⟩ e texts := by
      cases hfails with
      | unreadable hread => exact .unreadable hread
      | notText hread htext => exact .notText hread htext
      | invalid hread htext hdocument => exact .invalid hread htext hdocument
    have hread : (readAll ⟨sources.file, answers⟩ (given (some path) url) default).run.run [] =
        (.error e, []) := readAll_of_fails hfails' []
    rw [finish_resolve, hread]
    rfl
  case silent =>
    rintro address status body keys rfl hfile hresponse hstatus hkeys hnone
    have hurl : (Source.url address).Gives sources default :=
      .url hresponse hstatus (parse_of_silent hkeys hnone)
    refine resolve_eq_ok.mpr ⟨gives_of_file hfile hurl, ?_⟩
    cases level with
    | some level => exact .level
    | none => exact .url hurl

end

end LogGate.Config
