import LogGate.Proofs.Json.Reading
import LogGate.Proofs.Time.Rendering
import LogGate.Record.Document

/-!
# Records that are written and read again

A record that is written is read as it was, whatever its texts, attributes and time: each member is
written with what its own reader takes, and no member occurs twice (`members_memberTexts`).
Attributes are written in the order of their keys, so each pair that is read comes behind those that
are there already (`insertEntry_of_forall_lt`), and the map that they make is the one that was
written (`Attributes.reads_write`). All this makes the law of the module's end (`decode_write_law`).
-/

namespace LogGate

open Json Json.Reader

/-! ## Severities and times -/

/-- A severity is found again under its name. -/
theorem Severity.parse_name (s : Severity) : Severity.parse s.name = .ok s := by
  obtain ⟨family, step⟩ := s
  match step with
  | 0 | 1 | 2 | 3 => cases family <;> rfl

/-- A severity is read as it is written. -/
theorem Severity.reads_write (s : Severity) : Reads Severity.reader s.write.toList s :=
  (reads_text _ s.name).refineLate s.parse_name

/-- An instant is read as it is written. -/
theorem Time.Instant.reads_write (t : Time.Instant) :
    Reads Time.Instant.reader (Literal.write t.render).toList t :=
  (reads_text _ t.render).refine t.parse_render

/-! ## Attributes -/

namespace Attributes

section
variable {key value : String} {entries done todo : List (String × String)} {isFirst : Bool}

/-- A pair whose key comes behind all others is put at the end. -/
theorem insertEntry_of_forall_lt (h : ∀ e ∈ entries, e.1 < key) :
    insertEntry key value entries = entries ++ [(key, value)] := by
  induction entries with
  | nil => rfl
  | cons entry rest ih =>
    have hentry : entry.1 < key := h entry (List.mem_cons_self ..)
    have hlt : ¬ key < entry.1 := String.lt_asymm hentry
    have hne : key ≠ entry.1 := fun heq => String.lt_irrefl key (heq ▸ hentry)
    rw [insertEntry, if_neg hlt, if_neg hne, ih fun e he => h e (List.mem_cons_of_mem _ he)]
    rfl

/-- The texts of pairs, with commas between them. -/
def memberTexts : Bool → List (String × String) → List Char
  | _, [] => []
  | isFirst, (key, value) :: rest =>
    comma isFirst ++ ((Literal.write key).toList ++
      ((':' :: (Literal.write value).toList) ++ memberTexts false rest))

/-- The reader of a pair. -/
def pair (key : String) (a : Attributes) : Reader Attributes := do
  Reader.colon
  return a.insert key (← Reader.text "a string")

/-- A pair is read as it is written. -/
theorem reads_pair (key value : String) (a : Attributes) :
    Reads (pair key a) (':' :: (Literal.write value).toList) (a.insert key value) :=
  Reads.colon (Reads.bind_nil (reads_text "a string" value) (.pure _))

/-- Pairs that come in the order of their keys behind others make the map that has them all. -/
theorem members_memberTexts {a : Attributes} (todo : List (String × String)) :
    ∀ {isFirst : Bool} {acc : Attributes}, a.entries = acc.entries ++ todo →
      Members pair isFirst acc (memberTexts isFirst todo) a := by
  induction todo with
  | nil =>
    intro isFirst acc h
    obtain ⟨entries, hsorted⟩ := a
    obtain rfl : entries = acc.entries := h.trans (List.append_nil _)
    exact .nil
  | cons entry todo ih =>
    intro isFirst acc h
    obtain ⟨key, value⟩ := entry
    have hlt : ∀ e ∈ acc.entries, e.1 < key := by
      have hsorted := a.sorted
      rw [h, List.pairwise_append] at hsorted
      exact fun e he => hsorted.2.2 e he (key, value) (List.mem_cons_self ..)
    have hinsert : (acc.insert key value).entries = acc.entries ++ [(key, value)] :=
      insertEntry_of_forall_lt hlt
    refine .cons (reads_pair key value acc) (ih ?_)
    rw [h, hinsert, List.append_assoc, List.singleton_append]

/-- How a pair is written. -/
def writePair (entry : String × String) : String :=
  Literal.write entry.1 ++ ":" ++ Literal.write entry.2

/-- Between pairs that are written there are commas. -/
theorem toList_intercalate_writePair (entry : String × String) (rest : List (String × String)) :
    (",".intercalate ((entry :: rest).map writePair)).toList =
      (writePair entry).toList ++ memberTexts false rest := by
  induction rest generalizing entry with
  | nil => simp [memberTexts]
  | cons next rest ih =>
    have hnext := ih next
    rw [List.map_cons] at hnext
    rw [List.map_cons, List.map_cons, String.intercalate_cons_cons, String.toList_append, hnext]
    simp [memberTexts, writePair, comma]

/-- Attributes are written as the texts of their pairs in braces. -/
theorem toList_write (a : Attributes) :
    a.write.toList = '\x7b' :: (memberTexts true a.entries ++ ['\x7d']) := by
  have hmembers : (",".intercalate (a.entries.map writePair)).toList =
      memberTexts true a.entries := by
    cases a.entries with
    | nil => simp [memberTexts]
    | cons entry rest =>
      rw [toList_intercalate_writePair]
      simp [memberTexts, writePair, comma]
  show ("\x7b" ++ ",".intercalate (a.entries.map writePair) ++ "\x7d").toList = _
  rw [String.toList_append, String.toList_append, hmembers]
  rfl

/-- No attributes are written with a control character. -/
theorem noControl_write (a : Attributes) : Literal.NoControl a.write.toList := by
  have hmembers : ∀ entries isFirst, Literal.NoControl (memberTexts isFirst entries) := by
    intro entries
    induction entries with
    | nil => exact fun _ => Literal.noControl_nil
    | cons entry rest ih =>
      intro isFirst
      have hcomma : Literal.NoControl (comma isFirst) := by cases isFirst <;> simp [comma]
      simpa [memberTexts, Literal.noControl_write, ih] using hcomma
  rw [toList_write]
  simpa using hmembers a.entries true

/-- Attributes are read as they are written. -/
theorem reads_write (a : Attributes) : Reads reader a.write.toList a := by
  rw [toList_write]
  exact (members_memberTexts a.entries rfl).closes.reads _ _

end

end Attributes

/-! ## Records -/

namespace Record

section
variable (r : Record)

/-- How the name of an event is written, if there is one. -/
def writeEventName : Option String → String
  | some name => Literal.write name
  | none => "null"

/-- The name of an event is read as it is written. -/
theorem reads_writeEventName (eventName : Option String) :
    Reads (Reader.optionalText "a string") (writeEventName eventName).toList eventName := by
  cases eventName with
  | none => exact reads_optionalText_none _
  | some name => exact reads_optionalText_some _ name

/-- The texts of the members of a record, with commas between them. -/
def memberTexts : List Char :=
  comma true ++ ((Literal.write "time").toList ++
    ((':' :: (Literal.write r.time.render).toList) ++
  (comma false ++ ((Literal.write "severity").toList ++
    ((':' :: r.severity.write.toList) ++
  (comma false ++ ((Literal.write "body").toList ++
    ((':' :: (Literal.write r.body).toList) ++
  (comma false ++ ((Literal.write "event_name").toList ++
    ((':' :: (writeEventName r.eventName).toList) ++
  (comma false ++ ((Literal.write "attributes").toList ++
    ((':' :: r.attributes.write.toList) ++ []))))))))))))))

/-- A record is written as the texts of its members in braces. -/
theorem toList_write : r.write.toList = '\x7b' :: (r.memberTexts ++ ['\x7d']) := by
  have htime : "\x7b\"time\":".toList = '\x7b' :: ((Literal.write "time").toList ++ [':']) := by
    decide
  have hseverity : ",\"severity\":".toList =
      ',' :: ((Literal.write "severity").toList ++ [':']) := by decide
  have hbody : ",\"body\":".toList = ',' :: ((Literal.write "body").toList ++ [':']) := by decide
  have heventName : ",\"event_name\":".toList =
      ',' :: ((Literal.write "event_name").toList ++ [':']) := by decide
  have hattributes : ",\"attributes\":".toList =
      ',' :: ((Literal.write "attributes").toList ++ [':']) := by decide
  unfold write
  simp only [String.toList_append, htime, hseverity, hbody, heventName, hattributes,
    memberTexts, comma, List.append_assoc, List.cons_append, List.nil_append, List.append_nil]
  rfl

/-- The members of a record come to its draft. -/
theorem members_memberTexts : Reader.Members Draft.step true {} r.memberTexts
    ⟨some r.time, some r.severity, some r.body, some r.eventName, some r.attributes⟩ := by
  have htime : Reads (Draft.step "time" {}) (':' :: (Literal.write r.time.render).toList)
      ⟨some r.time, none, none, none, none⟩ :=
    Reads.bind_nil (.once "time" r.time.reads_write) (.pure _)
  have hseverity : Reads (Draft.step "severity" ⟨some r.time, none, none, none, none⟩)
      (':' :: r.severity.write.toList) ⟨some r.time, some r.severity, none, none, none⟩ :=
    Reads.bind_nil (.once "severity" r.severity.reads_write) (.pure _)
  have hbody : Reads (Draft.step "body" ⟨some r.time, some r.severity, none, none, none⟩)
      (':' :: (Literal.write r.body).toList)
      ⟨some r.time, some r.severity, some r.body, none, none⟩ :=
    Reads.bind_nil (.once "body" (reads_text _ r.body)) (.pure _)
  have heventName : Reads
      (Draft.step "event_name" ⟨some r.time, some r.severity, some r.body, none, none⟩)
      (':' :: (writeEventName r.eventName).toList)
      ⟨some r.time, some r.severity, some r.body, some r.eventName, none⟩ :=
    Reads.bind_nil (.once "event_name" (reads_writeEventName r.eventName)) (.pure _)
  have hattributes : Reads
      (Draft.step "attributes" ⟨some r.time, some r.severity, some r.body, some r.eventName, none⟩)
      (':' :: r.attributes.write.toList)
      ⟨some r.time, some r.severity, some r.body, some r.eventName, some r.attributes⟩ :=
    Reads.bind_nil (.once "attributes" r.attributes.reads_write) (.pure _)
  exact .cons htime (.cons hseverity (.cons hbody (.cons heventName (.cons hattributes .nil))))

/-- A record is read as it is written. -/
theorem reads_write : Reads reader r.write.toList r := by
  rw [toList_write]
  refine Closes.reads ((members_memberTexts r).closes.bind ?_) _ _
  exact Reads.bind_nil (reads_required "time" r.time) <|
    Reads.bind_nil (reads_required "severity" r.severity) <|
    Reads.bind_nil (reads_required "body" r.body) <|
    Reads.bind_nil (reads_required "attributes" r.attributes) (.pure r)

/-- No record is written with a control character. -/
theorem noControl_write : Literal.NoControl r.write.toList := by
  have heventName : Literal.NoControl (writeEventName r.eventName).toList := by
    cases r.eventName with
    | none => simp [writeEventName]
    | some name => exact Literal.noControl_write name
  rw [toList_write]
  simp [memberTexts, comma, Severity.write, Literal.noControl_write, Attributes.noControl_write,
    heventName]

end

/-! ## The law -/

/-- **The round trip of records.** A record that is written is decoded as itself. So two records are
written alike only if they are equal, and what a document is decoded as survives being written. And
what is written is one line, since there is no control character in it. -/
theorem decode_write_law :
    (∀ r : Record, reader.decode r.write = .ok r) ∧
      (∀ r r' : Record, r.write = r'.write ↔ r = r') ∧
      (∀ (document : String) (r : Record), reader.decode document = .ok r →
        reader.decode r.write = .ok r) ∧
      ∀ r : Record, ∀ c ∈ r.write.toList, 0x20 ≤ c.toNat := by
  have hdecode : ∀ r : Record, reader.decode r.write = .ok r := fun r => (reads_write r).decode
  refine ⟨hdecode, fun r r' => ⟨fun h => ?_, congrArg write⟩, fun _ r _ => hdecode r,
    noControl_write⟩
  have hsame := hdecode r
  rw [h, hdecode r'] at hsame
  exact (Except.ok.inj hsame).symm

/-- A tab is written as an escape and read again. -/
theorem decode_write_law_tab :
    reader.decode ("\x7b\"time\":\"1970-01-01T00:00:00Z\",\"severity\":\"INFO\"," ++
        "\"body\":\"a\\tb\",\"event_name\":null,\"attributes\":\x7b\x7d\x7d") =
      .ok ⟨.epoch, .default, "a\tb", none, ∅⟩ := by
  have hwrite : write ⟨.epoch, .default, "a\tb", none, ∅⟩ =
      "\x7b\"time\":\"1970-01-01T00:00:00Z\",\"severity\":\"INFO\"," ++
        "\"body\":\"a\\tb\",\"event_name\":null,\"attributes\":\x7b\x7d\x7d" := by
    decide
  have hdecode := decode_write_law.1 ⟨.epoch, .default, "a\tb", none, ∅⟩
  rw [← hwrite]
  exact decode_write_law.2.2.1 _ _ hdecode

end Record

end LogGate
